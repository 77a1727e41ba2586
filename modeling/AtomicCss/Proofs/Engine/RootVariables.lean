import AtomicCss.Proofs.ClassName.RootOrder
import AtomicCss.Proofs.Engine.Replay
import AtomicCss.Proofs.Sorting

/-!
Contract: the root variables that an engine tells of, and the values that they have on the
page.

Owns:
- the order in which the blocks of root declarations stand in a stylesheet;
- the value that a custom property of the root element has by the cascade;
- the exact condition under which an engine tells of that value, and two class names for
  which it tells of another.

Does not own: where root declarations come from.

## Why they can differ

The root variables are read from the store, where the declaration inserted last counts.  On a
page the block that stands last counts.  In a canonical stylesheet that is the block with the
greatest text, whenever it was inserted.
-/

namespace AtomicCss

open ClassName

namespace Stylesheet

/-- Root declarations in the order in which their blocks stand in a stylesheet. -/
def orderedRoots (canonical : Bool) (roots : List RootDeclaration) : List RootDeclaration :=
  if canonical then
    roots.mergeSort fun first second => (compareOn RootDeclaration.write first second).isLE
  else
    roots

/-- The value of a custom property of the root element by the cascade: that of the last block
that declares it. -/
def cascaded? (canonical : Bool) (store : Store) (name : Text) : Option Text :=
  ((orderedRoots canonical store.root.members).filter fun root =>
    root.name = name).getLast?.map RootDeclaration.value

/-! ## Blocks of root declarations -/

theorem map_write_orderedRoots (canonical : Bool) (roots : List RootDeclaration) :
    (orderedRoots canonical roots).map RootDeclaration.write =
      orderedTexts canonical (roots.map RootDeclaration.write) := by
  cases canonical with
  | false => rfl
  | true =>
      rw [orderedRoots, orderedTexts, if_pos rfl, if_pos rfl]
      exact List.map_mergeSort fun _ _ _ _ => rfl

/-- A stylesheet starts with the blocks of the root declarations. -/
theorem blocks_eq_roots_append (canonical : Bool) (store : Store) :
    ∃ others,
      blocks canonical store =
        (orderedRoots canonical store.root.members).map RootDeclaration.write ++ others := by
  rw [map_write_orderedRoots, blocks]
  simp only [List.append_assoc]
  exact ⟨_, rfl⟩

/-! ## Last declarations -/

variable (store : Store) (name : Text)

theorem get?_rootVariables :
    store.rootVariables.get? ("--".toList ++ name) =
      (store.root.members.filter fun root => root.name = name).getLast?.map
        RootDeclaration.value := by
  rw [Store.rootVariables, OrderedMap.get?_ofList, List.filter_map, List.getLast?_map,
    Option.map_map]
  simp only [Function.comp_def, List.append_cancel_left_eq]

theorem cascaded?_inserted :
    cascaded? false store name =
      (store.root.members.filter fun root => root.name = name).getLast?.map
        RootDeclaration.value := by
  rfl

theorem cascaded?_canonical :
    cascaded? true store name =
      (greatest (compareOn RootDeclaration.write)
        (store.root.members.filter fun root => root.name = name)).getLast?.map
          RootDeclaration.value := by
  rw [cascaded?, orderedRoots, if_pos rfl, getLast?_filter_mergeSort _ store.root.distinct]

end Stylesheet

namespace Engine

/-! ## Two values of one name -/

/-- A class name of one part that gives a root variable the value of one plain token. -/
theorem contribution?_rootVariable
    {environment : Environment}
    {ceiling : Nat}
    {className : Text}
    (part token : Text)
    (cut : partsOf className = .ok [part])
    (form : formOf environment.lexicon part = .simple .rootValue)
    (named : nameAfter Grammar.rootValue part ≠ [])
    (single :
      environment.lexicon.nextChunk?
          (Cursor.ofText Grammar.valueSeparator (Text.beyond Grammar.valueSeparator part)) =
        some (⟨.value, token⟩, ⟨1, []⟩))
    (written : token ≠ [])
    (unmarked : environment.lexicon.markers.markerAt? none token = none)
    (valued : Units.convert token ≠ []) :
    ClassName.contribution? environment ceiling className =
      some ((Contribution.start className true).declareRoot
        (nameAfter Grammar.rootValue part) (Units.convert token)) := by
  rw [contribution?_of_simple cut form,
    applySimple_rootValue part token named single written unmarked valued]
  rfl

theorem contribution?_hueRed :
    ClassName.contribution? palette 10 "cssf--rval-hue_red".toList =
      some ((Contribution.start "cssf--rval-hue_red".toList true).declareRoot
        "hue".toList "red".toList) :=
  contribution?_rootVariable "rval-hue_red".toList "red".toList (by rfl) (by rfl) (by decide)
    (by rfl) (by decide) (by rfl) (by decide)

theorem contribution?_hueBlue :
    ClassName.contribution? palette 10 "cssf--rval-hue_blue".toList =
      some ((Contribution.start "cssf--rval-hue_blue".toList true).declareRoot
        "hue".toList "blue".toList) :=
  contribution?_rootVariable "rval-hue_blue".toList "blue".toList (by rfl) (by rfl) (by decide)
    (by rfl) (by decide) (by rfl) (by decide)

/-! ## Every state -/

/-- Whatever an engine has gone through, it tells of the value that a custom property of the
root element has by the cascade, in the order in which the stylesheet shows the blocks, except
in a canonical stylesheet where the declaration inserted last has another value than the one
with the greatest text. -/
theorem rootVariables_eq_cascaded_iff (engine : Engine) (name : Text) :
    let canonical := engine.options.canonical
    let roots := engine.store.root.members
    let declared := roots.filter fun root => root.name = name
    (∃ others,
      Stylesheet.blocks canonical engine.store =
        (Stylesheet.orderedRoots canonical roots).map RootDeclaration.write ++ others) ∧
    (engine.store.rootVariables.get? ("--".toList ++ name) =
        Stylesheet.cascaded? canonical engine.store name ↔
      (canonical = true →
        declared.getLast?.map RootDeclaration.value =
          (greatest (compareOn RootDeclaration.write) declared).getLast?.map
            RootDeclaration.value)) := by
  intro canonical roots declared
  refine ⟨Stylesheet.blocks_eq_roots_append canonical engine.store, ?_⟩
  rw [Stylesheet.get?_rootVariables]
  cases canonical with
  | false =>
      rw [Stylesheet.cascaded?_inserted]
      simp
  | true =>
      rw [Stylesheet.cascaded?_canonical]
      simp [declared, roots]

/-- The value red was declared first and stands last. -/
theorem rootVariables_ne_cascaded :
    let engine := (Engine.start palette ⟨10, true, false, none⟩).run
      [.process "cssf--rval-hue_red".toList, .process "cssf--rval-hue_blue".toList]
    engine.store.rootVariables.get? "--hue".toList = some "blue".toList ∧
    Stylesheet.cascaded? engine.options.canonical engine.store "hue".toList =
      some "red".toList := by
  intro engine
  have replays : Replays palette ⟨10, true, false, none⟩
      [.process "cssf--rval-hue_red".toList, .process "cssf--rval-hue_blue".toList] engine :=
    Replays.run palette _ _ (by simp)
  have discovered : Operation.discovered
      [.process "cssf--rval-hue_red".toList, .process "cssf--rval-hue_blue".toList] =
        ["cssf--rval-hue_red".toList, "cssf--rval-hue_blue".toList] := by
    rfl
  have store : engine.store = Store.empty.insertAll
      (["cssf--rval-hue_red".toList, "cssf--rval-hue_blue".toList].filterMap
        (ClassName.contribution? palette 10)) := by
    rw [← discovered]
    exact replays.store_eq
  have canonical : engine.options.canonical = true := replays.canonical_eq
  simp only [List.filterMap_cons, List.filterMap_nil, contribution?_hueRed,
    contribution?_hueBlue] at store
  rw [canonical, Stylesheet.cascaded?_canonical, store]
  exact ⟨by rfl, by rfl⟩

end Engine

end AtomicCss
