import AtomicCss.Proofs.Engine.Selectors
import AtomicCss.Proofs.Rules.History
import AtomicCss.Proofs.Stylesheet.Canonical
import AtomicCss.Proofs.Value.Reading

/-!
Contract: what the order in which class names are discovered means for a canonical
stylesheet.

Owns:
- the contributions of class names, and the store of a new engine that takes them in;
- the sameness of two such stores, animations apart, for the same class names;
- the exact condition under which the canonical stylesheets are equal, and two class names
  of which the order shows.

Does not own: stylesheets that are not canonical.

## Why animations are different

Root declarations and font faces are kept as sets, and rules by selectors, of which different
class names never share one.  An animation is kept by the name that its part gives it.  Two
class names can give the same one, and then the later replaces the earlier.  Sorting shows
what a store holds in one order; it cannot bring back what was replaced.
-/

namespace AtomicCss

open ClassName

/-! ## Contributions of class names -/

/-- What class names contribute, each read once, in the order in which they are first
named. -/
def ClassName.contributions (environment : Environment) (ceiling : Nat)
    (classNames : List Text) : List Contribution :=
  (OrderedSet.ofList classNames).members.filterMap (contribution? environment ceiling)

/-- A class name without the scheme contributes nothing. -/
theorem ClassName.contribution?_of_no_scheme
    {environment : Environment}
    {ceiling : Nat}
    {className : Text}
    (plain : Text.startsWith Grammar.scheme className = false) :
    contribution? environment ceiling className = none := by
  have absent : Text.after? Grammar.scheme className = none := by
    simpa [Text.startsWith] using plain
  rw [contribution?, read, partsOf, absent]
  rfl

theorem ClassName.contributions_append_singleton
    (environment : Environment)
    (ceiling : Nat)
    (classNames : List Text)
    (className : Text) :
    contributions environment ceiling (classNames ++ [className]) =
      contributions environment ceiling classNames ++
        if className ∈ classNames then []
        else (contribution? environment ceiling className).toList := by
  rw [contributions, OrderedSet.members_ofList_append_singleton]
  by_cases known : className ∈ classNames
  · rw [if_pos known, if_pos known, List.append_nil, contributions]
  · rw [if_neg known, if_neg known, List.filterMap_append, contributions, List.filterMap_cons,
      List.filterMap_nil]
    cases contribution? environment ceiling className <;> rfl

theorem ClassName.contributions_pair
    (environment : Environment)
    (ceiling : Nat)
    {first second : Text}
    (differ : first ≠ second) :
    contributions environment ceiling [first, second] =
      (contribution? environment ceiling first).toList ++
        (contribution? environment ceiling second).toList := by
  have other : second ∉ [first] := fun member => differ (List.mem_singleton.1 member).symm
  have pair := contributions_append_singleton environment ceiling [first] second
  have single := contributions_append_singleton environment ceiling [] first
  rw [if_neg other] at pair
  rw [if_neg List.not_mem_nil] at single
  exact pair.trans (congrArg (· ++ _) single)

/-! ## New engines that take class names in -/

namespace Engine

/-- What holds of an engine that was new and took class names in, and did nothing else. -/
structure TookIn (environment : Environment) (options : Options) (classNames : List Text)
    (engine : Engine) : Prop where
  environment_eq : engine.environment = environment
  options_eq : engine.options = options
  processed :
    ∀ className, className ∈ engine.processed.members ↔
      className ∈ classNames ∧ Text.startsWith Grammar.scheme className = true
  store_eq :
    engine.store =
      Store.empty.insertAll (contributions environment options.ceiling classNames)

namespace TookIn

variable
  {environment : Environment}
  {options : Options}
  {classNames : List Text}
  {engine : Engine}

theorem start : TookIn environment options [] (Engine.start environment options) where
  environment_eq := rfl
  options_eq := rfl
  processed := by simp [Engine.start, OrderedSet.empty]
  store_eq := rfl

/-- A class name changes the engine when it has the scheme and is not one of those taken
in. -/
theorem takes_iff (took : TookIn environment options classNames engine) (className : Text) :
    engine.takes className = true ↔
      Text.startsWith Grammar.scheme className = true ∧ className ∉ classNames := by
  rw [takes_eq_true_iff]
  refine and_congr_right fun scheme => ?_
  rw [took.processed, and_iff_left scheme]

theorem known_of_idle
    (took : TookIn environment options classNames engine)
    {className : Text}
    (idle : engine.takes className = false)
    (scheme : Text.startsWith Grammar.scheme className = true) :
    className ∈ classNames := by
  by_contra fresh
  have taken := (took.takes_iff className).2 ⟨scheme, fresh⟩
  rw [idle] at taken
  cases taken

/-- A class name without the scheme, and one named earlier, contributes nothing further. -/
theorem contributions_of_idle
    (took : TookIn environment options classNames engine)
    {className : Text}
    (idle : engine.takes className = false) :
    contributions environment options.ceiling (classNames ++ [className]) =
      contributions environment options.ceiling classNames := by
  rw [contributions_append_singleton]
  by_cases earlier : className ∈ classNames
  · rw [if_pos earlier, List.append_nil]
  · have plain : Text.startsWith Grammar.scheme className = false :=
      Bool.eq_false_iff.2 (mt (took.known_of_idle idle) earlier)
    rw [if_neg earlier, contribution?_of_no_scheme plain, Option.toList_none, List.append_nil]

/-- A new class name with the scheme contributes what the engine reads it as. -/
theorem contributions_of_taken
    (took : TookIn environment options classNames engine)
    {className : Text}
    (taken : engine.takes className = true) :
    contributions environment options.ceiling (classNames ++ [className]) =
      contributions environment options.ceiling classNames ++
        (engine.contribution? className).toList := by
  rw [contributions_append_singleton, if_neg ((took.takes_iff className).1 taken).2,
    Engine.contribution?, took.environment_eq, took.options_eq]

theorem process_idle
    (took : TookIn environment options classNames engine)
    {className : Text}
    (idle : engine.takes className = false) :
    TookIn environment options (classNames ++ [className]) (engine.process className).2 := by
  rw [process_of_not_takes idle]
  refine ⟨took.environment_eq, took.options_eq, ?_, ?_⟩
  · intro other
    rw [took.processed, List.mem_append, List.mem_singleton]
    refine and_congr_left fun scheme => ⟨Or.inl, ?_⟩
    rintro (earlier | rfl)
    · exact earlier
    · exact took.known_of_idle idle scheme
  · rw [took.store_eq, took.contributions_of_idle idle]

theorem process_taken
    (took : TookIn environment options classNames engine)
    {className : Text}
    (taken : engine.takes className = true) :
    TookIn environment options (classNames ++ [className]) (engine.process className).2 := by
  have scheme := ((took.takes_iff className).1 taken).1
  obtain ⟨keptEnvironment, keptOptions, -⟩ := process_keeps engine className
  refine ⟨keptEnvironment.trans took.environment_eq, keptOptions.trans took.options_eq, ?_, ?_⟩
  · intro other
    rw [processed_process taken, List.mem_append, List.mem_append, took.processed,
      List.mem_singleton]
    constructor
    · rintro (earlier | rfl)
      · exact ⟨Or.inl earlier.1, earlier.2⟩
      · exact ⟨Or.inr rfl, scheme⟩
    · rintro ⟨either, written⟩
      exact either.imp (fun earlier => ⟨earlier, written⟩) id
  · rw [store_process taken, took.contributions_of_taken taken, took.store_eq]
    cases engine.contribution? className with
    | none => rw [Option.toList_none, List.append_nil]
    | some contribution => rw [Option.toList_some, Store.insertAll_append_singleton]

theorem process (took : TookIn environment options classNames engine) (className : Text) :
    TookIn environment options (classNames ++ [className]) (engine.process className).2 := by
  cases taken : engine.takes className with
  | false => exact took.process_idle taken
  | true => exact took.process_taken taken

/-- By induction on the further class names from the last one back. -/
theorem foldl_process
    (took : TookIn environment options classNames engine)
    (others : List Text) :
    TookIn environment options (classNames ++ others)
      (others.foldl (fun engine className => (engine.process className).2) engine) := by
  induction others using List.reverseRecOn with
  | nil =>
      rw [List.append_nil]
      exact took
  | append_singleton earlier className inductionHypothesis =>
      rw [List.foldl_append, ← List.append_assoc]
      exact inductionHypothesis.process className

theorem processFurther
    (took : TookIn environment options classNames engine)
    (others : List Text) :
    TookIn environment options (classNames ++ others) (engine.processAll others).2 := by
  rw [processAll_snd]
  exact took.foldl_process others

theorem processAll (environment : Environment) (options : Options) (classNames : List Text) :
    TookIn environment options classNames
      ((Engine.start environment options).processAll classNames).2 :=
  start.processFurther classNames

end TookIn

end Engine

/-! ## The same contributions in another order -/

/-- The selectors of what class names contribute are distinct, for they give the class names
back. -/
theorem ClassName.nodup_ruleSelectors_contributions
    (environment : Environment)
    (ceiling : Nat)
    (classNames : List Text) :
    (Store.ruleSelectors (contributions environment ceiling classNames)).Nodup := by
  have owners : ((contributions environment ceiling classNames).map fun contribution =>
      Selector.owner contribution.selector).Sublist
        (OrderedSet.ofList classNames).members := by
    have readings : ∀ entry ∈ (OrderedSet.ofList classNames).members.map fun className =>
        (className, contribution? environment ceiling className),
        ∃ ambient,
          entry.2 = contribution? ⟨environment.lexicon, ambient⟩ ceiling entry.1 := by
      intro entry member
      obtain ⟨className, _, rfl⟩ := List.mem_map.1 member
      exact ⟨environment.ambient, rfl⟩
    simpa [contributions, List.filterMap_map, Function.comp_def] using
      Session.owners_sublist readings
  exact Session.nodup_ruleSelectors_of_owners
    (owners.nodup (OrderedSet.ofList classNames).distinct)

/-- Contributions with distinct selectors leave the same in a store, in whatever order they
are put in, except for animations. -/
theorem Store.sameRules_of_perm
    {first second : List Contribution}
    (same : first.Perm second)
    (distinct : (Store.ruleSelectors first).Nodup) :
    (Store.empty.insertAll first).SameRules (Store.empty.insertAll second) := by
  have rules (atRule : Option Text) (selector : Text) :
      (OrderedMap.ofList (first.flatMap fun contribution =>
          contribution.rulesUnder atRule)).get? selector =
        (OrderedMap.ofList (second.flatMap fun contribution =>
          contribution.rulesUnder atRule)).get? selector := by
    have moved := same.flatMap_right fun contribution => contribution.rulesUnder atRule
    exact OrderedMap.get?_ofList_eq_of_perm
      ((Store.rulesUnder_sublist first atRule).nodup distinct) moved selector
  refine ⟨?_, ?_, ?_, ?_⟩
  · rw [Store.root_insertAll, Store.root_insertAll]
    exact OrderedSet.perm_ofList fun root => (same.flatMap_right _).mem_iff
  · rw [Store.fontFaces_insertAll, Store.fontFaces_insertAll]
    exact OrderedSet.perm_ofList fun fontFace => (same.flatMap_right _).mem_iff
  · rw [Store.base_insertAll, Store.base_insertAll]
    exact rules none
  · intro atRule
    rw [Store.get?_groups_insertAll, Store.get?_groups_insertAll]
    have moved := same.flatMap_right fun contribution =>
      contribution.rulesUnder (some atRule)
    unfold Store.extendGroup
    by_cases none : (first.flatMap fun contribution =>
        contribution.rulesUnder (some atRule)) = []
    · rw [none] at moved
      rw [if_pos none, if_pos moved.nil_eq.symm]
      exact Option.Rel.none
    · have some' : (second.flatMap fun contribution =>
          contribution.rulesUnder (some atRule)) ≠ [] := fun empty =>
        none (empty ▸ moved).eq_nil
      rw [if_neg none, if_neg some']
      exact Option.Rel.some (rules (some atRule))

/-! ## Canonical stylesheets -/

namespace Engine

/-- The animations that class names define, by name: the CSS of the definition that is
discovered last. -/
def animationsOf (environment : Environment) (ceiling : Nat) (classNames : List Text) :
    OrderedMap Text Text :=
  OrderedMap.ofList
    ((contributions environment ceiling classNames).flatMap Contribution.animations)

/-- The stylesheet that a new engine builds after it has taken class names in. -/
def stylesheetOf (environment : Environment) (options : Options) (classNames : List Text) :
    Text :=
  ((Engine.start environment options).processAll classNames).2.rebuild.1

theorem stylesheetOf_eq
    (environment : Environment)
    {options : Options}
    (canonical : options.canonical = true)
    (classNames : List Text) :
    stylesheetOf environment options classNames =
      Stylesheet.write true
        (Store.empty.insertAll (contributions environment options.ceiling classNames)) := by
  have took := TookIn.processAll environment options classNames
  simp only [stylesheetOf, rebuild, refresh, took.options_eq, canonical, took.store_eq]

/-! ## Two animations of one name -/

/-- A part with the animation `fade` of one frame, which gives a color. -/
theorem read?_fade
    {part color : Text}
    (named : Keyframes.nameOf part = "fade".toList)
    (tokens :
      (Cursor.ofText Grammar.valueSeparator part).take 1 =
        (["kf-fade".toList], ⟨1, ["from".toList, "color".toList, color]⟩))
    (taken : palette.lexicon.consume? ⟨3, [color]⟩ = some (⟨.value, color⟩, ⟨4, []⟩))
    (plain : palette.lexicon.read false color = .text color)
    (written : color ≠ [])
    (state : Expansion) :
    Keyframes.read? palette part state =
      (some ⟨"fade".toList, [("from".toList, ["color: ".toList ++ color])]⟩, state) := by
  have selector : Keyframes.selectorOf? "from".toList = some "from".toList := by rfl
  have ordinary : Keyframes.selectorOf? "color".toList = none := by rfl
  have aliases : palette.lexicon.propertiesOf "color".toList = ["color".toList] := by rfl
  have value : palette.consume? ⟨3, [color]⟩ state = some ⟨color, ⟨4, []⟩, state⟩ := by
    rw [Environment.consume?, taken, Option.map_some]
    simp only [Lexicon.readChunk, plain]
    rfl
  have frames :
      Keyframes.readFrames palette ⟨1, ["from".toList, "color".toList, color]⟩
          ⟨.empty, none, state⟩ =
        ⟨OrderedMap.empty.insert "from".toList ["color: ".toList ++ color],
          some "from".toList, state⟩ := by
    rw [Keyframes.readFrames]
    simp only [selector, Keyframes.Draft.select]
    rw [Keyframes.readFrames]
    simp only [ordinary]
    split
    · simp_all
    · rename_i consumed found
      rw [value] at found
      cases found
      rw [if_neg written, aliases, Keyframes.readFrames]
      rfl
  unfold Keyframes.read?
  rw [named, tokens, if_neg (by decide)]
  simp only [frames]
  rfl

/-- A class name of one part that is an animation contributes the animation. -/
theorem contribution?_animation
    {environment : Environment}
    {ceiling : Nat}
    {className : Text}
    (part : Text)
    (keyframes : Keyframes)
    (cut : partsOf className = .ok [part])
    (form : formOf environment.lexicon part = .simple .keyframes)
    (animation : ∀ state, Keyframes.read? environment part state = (some keyframes, state)) :
    ClassName.contribution? environment ceiling className =
      some { Contribution.start className true with keyframes := some keyframes } := by
  rw [contribution?_of_simple cut form]
  simp only [applySimple, animation]
  rfl

theorem contribution?_fadeRed :
    ClassName.contribution? palette 10 "cssf--kf-fade_from_color_red".toList =
      some
        { Contribution.start "cssf--kf-fade_from_color_red".toList true with
          keyframes := some ⟨"fade".toList, [("from".toList, ["color: red".toList])]⟩ } := by
  have plain : palette.lexicon.read false "red".toList = .text "red".toList :=
    (Lexicon.read_of_unmarked (by decide) (by rfl)).trans (by rfl)
  exact contribution?_animation "kf-fade_from_color_red".toList _ (by rfl) (by rfl)
    (read?_fade (by rfl) (by rfl) (by rfl) plain (by decide))

theorem contribution?_fadeBlue :
    ClassName.contribution? palette 10 "cssf--kf-fade_from_color_blue".toList =
      some
        { Contribution.start "cssf--kf-fade_from_color_blue".toList true with
          keyframes := some ⟨"fade".toList, [("from".toList, ["color: blue".toList])]⟩ } := by
  have plain : palette.lexicon.read false "blue".toList = .text "blue".toList :=
    (Lexicon.read_of_unmarked (by decide) (by rfl)).trans (by rfl)
  exact contribution?_animation "kf-fade_from_color_blue".toList _ (by rfl) (by rfl)
    (read?_fade (by rfl) (by rfl) (by rfl) plain (by decide))

/-- A store with one animation and nothing else has the animation for its stylesheet. -/
theorem write_animation (name block : Text) :
    Stylesheet.write true
      { Store.empty with keyframes := OrderedMap.empty.insert name block } = block := by
  simp [Stylesheet.write, Stylesheet.blocks, Stylesheet.orderedTexts, Stylesheet.orderedRules,
    Stylesheet.orderedGroups, AtRule.sort, Store.empty, OrderedSet.empty, OrderedMap.empty,
    OrderedMap.keys, OrderedMap.values, OrderedMap.insert, bindKey]

/-! ## The order of discovery -/

/-- The canonical stylesheet of some class names depends on the order in which they are
discovered through their animations and through nothing else.  Whatever the tables and the
readings: two lists of the same class names have the same stylesheet exactly when the
animations that were discovered last under each name have the same text in canonical order.
They have it when each name ends with the same animation on both sides. -/
theorem stylesheetOf_eq_iff
    (environment : Environment)
    (options : Options)
    (canonical : options.canonical = true)
    (first second : List Text)
    (same : ∀ className, className ∈ first ↔ className ∈ second) :
    (stylesheetOf environment options first = stylesheetOf environment options second ↔
      Stylesheet.animationText (animationsOf environment options.ceiling first) =
        Stylesheet.animationText (animationsOf environment options.ceiling second)) ∧
    ((∀ name,
        (animationsOf environment options.ceiling first).get? name =
          (animationsOf environment options.ceiling second).get? name) →
      stylesheetOf environment options first = stylesheetOf environment options second) := by
  have moved : (contributions environment options.ceiling first).Perm
      (contributions environment options.ceiling second) :=
    (OrderedSet.perm_ofList same).filterMap _
  have rules := Store.sameRules_of_perm moved
    (nodup_ruleSelectors_contributions environment options.ceiling first)
  have left : (Store.empty.insertAll
      (contributions environment options.ceiling first)).keyframes =
        animationsOf environment options.ceiling first := Store.keyframes_insertAll _ _
  have right : (Store.empty.insertAll
      (contributions environment options.ceiling second)).keyframes =
        animationsOf environment options.ceiling second := Store.keyframes_insertAll _ _
  have size : (animationsOf environment options.ceiling first).size =
      (animationsOf environment options.ceiling second).size :=
    OrderedMap.size_ofList_eq ((moved.flatMap_right _).map Prod.fst)
  have condition := Stylesheet.write_eq_iff rules (by rw [left, right, size])
  rw [left, right, ← stylesheetOf_eq environment canonical,
    ← stylesheetOf_eq environment canonical] at condition
  refine ⟨condition, fun agree => condition.2 ?_⟩
  rw [Stylesheet.animationText, Stylesheet.animationText]
  have values := (OrderedMap.perm_entries_of_get? agree).map Prod.snd
  exact congrArg _ (Stylesheet.orderedTexts_eq_of_perm values)

/-- Two class names without animations, in either order. -/
theorem stylesheetOf_eq_iff_palette :
    (∀ className,
      className ∈ ["cssf--tpl-red".toList, "cssf--tpl-red--tar-self-class-b".toList] ↔
        className ∈ ["cssf--tpl-red--tar-self-class-b".toList, "cssf--tpl-red".toList]) ∧
    stylesheetOf palette ⟨10, true, false, none⟩
        ["cssf--tpl-red".toList, "cssf--tpl-red--tar-self-class-b".toList] =
      stylesheetOf palette ⟨10, true, false, none⟩
        ["cssf--tpl-red--tar-self-class-b".toList, "cssf--tpl-red".toList] := by
  have same : ∀ className,
      className ∈ ["cssf--tpl-red".toList, "cssf--tpl-red--tar-self-class-b".toList] ↔
        className ∈ ["cssf--tpl-red--tar-self-class-b".toList, "cssf--tpl-red".toList] :=
    fun className => (List.Perm.swap _ _ _).mem_iff
  refine ⟨same, (stylesheetOf_eq_iff palette ⟨10, true, false, none⟩ rfl _ _ same).2 ?_⟩
  intro name
  rw [animationsOf, animationsOf, contributions_pair _ _ (by decide),
    contributions_pair _ _ (by decide), Palette.contribution?_red,
    Palette.contribution?_target]
  rfl

/-- The later of two animations of one name replaces the earlier one, so the stylesheet shows
which class name came first. -/
theorem stylesheetOf_ne_of_order :
    (∀ className,
      className ∈
          ["cssf--kf-fade_from_color_red".toList, "cssf--kf-fade_from_color_blue".toList] ↔
        className ∈
          ["cssf--kf-fade_from_color_blue".toList, "cssf--kf-fade_from_color_red".toList]) ∧
    stylesheetOf palette ⟨10, true, false, none⟩
        ["cssf--kf-fade_from_color_red".toList, "cssf--kf-fade_from_color_blue".toList] ≠
      stylesheetOf palette ⟨10, true, false, none⟩
        ["cssf--kf-fade_from_color_blue".toList, "cssf--kf-fade_from_color_red".toList] := by
  have left : stylesheetOf palette ⟨10, true, false, none⟩
      ["cssf--kf-fade_from_color_red".toList, "cssf--kf-fade_from_color_blue".toList] =
        "@keyframes fade \x7b\n  from \x7b color: blue \x7d\n\x7d".toList := by
    rw [stylesheetOf_eq palette rfl, contributions_pair _ _ (by decide), contribution?_fadeRed,
      contribution?_fadeBlue]
    exact write_animation "fade".toList _
  have right : stylesheetOf palette ⟨10, true, false, none⟩
      ["cssf--kf-fade_from_color_blue".toList, "cssf--kf-fade_from_color_red".toList] =
        "@keyframes fade \x7b\n  from \x7b color: red \x7d\n\x7d".toList := by
    rw [stylesheetOf_eq palette rfl, contributions_pair _ _ (by decide), contribution?_fadeRed,
      contribution?_fadeBlue]
    exact write_animation "fade".toList _
  refine ⟨fun className => (List.Perm.swap _ _ _).mem_iff, ?_⟩
  rw [left, right]
  decide

end Engine

end AtomicCss
