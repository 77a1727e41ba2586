import AtomicCss.Proofs.ClassName.Ceiling
import AtomicCss.Proofs.Value.Reading

/-!
Contract: a ceiling that is not hit is not noticed.

Owns:
- when the reading of a class name hits its ceiling;
- the agreement of a computation in two states, unless the first one refuses it a step deeper;
- the agreement of two ceilings for class names, for tokens and for streams of tokens.

Does not own: why single computations do not feel the ceiling.
-/

namespace AtomicCss

open Expansion

/-! ## Two states -/

/-- Unless a computation is refused a step deeper in one state, it is not refused one in the
other either, gives the same result there, and records and reports the same. -/
def Expansion.SameUnlessRefused {α : Type} (body : Expansion → α × Expansion)
    (state other : Expansion) : Prop :=
  ¬ Refuses body state →
    ¬ Refuses body other ∧
      ∃ result rootValues notices,
        body state = (result, state.extend rootValues notices) ∧
          body other = (result, other.extend rootValues notices)

/-- Computations that do not feel the ceiling agree in states of one class name on one
level, when the ceiling of the second is no lower. -/
theorem Expansion.Uniform.sameUnlessRefused
    {α : Type}
    {body : Expansion → α × Expansion}
    (uniform : Uniform body)
    {state other : Expansion}
    (origin : other.origin = state.origin)
    (depth : other.depth = state.depth)
    (above : state.ceiling ≤ other.ceiling) :
    SameUnlessRefused body state other := by
  intro fits
  have room : state.levelsLeft ≤ other.levelsLeft := by
    simp only [levelsLeft]
    omega
  refine ⟨(uniform.free state).not_refuses fits origin room, ?_⟩
  obtain ⟨result, rootValues, notices, same⟩ := uniform.free state fits
  exact ⟨result, rootValues, notices, same state rfl (Nat.le_refl _), same other origin room⟩

namespace ClassName

/-! ## Two ceilings -/

/-- Reading a class name hits the ceiling. -/
def HitsCeiling (environment : Environment) (ceiling : Nat) (className : Text) : Prop :=
  ∃ parts, partsOf className = .ok parts ∧
    (progressOf environment ceiling className parts).state.limitHit = true

variable (environment : Environment)

/-- With a higher ceiling the parts of a class name come to the same, but for the ceiling
in the state. -/
theorem progressOf_above
    {ceiling higher : Nat}
    {className : Text}
    {parts : List Text}
    (above : ceiling ≤ higher)
    (fits : (progressOf environment ceiling className parts).state.limitHit ≠ true) :
    ∃ contribution rootValues notices,
      progressOf environment ceiling className parts =
          ⟨contribution, (Expansion.start className ceiling).extend rootValues notices⟩ ∧
        progressOf environment higher className parts =
          ⟨contribution, (Expansion.start className higher).extend rootValues notices⟩ := by
  let kept := parts.filter fun part => part ≠ Grammar.unimportant
  let contribution := Contribution.start className (!parts.contains Grammar.unimportant)
  have free := free_partsEffect environment kept contribution (Expansion.start className ceiling)
  obtain ⟨result, rootValues, notices, same⟩ := free fits
  have room : (Expansion.start className ceiling).levelsLeft ≤
      (Expansion.start className higher).levelsLeft := by
    simp only [levelsLeft, Expansion.start]
    omega
  have lower := same _ rfl (Nat.le_refl _)
  have upper := same (Expansion.start className higher) rfl room
  exact ⟨result, rootValues, notices,
    congrArg (fun effect => Progress.mk effect.1 effect.2) lower,
    congrArg (fun effect => Progress.mk effect.1 effect.2) upper⟩

/-- A class name that is read without hitting its ceiling is read alike under every higher
ceiling, and does not hit that one. -/
theorem read_above
    {ceiling higher : Nat}
    {className : Text}
    (above : ceiling ≤ higher)
    (fits : ¬ HitsCeiling environment ceiling className) :
    ¬ HitsCeiling environment higher className ∧
      read environment higher className = read environment ceiling className := by
  cases cut : partsOf className with
  | error fault =>
      constructor
      · rintro ⟨parts, found, _⟩
        rw [cut] at found
        cases found
      · rw [read, read, cut]
        rfl
  | ok parts =>
      have below : (progressOf environment ceiling className parts).state.limitHit ≠ true :=
        fun hit => fits ⟨parts, cut, hit⟩
      obtain ⟨contribution, rootValues, notices, lower, upper⟩ :=
        progressOf_above environment above below
      constructor
      · rintro ⟨parts', found, hit⟩
        rw [cut] at found
        cases found
        rw [upper] at hit
        cases hit
      · rw [read, read, cut]
        simp only [Except.map, lower, upper]
        rfl

/-- Whatever the lexicon and the readings, of two ceilings the higher one is not noticed
where the lower one is not hit: not in the reading of a class name, and not in the resolving
of a token or of a text of tokens from states of one class name and one depth. -/
theorem ceiling_unnoticed {ceiling higher : Nat} (above : ceiling ≤ higher) :
    (∀ className, ¬ HitsCeiling environment ceiling className →
      ¬ HitsCeiling environment higher className ∧
        read environment higher className = read environment ceiling className) ∧
    (∀ state other : Expansion,
      state.ceiling = ceiling → other.ceiling = higher →
      other.origin = state.origin → other.depth = state.depth →
      ∀ text,
        SameUnlessRefused (environment.resolve text) state other ∧
          SameUnlessRefused (environment.resolveText text) state other) := by
  constructor
  · exact fun className fits => read_above environment above fits
  · rintro state other rfl rfl origin depth text
    exact ⟨(environment.uniform_resolve text).sameUnlessRefused origin depth above,
      (environment.uniform_resolveText text).sameUnlessRefused origin depth above⟩

theorem ceiling_unnoticed_box :
    (1 ≤ 9 ∧ ¬ HitsCeiling palette 1 "cssf--tpl-box_red".toList ∧
      ¬ Refuses (palette.resolve "q-red".toList)
        (Expansion.start "cssf--tpl-box_red".toList 1)) ∧
    read palette 9 "cssf--tpl-box_red".toList = read palette 1 "cssf--tpl-box_red".toList ∧
    ¬ Refuses (palette.resolve "q-red".toList)
      (Expansion.start "cssf--tpl-box_red".toList 9) := by
  have fits : ¬ HitsCeiling palette 1 "cssf--tpl-box_red".toList := by
    have cut : partsOf "cssf--tpl-box_red".toList = .ok ["tpl-box_red".toList] := by rfl
    have kept : (["tpl-box_red".toList].filter fun part => part ≠ Grammar.unimportant) =
        ["tpl-box_red".toList] := by rfl
    rintro ⟨parts, found, hit⟩
    rw [cut] at found
    cases found
    simp only [progressOf, kept, applyParts, List.foldl_cons, List.foldl_nil,
      Palette.applyPart_box] at hit
    cases hit
  have marked : palette.lexicon.markers.markerAt? none "q-red".toList =
      some ("q-".toList, .quotedString) := by rfl
  have quoted : palette.lexicon.read false "q-red".toList =
      .quoted "q-red".toList (.text "red".toList) := by
    rw [Lexicon.read_of_quotedString (by decide) marked]
    exact congrArg _ (Lexicon.read_of_unmarked (by decide) (by rfl))
  have tokenFits : ¬ Refuses (palette.resolve "q-red".toList)
      (Expansion.start "cssf--tpl-box_red".toList 1) := by
    unfold Refuses Environment.resolve
    rw [quoted]
    decide
  obtain ⟨classNames, states⟩ := ceiling_unnoticed palette (by decide : 1 ≤ 9)
  have token := (states (Expansion.start "cssf--tpl-box_red".toList 1)
    (Expansion.start "cssf--tpl-box_red".toList 9) rfl rfl rfl rfl "q-red".toList).1
  exact ⟨⟨by decide, fits, tokenFits⟩, (classNames _ fits).2, (token tokenFits).1⟩

end ClassName

end AtomicCss
