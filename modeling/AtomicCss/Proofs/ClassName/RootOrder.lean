import AtomicCss.Proofs.ClassName.Selector
import AtomicCss.Proofs.ClassName.Stages
import AtomicCss.Proofs.Value.Reading

/-!
Contract: the order in which a contribution lists root declarations.

Owns:
- what a stage declares on the root element itself, and what its values record;
- the list of root declarations with the stages that they come from;
- the exact condition under which the list follows the stages, and a class name for which it
  does not.

Does not own: the order in which a stylesheet shows root declarations.

## Why the order can be lost

A part that gives a root value adds its declaration at once.  A value that names a root value
only records it in the state of the expansion, and what was recorded is added after the last
part.  So all that parts declare themselves comes before all that their values record.
-/

namespace AtomicCss.ClassName

/-! ## Declarations of a stage -/

/-- The root declarations that the part of a stage makes itself. -/
def Stage.direct : Stage → List RootDeclaration :=
  Stage.adds fun progress => progress.contribution.rootRules

/-- The root declarations of a class name that the values in the part of a stage record. -/
def Stage.recorded (className : Text) (stage : Stage) : List RootDeclaration :=
  (stage.adds fun progress => progress.state.rootValues).map fun root =>
    ⟨root.name, root.value, className⟩

theorem withRootValues_eq (progress : Progress) :
    withRootValues progress =
      { progress.contribution with
        rootRules :=
          progress.contribution.rootRules ++
            progress.state.rootValues.map fun root =>
              ⟨root.name, root.value, progress.contribution.className⟩ } := by
  suffices collected : ∀ (roots : List RootValue) (contribution : Contribution),
      roots.foldl (fun contribution root => contribution.declareRoot root.name root.value)
          contribution =
        { contribution with
          rootRules :=
            contribution.rootRules ++
              roots.map fun root => ⟨root.name, root.value, contribution.className⟩ } from
    collected progress.state.rootValues progress.contribution
  intro roots
  induction roots with
  | nil => simp
  | cons root others inductionHypothesis =>
      intro contribution
      rw [List.foldl_cons, inductionHypothesis]
      simp [Contribution.declareRoot]

/-- All that parts declare themselves comes first, then all that their values record. -/
theorem rootRules_of_contribution?
    {environment : Environment}
    {ceiling : Nat}
    {className : Text}
    {contribution : Contribution}
    (found : contribution? environment ceiling className = some contribution) :
    contribution.rootRules =
      (stages environment ceiling className).flatMap Stage.direct ++
        (stages environment ceiling className).flatMap (Stage.recorded className) := by
  have named : contribution.className = className := (names_of_contribution? found).className_eq
  obtain ⟨parts, cut, rfl⟩ := contribution?_eq_some found
  rw [withRootValues_eq] at named ⊢
  have direct := (appendOnly_rootRules environment).view_progressOf ceiling cut
  have recorded := (appendOnly_rootValues environment).view_progressOf ceiling cut
  simp only at named direct recorded ⊢
  rw [named, direct, recorded, List.map_append, List.map_flatMap]
  rfl

/-! ## Sources -/

/-- Declarations of one kind, each with the index of the stage that it comes from. -/
def indexed (declared : Stage → List RootDeclaration) :
    Nat → List Stage → List (Nat × RootDeclaration)
  | _, [] => []
  | index, stage :: others =>
      (declared stage).map (Prod.mk index) ++ indexed declared (index + 1) others

/-- The root declarations of a contribution, each with the index of the stage that it comes
from. -/
def sources (className : Text) (stages : List Stage) : List (Nat × RootDeclaration) :=
  indexed Stage.direct 0 stages ++ indexed (Stage.recorded className) 0 stages

section Indexed

variable (declared recorded : Stage → List RootDeclaration)

theorem map_snd_indexed (index : Nat) (stages : List Stage) :
    (indexed declared index stages).map Prod.snd = stages.flatMap declared := by
  induction stages generalizing index with
  | nil => rfl
  | cons stage others inductionHypothesis =>
      simp [indexed, inductionHypothesis, Function.comp_def]

variable {declared recorded}

theorem le_of_mem_indexed
    {index : Nat}
    {stages : List Stage}
    {source : Nat × RootDeclaration}
    (member : source ∈ indexed declared index stages) :
    index ≤ source.1 := by
  induction stages generalizing index with
  | nil => cases member
  | cons stage others inductionHypothesis =>
      rcases List.mem_append.1 member with first | later
      · obtain ⟨root, _, rfl⟩ := List.mem_map.1 first
        exact Nat.le_refl index
      · have bound := inductionHypothesis later
        omega

theorem pairwise_indexed (index : Nat) (stages : List Stage) :
    (indexed declared index stages).Pairwise fun one other => one.1 ≤ other.1 := by
  induction stages generalizing index with
  | nil => exact List.Pairwise.nil
  | cons stage others inductionHypothesis =>
      refine List.pairwise_append.2 ⟨?_, inductionHypothesis (index + 1), ?_⟩
      · rw [List.pairwise_map]
        exact List.pairwise_of_forall fun _ _ => Nat.le_refl index
      · intro one first other later
        obtain ⟨root, _, rfl⟩ := List.mem_map.1 first
        have bound := le_of_mem_indexed later
        show index ≤ other.1
        omega

theorem mem_indexed
    {index : Nat}
    {stages : List Stage}
    {root : RootDeclaration} :
    (∃ place, (place, root) ∈ indexed declared index stages) ↔
      ∃ stage ∈ stages, root ∈ declared stage := by
  rw [← List.mem_flatMap, ← map_snd_indexed declared index, List.mem_map]
  constructor
  · rintro ⟨place, member⟩
    exact ⟨(place, root), member, rfl⟩
  · rintro ⟨source, member, rfl⟩
    exact ⟨source.1, member⟩

theorem forall_indexed_le_index_iff
    (index : Nat)
    (others : List Stage)
    (roots : List RootDeclaration) :
    (∀ one ∈ indexed declared (index + 1) others, ∀ root ∈ roots, one.1 ≤ index) ↔
      ∀ later ∈ others, roots = [] ∨ declared later = [] := by
  constructor
  · intro ordered later member
    by_cases none : roots = []
    · exact Or.inl none
    · obtain ⟨root, records⟩ := List.exists_mem_of_ne_nil _ none
      refine Or.inr (List.eq_nil_iff_forall_not_mem.2 fun other declares => ?_)
      obtain ⟨place, source⟩ : ∃ place, (place, other) ∈ indexed declared (index + 1) others :=
        mem_indexed.2 ⟨later, member, declares⟩
      have after : index + 1 ≤ place := le_of_mem_indexed source
      have before : place ≤ index := ordered (place, other) source root records
      omega
  · intro apart one source root records
    obtain ⟨later, member, declares⟩ := mem_indexed.1 ⟨one.1, source⟩
    rcases apart later member with none | none
    · rw [none] at records
      cases records
    · rw [none] at declares
      cases declares

theorem forall_indexed_le_iff (index : Nat) (stages : List Stage) :
    (∀ one ∈ indexed declared index stages, ∀ other ∈ indexed recorded index stages,
        one.1 ≤ other.1) ↔
      stages.Pairwise fun earlier later => recorded earlier = [] ∨ declared later = [] := by
  induction stages generalizing index with
  | nil => simp [indexed]
  | cons stage others inductionHypothesis =>
      -- What the first stage records has the least index, so no later one may declare anything.
      rw [List.pairwise_cons, ← inductionHypothesis (index + 1),
        ← forall_indexed_le_index_iff index]
      constructor
      · intro ordered
        refine ⟨fun one declares root records => ?_, fun one declares other records => ?_⟩
        · exact ordered one (List.mem_append_right _ declares) (index, root)
            (List.mem_append_left _ (List.mem_map_of_mem records))
        · exact ordered one (List.mem_append_right _ declares) other
            (List.mem_append_right _ records)
      · rintro ⟨first, rest⟩ one declares other records
        rcases List.mem_append.1 declares with now | later
        · obtain ⟨root, _, rfl⟩ := List.mem_map.1 now
          exact le_of_mem_indexed records
        · rcases List.mem_append.1 records with now | further
          · obtain ⟨root, recordsRoot, rfl⟩ := List.mem_map.1 now
            exact first one later root recordsRoot
          · exact rest one later other further

end Indexed

/-- Stages of which none declares anything after one that records anything list all that they
bring in their own order. -/
theorem flatMap_append_flatMap_of_pairwise
    {declared recorded : Stage → List RootDeclaration}
    {stages : List Stage}
    (apart :
      stages.Pairwise fun earlier later => recorded earlier = [] ∨ declared later = []) :
    stages.flatMap declared ++ stages.flatMap recorded =
      stages.flatMap fun stage => declared stage ++ recorded stage := by
  induction apart with
  | nil => rfl
  | @cons stage others first rest inductionHypothesis =>
      rw [List.flatMap_cons, List.flatMap_cons, List.flatMap_cons, ← inductionHypothesis]
      by_cases none : recorded stage = []
      · simp [none]
      · have nothing : others.flatMap declared = [] := by
          rw [List.flatMap_eq_nil_iff]
          intro later member
          exact (first later member).resolve_left none
        simp [nothing]

/-! ## A root value beside a value that records one -/

/-- A part that gives a root variable the value of one plain token. -/
theorem applySimple_rootValue
    {environment : Environment}
    (part token : Text)
    (named : nameAfter Grammar.rootValue part ≠ [])
    (single :
      environment.lexicon.nextChunk?
          (Cursor.ofText Grammar.valueSeparator (Text.beyond Grammar.valueSeparator part)) =
        some (⟨.value, token⟩, ⟨1, []⟩))
    (written : token ≠ [])
    (unmarked : environment.lexicon.markers.markerAt? none token = none)
    (valued : Units.convert token ≠ [])
    (progress : Progress) :
    applySimple environment .rootValue part progress =
      progress.update fun contribution =>
        contribution.declareRoot (nameAfter Grammar.rootValue part) (Units.convert token) := by
  have value (state : Expansion) :
      environment.resolveText (Text.beyond Grammar.valueSeparator part) state =
        (Units.convert token, state) := by
    rw [Environment.resolveText, Environment.resolveStream_of_single single rfl,
      Environment.resolve_of_unmarked written unmarked]
  simp only [applySimple, applyNamed, value, named, valued, or_self, if_false]

namespace Palette

theorem applyPart_blue (levels : Nat) (progress : Progress) :
    applyPart palette levels "rval-x_blue".toList progress =
      progress.update fun contribution =>
        contribution.declareRoot "x".toList "blue".toList := by
  have form : formOf palette.lexicon "rval-x_blue".toList = .simple .rootValue := by rfl
  rw [applyPart_eq, form]
  exact applySimple_rootValue "rval-x_blue".toList "blue".toList (by decide) (by rfl)
    (by decide) (by rfl) (by decide) progress

theorem applyPart_nestedRed (levels : Nat) (progress : Progress) :
    applyPart palette levels "c_rval-x_red".toList progress =
      ⟨progress.contribution.declare ["c: var(--x)".toList],
        progress.state.record "x".toList "red".toList⟩ := by
  have form : formOf palette.lexicon "c_rval-x_red".toList = .simple .declaration := by rfl
  have noAlias : palette.lexicon.aliasShorthand? "c_rval-x_red".toList = none := by rfl
  have noProperty : palette.lexicon.propertyShorthand? "c_rval-x_red".toList = none := by rfl
  have tokens : (Cursor.ofText Grammar.valueSeparator "c_rval-x_red".toList).next? =
      some ("c".toList, ⟨1, ["rval-x".toList, "red".toList]⟩) := by rfl
  have inner : palette.lexicon.readSequence "red".toList = [.text "red".toList] := by
    have single : palette.lexicon.chunks
        (Cursor.ofText Grammar.valueSeparator "red".toList) = [⟨.value, "red".toList⟩] :=
      Lexicon.chunks_of_single (by rfl) (by rfl)
    rw [Lexicon.readSequence, Lexicon.readStream, single]
    exact congrArg (fun value => [value]) (Lexicon.read_of_unmarked (by decide) (by rfl))
  have value : palette.resolveStream ⟨1, ["rval-x".toList, "red".toList]⟩ progress.state =
      ("var(--x)".toList, progress.state.record "x".toList "red".toList) := by
    have single : palette.lexicon.nextChunk? ⟨1, ["rval-x".toList, "red".toList]⟩ =
        some (⟨.value, "rval-x_red".toList⟩, ⟨3, []⟩) := by rfl
    have marked : palette.lexicon.markers.markerAt? none "rval-x_red".toList =
        some ("rval-".toList, .rootValue) := by rfl
    have given : Text.beyond? Grammar.valueSeparator
        ("rval-x_red".toList.drop "rval-".toList.length) = some "red".toList := by rfl
    rw [Environment.resolveStream_of_single single rfl, Environment.resolve,
      Lexicon.read_of_rootValue (by decide) marked given, inner]
    rfl
  rw [applyPart_eq, form]
  simp only [applySimple, applyDeclaration, noAlias, noProperty, applyProperty, tokens, value]
  rfl

end Palette

theorem stages_pair
    {environment : Environment}
    {className first second : Text}
    (cut : partsOf className = .ok [first, second])
    (ordinary : Grammar.unimportant ∉ [first, second])
    (firstSingle : inlined? environment.lexicon first = none)
    (secondSingle : inlined? environment.lexicon second = none)
    (ceiling : Nat) :
    stages environment ceiling className =
      let start : Progress :=
        ⟨Contribution.start className true, Expansion.start className ceiling⟩
      let middle := applyPart environment ceiling first start
      [⟨first, start, middle⟩,
        ⟨second, middle, applyPart environment ceiling second middle⟩] := by
  have single {part : Text} (alone : inlined? environment.lexicon part = none)
      (progress : Progress) :
      stagesOf environment ceiling part progress =
        [⟨part, progress, applyPart environment ceiling part progress⟩] := by
    unfold stagesOf
    rw [alone]
  rw [stages, cut]
  simp only [kept_of_not_mem ordinary, important_of_not_mem ordinary, stagesAlong,
    single firstSingle, single secondSingle, List.append_nil, List.cons_append,
    List.nil_append]

/-! ## Whole class names -/

/-- Whatever a class name contributes, its root declarations are those that its parts make
themselves and then those that their values record, each in the order of the parts.  They
follow the parts exactly when no part declares a root value itself after another one whose
value records one, and then they are what part after part brings. -/
theorem rootRules_follow_parts_iff
    {environment : Environment}
    {ceiling : Nat}
    {className : Text}
    {contribution : Contribution}
    (found : contribution? environment ceiling className = some contribution) :
    let stages := stages environment ceiling className
    stages.map Stage.part = inlinedPartsOf environment.lexicon ceiling className ∧
    (sources className stages).map Prod.snd = contribution.rootRules ∧
    ((sources className stages).Pairwise (fun one other => one.1 ≤ other.1) ↔
      stages.Pairwise fun earlier later =>
        earlier.recorded className = [] ∨ later.direct = []) ∧
    ((stages.Pairwise fun earlier later =>
        earlier.recorded className = [] ∨ later.direct = []) →
      contribution.rootRules =
        stages.flatMap fun stage => stage.direct ++ stage.recorded className) := by
  intro stages
  have rootRules := rootRules_of_contribution? found
  refine ⟨map_part_stages environment ceiling className, ?_, ?_, ?_⟩
  · rw [sources, List.map_append, map_snd_indexed, map_snd_indexed, rootRules]
  · rw [sources, List.pairwise_append, forall_indexed_le_iff]
    simp only [pairwise_indexed, true_and]
  · intro apart
    rw [rootRules]
    exact flatMap_append_flatMap_of_pairwise apart

/-- The part that declares a root value itself comes first. -/
theorem rootRules_follow_parts_iff_palette :
    let className := "cssf--rval-x_blue--c_rval-x_red".toList
    ∃ contribution,
      contribution? palette 10 className = some contribution ∧
      contribution.rootRules =
        (stages palette 10 className).flatMap fun stage =>
          stage.direct ++ stage.recorded className := by
  intro className
  have cut : partsOf className = .ok ["rval-x_blue".toList, "c_rval-x_red".toList] := by rfl
  have found : ∃ contribution, contribution? palette 10 className = some contribution := by
    rw [contribution?_of_partsOf cut, progressOf_of_not_mem (by decide)]
    simp only [applyParts, List.foldl_cons, List.foldl_nil, Palette.applyPart_nestedRed,
      Palette.applyPart_blue]
    exact ⟨_, rfl⟩
  obtain ⟨contribution, found⟩ := found
  refine ⟨contribution, found, (rootRules_follow_parts_iff found).2.2.2 ?_⟩
  rw [stages_pair cut (by decide) (by rfl) (by rfl)]
  simp only [Palette.applyPart_nestedRed, Palette.applyPart_blue]
  exact List.pairwise_pair.2 (Or.inl (by rfl))

/-- The other way round its declaration still comes first. -/
theorem rootRules_against_parts :
    let className := "cssf--c_rval-x_red--rval-x_blue".toList
    (contribution? palette 10 className).map Contribution.rootRules =
      some
        [⟨"x".toList, "blue".toList, className⟩, ⟨"x".toList, "red".toList, className⟩] ∧
    sources className (stages palette 10 className) =
      [(1, ⟨"x".toList, "blue".toList, className⟩),
        (0, ⟨"x".toList, "red".toList, className⟩)] := by
  intro className
  have cut : partsOf className = .ok ["c_rval-x_red".toList, "rval-x_blue".toList] := by rfl
  constructor
  · rw [contribution?_of_partsOf cut, progressOf_of_not_mem (by decide)]
    simp only [applyParts, List.foldl_cons, List.foldl_nil, Palette.applyPart_nestedRed,
      Palette.applyPart_blue]
    rfl
  · rw [stages_pair cut (by decide) (by rfl) (by rfl)]
    simp only [Palette.applyPart_nestedRed, Palette.applyPart_blue]
    rfl

end AtomicCss.ClassName
