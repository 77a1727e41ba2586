import AtomicCss.Proofs.Engine.Session

/-!
Contract: the rules of different class names never meet in an engine.

Owns:
- the distinct selectors of the contributions in the log of a session;
- the growth of the store under every operation but a reset;
- the main statement: different class names have different selectors, so in every run a
  store has one rule for each class name with declarations, and rules are only added at
  the ends of lists.

Does not own: the order in which a stylesheet shows rules.
-/

namespace AtomicCss.Session

open ClassName

variable {lexicon : Lexicon} {ceiling : Nat} {session : Session}

/-! ## Distinct selectors -/

/-- The contributions of a log, read back from their selectors, are class names in the
order of the log. -/
theorem owners_sublist
    {log : List (Text × Option Contribution)}
    (readings :
      ∀ entry ∈ log, ∃ ambient,
        entry.2 = contribution? ⟨lexicon, ambient⟩ ceiling entry.1) :
    ((log.filterMap Prod.snd).map fun contribution =>
      Selector.owner contribution.selector).Sublist (log.map Prod.fst) := by
  induction log with
  | nil => exact List.Sublist.slnil
  | cons entry others inductionHypothesis =>
      have rest := inductionHypothesis fun other member => readings other (by simp [member])
      obtain ⟨className, reading⟩ := entry
      cases reading with
      | none => exact rest.cons className
      | some contribution =>
          obtain ⟨ambient, found⟩ := readings _ (List.mem_cons_self ..)
          have names := names_of_contribution? found.symm
          simp only [List.filterMap_cons, List.map_cons, names.owner_eq]
          exact rest.cons_cons className

/-- Selectors that give back distinct class names are distinct. -/
theorem nodup_ruleSelectors_of_owners
    {contributions : List Contribution}
    (distinct :
      (contributions.map fun contribution =>
        Selector.owner contribution.selector).Nodup) :
    (Store.ruleSelectors contributions).Nodup := by
  have ruled :
      ((contributions.filter Contribution.hasRule).map fun contribution =>
        Selector.owner contribution.selector).Nodup :=
    distinct.sublist (List.filter_sublist.map _)
  refine List.Nodup.of_map Selector.owner ?_
  rw [Store.ruleSelectors, List.map_map]
  exact ruled

namespace Sound

theorem nodup_owners (sound : Sound lexicon ceiling session) :
    (session.contributions.map fun contribution =>
      Selector.owner contribution.selector).Nodup := by
  refine (owners_sublist sound.readings).nodup ?_
  rw [sound.processed]
  exact session.engine.processed.distinct

/-- The selectors of a session are distinct, for they give back distinct class names. -/
theorem nodup_ruleSelectors (sound : Sound lexicon ceiling session) :
    (Store.ruleSelectors session.contributions).Nodup :=
  nodup_ruleSelectors_of_owners sound.nodup_owners

theorem selectors_perm (sound : Sound lexicon ceiling session) :
    session.engine.store.selectors.Perm (Store.ruleSelectors session.contributions) := by
  rw [sound.store]
  exact Store.selectors_insertAll sound.nodup_ruleSelectors

/-! ## Growth -/

theorem grows_take (sound : Sound lexicon ceiling session) (className : Text) :
    session.engine.store.Grows (session.take className).engine.store := by
  have next := sound.take className
  unfold Session.take at next ⊢
  cases taken : session.engine.takes className with
  | false => exact Store.Grows.refl _
  | true =>
      rw [taken, if_pos rfl] at next
      rw [if_pos rfl]
      simp only [Engine.store_process taken]
      cases produced : session.engine.contribution? className with
      | none => exact Store.Grows.refl _
      | some contribution =>
          -- A second rule under the selector would make the selectors of the next session
          -- repeat themselves.
          refine Store.grows_insert fun rule member => ?_
          have distinct := next.nodup_ruleSelectors
          have split :
              Store.ruleSelectors
                  (Session.contributions
                    ⟨(session.engine.process className).2,
                      session.log ++ [(className, session.engine.contribution? className)]⟩) =
                Store.ruleSelectors session.contributions ++ [contribution.selector] := by
            simp [Store.ruleSelectors, contributions, produced, rule]
          rw [split, List.nodup_append] at distinct
          exact distinct.2.2 _ (sound.selectors_perm.mem_iff.1 member) _ (by simp) rfl

theorem grows_foldl_take (sound : Sound lexicon ceiling session) (classNames : List Text) :
    session.engine.store.Grows (classNames.foldl Session.take session).engine.store := by
  induction classNames generalizing session with
  | nil => exact Store.Grows.refl _
  | cons className others inductionHypothesis =>
      exact (sound.grows_take className).trans (inductionHypothesis (sound.take className))

/-- Nothing but a reset removes or changes a rule. -/
theorem grows_perform
    (sound : Sound lexicon ceiling session)
    {operation : Operation}
    (other : operation ≠ .reset) :
    session.engine.store.Grows (session.perform operation).engine.store := by
  cases operation with
  | reset => exact absurd rfl other
  | process className => exact sound.grows_take className
  | processAll classNames => exact sound.grows_foldl_take classNames
  | processList classList => exact sound.grows_foldl_take (Text.words classList)
  | flush =>
      show session.engine.store.Grows session.engine.flush.2.store
      rw [session.engine.flush_keeps.2.2.2.1]
      exact Store.Grows.refl _
  | rebuild | setVerbose | blockSource | observe => exact Store.Grows.refl _

end Sound

/-! ## Rules of different class names -/

/-- Different class names have different selectors, whatever the tables, the readings and
the ceilings they are read with.  So after any operations on a new engine, with a log of what
each class name taken in since the last reset was read as: there are as many rules as
logged class names with declarations, the selector of each of these occurs once, and the
next operation, unless it is a reset, adds rules at the ends of lists only. -/
theorem selectors_tell_classes_apart :
    (∀ (environment environment' : Environment) (ceiling ceiling' : Nat)
        (className className' : Text) (contribution contribution' : Contribution),
      contribution? environment ceiling className = some contribution →
      contribution? environment' ceiling' className' = some contribution' →
      className ≠ className' →
      contribution.selector ≠ contribution'.selector) ∧
    ∀ (environment : Environment) (options : Options) (operations : List Operation),
      let session := (Session.start environment options).run operations
      let engine := (Engine.start environment options).run operations
      let ruled := session.contributions.filter Contribution.hasRule
      session.engine = engine ∧
      session.log.map Prod.fst = engine.processed.members ∧
      (∀ entry ∈ session.log, ∃ ambient,
        entry.2 =
          contribution? ⟨environment.lexicon, ambient⟩ options.ceiling entry.1) ∧
      engine.store.ruleCount = ruled.length ∧
      (∀ contribution ∈ ruled,
        engine.store.selectors.count contribution.selector = 1) ∧
      ∀ operation, operation ≠ .reset →
        engine.store.Grows (engine.perform operation).store := by
  refine ⟨?_, ?_⟩
  · intro _ _ _ _ className className' contribution contribution' found found' differ same
    refine differ ?_
    rw [← (names_of_contribution? found).owner_eq, same,
      (names_of_contribution? found').owner_eq]
  · intro environment options operations session engine ruled
    have sound : Sound environment.lexicon options.ceiling session :=
      (Sound.start environment options).run operations
    have engineEq : session.engine = engine := engine_run _ operations
    have selectors := sound.selectors_perm
    have distinct := sound.nodup_ruleSelectors
    rw [engineEq] at selectors
    refine ⟨engineEq, engineEq ▸ sound.processed, sound.readings, ?_, ?_, ?_⟩
    · rw [Store.ruleCount_eq_length_selectors, selectors.length_eq, Store.ruleSelectors,
        List.length_map]
    · intro contribution member
      rw [selectors.count_eq]
      exact List.count_eq_one_of_mem distinct (List.mem_map_of_mem member)
    · intro operation other
      have grows := sound.grows_perform other
      rwa [engine_perform, engineEq] at grows

theorem selectors_tell_classes_apart_red :
    (contribution? palette 10 "cssf--tpl-red".toList).isSome = true ∧
    (contribution? palette 10 "cssf--tpl-red--tar-self-class-b".toList).isSome = true ∧
    (contribution? palette 10 "cssf--tpl-red".toList).map Contribution.selector ≠
      (contribution? palette 10 "cssf--tpl-red--tar-self-class-b".toList).map
        Contribution.selector ∧
    ((Engine.start palette Options.standard).run [.process "cssf--tpl-red".toList]).store.Grows
      (((Engine.start palette Options.standard).run
        [.process "cssf--tpl-red".toList]).perform
          (.process "cssf--tpl-red--tar-self-class-b".toList)).store := by
  obtain ⟨apart, runs⟩ := selectors_tell_classes_apart
  have differ := apart _ _ _ _ _ _ _ _ Palette.contribution?_red
    Palette.contribution?_target (by decide)
  have grows := (runs palette Options.standard [.process "cssf--tpl-red".toList]).2.2.2.2.2
    (.process "cssf--tpl-red--tar-self-class-b".toList) (by decide)
  rw [Palette.contribution?_red, Palette.contribution?_target]
  refine ⟨rfl, rfl, ?_, grows⟩
  exact fun same => differ (Option.some.inj same)

end AtomicCss.Session
