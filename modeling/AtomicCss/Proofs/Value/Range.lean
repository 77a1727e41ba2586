import AtomicCss.Proofs.Value.Calls

/-!
Contract: sums of places and counts that are no 64-bit words.

Owns:
- when the number of arguments of a template is one more than its greatest index;
- when the end of the tokens that a cursor takes is not before its place;
- the values that come to a template whose arguments cannot be counted;
- the calls and the notices of such a template.

Does not own: which values a text or a part is read to.
-/

namespace AtomicCss

open Expansion

/-! ## Words -/

namespace Template

theorem lt_wordLimit_of_mem_indices
    {text : Text}
    {index : Nat}
    (member : index ∈ indices text) :
    index < wordLimit := by
  induction text with
  | nil => simp [indices] at member
  | cons character rest inductionHypothesis =>
      have small : ∀ found ∈ Text.toNatBelow? wordLimit (Text.digits rest),
          found < wordLimit := by
        intro found read
        unfold Text.toNatBelow? at read
        split at read
        · rename_i bounds
          rw [← Option.some.inj read]
          exact bounds.2.2
        · cases read
      unfold indices at member
      split at member
      · rename_i first read
        split at member
        · rcases List.mem_cons.1 member with rfl | later
          · exact small _ read
          · exact inductionHypothesis later
        · exact inductionHypothesis member
      · exact inductionHypothesis member

/-- One more than the greatest index is a word unless the greatest word of all is an index. -/
theorem succ_greatest_lt_iff (template : Template) :
    (∀ greatest ∈ (indices template.blueprint).max?, greatest + 1 < wordLimit) ↔
      wordLimit - 1 ∉ indices template.blueprint := by
  have positive : 0 < wordLimit := by decide
  constructor
  · intro small member
    cases greatest : (indices template.blueprint).max? with
    | none =>
        rw [List.max?_eq_none_iff] at greatest
        rw [greatest] at member
        cases member
    | some found =>
        have bound := (List.max?_eq_some_iff.1 greatest).2 _ member
        have word := small found greatest
        omega
  · intro absent greatest found
    have member := (List.max?_eq_some_iff.1 found).1
    have word := lt_wordLimit_of_mem_indices member
    have other : greatest ≠ wordLimit - 1 := by
      rintro rfl
      exact absent member
    omega

end Template

/-- The place after `count` tokens, as a word and no further than the end, is not before the place
of the cursor when that many tokens are left or the place is a word. -/
theorem Cursor.addressable_iff
    {cursor : Cursor}
    {count : Nat}
    (sizeWord : cursor.size < wordLimit)
    (countWord : count < wordLimit) :
    cursor.Addressable count ↔
      cursor.position ≤ min ((cursor.position + count) % wordLimit) cursor.size := by
  have inside : cursor.position ≤ cursor.size := Nat.le_add_right _ _
  rw [Nat.le_min, and_iff_left inside]
  by_cases word : cursor.position + count < wordLimit
  · rw [Nat.mod_eq_of_lt word]
    exact iff_of_true (Or.inr word) (Nat.le_add_right _ _)
  · -- The sum wraps once, to a place before the cursor.
    have wrapped : (cursor.position + count) % wordLimit =
        cursor.position + count - wordLimit := by
      rw [Nat.mod_eq_sub_mod (Nat.le_of_not_lt word), Nat.mod_eq_of_lt (by omega)]
    refine iff_of_false ?_ (by omega)
    rintro (enough | small)
    · have size : cursor.size = cursor.position + cursor.remaining := rfl
      omega
    · exact word small

/-! ## Values -/

namespace Value

mutual

/-- Resolving the value comes to a template whose arguments cannot be counted, when expansions
can nest `levels` deeper. -/
def overreaches : Value → Nat → Bool
  | .text _, _ | .glue _, _ | .target _, _ => false
  | .quoted _ inner, levels => 0 < levels && overreaches inner (levels - 1)
  | .commaList items, levels => anyOverreaches items levels
  | .rootValue _ stream, levels => anyOverreaches stream levels
  | .template _ _ arguments, levels => 0 < levels && anyOverreaches arguments (levels - 1)
  | .call _ _ arguments trailing, levels | .computed _ _ arguments trailing, levels =>
      0 < levels &&
        (anyOverreaches arguments (levels - 1) || anyOverreaches trailing (levels - 1))
  | .outOfRange, _ => true

/-- Resolving one of the values comes to such a template. -/
def anyOverreaches : List Value → Nat → Bool
  | [], _ => false
  | value :: others, levels => overreaches value levels || anyOverreaches others levels

end

theorem anyOverreaches_eq (values : List Value) (levels : Nat) :
    anyOverreaches values levels = values.any fun value => value.overreaches levels := by
  induction values with
  | nil => rfl
  | cons value others inductionHypothesis =>
      rw [anyOverreaches, List.any_cons, inductionHypothesis]

end Value

theorem Expansion.outOfRange_mem_nestedCalls
    (state : Expansion)
    (inside : Expansion → List Call) :
    Call.outOfRange ∈ state.nestedCalls inside ↔
      0 < state.levelsLeft ∧ Call.outOfRange ∈ inside state.deepen := by
  unfold nestedCalls
  by_cases room : state.depth < state.ceiling
  · have left := (depth_lt_ceiling_iff state).1 room
    simp [room, left]
  · have left := mt (depth_lt_ceiling_iff state).2 room
    simp [room, left]

namespace Value

mutual

/-- By induction on the value: it is resolved on the level that its state has, and comes back
to it. -/
theorem outOfRange_mem_calls (ambient : Ambient) :
    ∀ (value : Value) (state : Expansion),
      Call.outOfRange ∈ value.calls ambient state ↔
        value.overreaches state.levelsLeft = true
  | .text _, _ | .glue _, _ | .target _, _ => by simp [calls, overreaches]
  | .outOfRange, _ => by simp [calls, overreaches]
  | .quoted source inner, state => by
      rw [calls, overreaches, outOfRange_mem_nestedCalls, outOfRange_mem_calls ambient inner,
        levelsLeft_deepen]
      simp
  | .commaList items, state => outOfRange_mem_callsAll ambient items state
  | .rootValue name stream, state => by
      rw [calls, overreaches, List.mem_append, outOfRange_mem_callsAll ambient stream]
      simp
  | .template source blueprint arguments, state => by
      rw [calls, overreaches, outOfRange_mem_nestedCalls,
        outOfRange_mem_callsAll ambient arguments, levelsLeft_deepen]
      simp
  | .call source name arguments trailing, state => by
      have level := ((uniform_evalAll ambient arguments).balanced state.deepen).levelsLeft
      rw [calls, overreaches, outOfRange_mem_nestedCalls, List.mem_append,
        outOfRange_mem_callsAll ambient arguments, outOfRange_mem_callsAll ambient trailing,
        level, levelsLeft_deepen]
      simp
  | .computed source function arguments trailing, state => by
      have level := ((uniform_evalAll ambient arguments).balanced state.deepen).levelsLeft
      rw [calls, overreaches, outOfRange_mem_nestedCalls, List.mem_append,
        outOfRange_mem_callsAll ambient arguments, outOfRange_mem_callsAll ambient trailing,
        level, levelsLeft_deepen]
      simp

theorem outOfRange_mem_callsAll (ambient : Ambient) :
    ∀ (values : List Value) (state : Expansion),
      Call.outOfRange ∈ callsAll ambient values state ↔
        anyOverreaches values state.levelsLeft = true
  | [], _ => by simp [callsAll, anyOverreaches]
  | value :: others, state => by
      have level := ((uniform_eval ambient value).balanced state).levelsLeft
      rw [callsAll, anyOverreaches, List.mem_append, outOfRange_mem_calls ambient value,
        outOfRange_mem_callsAll ambient others, level]
      simp

end

end Value

/-! ## Notices -/

namespace Expansion

/-- Only the call that reports a template whose arguments cannot be counted gives the notice. -/
theorem outOfRange_mem_call (state : Expansion) (call : Call) :
    .outOfRange state.origin ∈ (state.call call).notices ↔
      .outOfRange state.origin ∈ state.notices ∨ call = .outOfRange := by
  cases call with
  | enter =>
      by_cases room : state.depth < state.ceiling
      · simp [call_enter_of_lt room, deepen]
      · rw [call_enter_of_not_lt room, refuse]
        split <;> simp [report]
  | leave | record | outOfRange => simp [Expansion.call, leave, record, report]

theorem outOfRange_mem_run (state : Expansion) (calls : List Call) :
    .outOfRange state.origin ∈ (state.run calls).notices ↔
      .outOfRange state.origin ∈ state.notices ∨ Call.outOfRange ∈ calls := by
  induction calls generalizing state with
  | nil => simp [run]
  | cons first others inductionHypothesis =>
      have origin : (state.call first).origin = state.origin := (proceeds_call state first).origin
      have later := inductionHypothesis (state.call first)
      rw [origin] at later
      rw [run_cons, later, outOfRange_mem_call, List.mem_cons, or_assoc, eq_comm]

end Expansion

end AtomicCss
