import AtomicCss.Schedule
import Mathlib.Data.List.Count

/-!
Contract: every rebuild that a schedule accepts is taken up or dropped exactly once, or is still
pending.

Owns:
- the calls on a schedule, runs of them, and what each call came to;
- the balance of rebuilds over a stretch of calls, kept by every call;
- the main statement about every run of a new schedule.

Does not own: the rebuilds themselves, which an engine runs.
-/

namespace AtomicCss.Schedule

/-! ## Runs -/

/-- What can be done to a schedule. -/
inductive Call where
  | request
  | take
  | cancel
deriving DecidableEq, Repr

/-- What a call came to. -/
inductive Event where
  /-- A rebuild was requested, with the answer. -/
  | requested (accepted : Bool)
  /-- The pending rebuild was asked for, with the answer. -/
  | asked (taken : Bool)
  /-- What was pending was dropped.  A call that finds nothing pending drops nothing. -/
  | cancelled (dropped : Bool)
deriving DecidableEq, Repr

/-- The schedule after a call. -/
def perform (schedule : Schedule) : Call → Schedule
  | .request => schedule.request.2
  | .take => schedule.take.2
  | .cancel => schedule.cancel

def event (schedule : Schedule) : Call → Event
  | .request => .requested schedule.request.1
  | .take => .asked schedule.take.1
  | .cancel => .cancelled schedule.pending

/-- The schedule after calls that are made one after the other. -/
def run (schedule : Schedule) (calls : List Call) : Schedule :=
  calls.foldl perform schedule

/-- What the calls came to, in their order. -/
def history (schedule : Schedule) : List Call → List Event
  | [] => []
  | call :: others => schedule.event call :: history (schedule.perform call) others

/-- An event of a history is that of a call: what comes before it is the history of the earlier
calls, and what comes after it that of the later ones. -/
theorem exists_call_of_history
    {schedule : Schedule}
    {calls : List Call}
    {before after : List Event}
    {event : Event}
    (split : schedule.history calls = before ++ event :: after) :
    ∃ earlier call later,
      schedule.history earlier = before ∧
        (schedule.run earlier).event call = event ∧
        ((schedule.run earlier).perform call).history later = after := by
  induction before generalizing schedule calls with
  | nil =>
      cases calls with
      | nil => cases split
      | cons call others =>
          obtain ⟨here, there⟩ := List.cons_eq_cons.1 split
          exact ⟨[], call, others, rfl, here, there⟩
  | cons first rest inductionHypothesis =>
      cases calls with
      | nil => cases split
      | cons call others =>
          obtain ⟨here, there⟩ := List.cons_eq_cons.1 split
          obtain ⟨earlier, middle, later, front, inside, back⟩ := inductionHypothesis there
          exact ⟨call :: earlier, middle, later, List.cons_eq_cons.2 ⟨here, front⟩, inside, back⟩

/-! ## The balance -/

/-- Over a stretch of events, the rebuilds that were pending before it or accepted in it are
those taken up in it, dropped in it or pending after it, and those taken up are counted. -/
structure Balanced (before : Schedule) (events : List Event) (after : Schedule) : Prop where
  rebuilds :
    before.pending.toNat + events.count (.requested true) =
      events.count (.asked true) + events.count (.cancelled true) + after.pending.toNat
  fired : after.fired = before.fired + events.count (.asked true)

namespace Balanced

theorem refl (schedule : Schedule) : Balanced schedule [] schedule :=
  ⟨by simp, rfl⟩

theorem append
    {before middle after : Schedule}
    {first second : List Event}
    (earlier : Balanced before first middle)
    (later : Balanced middle second after) :
    Balanced before (first ++ second) after := by
  have counts := earlier.rebuilds
  have rest := later.rebuilds
  refine ⟨?_, ?_⟩
  · simp only [List.count_append]
    omega
  · rw [later.fired, earlier.fired, List.count_append, Nat.add_assoc]

theorem perform (schedule : Schedule) (call : Call) :
    Balanced schedule [schedule.event call] (schedule.perform call) := by
  obtain ⟨pending, fired⟩ := schedule
  cases call with
  | request | take | cancel => cases pending <;> exact ⟨by rfl, by rfl⟩

/-- Every call keeps the balance, so a run does. -/
theorem run (schedule : Schedule) (calls : List Call) :
    Balanced schedule (schedule.history calls) (schedule.run calls) := by
  induction calls generalizing schedule with
  | nil => exact refl schedule
  | cons call others inductionHypothesis =>
      exact (perform schedule call).append (inductionHypothesis (schedule.perform call))

/-- When nothing is pending before a stretch and something is after it, a request in it was
accepted. -/
theorem requested_mem
    {before after : Schedule}
    {events : List Event}
    (balanced : Balanced before events after)
    (idle : before.pending = false)
    (pending : after.pending = true) :
    .requested true ∈ events := by
  have counts := balanced.rebuilds
  rw [idle, pending, Bool.toNat_false, Bool.toNat_true] at counts
  exact List.count_pos_iff.1 (by omega)

end Balanced

/-! ## Rebuilds taken up -/

/-- Only a pending rebuild is taken up, and then none is pending. -/
theorem pending_of_taken
    {schedule : Schedule}
    {call : Call}
    (taken : schedule.event call = .asked true) :
    schedule.pending = true ∧ (schedule.perform call).pending = false := by
  obtain ⟨pending, fired⟩ := schedule
  cases call with
  | request | cancel => cases taken
  | take =>
      cases pending with
      | false => cases taken
      | true => exact ⟨rfl, rfl⟩

theorem requested_mem_between
    {schedule : Schedule}
    {calls : List Call}
    {before between after : List Event}
    (split :
      schedule.history calls = before ++ .asked true :: (between ++ .asked true :: after)) :
    .requested true ∈ between := by
  obtain ⟨first, call, _, _, taken, rest⟩ := exists_call_of_history split
  obtain ⟨inside, again, _, here, retaken, _⟩ := exists_call_of_history rest
  have balanced := Balanced.run ((schedule.run first).perform call) inside
  rw [here] at balanced
  exact balanced.requested_mem (pending_of_taken taken).2 (pending_of_taken retaken).1

/-! ## Every run -/

/-- However requests, takes and cancels follow each other on a new schedule: the requests that
were accepted are as many as the rebuilds that were taken up, those that were dropped, and the one
that is still pending if there is one.  The schedule counts the rebuilds that were taken up, and
between any two of them a request was accepted. -/
theorem rebuilds_accounted (calls : List Call) :
    let events := start.history calls
    let last := start.run calls
    events.count (.requested true) =
      last.fired + events.count (.cancelled true) + (if last.pending then 1 else 0) ∧
    last.fired = events.count (.asked true) ∧
    ∀ before between after,
      events = before ++ .asked true :: (between ++ .asked true :: after) →
        .requested true ∈ between := by
  intro events last
  have balanced : Balanced start events last := Balanced.run start calls
  have fired : last.fired = events.count (.asked true) := balanced.fired.trans (Nat.zero_add _)
  refine ⟨?_, fired, fun before between after split => requested_mem_between split⟩
  have rebuilds := balanced.rebuilds
  rw [fired]
  cases pending : last.pending with
  | false | true => simpa [start, pending] using rebuilds

/-- Two rebuilds are taken up, and one is dropped between them. -/
theorem rebuilds_accounted_twice :
    let events := start.history [.request, .request, .take, .request, .cancel, .request, .take]
    let between := [.requested true, .cancelled true, .requested true]
    events =
      [.requested true, .requested false] ++ .asked true :: (between ++ .asked true :: []) ∧
    events.count (.requested true) = 2 + events.count (.cancelled true) ∧
    .requested true ∈ between := by
  intro events between
  have split : events =
      [.requested true, .requested false] ++ .asked true :: (between ++ .asked true :: []) := by
    decide
  obtain ⟨counts, _, apart⟩ :=
    rebuilds_accounted [.request, .request, .take, .request, .cancel, .request, .take]
  exact ⟨split, counts, apart _ _ _ split⟩

end AtomicCss.Schedule
