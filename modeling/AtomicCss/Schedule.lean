/-!
Contract: requests for a rebuild that run together.

Owns: the schedule, which has at most one rebuild pending and counts those that
were run.

Does not own: what a rebuild does.
-/

namespace AtomicCss

/-- Whether a rebuild is pending, and how many were taken up. -/
structure Schedule where
  pending : Bool
  fired : Nat
deriving DecidableEq, Repr

namespace Schedule

/-- Nothing requested so far. -/
def start : Schedule :=
  ⟨false, 0⟩

/-- Request a rebuild.  The answer tells whether none was pending. -/
def request (schedule : Schedule) : Bool × Schedule :=
  (!schedule.pending, { schedule with pending := true })

/-- Take the pending rebuild up, if there is one. -/
def take (schedule : Schedule) : Bool × Schedule :=
  if schedule.pending then (true, ⟨false, schedule.fired + 1⟩) else (false, schedule)

/-- Drop the pending rebuild. -/
def cancel (schedule : Schedule) : Schedule :=
  { schedule with pending := false }

end Schedule

end AtomicCss
