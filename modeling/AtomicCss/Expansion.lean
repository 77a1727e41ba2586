import AtomicCss.Notice

/-!
Contract: the state of one class name while its values and templates are expanded.

Owns:
- the depth of nesting and its ceiling;
- the root values recorded so far and the notices given so far;
- the step into a nested expansion and out of it.

Does not own: what is expanded.
-/

namespace AtomicCss

/-- A custom property recorded while a value was resolved. -/
structure RootValue where
  name : Text
  value : Text
deriving DecidableEq, Repr

/-- The state of the expansion of one class name. -/
structure Expansion where
  /-- The class name that is expanded. -/
  origin : Text
  /-- Nesting goes no deeper than this. -/
  ceiling : Nat
  depth : Nat
  /-- A step deeper was refused at some time. -/
  limitHit : Bool
  /-- In the order in which they were recorded. -/
  rootValues : List RootValue
  /-- In the order in which they were given. -/
  notices : List Notice
deriving DecidableEq, Repr

namespace Expansion

/-- The start of the expansion of a class name. -/
def start (origin : Text) (ceiling : Nat) : Expansion :=
  ⟨origin, ceiling, 0, false, [], []⟩

/-- Give a notice. -/
def report (state : Expansion) (notice : Notice) : Expansion :=
  { state with notices := state.notices ++ [notice] }

/-! ## Depth -/

/-- How much deeper an expansion can nest. -/
def levelsLeft (state : Expansion) : Nat :=
  state.ceiling - state.depth

/-- One level deeper. -/
def deepen (state : Expansion) : Expansion :=
  { state with depth := state.depth + 1 }

/-- One level up. -/
def leave (state : Expansion) : Expansion :=
  { state with depth := state.depth - 1 }

/-- Refuse a step deeper.  Only the first refusal is reported. -/
def refuse (state : Expansion) : Expansion :=
  if state.limitHit then
    state
  else
    { state.report (.ceilingReached state.ceiling state.origin) with limitHit := true }

/-- Go one level deeper unless the ceiling is reached. -/
def enter (state : Expansion) : Bool × Expansion :=
  if state.depth < state.ceiling then (true, state.deepen) else (false, state.refuse)

/-- Run a nested expansion one level deeper and come back, or give the fallback
when the ceiling is reached. -/
def nested
    {α : Type}
    (state : Expansion)
    (fallback : α)
    (body : Expansion → α × Expansion) : α × Expansion :=
  if state.enter.1 then
    let result := body state.enter.2
    (result.1, result.2.leave)
  else
    (fallback, state.enter.2)

/-! ## Root values -/

/-- Record a root value. -/
def record (state : Expansion) (name value : Text) : Expansion :=
  { state with rootValues := state.rootValues ++ [⟨name, value⟩] }

/-- Take out the root values recorded so far. -/
def releaseRootValues (state : Expansion) : List RootValue × Expansion :=
  (state.rootValues, { state with rootValues := [] })

end Expansion

end AtomicCss
