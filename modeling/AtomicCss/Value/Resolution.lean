import AtomicCss.Value.Evaluation
import AtomicCss.Value.Reading

/-!
Contract: resolving tokens to CSS text.

Owns: the environment that tokens are resolved in, and the resolution of a token,
of a stream of tokens, and of one value at the front of a stream.

Does not own: reading and evaluation, which it joins.
-/

namespace AtomicCss

/-- What tokens are resolved with: the tables of a grammar and the readings that
computed functions depend on. -/
structure Environment where
  lexicon : Lexicon
  ambient : Ambient

namespace Environment

/-- Resolve one token, which may carry arguments. -/
def resolve (environment : Environment) (token : Text) (state : Expansion) :
    Text × Expansion :=
  (environment.lexicon.read false token).eval environment.ambient state

/-- Resolve all tokens that are left to a cursor as a stream of values. -/
def resolveStream (environment : Environment) (cursor : Cursor) (state : Expansion) :
    Text × Expansion :=
  Value.evalStream environment.ambient (environment.lexicon.readStream cursor) state

/-- Resolve the tokens of a text as a stream of values. -/
def resolveText (environment : Environment) (text : Text) (state : Expansion) :
    Text × Expansion :=
  environment.resolveStream (Cursor.ofText Grammar.valueSeparator text) state

/-- Resolve the tokens of a list one after the other, each for itself. -/
def resolveEach (environment : Environment) : List Text → Expansion → List Text × Expansion
  | [], state => ([], state)
  | token :: others, state =>
      let first := environment.resolve token state
      let rest := environment.resolveEach others first.2
      (first.1 :: rest.1, rest.2)

/-- A value read from the front of a stream, with the state that it leaves. -/
structure Consumed where
  value : Text
  remaining : Cursor
  state : Expansion
deriving DecidableEq, Repr

/-- Read and resolve the value at the front of a stream. -/
def consume? (environment : Environment) (cursor : Cursor) (state : Expansion) :
    Option Consumed :=
  (environment.lexicon.consume? cursor).map fun (chunk, remaining) =>
    let resolved :=
      (environment.lexicon.readChunk chunk).eval environment.ambient state
    ⟨resolved.1, remaining, resolved.2⟩

theorem length_rest_of_consume?
    {environment : Environment}
    {cursor : Cursor}
    {state : Expansion}
    {consumed : Consumed}
    (read : environment.consume? cursor state = some consumed) :
    consumed.remaining.rest.length < cursor.rest.length := by
  unfold consume? at read
  rw [Option.map_eq_some_iff] at read
  obtain ⟨⟨chunk, remaining⟩, taken, rfl⟩ := read
  exact Lexicon.length_rest_of_consume? taken

end Environment

end AtomicCss
