import AtomicCss.Expansion
import AtomicCss.Selector.Target
import AtomicCss.Value.Basic

/-!
Contract: the text of a value, and what resolving it does to an expansion.

Owns: the evaluation of one value and of a list of values, from left to right.

Does not own: how values are read from tokens.
-/

namespace AtomicCss.Value

mutual

/-- Resolve a value.  Quoted values, templates and functions go one level deeper;
at the ceiling their token stands for them. -/
def eval (ambient : Ambient) : Value → Expansion → Text × Expansion
  | .text css, state => (css, state)
  | .glue character, state => (character, state)
  | .target instructions, state => (Selector.ofTarget instructions state.origin, state)
  | .quoted source inner, state =>
      state.nested source fun deeper =>
        let content := eval ambient inner deeper
        (Text.quoted content.1, content.2)
  | .commaList items, state =>
      let pieces := evalAll ambient items state
      (List.intercalate ", ".toList (pieces.1.map Piece.text), pieces.2)
  | .rootValue name stream, state =>
      let pieces := evalAll ambient stream state
      ("var(--".toList ++ name ++ [')'], pieces.2.record name (Piece.stream pieces.1))
  | .template source blueprint arguments, state =>
      state.nested source fun deeper =>
        let pieces := evalAll ambient arguments deeper
        (blueprint.substitute (pieces.1.map Piece.text), pieces.2)
  | .call source name arguments trailing, state =>
      state.nested source fun deeper =>
        let inside := evalAll ambient arguments deeper
        let after := evalAll ambient trailing inside.2
        (name ++ '(' :: Piece.callArguments inside.1 ++ ')' :: Piece.trailing after.1,
          after.2)
  | .computed source function arguments trailing, state =>
      state.nested source fun deeper =>
        let inside := evalAll ambient arguments deeper
        let after := evalAll ambient trailing inside.2
        match function (inside.1.map Piece.text) ambient with
        | some result => (result ++ Piece.trailing after.1, after.2)
        | none => (source, after.2)
  | .outOfRange, state => ([], state.report (.outOfRange state.origin))

/-- Resolve values one after the other. -/
def evalAll (ambient : Ambient) : List Value → Expansion → List Piece × Expansion
  | [], state => ([], state)
  | value :: others, state =>
      let first := eval ambient value state
      let rest := evalAll ambient others first.2
      (⟨first.1, value.isGlue⟩ :: rest.1, rest.2)

end

/-- Resolve a stream of values. -/
def evalStream (ambient : Ambient) (values : List Value) (state : Expansion) :
    Text × Expansion :=
  let pieces := evalAll ambient values state
  (Piece.stream pieces.1, pieces.2)

end AtomicCss.Value
