import AtomicCss.Proofs.Expansion.Ceiling
import AtomicCss.Value.Resolution

/-!
Contract: resolving values is uniform, that is, it comes back to the level that it starts
on and does not feel the ceiling until it reaches it.

Owns: the property for one value and for values one after the other, and from it for
tokens, for streams of tokens and for the value at the front of a stream.

Does not own: parts of class names.
-/

namespace AtomicCss

open Expansion

namespace Value

/-! ## Values -/

variable (ambient : Ambient)

mutual

/-- By induction on the value: what it does is put together from what the values in it do,
recording and nesting. -/
theorem uniform_eval : ∀ value : Value, Uniform (value.eval ambient)
  | .text css => Uniform.pure fun _ => css
  | .glue character => Uniform.pure fun _ => character
  | .target instructions => Uniform.pure (Selector.ofTarget instructions)
  | .quoted source inner => ((uniform_eval inner).map Text.quoted).nested source
  | .commaList items =>
      (uniform_evalAll items).map fun pieces =>
        List.intercalate ", ".toList (pieces.map Piece.text)
  | .rootValue name stream =>
      (uniform_evalAll stream).bind
        (fun pieces state =>
          ("var(--".toList ++ name ++ [')'], state.record name (Piece.stream pieces)))
        fun pieces => Uniform.record name (Piece.stream pieces) _
  | .template source blueprint arguments =>
      ((uniform_evalAll arguments).map fun pieces =>
        blueprint.substitute (pieces.map Piece.text)).nested source
  | .call source name arguments trailing =>
      ((uniform_evalAll arguments).bind
        (fun inside state =>
          let after := evalAll ambient trailing state
          (name ++ '(' :: Piece.callArguments inside ++ ')' :: Piece.trailing after.1,
            after.2))
        fun inside =>
          (uniform_evalAll trailing).map fun after =>
            name ++ '(' :: Piece.callArguments inside ++ ')' :: Piece.trailing after).nested
        source
  | .computed source function arguments trailing =>
      ((uniform_evalAll arguments).bind
        (fun (inside : List Piece) (state : Expansion) =>
          let after := evalAll ambient trailing state
          match function (inside.map Piece.text) ambient with
          | some result => (result ++ Piece.trailing after.1, after.2)
          | none => (source, after.2))
        fun inside => by
          cases function (inside.map Piece.text) ambient with
          | none => exact (uniform_evalAll trailing).map fun _ => source
          | some result =>
              exact (uniform_evalAll trailing).map fun after =>
                result ++ Piece.trailing after).nested
        source
  | .outOfRange => Uniform.report .outOfRange []

theorem uniform_evalAll : ∀ values : List Value, Uniform (evalAll ambient values)
  | [] => Uniform.pure fun _ => []
  | value :: others =>
      (uniform_eval value).bind
        (fun (text : Text) (state : Expansion) =>
          let rest := evalAll ambient others state
          ((⟨text, value.isGlue⟩ : Piece) :: rest.1, rest.2))
        fun text => (uniform_evalAll others).map fun rest => ⟨text, value.isGlue⟩ :: rest

end

theorem uniform_evalStream (values : List Value) : Uniform (evalStream ambient values) :=
  (uniform_evalAll ambient values).map Piece.stream

end Value

/-! ## Tokens -/

namespace Environment

variable (environment : Environment)

theorem uniform_resolve (token : Text) : Uniform (environment.resolve token) :=
  Value.uniform_eval environment.ambient _

theorem uniform_resolveStream (cursor : Cursor) : Uniform (environment.resolveStream cursor) :=
  Value.uniform_evalStream environment.ambient _

theorem uniform_resolveText (text : Text) : Uniform (environment.resolveText text) :=
  environment.uniform_resolveStream _

theorem uniform_resolveEach (tokens : List Text) :
    Uniform (environment.resolveEach tokens) := by
  induction tokens with
  | nil => exact Uniform.pure fun _ => []
  | cons token others inductionHypothesis =>
      exact (environment.uniform_resolve token).bind
        (fun first state =>
          let rest := environment.resolveEach others state
          (first :: rest.1, rest.2))
        fun first => inductionHypothesis.map fun rest => first :: rest

/-- Which tokens the value at the front of a stream takes does not depend on the state. -/
theorem consume?_eq (cursor : Cursor) (state : Expansion) :
    environment.consume? cursor state =
      (environment.lexicon.consume? cursor).map fun (chunk, remaining) =>
        let resolved := (environment.lexicon.readChunk chunk).eval environment.ambient state
        ⟨resolved.1, remaining, resolved.2⟩ :=
  rfl

end Environment

end AtomicCss
