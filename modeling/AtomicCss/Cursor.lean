import AtomicCss.Text.DecimalDigit

/-!
Contract: reading a list of tokens from front to back.

Owns:
- the cursor, which counts the tokens read and holds those still to come;
- reading one token, a number of tokens, tokens through a sentinel, and a name
  that ends at a reserved word.

Does not own: what any token means.
-/

namespace AtomicCss

/-- A place in a list of tokens. -/
structure Cursor where
  /-- The number of tokens already read. -/
  position : Nat
  /-- The tokens still to be read. -/
  rest : List Text
deriving DecidableEq, Repr

namespace Cursor

/-! ## Places -/

/-- The front of a list of tokens. -/
def ofTokens (tokens : List Text) : Cursor :=
  ⟨0, tokens⟩

/-- The tokens between the separators of a text.  The empty text has none. -/
def tokens (separator : Char) (text : Text) : List Text :=
  if text = [] then [] else Text.split separator text

/-- The front of the tokens of a text. -/
def ofText (separator : Char) (text : Text) : Cursor :=
  ofTokens (tokens separator text)

/-- The number of all tokens, read or not. -/
def size (cursor : Cursor) : Nat :=
  cursor.position + cursor.rest.length

/-- The number of tokens still to be read. -/
def remaining (cursor : Cursor) : Nat :=
  cursor.rest.length

/-- Nothing is left to read. -/
def isDone (cursor : Cursor) : Bool :=
  cursor.rest.isEmpty

/-- The next token, not yet read. -/
def peek? (cursor : Cursor) : Option Text :=
  cursor.rest.head?

/-! ## Reading -/

/-- Read one token. -/
def next? (cursor : Cursor) : Option (Text × Cursor) :=
  match cursor.rest with
  | [] => none
  | token :: rest => some (token, ⟨cursor.position + 1, rest⟩)

/-- Read a number of tokens, or all when there are fewer. -/
def take (cursor : Cursor) (count : Nat) : List Text × Cursor :=
  (cursor.rest.take count,
    ⟨cursor.position + min count cursor.rest.length, cursor.rest.drop count⟩)

/-- The place that `count` tokens lead to can be named: there are so many tokens
left, or the place is a 64-bit word. -/
def Addressable (cursor : Cursor) (count : Nat) : Prop :=
  count ≤ cursor.remaining ∨ cursor.position + count < wordLimit

instance (cursor : Cursor) (count : Nat) : Decidable (cursor.Addressable count) :=
  inferInstanceAs (Decidable (_ ∨ _))

/-- Read all tokens that are left. -/
def takeRest (cursor : Cursor) : List Text × Cursor :=
  cursor.take cursor.remaining

/-- How far ahead the first token equal to a sentinel is. -/
def find? (cursor : Cursor) (sentinel : Text) : Option Nat :=
  cursor.rest.findIdx? (· = sentinel)

/-- Read through the next sentinel, or all tokens when there is none.  The flag
tells whether the sentinel was there. -/
def takeThrough (cursor : Cursor) (sentinel : Text) : (List Text × Bool) × Cursor :=
  match cursor.find? sentinel with
  | some offset =>
      let taken := cursor.take (offset + 1)
      ((taken.1, true), taken.2)
  | none =>
      let taken := cursor.takeRest
      ((taken.1, false), taken.2)

/-- The tokens of a name: the first one whatever it is, and those after it that
are not reserved. -/
def nameTokens (isReserved : Text → Bool) : List Text → List Text
  | [] => []
  | first :: rest => first :: rest.takeWhile fun token => !isReserved token

/-- Read a name, which takes at least one token if any is left. -/
def takeName (cursor : Cursor) (isReserved : Text → Bool) : List Text × Cursor :=
  cursor.take (nameTokens isReserved cursor.rest).length

/-! ## What reading keeps -/

/-- Cutting a text into tokens loses nothing. -/
theorem join_tokens (separator : Char) (text : Text) :
    Text.join separator (tokens separator text) = text := by
  unfold tokens
  split
  · rename_i empty
    rw [empty]
    rfl
  · exact Text.join_split separator text

/-- What is taken and what is left make up what was there. -/
theorem take_append_rest (cursor : Cursor) (count : Nat) :
    (cursor.take count).1 ++ (cursor.take count).2.rest = cursor.rest :=
  List.take_append_drop count cursor.rest

/-- Reading does not change the number of all tokens. -/
theorem size_take (cursor : Cursor) (count : Nat) :
    (cursor.take count).2.size = cursor.size := by
  simp only [take, size, List.length_drop]
  omega

end Cursor

end AtomicCss
