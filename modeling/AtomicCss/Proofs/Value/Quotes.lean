import AtomicCss.Proofs.Lexicon.Filling
import AtomicCss.Proofs.Selector.Owner
import AtomicCss.Proofs.Text.Splitting
import AtomicCss.Proofs.Value.Ceiling

/-!
Contract: the double quotes in the text of values.

Owns:
- the values whose text shows a double quote that is written in none of their tokens and tables;
- when the text of a value has exactly these, passed on from the values in it;
- values that show a double quote only for the sake of the class name.

Does not own: which values tokens are read to.

## What a value shows

Quotes that open are in the text of the value, unless the ceiling is reached.  So are those of the
values in it, but for two ways in which a text gets lost: a blueprint need not have the placeholder
of an argument, and a computed function keeps its arguments to itself.
-/

namespace AtomicCss

/-! ## Pieces -/

namespace Piece

variable {character : Char} (solid : character ≠ ' ')

include solid

theorem mem_foldl_add_iff (pieces : List Piece) (draft : Draft) :
    character ∈ (pieces.foldl Draft.add draft).text ↔
      character ∈ draft.text ∨ ∃ piece ∈ pieces, character ∈ piece.text := by
  induction pieces generalizing draft with
  | nil => simp
  | cons piece others inductionHypothesis =>
      have added : character ∈ (draft.add piece).text ↔
          character ∈ draft.text ∨ character ∈ piece.text := by
        unfold Draft.add
        split <;> simp [solid]
      rw [List.foldl_cons, inductionHypothesis, added, or_assoc]
      simp only [List.mem_cons, exists_eq_or_imp]

/-- The arguments of a call have the characters of their pieces, and spaces. -/
theorem mem_callArguments_iff (pieces : List Piece) :
    character ∈ callArguments pieces ↔ ∃ piece ∈ pieces, character ∈ piece.text := by
  rw [callArguments, mem_foldl_add_iff solid]
  simp

theorem mem_trailing_iff (pieces : List Piece) :
    character ∈ trailing pieces ↔ ∃ piece ∈ pieces, character ∈ piece.text := by
  simp only [trailing, List.mem_flatMap, List.mem_cons, or_iff_right solid]

end Piece

/-! ## Values -/

theorem Lexicon.not_mem_reference {name : Text} (absent : '"' ∉ name) :
    '"' ∉ reference name := by
  show '"' ∉ "var(--".toList ++ name ++ [')']
  simp [absent]

namespace Value

mutual

/-- The text of the value shows a double quote that is not written in its tokens: quotes that
open, or those of a class name. -/
def showsQuotes (ambient : Ambient) : Value → Expansion → Prop
  | .text _, _ | .glue _, _ | .rootValue .., _ | .outOfRange, _ => False
  | .target _, state => '"' ∈ state.origin
  | .quoted .., state => state.depth < state.ceiling
  | .commaList items, state => ∃ position, showsQuotesAt ambient items position state
  | .template _ blueprint arguments, state =>
      state.depth < state.ceiling ∧
        ∃ position, showsQuotesAt ambient arguments position state.deepen ∧
          blueprint.Shows ((evalAll ambient arguments state.deepen).1.map Piece.text) position
  | .call _ _ arguments trailing, state =>
      state.depth < state.ceiling ∧
        ((∃ position, showsQuotesAt ambient arguments position state.deepen) ∨
          ∃ position,
            showsQuotesAt ambient trailing position (evalAll ambient arguments state.deepen).2)
  | .computed _ function arguments trailing, state =>
      let inside := evalAll ambient arguments state.deepen
      state.depth < state.ceiling ∧ function (inside.1.map Piece.text) ambient ≠ none ∧
        ∃ position, showsQuotesAt ambient trailing position inside.2

/-- Of values that are resolved one after the other, the one at a position shows a double
quote. -/
def showsQuotesAt (ambient : Ambient) : List Value → Nat → Expansion → Prop
  | [], _, _ => False
  | value :: _, 0, state => showsQuotes ambient value state
  | value :: others, position + 1, state =>
      showsQuotesAt ambient others position (eval ambient value state).2

end

/-- The value shows a double quote exactly where its text has one. -/
def QuotesShown (ambient : Ambient) (value : Value) : Prop :=
  ∀ state, '"' ∈ (value.eval ambient state).1 ↔ value.showsQuotes ambient state

variable {ambient : Ambient}

/-- By induction on the values. -/
theorem mem_evalAll_iff
    {values : List Value}
    (shown : ∀ value ∈ values, value.QuotesShown ambient)
    (position : Nat)
    (state : Expansion) :
    (∃ piece, (evalAll ambient values state).1[position]? = some piece ∧ '"' ∈ piece.text) ↔
      showsQuotesAt ambient values position state := by
  induction values generalizing position state with
  | nil =>
      refine iff_of_false ?_ id
      rintro ⟨piece, found, -⟩
      cases found
  | cons value others inductionHypothesis =>
      cases position with
      | zero =>
          refine Iff.trans ?_ (shown value List.mem_cons_self state)
          simp [evalAll]
      | succ position =>
          have later : ∀ value ∈ others, value.QuotesShown ambient :=
            fun value member => shown value (List.mem_cons_of_mem _ member)
          exact inductionHypothesis later position (eval ambient value state).2

theorem exists_mem_evalAll_iff
    {values : List Value}
    (shown : ∀ value ∈ values, value.QuotesShown ambient)
    (state : Expansion) :
    (∃ piece ∈ (evalAll ambient values state).1, '"' ∈ piece.text) ↔
      ∃ position, showsQuotesAt ambient values position state := by
  simp only [← mem_evalAll_iff shown, List.mem_iff_getElem?]
  constructor
  · rintro ⟨piece, ⟨position, found⟩, inside⟩
    exact ⟨position, piece, found, inside⟩
  · rintro ⟨position, piece, found, inside⟩
    exact ⟨piece, ⟨position, found⟩, inside⟩

namespace QuotesShown

theorem text {css : Text} (absent : '"' ∉ css) : (Value.text css).QuotesShown ambient :=
  fun _ => iff_of_false absent id

theorem glue {character : Text} (absent : '"' ∉ character) :
    (Value.glue character).QuotesShown ambient :=
  fun _ => iff_of_false absent id

theorem target {instructions : Text} (absent : '"' ∉ instructions) :
    (Value.target instructions).QuotesShown ambient :=
  fun state => Selector.mem_ofTarget_iff (by decide) absent state.origin

theorem quoted {source : Text} (absent : '"' ∉ source) (inner : Value) :
    (Value.quoted source inner).QuotesShown ambient := by
  intro state
  show '"' ∈ (state.nested source _).1 ↔ state.depth < state.ceiling
  rw [Expansion.nested_fst]
  split
  · rename_i room
    exact iff_of_true List.mem_cons_self room
  · rename_i full
    exact iff_of_false absent full

theorem commaList {items : List Value} (shown : ∀ item ∈ items, item.QuotesShown ambient) :
    (Value.commaList items).QuotesShown ambient := by
  intro state
  refine Iff.trans ?_ (exists_mem_evalAll_iff shown state)
  show '"' ∈ List.intercalate ", ".toList ((evalAll ambient items state).1.map Piece.text) ↔ _
  simp only [Text.mem_intercalate_iff (by decide : '"' ∉ ", ".toList), List.mem_map,
    exists_exists_and_eq_and]

theorem rootValue {name : Text} (absent : '"' ∉ name) (stream : List Value) :
    (Value.rootValue name stream).QuotesShown ambient :=
  fun _ => iff_of_false (Lexicon.not_mem_reference absent) id

theorem template
    {source : Text}
    {blueprint : Template}
    {arguments : List Value}
    (absent : '"' ∉ source)
    (bare : '"' ∉ blueprint.blueprint)
    (shown : ∀ argument ∈ arguments, argument.QuotesShown ambient) :
    (Value.template source blueprint arguments).QuotesShown ambient := by
  intro state
  show '"' ∈ (state.nested source _).1 ↔ state.depth < state.ceiling ∧ _
  rw [Expansion.nested_fst]
  split
  · rename_i room
    rw [Template.mem_substitute_iff (by decide) (by decide), or_iff_right bare, and_iff_right room]
    refine exists_congr fun position => ?_
    rw [← mem_evalAll_iff shown]
    simp only [List.getElem?_map, Option.map_eq_some_iff]
    constructor
    · rintro ⟨_, ⟨piece, found, rfl⟩, inside, placed⟩
      exact ⟨⟨piece, found, inside⟩, placed⟩
    · rintro ⟨⟨piece, found, inside⟩, placed⟩
      exact ⟨_, ⟨piece, found, rfl⟩, inside, placed⟩
  · rename_i full
    exact iff_of_false absent fun shows => full shows.1

theorem call
    {source name : Text}
    {arguments trailing : List Value}
    (absent : '"' ∉ source)
    (bare : '"' ∉ name)
    (inside : ∀ argument ∈ arguments, argument.QuotesShown ambient)
    (after : ∀ value ∈ trailing, value.QuotesShown ambient) :
    (Value.call source name arguments trailing).QuotesShown ambient := by
  intro state
  show '"' ∈ (state.nested source _).1 ↔ state.depth < state.ceiling ∧ _
  rw [Expansion.nested_fst]
  split
  · rename_i room
    rw [and_iff_right room, ← exists_mem_evalAll_iff inside, ← exists_mem_evalAll_iff after]
    simp [bare, Piece.mem_callArguments_iff, Piece.mem_trailing_iff]
  · rename_i full
    exact iff_of_false absent fun shows => full shows.1

theorem computed
    {source : Text}
    {function : CustomFunction}
    {arguments trailing : List Value}
    (absent : '"' ∉ source)
    (bare : ∀ given result, function given ambient = some result → '"' ∉ result)
    (after : ∀ value ∈ trailing, value.QuotesShown ambient) :
    (Value.computed source function arguments trailing).QuotesShown ambient := by
  intro state
  show '"' ∈ (state.nested source _).1 ↔ state.depth < state.ceiling ∧ _ ∧ _
  rw [Expansion.nested_fst]
  split
  · rename_i room
    dsimp only
    rw [and_iff_right room, ← exists_mem_evalAll_iff after]
    split
    · rename_i result found
      simp [found, bare _ _ found, Piece.mem_trailing_iff]
    · rename_i none
      exact iff_of_false absent fun shows => shows.1 none
  · rename_i full
    exact iff_of_false absent fun shows => full shows.1

end QuotesShown

/-- The value shows a double quote only for a class name that has one. -/
def Unquoted (ambient : Ambient) (value : Value) : Prop :=
  ∀ state, '"' ∉ state.origin → ¬ value.showsQuotes ambient state

/-- By induction on the values: none of them changes the class name. -/
theorem not_showsQuotesAt
    {values : List Value}
    (unquoted : ∀ value ∈ values, value.Unquoted ambient)
    (position : Nat)
    {state : Expansion}
    (named : '"' ∉ state.origin) :
    ¬ showsQuotesAt ambient values position state := by
  induction values generalizing position state with
  | nil => exact id
  | cons value others inductionHypothesis =>
      cases position with
      | zero => exact unquoted value List.mem_cons_self state named
      | succ position =>
          have origin := ((uniform_eval ambient value).balanced state).origin
          have later : ∀ value ∈ others, value.Unquoted ambient :=
            fun value member => unquoted value (List.mem_cons_of_mem _ member)
          exact inductionHypothesis later position (origin ▸ named)

namespace Unquoted

theorem text (css : Text) : (Value.text css).Unquoted ambient :=
  fun _ _ => id

theorem glue (character : Text) : (Value.glue character).Unquoted ambient :=
  fun _ _ => id

theorem commaList {items : List Value} (unquoted : ∀ item ∈ items, item.Unquoted ambient) :
    (Value.commaList items).Unquoted ambient := by
  rintro state named ⟨position, shows⟩
  exact not_showsQuotesAt unquoted position named shows

theorem template
    (source : Text)
    (blueprint : Template)
    {arguments : List Value}
    (unquoted : ∀ argument ∈ arguments, argument.Unquoted ambient) :
    (Value.template source blueprint arguments).Unquoted ambient := by
  rintro state named ⟨_, position, shows, _⟩
  have deeper : '"' ∉ state.deepen.origin := named
  exact not_showsQuotesAt unquoted position deeper shows

theorem call
    (source name : Text)
    {arguments trailing : List Value}
    (inside : ∀ argument ∈ arguments, argument.Unquoted ambient)
    (after : ∀ value ∈ trailing, value.Unquoted ambient) :
    (Value.call source name arguments trailing).Unquoted ambient := by
  rintro state named ⟨_, ⟨position, shows⟩ | ⟨position, shows⟩⟩
  · have deeper : '"' ∉ state.deepen.origin := named
    exact not_showsQuotesAt inside position deeper shows
  · have origin := ((uniform_evalAll ambient arguments).balanced state.deepen).origin
    exact not_showsQuotesAt after position (origin ▸ named) shows

theorem computed
    (source : Text)
    (function : CustomFunction)
    (arguments : List Value)
    {trailing : List Value}
    (after : ∀ value ∈ trailing, value.Unquoted ambient) :
    (Value.computed source function arguments trailing).Unquoted ambient := by
  rintro state named ⟨_, _, position, shows⟩
  have origin := ((uniform_evalAll ambient arguments).balanced state.deepen).origin
  exact not_showsQuotesAt after position (origin ▸ named) shows

end Unquoted

end Value

end AtomicCss
