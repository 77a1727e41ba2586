import AtomicCss.Proofs.Text.Dashes
import AtomicCss.Selector.Target

/-!
Contract: the class name that a selector was written for.

Owns:
- reading an escaped name back from the front of a text;
- the names in the instructions of a target, which are pieces of its text;
- reading the class name back from a selector, and that it undoes writing;
- which characters of a selector are those of the class name.

Does not own: which instructions a class name has.

## Where the class name is

A selector is text put together without marks between its pieces.  Names of parents and of
the element itself stand in it unescaped before the class name, and pseudo-classes and
relations follow it unescaped.  The names in front have no two dashes in a row, as the part
that they come from has none, and a space or a dot separates them from what comes next.  So
the first two dashes of a selector are those of the scheme of its class name.  From there on
the class name is escaped, and what follows it starts with a character that would have been
escaped in it.
-/

namespace AtomicCss.Selector

/-! ## Escaped names -/

/-- The name whose escaped form is at the front of a text. -/
def unescape : Text → Text
  | [] => []
  | '\\' :: character :: rest => character :: unescape rest
  | character :: rest => if isPlain character then character :: unescape rest else []

/-- A text that does not go on with an escaped name. -/
def EndsName (text : Text) : Prop :=
  ∀ character ∈ text.head?, isPlain character = false ∧ character ≠ '\\'

theorem EndsName.append {first second : Text}
    (firstEnds : EndsName first)
    (secondEnds : EndsName second) :
    EndsName (first ++ second) := by
  cases first with
  | nil => exact secondEnds
  | cons head tail => exact firstEnds

theorem unescape_of_endsName {text : Text} (ends : EndsName text) : unescape text = [] := by
  cases text with
  | nil => rfl
  | cons character rest =>
      obtain ⟨special, other⟩ := ends character rfl
      rw [unescape]
      · simp [special]
      · intro second others same
        exact absurd same other

/-- Reading undoes escaping, whatever follows that does not go on with a name. -/
theorem unescape_escape_append
    (name : Text)
    {rest : Text}
    (ends : EndsName rest) :
    unescape (escape name ++ rest) = name := by
  induction name with
  | nil => exact unescape_of_endsName ends
  | cons character name inductionHypothesis =>
      have split : escape (character :: name) = escape [character] ++ escape name :=
        escape_append [character] name
      rw [split, List.append_assoc]
      cases plain : isPlain character with
      | false =>
          have escaped : escape [character] = ['\\', character] := by simp [escape, plain]
          rw [escaped]
          simp only [List.cons_append, List.nil_append, unescape, inductionHypothesis]
      | true =>
          have kept : escape [character] = [character] := by simp [escape, plain]
          have other : character ≠ '\\' := by
            rintro rfl
            exact absurd plain (by decide)
          rw [kept, List.cons_append, List.nil_append, unescape]
          · rw [if_pos plain, inductionHypothesis]
          · intro second others same
            exact absurd same other

/-! ## Names in instructions -/

namespace Instruction

/-- The name in an instruction.  The instruction for every descendant has none. -/
def name : Instruction → Text
  | .pseudoClass name | .pseudoElement name => name
  | .parent _ name | .compound _ name | .next _ name | .child _ name => name
  | .descendant _ name => name
  | .universal => []

theorem name_of_pseudo? {word given : Text} {pseudo : Text → Instruction}
    (found : pseudo? word = some pseudo) :
    (pseudo given).name = given := by
  unfold pseudo? at found
  split at found
  · cases found; rfl
  · split at found
    · cases found; rfl
    · cases found

theorem name_of_relation? {word given : Text} {kind : NameKind}
    {relation : NameKind → Text → Instruction}
    (found : relation? word = some relation) :
    (relation kind given).name = given := by
  unfold relation? at found
  repeat
    split at found
    · cases found; rfl
  cases found

end Instruction

theorem infix_of_nameOf (words : List Text) :
    nameOf words <:+: Text.join Grammar.dash words := by
  have front : Cursor.nameTokens isReserved words <+: words := by
    cases words with
    | nil => exact List.prefix_rfl
    | cons first rest => exact (List.prefix_cons_inj first).2 (List.takeWhile_prefix _)
  exact (Text.join_prefix Grammar.dash front).isInfix

theorem afterName_suffix (words : List Text) : afterName words <:+ words :=
  List.drop_suffix _ _

/-- A piece of the last words of a text is a piece of the text. -/
theorem infix_join_of_suffix
    {piece : Text}
    {words others : List Text}
    (last : words <:+ others)
    (inside : piece <:+: Text.join Grammar.dash words) :
    piece <:+: Text.join Grammar.dash others :=
  inside.trans (Text.join_suffix Grammar.dash last).isInfix

/-- The names in instructions are pieces of the text that the instructions are read
from. -/
theorem Instruction.name_infix_of_mem_read
    {words : List Text}
    {instruction : Instruction}
    (member : instruction ∈ Instruction.read words) :
    instruction.name <:+: Text.join Grammar.dash words := by
  fun_induction Instruction.read words with
  | case1 | case2 | case7 | case9 => simp at member
  | case3 word pseudo found name others inductionHypothesis =>
      rcases List.mem_cons.1 member with rfl | later
      · rw [Instruction.name_of_pseudo? found]
        refine infix_join_of_suffix (List.suffix_cons word _) ?_
        have front := Text.join_prefix Grammar.dash (List.prefix_append [name] others)
        simpa [Text.join] using front.isInfix
      · exact infix_join_of_suffix (List.suffix_append [word, name] others)
          (inductionHypothesis later)
  | case4 word relation found kindWord first more others kind _ _ inductionHypothesis =>
      rcases List.mem_cons.1 member with rfl | later
      · rw [Instruction.name_of_relation? found]
        exact infix_join_of_suffix (List.suffix_append [word, kindWord] _) (infix_of_nameOf _)
      · exact infix_join_of_suffix
          ((afterName_suffix _).trans (List.suffix_append [word, kindWord] _))
          (inductionHypothesis later)
  | case5 word relation found kindWord first more others _ _ inductionHypothesis =>
      exact infix_join_of_suffix
        ((afterName_suffix _).trans (List.suffix_append [word, kindWord] _))
        (inductionHypothesis member)
  | case6 word relation found kindWord _ inductionHypothesis =>
      exact infix_join_of_suffix (List.suffix_cons word _) (inductionHypothesis member)
  | case8 others _ _ inductionHypothesis =>
      rcases List.mem_cons.1 member with rfl | later
      · exact List.nil_infix
      · exact infix_join_of_suffix (List.suffix_cons _ others) (inductionHypothesis later)
  | case10 word _ kind _ first more _ _ inductionHypothesis =>
      rcases List.mem_cons.1 member with rfl | later
      · exact infix_join_of_suffix (List.suffix_cons word _) (infix_of_nameOf _)
      · exact infix_join_of_suffix
          ((afterName_suffix _).trans (List.suffix_cons word _)) (inductionHypothesis later)
  | case11 word others _ _ _ _ inductionHypothesis =>
      exact infix_join_of_suffix (List.suffix_cons word others) (inductionHypothesis member)

theorem name_infix_of_mem_instructions
    {written : Text}
    {instruction : Instruction}
    (member : instruction ∈ instructions written) :
    instruction.name <:+: written := by
  have inside := Instruction.name_infix_of_mem_read member
  rwa [Cursor.join_tokens] at inside

/-- The names in the instructions of a text without two dashes in a row have none
either. -/
theorem dashesApart_of_mem_instructions
    {written : Text}
    {instruction : Instruction}
    (apart : Text.DashesApart written)
    (member : instruction ∈ instructions written) :
    Text.DashesApart instruction.name :=
  apart.of_infix (name_infix_of_mem_instructions member)

/-! ## Selectors -/

theorem NameKind.dashesApart_write
    (kind : NameKind)
    {name : Text}
    (apart : Text.DashesApart name) :
    Text.DashesApart (kind.write name) := by
  cases kind with
  | element => exact apart
  | cssClass | identifier => exact Text.DashesApart.cons_iff.2 ⟨apart, by simp⟩

/-- A selector under construction holds the selector of its class between a front
without two dashes in a row and an end that does not go on with a name. -/
structure Draft.Encloses (own : Text) (draft : Draft) : Prop where
  ancestor :
    draft.ancestor = [] ∨ ∃ name, Text.DashesApart name ∧ draft.ancestor = name ++ [' ']
  body :
    ∃ lead tail, draft.body = lead ++ own ++ tail ∧ Text.DashesApart lead ∧ EndsName tail

namespace Draft.Encloses

variable {own : Text} {draft : Draft}

theorem start (own : Text) : Encloses own ⟨[], own⟩ where
  ancestor := .inl rfl
  body := ⟨[], [], by simp, Text.DashesApart.nil, by simp [EndsName]⟩

theorem extend (encloses : Encloses own draft) {extra : Text} (ends : EndsName extra) :
    Encloses own { draft with body := draft.body ++ extra } where
  ancestor := encloses.ancestor
  body := by
    obtain ⟨lead, tail, written, apart, tailEnds⟩ := encloses.body
    refine ⟨lead, tail ++ extra, ?_, apart, tailEnds.append ends⟩
    simp [written]

/-- An instruction whose name has no two dashes in a row keeps the class enclosed. -/
theorem apply
    (encloses : Encloses own draft)
    {instruction : Instruction}
    (apart : Text.DashesApart instruction.name) :
    Encloses own (draft.apply own instruction) := by
  cases instruction with
  | pseudoClass name | pseudoElement name | descendant kind name | universal =>
      exact encloses.extend (by simp [EndsName, isPlain])
  | next kind name | child kind name =>
      simp only [Draft.apply, List.append_assoc]
      exact encloses.extend (by simp [EndsName, isPlain])
  | parent kind name =>
      exact ⟨.inr ⟨_, kind.dashesApart_write apart, rfl⟩, encloses.body⟩
  | compound kind name =>
      refine ⟨encloses.ancestor, kind.write name, [], ?_, kind.dashesApart_write apart, ?_⟩
      · simp [Draft.apply]
      · simp [EndsName]

theorem foldl
    (encloses : Encloses own draft)
    {given : List Instruction}
    (apart : ∀ instruction ∈ given, Text.DashesApart instruction.name) :
    Encloses own (given.foldl (Draft.apply own) draft) := by
  induction given generalizing draft with
  | nil => exact encloses
  | cons instruction others inductionHypothesis =>
      exact inductionHypothesis (encloses.apply (apart instruction (by simp)))
        fun other member => apart other (by simp [member])

/-- A finished selector in three pieces. -/
theorem split (encloses : Encloses own draft) :
    ∃ front tail, draft.ancestor ++ draft.body = front ++ own ++ tail ∧
      Text.DashesApart front ∧ EndsName tail := by
  obtain ⟨lead, tail, written, apart, ends⟩ := encloses.body
  rcases encloses.ancestor with none | ⟨name, nameApart, given⟩
  · exact ⟨lead, tail, by simp [none, written], apart, ends⟩
  · refine ⟨name ++ ' ' :: lead, tail, ?_, nameApart.append_cons (by decide) apart, ends⟩
    simp [given, written]

end Draft.Encloses

/-- The class name that a selector was written for.  The first two dashes in a row are
those of the scheme. -/
def owner (selector : Text) : Text :=
  Grammar.scheme ++ unescape (Text.afterDashes selector)

theorem owner_append
    {front tail : Text}
    (body : Text)
    (apart : Text.DashesApart front)
    (ends : EndsName tail) :
    owner (front ++ ofClass (Grammar.scheme ++ body) ++ tail) = Grammar.scheme ++ body := by
  have scheme : escape Grammar.scheme = "cssf".toList ++ ['-', '-'] := by decide
  have dashed : Text.DashesApart (front ++ '.' :: "cssf".toList ++ ['-']) := by
    have opened : Text.DashesApart "cssf-".toList := by decide
    simpa using apart.append_cons (by decide : '.' ≠ '-') opened
  have pieces :
      front ++ ofClass (Grammar.scheme ++ body) ++ tail =
        front ++ '.' :: "cssf".toList ++ '-' :: '-' :: (escape body ++ tail) := by
    simp [ofClass, escape_append, scheme]
  rw [owner, pieces, Text.afterDashes_append _ dashed, unescape_escape_append body ends]

/-- The class name can be read back from its selector under any target without two
dashes in a row. -/
theorem owner_ofTarget
    {written : Text}
    (body : Text)
    (apart : Text.DashesApart written) :
    owner (ofTarget written (Grammar.scheme ++ body)) = Grammar.scheme ++ body := by
  have start := Draft.Encloses.start (ofClass (Grammar.scheme ++ body))
  have encloses := start.foldl fun _ member => dashesApart_of_mem_instructions apart member
  obtain ⟨front, tail, pieces, frontApart, ends⟩ := encloses.split
  rw [ofTarget, ofInstructions, pieces]
  exact owner_append body frontApart ends

theorem owner_ofClass (body : Text) :
    owner (ofClass (Grammar.scheme ++ body)) = Grammar.scheme ++ body := by
  simpa using owner_append body Text.DashesApart.nil (by simp [EndsName] : EndsName [])

/-! ## Characters -/

theorem mem_escape_iff {character : Char} (plain : character ≠ '\\') (name : Text) :
    character ∈ escape name ↔ character ∈ name := by
  have each (other : Char) :
      character ∈ (if isPlain other then [other] else ['\\', other]) ↔ character = other := by
    split <;> simp [plain]
  simp only [escape, List.mem_flatMap, each, exists_eq_right']

/-- The characters that instructions put around names. -/
def signs : Text :=
  ['.', ' ', '#', ':', '+', '>', '*', '\\']

section Characters

variable {character : Char} (other : character ∉ signs)

include other

theorem mem_ofClass_iff (name : Text) : character ∈ ofClass name ↔ character ∈ name := by
  have dot : character ≠ '.' := by
    rintro rfl
    exact other (by decide)
  have backslash : character ≠ '\\' := by
    rintro rfl
    exact other (by decide)
  rw [ofClass, List.mem_cons, or_iff_right dot, mem_escape_iff backslash]

theorem NameKind.mem_write_iff (kind : NameKind) (name : Text) :
    character ∈ kind.write name ↔ character ∈ name := by
  simp only [signs, List.mem_cons, not_or] at other
  cases kind <;> simp [NameKind.write, other]

/-- An instruction without the character in its name leaves it to the class alone. -/
theorem Draft.mem_apply_iff
    {own : Text}
    {draft : Draft}
    {instruction : Instruction}
    (absent : character ∉ instruction.name)
    (ancestor : character ∉ draft.ancestor)
    (body : character ∈ draft.body ↔ character ∈ own) :
    character ∉ (draft.apply own instruction).ancestor ∧
      (character ∈ (draft.apply own instruction).body ↔ character ∈ own) := by
  have written (kind : NameKind) (name : Text) := kind.mem_write_iff other name
  simp only [signs, List.mem_cons, not_or] at other
  cases instruction <;>
    simp_all [Draft.apply, Instruction.name]

/-- Instruction by instruction: what the character is in stays the selector of the class. -/
theorem Draft.mem_foldl_iff
    {own : Text}
    {given : List Instruction}
    (absent : ∀ instruction ∈ given, character ∉ instruction.name)
    {draft : Draft}
    (ancestor : character ∉ draft.ancestor)
    (body : character ∈ draft.body ↔ character ∈ own) :
    character ∈ (given.foldl (Draft.apply own) draft).ancestor ++
        (given.foldl (Draft.apply own) draft).body ↔
      character ∈ own := by
  induction given generalizing draft with
  | nil => simpa [ancestor] using body
  | cons instruction others inductionHypothesis =>
      obtain ⟨front, rest⟩ :=
        Draft.mem_apply_iff other (absent instruction List.mem_cons_self) ancestor body
      have later : ∀ instruction ∈ others, character ∉ instruction.name :=
        fun _ member => absent _ (List.mem_cons_of_mem _ member)
      exact inductionHypothesis later front rest

/-- A character that is not in the instructions comes from the class name. -/
theorem mem_ofTarget_iff
    {written : Text}
    (absent : character ∉ written)
    (className : Text) :
    character ∈ ofTarget written className ↔ character ∈ className := by
  have names : ∀ instruction ∈ instructions written, character ∉ instruction.name :=
    fun _ member inside => absent ((name_infix_of_mem_instructions member).subset inside)
  let own := ofClass className
  have ancestor : character ∉ (Draft.mk [] own).ancestor := List.not_mem_nil
  have body : character ∈ (Draft.mk [] own).body ↔ character ∈ own := Iff.rfl
  exact (Draft.mem_foldl_iff other names ancestor body).trans (mem_ofClass_iff other className)

end Characters

end AtomicCss.Selector
