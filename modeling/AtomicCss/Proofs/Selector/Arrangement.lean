import AtomicCss.Proofs.Text.Splitting
import AtomicCss.Selector.Target
import Mathlib.Data.List.DropRight

/-!
Contract: what becomes of the instructions on the selector of a class.

Owns:
- the words that an instruction is written with, and that a list of whole instructions is read
  back from them;
- what each instruction adds to a selector, and at which place;
- the selector that holds what all instructions add, and when a class gets it.

Does not own: the escaping of class names, and reading them back from selectors.

## Why a further name of the element comes first

An ancestor is kept apart until the selector is finished, so it can be given at any place.  A
further name of the element is not: it stands right before the selector of the class, and what
was written behind that selector so far makes way for it.
-/

namespace AtomicCss.Selector

/-! ## Words -/

/-- The word that announces a kind of name. -/
def NameKind.word : NameKind → Text
  | .cssClass => "class".toList
  | .element => "tag".toList
  | .identifier => "id".toList

namespace Instruction

/-- The words that an instruction is written with. -/
def words : Instruction → List Text
  | .pseudoClass name => ["pc".toList, name]
  | .pseudoElement name => ["pe".toList, name]
  | .parent kind name => "parent".toList :: kind.word :: Text.split Grammar.dash name
  | .compound kind name => "self".toList :: kind.word :: Text.split Grammar.dash name
  | .next kind name => "next".toList :: kind.word :: Text.split Grammar.dash name
  | .child kind name => "child".toList :: kind.word :: Text.split Grammar.dash name
  | .descendant kind name => kind.word :: Text.split Grammar.dash name
  | .universal => ["all".toList]

/-- No word of a name but the first one ends it. -/
def Unbroken (name : Text) : Prop :=
  ∀ word ∈ (Text.split Grammar.dash name).tail, isReserved word = false

/-- The instruction can be read from its words: the name of a pseudo-class or pseudo-element is
one word, and no word of any other name ends it. -/
def Complete : Instruction → Prop
  | .pseudoClass name | .pseudoElement name => Grammar.dash ∉ name
  | .parent _ name | .compound _ name | .next _ name | .child _ name | .descendant _ name =>
      Unbroken name
  | .universal => True

instance (name : Text) : Decidable (Unbroken name) :=
  inferInstanceAs (Decidable (∀ word ∈ _, _))

instance : DecidablePred Complete
  | .pseudoClass _ | .pseudoElement _ => inferInstanceAs (Decidable (_ ∉ _))
  | .parent _ name | .compound _ name | .next _ name | .child _ name | .descendant _ name =>
      inferInstanceAs (Decidable (Unbroken name))
  | .universal => inferInstanceAs (Decidable True)

end Instruction

/-- The text of instructions one after the other. -/
def written (given : List Instruction) : Text :=
  Text.join Grammar.dash (given.flatMap Instruction.words)

/-! ## Reading back -/

/-- The words are at an end or go on with a word that ends a name. -/
def AtInstruction (words : List Text) : Prop :=
  ∀ word ∈ words.head?, isReserved word = true

section Name

variable {name : Text} (unbroken : Instruction.Unbroken name) {rest : List Text}
  (ends : AtInstruction rest)

include unbroken ends

/-- The words of a name are those that are taken for it. -/
theorem nameTokens_split_append :
    Cursor.nameTokens isReserved (Text.split Grammar.dash name ++ rest) =
      Text.split Grammar.dash name := by
  obtain ⟨first, others, pieces⟩ :=
    List.exists_cons_of_ne_nil (Text.split_ne_nil Grammar.dash name)
  rw [Instruction.Unbroken, pieces, List.tail_cons] at unbroken
  have stops : rest.takeWhile (fun word => !isReserved word) = [] := by
    cases rest with
    | nil => rfl
    | cons word later => simp [ends word rfl]
  have inside : ∀ word ∈ others, (!isReserved word) = true := by
    intro word member
    rw [unbroken word member]
    rfl
  rw [pieces, List.cons_append, Cursor.nameTokens, List.takeWhile_append_of_pos inside, stops,
    List.append_nil]

theorem nameOf_split_append : nameOf (Text.split Grammar.dash name ++ rest) = name := by
  rw [nameOf, nameTokens_split_append unbroken ends, Text.join_split]

theorem afterName_split_append : afterName (Text.split Grammar.dash name ++ rest) = rest := by
  rw [afterName, nameTokens_split_append unbroken ends, List.drop_left]

end Name

theorem NameKind.ofWord?_word (kind : NameKind) : NameKind.ofWord? kind.word = some kind := by
  cases kind <;> decide

theorem NameKind.isReserved_word (kind : NameKind) : isReserved kind.word = true := by
  cases kind <;> decide

namespace Instruction

/-- The first word of an instruction is a reserved one. -/
theorem atInstruction_words_append (instruction : Instruction) (rest : List Text) :
    AtInstruction (instruction.words ++ rest) := by
  intro word first
  cases instruction with
  | descendant kind name =>
      obtain rfl : kind.word = word := Option.some.inj first
      exact kind.isReserved_word
  | pseudoClass | pseudoElement | parent | compound | next | child | universal =>
      obtain rfl := Option.some.inj first
      decide

theorem read_pseudo
    {word : Text}
    {pseudo : Text → Instruction}
    (found : pseudo? word = some pseudo)
    (name : Text)
    (others : List Text) :
    read (word :: name :: others) = pseudo name :: read others := by
  rw [read]
  simp [found]

theorem read_relation
    {word name : Text}
    {relation : NameKind → Text → Instruction}
    (other : pseudo? word = none)
    (found : relation? word = some relation)
    (kind : NameKind)
    (unbroken : Unbroken name)
    {rest : List Text}
    (ends : AtInstruction rest) :
    read (word :: kind.word :: (Text.split Grammar.dash name ++ rest)) =
      relation kind name :: read rest := by
  have words := nameOf_split_append unbroken ends
  have left := afterName_split_append unbroken ends
  obtain ⟨first, others, pieces⟩ :=
    List.exists_cons_of_ne_nil (Text.split_ne_nil Grammar.dash name)
  rw [pieces, List.cons_append] at words left ⊢
  rw [read]
  simp [other, found, NameKind.ofWord?_word, words, left]

theorem read_descendant
    {name : Text}
    (kind : NameKind)
    (unbroken : Unbroken name)
    {rest : List Text}
    (ends : AtInstruction rest) :
    read (kind.word :: (Text.split Grammar.dash name ++ rest)) =
      .descendant kind name :: read rest := by
  have words := nameOf_split_append unbroken ends
  have left := afterName_split_append unbroken ends
  have other : pseudo? kind.word = none := by cases kind <;> decide
  have plain : relation? kind.word = none := by cases kind <;> decide
  have single : kind.word ≠ "all".toList := by cases kind <;> decide
  obtain ⟨first, others, pieces⟩ :=
    List.exists_cons_of_ne_nil (Text.split_ne_nil Grammar.dash name)
  rw [pieces, List.cons_append] at words left ⊢
  rw [read]
  simp only [other, plain, if_neg single, NameKind.ofWord?_word, words, left]

/-- An instruction is read back from its words, whatever instruction follows. -/
theorem read_words_append
    {instruction : Instruction}
    (complete : instruction.Complete)
    {rest : List Text}
    (ends : AtInstruction rest) :
    read (instruction.words ++ rest) = instruction :: read rest := by
  cases instruction with
  | pseudoClass name | pseudoElement name => exact read_pseudo (by rfl) name rest
  | parent kind name | compound kind name | next kind name | child kind name =>
      exact read_relation (by rfl) (by rfl) kind complete ends
  | descendant kind name => exact read_descendant kind complete ends
  | universal =>
      show read ("all".toList :: rest) = _
      rw [read]
      simp [pseudo?, relation?]

theorem not_mem_of_mem_words
    {instruction : Instruction}
    (complete : instruction.Complete)
    {word : Text}
    (member : word ∈ instruction.words) :
    Grammar.dash ∉ word := by
  have kinds (kind : NameKind) : Grammar.dash ∉ kind.word := by cases kind <;> decide
  cases instruction with
  | pseudoClass name | pseudoElement name =>
      rcases List.mem_pair.1 member with rfl | rfl
      · decide
      · exact complete
  | parent kind name | compound kind name | next kind name | child kind name =>
      rcases List.mem_cons.1 member with rfl | later
      · decide
      · rcases List.mem_cons.1 later with rfl | inside
        · exact kinds kind
        · exact Text.not_mem_of_mem_split inside
  | descendant kind name =>
      rcases List.mem_cons.1 member with rfl | inside
      · exact kinds kind
      · exact Text.not_mem_of_mem_split inside
  | universal =>
      obtain rfl := List.mem_singleton.1 member
      decide

theorem atInstruction_flatMap_words (given : List Instruction) :
    AtInstruction (given.flatMap words) := by
  cases given with
  | nil => exact fun word first => nomatch first
  | cons instruction others =>
      rw [List.flatMap_cons]
      exact instruction.atInstruction_words_append _

/-- Whole instructions are read back from their words. -/
theorem read_flatMap_words
    {given : List Instruction}
    (complete : ∀ instruction ∈ given, instruction.Complete) :
    read (given.flatMap words) = given := by
  induction given with
  | nil => rw [List.flatMap_nil, read]
  | cons instruction others inductionHypothesis =>
      rw [List.forall_mem_cons] at complete
      rw [List.flatMap_cons, read_words_append complete.1 (atInstruction_flatMap_words others),
        inductionHypothesis complete.2]

end Instruction

/-- Whole instructions are read back from the text that they are written to. -/
theorem instructions_written
    {given : List Instruction}
    (complete : ∀ instruction ∈ given, instruction.Complete) :
    instructions (written given) = given := by
  have begun : given.flatMap Instruction.words ≠ [[]] := by
    intro same
    have first := Instruction.atInstruction_flatMap_words given
    rw [same] at first
    exact absurd (first [] rfl) (by decide)
  have single : ∀ word ∈ given.flatMap Instruction.words, Grammar.dash ∉ word := by
    intro word member
    obtain ⟨instruction, given, inside⟩ := List.mem_flatMap.1 member
    exact Instruction.not_mem_of_mem_words (complete instruction given) inside
  rw [instructions, written, Cursor.tokens_join begun single,
    Instruction.read_flatMap_words complete]

/-! ## Places -/

namespace Instruction

/-- The instruction gives an ancestor. -/
def isParent : Instruction → Bool
  | .parent .. => true
  | _ => false

/-- The instruction gives a further name of the element itself. -/
def isCompound : Instruction → Bool
  | .compound .. => true
  | _ => false

/-- What the instruction puts before everything else. -/
def ancestor : Instruction → Text
  | .parent kind name => kind.write name ++ [' ']
  | _ => []

/-- What the instruction puts right before the selector of the class. -/
def front : Instruction → Text
  | .compound kind name => kind.write name
  | _ => []

/-- What the instruction puts behind the selector of the class. -/
def fragment : Instruction → Text
  | .pseudoClass name => ':' :: name
  | .pseudoElement name => ':' :: ':' :: name
  | .next kind name => " + ".toList ++ kind.write name
  | .child kind name => " > ".toList ++ kind.write name
  | .descendant kind name => ' ' :: kind.write name
  | .universal => " *".toList
  | .parent .. | .compound .. => []

theorem ancestor_eq_nil {instruction : Instruction} (other : instruction.isParent = false) :
    instruction.ancestor = [] := by
  cases instruction with
  | parent => cases other
  | _ => rfl

theorem front_eq_nil {instruction : Instruction} (other : instruction.isCompound = false) :
    instruction.front = [] := by
  cases instruction with
  | compound => cases other
  | _ => rfl

theorem fragment_eq_nil {instruction : Instruction} (compound : instruction.isCompound = true) :
    instruction.fragment = [] := by
  cases instruction with
  | compound => rfl
  | _ => cases compound

end Instruction

/-- The selector of a class with all that its instructions add to it. -/
def arranged (given : List Instruction) (className : Text) : Text :=
  given.flatMap Instruction.ancestor ++ given.flatMap Instruction.front ++ ofClass className ++
    given.flatMap Instruction.fragment

/-- The instructions after the last one that gives a further name of the element itself. -/
def afterCompound (given : List Instruction) : List Instruction :=
  given.rtakeWhile fun instruction => !instruction.isCompound

/-- An ancestor takes the place of an earlier one.  A further name of the element itself takes
the place of the whole body, to whose end all others add. -/
theorem Draft.apply_eq (own : Text) (draft : Draft) (instruction : Instruction) :
    draft.apply own instruction =
      ⟨if instruction.isParent then instruction.ancestor else draft.ancestor,
        if instruction.isCompound then instruction.front ++ own
        else draft.body ++ instruction.fragment⟩ := by
  cases instruction <;>
    simp [Draft.apply, Instruction.isParent, Instruction.isCompound, Instruction.ancestor,
      Instruction.front, Instruction.fragment]

/-- Of what at most one instruction adds, the last one adds all or nothing. -/
theorem flatMap_concat_of_countP
    {applies : Instruction → Bool}
    {adds : Instruction → Text}
    (nothing : ∀ instruction, applies instruction = false → adds instruction = [])
    {earlier : List Instruction}
    {last : Instruction}
    (single : (earlier ++ [last]).countP applies ≤ 1) :
    (earlier ++ [last]).flatMap adds =
      if applies last then adds last else earlier.flatMap adds := by
  rw [List.flatMap_append, List.flatMap_singleton]
  cases applied : applies last with
  | true =>
      rw [List.countP_append, List.countP_singleton, if_pos applied] at single
      have none := List.countP_eq_zero.1 (Nat.le_zero.1 (Nat.le_of_add_le_add_right single))
      have blank : earlier.flatMap adds = [] :=
        List.flatMap_eq_nil_iff.2 fun instruction member =>
          nothing instruction (Bool.not_eq_true _ ▸ none instruction member)
      rw [blank]
      rfl
  | false =>
      rw [nothing last applied, List.append_nil]
      rfl

/-- By induction on the last instruction: with at most one ancestor and at most one further name
of the element itself, what was written behind the selector is kept from that name on. -/
theorem foldl_apply
    (own : Text)
    {given : List Instruction}
    (parents : given.countP Instruction.isParent ≤ 1)
    (compounds : given.countP Instruction.isCompound ≤ 1) :
    given.foldl (Draft.apply own) ⟨[], own⟩ =
      ⟨given.flatMap Instruction.ancestor,
        given.flatMap Instruction.front ++ own ++
          (afterCompound given).flatMap Instruction.fragment⟩ := by
  induction given using List.reverseRecOn with
  | nil => simp [afterCompound]
  | append_singleton earlier last inductionHypothesis =>
      have shorter {applies : Instruction → Bool}
          (single : (earlier ++ [last]).countP applies ≤ 1) : earlier.countP applies ≤ 1 :=
        ((List.sublist_append_left earlier [last]).countP_le).trans single
      rw [List.foldl_append, inductionHypothesis (shorter parents) (shorter compounds),
        List.foldl_cons, List.foldl_nil, Draft.apply_eq,
        flatMap_concat_of_countP (fun _ => Instruction.ancestor_eq_nil) parents,
        flatMap_concat_of_countP (fun _ => Instruction.front_eq_nil) compounds]
      congr 1
      unfold afterCompound
      cases compound : last.isCompound with
      | true =>
          rw [List.rtakeWhile_concat_neg]
          · simp
          · simp [compound]
      | false =>
          rw [List.rtakeWhile_concat_pos]
          · simp
          · simp [compound]

/-- The selector of a class under whole instructions with at most one ancestor and at most one
further name of the element itself. -/
theorem ofTarget_written
    {given : List Instruction}
    (complete : ∀ instruction ∈ given, instruction.Complete)
    (parents : given.countP Instruction.isParent ≤ 1)
    (compounds : given.countP Instruction.isCompound ≤ 1)
    (className : Text) :
    ofTarget (written given) className =
      given.flatMap Instruction.ancestor ++ given.flatMap Instruction.front ++
        ofClass className ++ (afterCompound given).flatMap Instruction.fragment := by
  rw [ofTarget, instructions_written complete, ofInstructions]
  simp only [foldl_apply (ofClass className) parents compounds, List.append_assoc]

/-- The instructions after the last one with a further name of the element itself write as much
as all do exactly when the others in front of it write nothing. -/
theorem flatMap_afterCompound_iff (given : List Instruction) :
    (afterCompound given).flatMap Instruction.fragment = given.flatMap Instruction.fragment ↔
      given.Pairwise fun earlier later =>
        later.isCompound = true → earlier.fragment = [] := by
  let front := given.rdropWhile fun instruction => !instruction.isCompound
  have whole : given = front ++ afterCompound given :=
    List.rdropWhile_append_rtakeWhile.symm
  have plain : ∀ instruction ∈ afterCompound given, instruction.isCompound = false := by
    intro instruction member
    simpa using List.mem_rtakeWhile_imp member
  have nothing : (afterCompound given).flatMap Instruction.fragment =
        given.flatMap Instruction.fragment ↔
      ∀ instruction ∈ front, instruction.fragment = [] := by
    conv_lhs => rhs; rw [whole]
    rw [List.flatMap_append, List.self_eq_append_left, List.flatMap_eq_nil_iff]
  rw [nothing]
  constructor
  · intro blank
    rw [whole, List.pairwise_append]
    refine ⟨?_, ?_, fun earlier member _ _ _ => blank earlier member⟩
    · exact List.pairwise_of_forall_mem_list fun earlier member _ _ _ => blank earlier member
    · refine List.pairwise_of_forall_mem_list fun _ _ later member compound => ?_
      rw [plain later member] at compound
      cases compound
  · intro apart instruction member
    -- What comes before the last further name ends with it.
    have nonempty : front ≠ [] := List.ne_nil_of_mem member
    have compound : (front.getLast nonempty).isCompound = true := by
      simpa using List.rdropWhile_last_not _ given nonempty
    rw [← List.dropLast_append_getLast nonempty, List.mem_append, List.mem_singleton] at member
    rcases member with earlier | rfl
    · rw [whole, ← List.dropLast_append_getLast nonempty] at apart
      have pairs := (List.pairwise_append.1 (List.pairwise_append.1 apart).1).2.2
      exact pairs instruction earlier _ (List.mem_singleton_self _) compound
    · exact Instruction.fragment_eq_nil compound

/-- Instructions that are written whole are read back.  With at most one ancestor and at most one
further name of the element itself, the selector starts with them and goes on with the selector of
the class and with what the instructions after that name put behind it.  It holds what all
instructions add exactly when none before that name puts anything behind. -/
theorem ofTarget_eq_arranged_iff
    {given : List Instruction}
    (complete : ∀ instruction ∈ given, instruction.Complete)
    (parents : given.countP Instruction.isParent ≤ 1)
    (compounds : given.countP Instruction.isCompound ≤ 1)
    (className : Text) :
    instructions (written given) = given ∧
    ofTarget (written given) className =
      given.flatMap Instruction.ancestor ++ given.flatMap Instruction.front ++
        ofClass className ++ (afterCompound given).flatMap Instruction.fragment ∧
    (ofTarget (written given) className = arranged given className ↔
      given.Pairwise fun earlier later =>
        later.isCompound = true → earlier.fragment = []) := by
  have selector := ofTarget_written complete parents compounds className
  refine ⟨instructions_written complete, selector, ?_⟩
  rw [selector, arranged, List.append_cancel_left_eq, flatMap_afterCompound_iff]

/-- An ancestor in front of a further name, and a pseudo-class after both. -/
theorem ofTarget_eq_arranged_nav :
    let given : List Instruction :=
      [.parent .cssClass "main-nav".toList, .compound .element "a".toList,
        .pseudoClass "hover".toList]
    (∀ instruction ∈ given, instruction.Complete) ∧
      given.countP Instruction.isParent ≤ 1 ∧ given.countP Instruction.isCompound ≤ 1 ∧
      written given = "parent-class-main-nav-self-tag-a-pc-hover".toList ∧
      ofTarget (written given) "cssf--c_red".toList = ".main-nav a.cssf--c_red:hover".toList := by
  intro given
  have complete : ∀ instruction ∈ given, instruction.Complete := by decide
  have parents : given.countP Instruction.isParent ≤ 1 := by decide
  have compounds : given.countP Instruction.isCompound ≤ 1 := by decide
  have apart : given.Pairwise fun earlier later =>
      later.isCompound = true → earlier.fragment = [] := by decide
  obtain ⟨_, _, whole⟩ :=
    ofTarget_eq_arranged_iff complete parents compounds "cssf--c_red".toList
  exact ⟨complete, parents, compounds, by decide, (whole.2 apart).trans (by decide)⟩

/-- A pseudo-class in front of a further name is lost. -/
theorem ofTarget_ne_arranged :
    let given : List Instruction :=
      [.pseudoClass "hover".toList, .compound .cssClass "active".toList]
    (∀ instruction ∈ given, instruction.Complete) ∧
      given.countP Instruction.isParent ≤ 1 ∧ given.countP Instruction.isCompound ≤ 1 ∧
      written given = "pc-hover-self-class-active".toList ∧
      ofTarget (written given) "cssf--c_red".toList = ".active.cssf--c_red".toList ∧
      arranged given "cssf--c_red".toList = ".active.cssf--c_red:hover".toList := by
  intro given
  have complete : ∀ instruction ∈ given, instruction.Complete := by decide
  have parents : given.countP Instruction.isParent ≤ 1 := by decide
  have compounds : given.countP Instruction.isCompound ≤ 1 := by decide
  have selector := ofTarget_written complete parents compounds "cssf--c_red".toList
  exact ⟨complete, parents, compounds, by decide, selector.trans (by decide), by decide⟩

end AtomicCss.Selector
