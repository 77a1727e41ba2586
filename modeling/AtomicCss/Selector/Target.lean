import AtomicCss.Cursor
import AtomicCss.Grammar
import AtomicCss.Selector.Escaping

/-!
Contract: the selector that the target instructions of a class ask for.

Owns:
- the instructions, and reading them from dash-separated words;
- the fragment of a selector that each one writes;
- the selector of a class under a list of instructions.

Does not own: when a class has a target.
-/

namespace AtomicCss.Selector

/-! ## Instructions -/

/-- What a name in an instruction names. -/
inductive NameKind where
  | cssClass
  | element
  | identifier
deriving DecidableEq, Repr

/-- One instruction on the selector of a class. -/
inductive Instruction where
  | pseudoClass (name : Text)
  | pseudoElement (name : Text)
  /-- An ancestor written before everything else. -/
  | parent (kind : NameKind) (name : Text)
  /-- A further name of the element itself. -/
  | compound (kind : NameKind) (name : Text)
  | next (kind : NameKind) (name : Text)
  | child (kind : NameKind) (name : Text)
  | descendant (kind : NameKind) (name : Text)
  /-- Every descendant. -/
  | universal
deriving DecidableEq, Repr

/-- The words that start an instruction, or a name inside one. -/
def reservedWords : List Text :=
  ["pc", "pe", "parent", "self", "next", "child", "all", "tag", "class", "id"].map
    String.toList

/-- A word that ends a name. -/
def isReserved (word : Text) : Bool :=
  reservedWords.contains word

/-- The kind of name that a word announces. -/
def NameKind.ofWord? (word : Text) : Option NameKind :=
  if word = "class".toList then some .cssClass
  else if word = "tag".toList then some .element
  else if word = "id".toList then some .identifier
  else none

/-- The instruction that relates a named element to that of the class. -/
def Instruction.relation? (word : Text) : Option (NameKind → Text → Instruction) :=
  if word = "parent".toList then some .parent
  else if word = "self".toList then some .compound
  else if word = "next".toList then some .next
  else if word = "child".toList then some .child
  else none

/-- The instruction that names a pseudo-class or pseudo-element. -/
def Instruction.pseudo? (word : Text) : Option (Text → Instruction) :=
  if word = "pc".toList then some .pseudoClass
  else if word = "pe".toList then some .pseudoElement
  else none

/-! ## Reading -/

/-- The name at the front of a list of words: one word, and all that follow it
up to a reserved word. -/
def nameOf (words : List Text) : Text :=
  Text.join Grammar.dash (Cursor.nameTokens isReserved words)

/-- The words after the name at the front of a list. -/
def afterName (words : List Text) : List Text :=
  words.drop (Cursor.nameTokens isReserved words).length

theorem length_afterName_le (words : List Text) :
    (afterName words).length ≤ words.length := by
  simp [afterName]

/-- Read instructions.  Unknown words are skipped; so is an instruction whose
name or kind of name is missing, with the words it has read. -/
def Instruction.read : List Text → List Instruction
  | [] => []
  | word :: rest =>
      if let some pseudo := Instruction.pseudo? word then
        match rest with
        | [] => []
        | name :: others => pseudo name :: Instruction.read others
      else if let some relation := Instruction.relation? word then
        match rest with
        | kind :: first :: more =>
            let others := Instruction.read (afterName (first :: more))
            match NameKind.ofWord? kind with
            | some kind => relation kind (nameOf (first :: more)) :: others
            | none => others
        | [kind] => Instruction.read [kind]
        | [] => []
      else if word = "all".toList then
        .universal :: Instruction.read rest
      else if let some kind := NameKind.ofWord? word then
        match rest with
        | [] => []
        | first :: more =>
            .descendant kind (nameOf (first :: more)) ::
              Instruction.read (afterName (first :: more))
      else
        Instruction.read rest
termination_by words => words.length
decreasing_by
  all_goals simp_wf
  all_goals
    try
      have shorter := length_afterName_le (first :: more)
      simp at shorter
  all_goals omega

/-- The instructions written in a text. -/
def instructions (text : Text) : List Instruction :=
  Instruction.read (Cursor.tokens Grammar.dash text)

/-! ## Writing -/

/-- A name in a selector. -/
def NameKind.write : NameKind → Text → Text
  | .cssClass, name => '.' :: name
  | .element, name => name
  | .identifier, name => '#' :: name

/-- A selector under construction. -/
structure Draft where
  /-- The ancestor, with the space after it. -/
  ancestor : Text
  /-- Everything after the ancestor. -/
  body : Text
deriving DecidableEq, Repr

/-- The effect of one instruction on the selector of a class whose own selector
is `own`.  A later ancestor replaces an earlier one; a further name of the
element itself starts the body afresh. -/
def Draft.apply (own : Text) (draft : Draft) : Instruction → Draft
  | .pseudoClass name => { draft with body := draft.body ++ ':' :: name }
  | .pseudoElement name => { draft with body := draft.body ++ ':' :: ':' :: name }
  | .parent kind name => { draft with ancestor := kind.write name ++ [' '] }
  | .compound kind name => { draft with body := kind.write name ++ own }
  | .next kind name => { draft with body := draft.body ++ " + ".toList ++ kind.write name }
  | .child kind name => { draft with body := draft.body ++ " > ".toList ++ kind.write name }
  | .descendant kind name => { draft with body := draft.body ++ ' ' :: kind.write name }
  | .universal => { draft with body := draft.body ++ " *".toList }

/-- The selector of a class name under a list of instructions. -/
def ofInstructions (given : List Instruction) (className : Text) : Text :=
  let own := ofClass className
  let draft := given.foldl (Draft.apply own) ⟨[], own⟩
  draft.ancestor ++ draft.body

/-- The selector of a class name under the instructions written in a text. -/
def ofTarget (written className : Text) : Text :=
  ofInstructions (instructions written) className

end AtomicCss.Selector
