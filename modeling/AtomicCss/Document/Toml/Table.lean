import AtomicCss.Document.Basic

/-!
Contract: tables of a TOML file while it is read.

Owns:
- how a table came to be, which decides what may still be put into it;
- opening a table or an element of a list of tables at a header;
- putting a value under dotted names;
- the finished document.

Does not own: how headers, names and values are written.
-/

namespace AtomicCss.Toml

/-- How a table came to be. -/
inductive Origin where
  /-- By a header of its own. -/
  | headed
  /-- By the header of a table inside it. -/
  | implied
  /-- By dotted names. -/
  | dotted
deriving DecidableEq, Repr

/-- What a name stands for while a file is read. -/
inductive Item where
  | value (document : Document)
  | table (origin : Origin) (entries : List (Text × Item))
  /-- The elements of a list of tables, each under a header of its own. -/
  | tables (elements : List (List (Text × Item)))

/-- Named items in the order in which they are first given. -/
abbrev Entries := List (Text × Item)

/-- What a name stands for. -/
def find? (entries : Entries) (name : Text) : Option Item :=
  entries.lookup name

/-- Let a name stand for another item. -/
def assign (entries : Entries) (name : Text) (item : Item) : Entries :=
  if (find? entries name).isSome then
    entries.map fun entry => if entry.1 = name then (name, item) else entry
  else
    entries ++ [(name, item)]

/-- Change the last element of a list of tables. -/
def changeLast (change : Entries → Option Entries) (elements : List Entries) :
    Option (List Entries) :=
  match elements.getLast? with
  | some last => (change last).map fun changed => elements.dropLast ++ [changed]
  | none => none

/-! ## Headers -/

/-- Make a change to the table at the end of names.  Tables that are missing on the
way are made. -/
def within (change : Entries → Option Entries) : List Text → Entries → Option Entries
  | [], entries => change entries
  | name :: path, entries =>
      match find? entries name with
      | none =>
          (within change path []).map fun made =>
            assign entries name (.table .implied made)
      | some (.value _) => none
      | some (.table origin inside) =>
          (within change path inside).map fun changed =>
            assign entries name (.table origin changed)
      | some (.tables elements) =>
          (changeLast (within change path) elements).map fun changed =>
            assign entries name (.tables changed)

/-- Open the table of a header.  One that is there already must have been made on the
way to another. -/
def openTable (name : Text) (entries : Entries) : Option Entries :=
  match find? entries name with
  | none => some (assign entries name (.table .headed []))
  | some (.table .implied inside) => some (assign entries name (.table .headed inside))
  | some _ => none

/-- Open another element of a list of tables. -/
def openElement (name : Text) (entries : Entries) : Option Entries :=
  match find? entries name with
  | none => some (assign entries name (.tables [[]]))
  | some (.tables elements) => some (assign entries name (.tables (elements ++ [[]])))
  | some _ => none

/-! ## Values -/

/-- Put a value under dotted names.  Dotted names lead through tables that dotted
names or headers of inner tables made, and end in one that dotted names made. -/
def addValue (name : Text) (value : Document) (ends : Bool) :
    List Text → Entries → Option Entries
  | [], entries =>
      if ends && (find? entries name).isNone then
        some (assign entries name (.value value))
      else
        none
  | step :: path, entries =>
      match find? entries step with
      | none =>
          (addValue name value true path []).map fun made =>
            assign entries step (.table .dotted made)
      | some (.value _) | some (.table .headed _) => none
      | some (.table origin inside) =>
          (addValue name value (origin = .dotted) path inside).map fun changed =>
            assign entries step (.table origin changed)
      | some (.tables elements) =>
          (changeLast (addValue name value false path) elements).map fun changed =>
            assign entries step (.tables changed)

/-- Put a value under names, of which the last is its own. -/
def addUnder (names : List Text) (value : Document) (entries : Entries) :
    Option Entries :=
  names.getLast?.bind fun name => addValue name value true names.dropLast entries

/-! ## Documents -/

mutual

/-- The document that an item is. -/
def Item.document : Item → Document
  | .value document => document
  | .table _ entries => .table (documents entries)
  | .tables elements => .list (elementDocuments elements)

/-- The documents of entries, with their names. -/
def documents : List (Text × Item) → List (Text × Document)
  | [] => []
  | (name, item) :: others => (name, item.document) :: documents others

/-- The tables of a list. -/
def elementDocuments : List (List (Text × Item)) → List Document
  | [] => []
  | entries :: others => .table (documents entries) :: elementDocuments others

end

end AtomicCss.Toml
