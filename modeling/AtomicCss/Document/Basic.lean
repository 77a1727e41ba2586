import AtomicCss.OrderedMap
import AtomicCss.Text.Basic

/-!
Contract: values of settings and reports, whatever they are written in.

Owns:
- the value type;
- what a value is read as: a flag, a number, a text, a list, a table or a record;
- how moments, and lists that are too long, are read where a notation has them.

Does not own: any notation.
-/

namespace AtomicCss

/-- A value in a settings file or a report. -/
inductive Document where
  | null
  | flag (value : Bool)
  | integer (value : Int)
  | text (value : Text)
  | list (items : List Document)
  /-- Named values in the order in which they are written. -/
  | table (entries : List (Text × Document))
  /-- A date, a time of day, or both, in its normal text. -/
  | moment (written : Text)
  /-- A value of another kind, which no setting takes. -/
  | other

/-- What becomes of items in a list that is read as a record and has more of them
than the record has fields. -/
inductive Surplus where
  | refused
  | ignored
deriving DecidableEq, Repr

namespace Document

/-! ## Simple values -/

/-- The value of a flag. -/
def flag? : Document → Option Bool
  | .flag value => some value
  | _ => none

/-- The value of a number from zero up to below a limit. -/
def natBelow? (limit : Nat) : Document → Option Nat
  | .integer (.ofNat value) => if value < limit then some value else none
  | _ => none

/-- The value of a text. -/
def text? : Document → Option Text
  | .text value => some value
  | _ => none

/-- The items of a list, each read in the same way. -/
def list? {α : Type} (item? : Document → Option α) : Document → Option (List α)
  | .list items => items.mapM item?
  | _ => none

/-! ## Tables -/

/-- The name of the one entry of a moment. -/
def momentName : Text := "$__toml_private_datetime".toList

/-- The entries of a table.  Where a table is asked for, a moment is one as well,
with its text as the only entry. -/
def entries? : Document → Option (List (Text × Document))
  | .table entries => some entries
  | .moment written => some [(momentName, .text written)]
  | _ => none

/-- The entries of a table, each value read in the same way.  Of two entries with
one name the later counts. -/
def table? {α : Type} (value? : Document → Option α) (document : Document) :
    Option (OrderedMap Text α) := do
  let entries ← document.entries?
  let read ← entries.mapM fun entry =>
    (value? entry.2).map fun value => (entry.1, value)
  return OrderedMap.ofList read

/-! ## Records -/

/-- The value of a field that is given at most once. -/
def soleValue? (entries : List (Text × Document)) (field : Text) : Option (Option Document) :=
  match entries.filter fun entry => entry.1 = field with
  | [] => some none
  | [entry] => some (some entry.2)
  | _ => none

/-- The values of the fields of a record, in the order of the fields.  A record is a
table that has none of them twice, where other entries do not count, or a list with
as many items as fields, of which optional ones may be missing at the end. -/
def fields?
    (surplus : Surplus)
    (fields : List Text)
    (optional : Nat)
    (document : Document) : Option (List (Option Document)) :=
  match document with
  | .list items =>
      if fields.length ≤ items.length + optional ∧
          (surplus = .ignored ∨ items.length ≤ fields.length) then
        some ((items.take fields.length).map some ++
          List.replicate (fields.length - items.length) none)
      else
        none
  | _ => document.entries?.bind fun entries => fields.mapM (soleValue? entries)

/-- The value of a field that may be left out or null. -/
def optional? {α : Type} (value? : Document → Option α) :
    Option Document → Option (Option α)
  | none | some .null => some none
  | some value => (value? value).map some

/-- The value of a field that may be left out, and then has a fixed one. -/
def orElse? {α : Type} (fixed : α) (value? : Document → Option α) :
    Option Document → Option α
  | none => some fixed
  | some value => value? value

end Document

end AtomicCss
