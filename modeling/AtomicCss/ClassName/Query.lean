import AtomicCss.Grammar
import AtomicCss.Text.DecimalDigit

/-!
Contract: the at-rules that query parts stand for.

Owns:
- width queries, which give a width, a direction and an optional name;
- free queries, which give the text of the query;
- the at-rule text of each.

Does not own: the order of at-rules in a stylesheet.
-/

namespace AtomicCss.Query

/-- A query for a least or a greatest width. -/
structure Width where
  /-- The digits of the width in pixels. -/
  digits : Text
  /-- The width is the greatest one rather than the least. -/
  isGreatest : Bool
  /-- A media type or the name of a container. -/
  name : Option Text
deriving DecidableEq, Repr

/-- The tokens of a query, separated by spaces. -/
def spaced (tokens : Text) : Text :=
  Text.substitute Grammar.valueSeparator ' ' tokens

/-- The condition on the width. -/
def Width.condition (width : Width) : Text :=
  '(' :: (if width.isGreatest then "max".toList else "min".toList) ++
    "-width: ".toList ++ width.digits ++ "px)".toList

/-- A name after a dash at the end of a width query.  A name is not empty and has
no line feed. -/
def nameAfterDash? : Text → Option (Option Text)
  | [] => some none
  | first :: name =>
      if first = '-' ∧ name ≠ [] ∧ '\n' ∉ name then some (some name) else none

/-- Read a width query after its marker: digits, `max` or not, and a name or not. -/
def Width.read? (text : Text) : Option Width :=
  let digits := Text.digits text
  let rest := Text.afterDigits text
  if digits = [] then
    none
  else
    match Text.after? "max".toList rest with
    | some tail => (nameAfterDash? tail).map fun name => ⟨digits, true, name⟩
    | none => (nameAfterDash? rest).map fun name => ⟨digits, false, name⟩

/-- A free query after its marker: a dash and the text of the query. -/
def free? : Text → Option Text
  | '-' :: first :: rest => some (first :: rest)
  | _ => none

/-- The media query of a part. -/
def media? (part : Text) : Option Text :=
  (Text.after? Grammar.mediaQuery part).bind fun rest =>
    match Width.read? rest with
    | some width =>
        match width.name with
        | some type =>
            some ("@media ".toList ++ spaced type ++ " and ".toList ++ width.condition)
        | none => some ("@media ".toList ++ width.condition)
    | none => (free? rest).map fun query => "@media ".toList ++ spaced query

/-- The container query of a part. -/
def container? (part : Text) : Option Text :=
  (Text.after? Grammar.containerQuery part).bind fun rest =>
    match Width.read? rest with
    | some width =>
        match width.name with
        | some name =>
            some ("@container ".toList ++ spaced name ++ ' ' :: width.condition)
        | none => some ("@container ".toList ++ width.condition)
    | none => (free? rest).map fun query => "@container ".toList ++ spaced query

end AtomicCss.Query
