import AtomicCss.Lexicon.Longest
import AtomicCss.OrderedMap

/-!
Contract: the markers that tell what a value token means.

Owns:
- the kinds of value tokens;
- the registry that binds markers to kinds, and its default bindings;
- the longest marker at the front of a token.

Does not own: what a token of each kind resolves to.
-/

namespace AtomicCss

/-- What a value token means once its marker is known. -/
inductive MarkerKind where
  | hexColor
  | variableReference
  | customPropertyName
  | rootValue
  | template
  | character
  | unicodeEscape
  | quotedString
  | selectorGroup
  | targetSelector
  | function
  | customFunction
deriving DecidableEq, Repr

namespace MarkerKind

/-- All kinds with their names. -/
def named : List (MarkerKind × Text) :=
  [(.hexColor, "hex color".toList),
   (.variableReference, "variable reference".toList),
   (.customPropertyName, "custom property name".toList),
   (.rootValue, "root value".toList),
   (.template, "template".toList),
   (.character, "character".toList),
   (.unicodeEscape, "unicode escape".toList),
   (.quotedString, "quoted string".toList),
   (.selectorGroup, "selector group".toList),
   (.targetSelector, "target selector".toList),
   (.function, "function".toList),
   (.customFunction, "custom function".toList)]

/-- The name of a kind. -/
def name (kind : MarkerKind) : Text :=
  ((named.find? fun entry => entry.1 = kind).map Prod.snd).getD []

/-- The kind of a name. -/
def ofName? (name : Text) : Option MarkerKind :=
  (named.find? fun entry => entry.2 = name).map Prod.fst

end MarkerKind

/-- Markers bound to kinds, in the order in which they were first registered. -/
structure Registry where
  bindings : OrderedMap Text MarkerKind
deriving DecidableEq, Repr

namespace Registry

/-- The registry without markers. -/
def empty : Registry :=
  ⟨OrderedMap.empty⟩

/-- Bind a marker.  A marker that is bound already takes the new kind. -/
def register (registry : Registry) (marker : Text) (kind : MarkerKind) : Registry :=
  ⟨registry.bindings.insert marker kind⟩

/-- The markers that every lexicon starts with. -/
def standard : Registry :=
  [("hex-", MarkerKind.hexColor),
   ("var-", .variableReference),
   ("val-", .customPropertyName),
   ("rval-", .rootValue),
   ("tpl-", .template),
   ("chr-", .character),
   ("uni-", .unicodeEscape),
   ("str-", .quotedString),
   ("group-", .selectorGroup),
   ("tar-", .targetSelector),
   ("fn-", .function),
   ("cfn-", .customFunction)].foldl
    (fun registry entry => registry.register entry.1.toList entry.2) empty

/-- The number of markers. -/
def size (registry : Registry) : Nat :=
  registry.bindings.size

/-- There are no markers. -/
def isEmpty (registry : Registry) : Bool :=
  registry.bindings.isEmpty

/-- The bindings whose marker starts a token and whose kind is not excluded. -/
def candidates
    (registry : Registry)
    (excluded : Option MarkerKind)
    (token : Text) : List (Text × MarkerKind) :=
  registry.bindings.entries.filter fun entry =>
    some entry.2 ≠ excluded && Text.startsWith entry.1 token

/-- The longest marker at the front of a token with a kind that is not excluded,
and that kind. -/
def markerAt?
    (registry : Registry)
    (excluded : Option MarkerKind)
    (token : Text) : Option (Text × MarkerKind) :=
  longest? Prod.fst (registry.candidates excluded token)

/-- A word that is a marker but for the dash at the end. -/
def isMarkerWord (registry : Registry) (word : Text) : Bool :=
  registry.bindings.keys.contains (word ++ ['-'])

theorem startsWith_of_markerAt?
    {registry : Registry}
    {excluded : Option MarkerKind}
    {token marker : Text}
    {kind : MarkerKind}
    (found : registry.markerAt? excluded token = some (marker, kind)) :
    some kind ≠ excluded ∧ Text.startsWith marker token = true := by
  have member := mem_of_longest? found
  simpa [candidates] using (List.mem_filter.1 member).2

end Registry

end AtomicCss
