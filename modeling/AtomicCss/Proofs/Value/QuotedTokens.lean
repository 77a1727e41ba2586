import AtomicCss.Proofs.OrderedMap
import AtomicCss.Proofs.Units
import AtomicCss.Proofs.Value.Induction
import AtomicCss.Proofs.Value.Quotes

/-!
Contract: the double quotes in the text of a quoted token.

Owns:
- environments whose tables have no double quotes, and that the values of tokens under them show
  all double quotes that they have;
- tokens without the marker of quoted strings, whose values open no quotes;
- the main statement: what stands between the quotes of a quoted token.

Does not own: the double quotes of values.

## Where further quotes come from

Right inside quotes no further quotes open.  But the arguments of a template or of a function, and
the values after a call, are read as anywhere else: there quotes open again.  The other source is
the class name, which the selector of a target repeats.
-/

namespace AtomicCss

/-! ## Environments without quotes -/

namespace Environment

/-- With the default markers, neither the characters nor the blueprints have a double quote, and no
function gives a text with one. -/
structure QuoteFree (environment : Environment) : Prop where
  markers : environment.lexicon.markers = Registry.standard
  characters : ∀ character ∈ environment.lexicon.characters.values, '"' ∉ character
  blueprints : ∀ template ∈ environment.lexicon.templates.values, '"' ∉ template.blueprint
  functions :
    ∀ function ∈ environment.lexicon.functions.values, ∀ given result,
      function given environment.ambient = some result → '"' ∉ result

namespace QuoteFree

variable {environment : Environment}

theorem characterFor
    (bare : environment.QuoteFree)
    {name : Text}
    (absent : '"' ∉ name) :
    '"' ∉ environment.lexicon.characterFor name := by
  unfold Lexicon.characterFor
  cases found : environment.lexicon.characters.get? name with
  | none => exact absent
  | some character =>
      exact bare.characters character
        (List.mem_map_of_mem (OrderedMap.get?_eq_some_iff.1 found))

/-- A marked token shows the quotes that its values show. -/
theorem quotesShown_markedValue
    (bare : environment.QuoteFree)
    {token : Text}
    {kind : MarkerKind}
    {count : Nat}
    (written : token ≠ [])
    (absent : '"' ∉ token)
    (shorter :
      ∀ piece : Text, piece.length < token.length → '"' ∉ piece →
        (environment.lexicon.read false piece).QuotesShown environment.ambient) :
    (environment.lexicon.markedValue kind token (token.drop count)).QuotesShown
      environment.ambient := by
  have within {piece : Text} (inside : piece <:+: token) : '"' ∉ piece :=
    fun quote => absent (inside.subset quote)
  have rest : '"' ∉ token.drop count := within (List.drop_suffix _ _).isInfix
  have name : '"' ∉ Text.before Grammar.valueSeparator (token.drop count) :=
    fun quote => rest ((List.takeWhile_prefix _).subset quote)
  have given {piece : Text}
      (inside : piece <:+: Text.beyond Grammar.valueSeparator (token.drop count)) :
      '"' ∉ piece :=
    within (inside.trans (Lexicon.given_within token count))
  have parameter {piece : Text}
      (member : piece ∈
        Lexicon.parameters (Text.beyond Grammar.valueSeparator (token.drop count))) :=
    Lexicon.of_mem_parameters written
      (fun _ inside => Value.QuotesShown.glue (bare.characterFor (given inside)))
      Value.QuotesShown.commaList (fun piece less inside => shorter piece less (given inside))
      member
  cases kind <;> unfold Lexicon.markedValue <;> dsimp only
  case hexColor | customPropertyName | unicodeEscape =>
    exact Value.QuotesShown.text (by simp [rest])
  case variableReference => exact Value.QuotesShown.text (Lexicon.not_mem_reference rest)
  case selectorGroup => exact Value.QuotesShown.text (by simp [rest])
  case character => exact Value.QuotesShown.text (bare.characterFor rest)
  case targetSelector => exact Value.QuotesShown.target rest
  case quotedString => exact Value.QuotesShown.quoted absent _
  case rootValue =>
    split
    · exact Value.QuotesShown.text (Lexicon.not_mem_reference name)
    · exact Value.QuotesShown.rootValue name _
  case template =>
    split
    · exact Value.QuotesShown.text absent
    · rename_i template found
      have blueprint := bare.blueprints template
        (List.mem_map_of_mem (OrderedMap.get?_eq_some_iff.1 found))
      split
      · exact Value.QuotesShown.text blueprint
      · exact Value.QuotesShown.template absent blueprint
          (List.forall_mem_map.2 fun piece member => (parameter member).1)
  case function =>
    split
    · exact Value.QuotesShown.text absent
    · refine Value.QuotesShown.call absent name (List.forall_mem_map.2 fun piece member => ?_)
        (List.forall_mem_map.2 fun piece member => ?_)
      · exact (parameter (Lexicon.mem_of_mem_beforeClose member)).2.1
      · exact (parameter (Lexicon.mem_of_mem_afterClose member)).2.2
  case customFunction =>
    split
    · exact Value.QuotesShown.text absent
    · rename_i function found
      refine Value.QuotesShown.computed absent (bare.functions function
        (List.mem_map_of_mem (OrderedMap.get?_eq_some_iff.1 found)))
        (List.forall_mem_map.2 fun piece member => ?_)
      exact (parameter (List.mem_filter.1 (Lexicon.mem_of_mem_afterClose member)).1).1

/-- Under such an environment the values of tokens without double quotes show them and nothing
else does. -/
theorem quotesShown_read
    (bare : environment.QuoteFree)
    (quoted : Bool)
    {token : Text}
    (absent : '"' ∉ token) :
    (environment.lexicon.read quoted token).QuotesShown environment.ambient := by
  have progressive : environment.lexicon.Progressive (fun token => '"' ∉ token)
      (Value.QuotesShown environment.ambient) :=
    { empty := Value.QuotesShown.text List.not_mem_nil
      unmarked := by
        intro quoted token absent
        refine Value.QuotesShown.text ?_
        split
        · exact absent
        · intro quote
          rcases Units.of_mem_convert _ quote with inside | written
          · exact absent inside
          · exact absurd written (by decide)
      marked := fun _ _ _ _ absent written _ shorter _ =>
        bare.quotesShown_markedValue written absent shorter }
  exact progressive.read quoted absent

end QuoteFree

end Environment

/-! ## Tokens without markers of quoted strings -/

namespace Registry

/-- Starts a quoted string among the default markers. -/
def quoteMarker : Text := "str-".toList

theorem markerAt?_quoteMarker (rest : Text) :
    standard.markerAt? none (quoteMarker ++ rest) = some (quoteMarker, .quotedString) := by
  rfl

/-- No other default marker starts one. -/
theorem eq_quoteMarker
    {excluded : Option MarkerKind}
    {token marker : Text}
    (marked : standard.markerAt? excluded token = some (marker, .quotedString)) :
    marker = quoteMarker := by
  have only : ∀ entry ∈ standard.bindings.entries,
      entry.2 = .quotedString → entry.1 = quoteMarker := by
    decide
  exact only _ (List.mem_filter.1 (mem_of_longest? marked)).1 rfl

end Registry

namespace Lexicon

variable {lexicon : Lexicon} {ambient : Ambient} {token : Text}

theorem unquoted_markedValue
    {kind : MarkerKind}
    {count : Nat}
    (written : token ≠ [])
    (other : kind ≠ .quotedString)
    (shorter :
      ∀ piece : Text, piece.length < token.length →
        piece <:+: Text.beyond Grammar.valueSeparator (token.drop count) →
          (lexicon.read false piece).Unquoted ambient) :
    (lexicon.markedValue kind token (token.drop count)).Unquoted ambient := by
  have parameter {piece : Text}
      (member : piece ∈ parameters (Text.beyond Grammar.valueSeparator (token.drop count))) :=
    of_mem_parameters written (fun name _ => Value.Unquoted.glue _) Value.Unquoted.commaList shorter
      member
  cases kind <;> unfold markedValue <;> dsimp only
  case hexColor | variableReference | customPropertyName | character | unicodeEscape
      | selectorGroup =>
    exact Value.Unquoted.text _
  case targetSelector => exact fun _ named => named
  case quotedString => exact absurd rfl other
  case rootValue =>
    split
    · exact Value.Unquoted.text _
    · exact fun _ _ => id
  case template =>
    split
    · exact Value.Unquoted.text _
    · split
      · exact Value.Unquoted.text _
      · exact Value.Unquoted.template _ _
          (List.forall_mem_map.2 fun piece member => (parameter member).1)
  case function =>
    split
    · exact Value.Unquoted.text _
    · refine Value.Unquoted.call _ _ (List.forall_mem_map.2 fun piece member => ?_)
        (List.forall_mem_map.2 fun piece member => ?_)
      · exact (parameter (mem_of_mem_beforeClose member)).2.1
      · exact (parameter (mem_of_mem_afterClose member)).2.2
  case customFunction =>
    split
    · exact Value.Unquoted.text _
    · refine Value.Unquoted.computed _ _ _ (List.forall_mem_map.2 fun piece member => ?_)
      exact (parameter (List.mem_filter.1 (mem_of_mem_afterClose member)).1).1

variable (default : lexicon.markers = Registry.standard)

include default

/-- A token opens no quotes when the marker of quoted strings does not stand in it. -/
theorem unquoted_read
    (quoted : Bool)
    (absent : ¬ Registry.quoteMarker <:+: token) :
    (lexicon.read quoted token).Unquoted ambient := by
  have progressive : lexicon.Progressive (fun token => ¬ Registry.quoteMarker <:+: token)
      (Value.Unquoted ambient) :=
    { empty := Value.Unquoted.text []
      unmarked := fun _ _ _ => Value.Unquoted.text _
      marked := by
        intro quoted token marker kind absent written marked shorter _
        refine unquoted_markedValue written ?_ fun piece less inside =>
          shorter piece less fun opens =>
            absent (opens.trans (inside.trans (given_within token marker.length)))
        rintro rfl
        have starts := (Registry.startsWith_of_markerAt? marked).2
        rw [default] at marked
        rw [Registry.eq_quoteMarker marked, Text.startsWith_iff_prefix] at starts
        exact absent starts.isInfix }
  exact progressive.read quoted absent

/-- Right inside quotes it is enough that the marker does not stand in what is given. -/
theorem unquoted_read_inside
    (absent : ¬ Registry.quoteMarker <:+: Text.beyond Grammar.valueSeparator token) :
    (lexicon.read true token).Unquoted ambient := by
  by_cases written : token = []
  · rw [written, read]
    exact Value.Unquoted.text []
  · cases marked : lexicon.markers.markerAt? (excluded true) token with
    | none =>
        rw [read_of_unmarked written marked]
        exact Value.Unquoted.text _
    | some found =>
        obtain ⟨marker, kind⟩ := found
        obtain ⟨allowed, starts⟩ := Registry.startsWith_of_markerAt? marked
        have whole : Grammar.valueSeparator ∉ marker := by
          have words : Registry.standard.Words := by decide
          have bound : marker ∈ lexicon.markers.bindings.keys :=
            List.mem_map_of_mem (List.mem_filter.1 (mem_of_longest? marked)).1
          rw [default] at bound
          exact (words marker bound).2
        have given : Text.beyond Grammar.valueSeparator (token.drop marker.length) =
            Text.beyond Grammar.valueSeparator token := by
          obtain ⟨rest, rfl⟩ := Text.startsWith_iff_prefix.1 starts
          rw [List.drop_left, Text.beyond_append whole]
        rw [read_of_marked true written marked]
        refine unquoted_markedValue written ?_ fun piece _ inside =>
          unquoted_read default false fun opens => absent (opens.trans (given ▸ inside))
        rintro rfl
        exact allowed rfl

end Lexicon

/-! ## Quoted tokens -/

namespace Environment

/-- A quoted token has a double quote at both ends.  It has one in between exactly when the value
inside the quotes shows one, and so it has none when neither the class name has one nor the marker
of quoted strings stands in the arguments. -/
theorem quotes_open_once
    {environment : Environment}
    (bare : environment.QuoteFree)
    {rest : Text}
    (absent : '"' ∉ rest)
    {state : Expansion}
    (room : state.depth < state.ceiling) :
    ∃ content,
      (environment.resolve (Registry.quoteMarker ++ rest) state).1 = Text.quoted content ∧
      ('"' ∈ content ↔
        (environment.lexicon.read true rest).showsQuotes environment.ambient state.deepen) ∧
      ('"' ∉ state.origin →
        ¬ Registry.quoteMarker <:+: Text.beyond Grammar.valueSeparator rest →
          '"' ∉ content) := by
  have marked := Registry.markerAt?_quoteMarker rest
  rw [← bare.markers] at marked
  have written : Registry.quoteMarker ++ rest ≠ [] := by simp [Registry.quoteMarker]
  let inner := environment.lexicon.read true rest
  have shown : '"' ∈ (inner.eval environment.ambient state.deepen).1 ↔
      inner.showsQuotes environment.ambient state.deepen :=
    bare.quotesShown_read true absent state.deepen
  refine ⟨(inner.eval environment.ambient state.deepen).1, ?_, shown, ?_⟩
  · rw [resolve, Lexicon.read_of_quotedString written marked, List.drop_left]
    refine (Expansion.nested_fst state _ _).trans ?_
    rw [if_pos room]
  · intro named given
    have unquoted : inner.Unquoted environment.ambient :=
      Lexicon.unquoted_read_inside bare.markers given
    exact mt shown.1 (unquoted state.deepen named)

theorem Ruled.quoteFree : ruled.QuoteFree where
  markers := rfl
  characters := by decide
  blueprints := by decide
  functions := fun _ member => absurd member List.not_mem_nil

/-- A word and a character in the arguments of a function open no quotes. -/
theorem quotes_open_once_slash :
    let rest := "fn-f_red_chr-slash".toList
    ruled.QuoteFree ∧ '"' ∉ rest ∧ Ruled.fresh.depth < Ruled.fresh.ceiling ∧
      ∃ content,
        (ruled.resolve (Registry.quoteMarker ++ rest) Ruled.fresh).1 = Text.quoted content ∧
          '"' ∉ content := by
  intro rest
  have absent : '"' ∉ rest := by decide
  have room : Ruled.fresh.depth < Ruled.fresh.ceiling := by decide
  obtain ⟨content, text, _, once⟩ := quotes_open_once Ruled.quoteFree absent room
  exact ⟨Ruled.quoteFree, absent, room, content, text, once (by decide) (by decide)⟩

/-- Right inside quotes a function takes a quoted token for its argument, which is read outside of
quotes. -/
theorem Ruled.read_quotedArgument :
    ruled.lexicon.read true "fn-f_str-x".toList =
      .call "fn-f_str-x".toList ['f']
        [.commaList [.quoted "str-x".toList (.text ['x'])]] [] := by
  have function : ruled.lexicon.markers.markerAt? (Lexicon.excluded true) "fn-f_str-x".toList =
      some ("fn-".toList, .function) := by rfl
  have marked : ruled.lexicon.markers.markerAt? none "str-x".toList =
      some (Registry.quoteMarker, .quotedString) := by rfl
  have word : ruled.lexicon.read true ['x'] = .text ['x'] :=
    Lexicon.read_of_unmarked (List.cons_ne_nil _ _) (by rfl)
  have argument : ruled.lexicon.read false "str-x".toList =
      .quoted "str-x".toList (.text ['x']) := by
    rw [← word]
    exact Lexicon.read_of_quotedString (by decide) marked
  rw [Lexicon.read_of_marked true (by decide) function, ← argument]
  rfl

/-- A quoted token in the arguments of a function has quotes of its own. -/
theorem quotes_open_again :
    let rest := "fn-f_str-x".toList
    let resolved := (ruled.resolve (Registry.quoteMarker ++ rest) Ruled.fresh).1
    ruled.QuoteFree ∧ '"' ∉ rest ∧ Ruled.fresh.depth < Ruled.fresh.ceiling ∧
      resolved = Text.quoted ("f(".toList ++ Text.quoted ['x'] ++ [')']) ∧
      ¬ ∃ content, resolved = Text.quoted content ∧ '"' ∉ content := by
  intro rest resolved
  have text : resolved = Text.quoted ("f(".toList ++ Text.quoted ['x'] ++ [')']) := by
    have marked : ruled.lexicon.markers.markerAt? none (Registry.quoteMarker ++ rest) =
        some (Registry.quoteMarker, .quotedString) := by rfl
    show (ruled.resolve (Registry.quoteMarker ++ rest) Ruled.fresh).1 = _
    rw [resolve, Lexicon.read_of_quotedString (by decide) marked, List.drop_left,
      Ruled.read_quotedArgument]
    rfl
  refine ⟨Ruled.quoteFree, by decide, by decide, text, ?_⟩
  rintro ⟨content, same, absent⟩
  have framed := (List.append_left_inj ['"']).1 (text.symm.trans same)
  rw [← (List.cons.inj framed).2] at absent
  exact absent (by decide)

end Environment

end AtomicCss
