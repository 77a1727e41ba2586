import AtomicCss.Proofs.ClassName.Joining
import AtomicCss.Proofs.Lexicon.Filling

/-!
Contract: the shape of a blueprint before and after its arguments are filled in.

Owns:
- the exact conditions under which a filled-in blueprint is a class of its own and under which
  it is a list of declarations;
- the exact condition under which the parts of a filled-in class are the filled-in parts of its
  blueprint, and arguments that always meet it;
- arguments that change each of the three.

Does not own: what becomes of a template of each shape.

## Why the text decides

Arguments are filled in first, and the text that comes out is looked at then: an argument can
bring the end of the scheme, a semicolon, or a dash that stands next to another one.
-/

namespace AtomicCss

namespace Template

/-! ## Classes -/

/-- A filled-in text is a class when the text is one already, or when the first placeholder and
what follows it bring the end of the scheme. -/
theorem isClass_fillEach_iff (entries : List (Text × Nat)) (text : Text) :
    isClass (fillEach entries text) = true ↔
      isClass text = true ∨
        ∃ front rest missing,
          text = front ++ Grammar.placeholder :: rest ∧
          Grammar.scheme = front ++ missing ∧ missing ≠ [] ∧
          missing <+: fillEach entries (Grammar.placeholder :: rest) := by
  have unmarked : Grammar.placeholder ∉ Grammar.scheme := by decide
  simp only [isClass, Text.startsWith_iff_prefix]
  constructor
  · intro starts
    by_cases marked : Grammar.placeholder ∈ text
    · obtain ⟨front, rest, rfl, absent⟩ := List.eq_append_cons_of_mem marked
      rw [fillEach_append_of_not_mem absent] at starts
      rcases List.prefix_or_prefix_of_prefix starts (List.prefix_append front _) with
        whole | ⟨missing, scheme⟩
      · exact Or.inl (whole.trans (List.prefix_append front _))
      · rw [← scheme] at starts
        have later := (List.prefix_append_right_inj front).1 starts
        cases missing with
        | nil =>
            rw [List.append_nil] at scheme
            exact Or.inl (scheme ▸ List.prefix_append front _)
        | cons first missing =>
            exact Or.inr ⟨front, rest, _, rfl, scheme.symm, List.cons_ne_nil _ _, later⟩
    · rw [← List.append_nil text, fillEach_append_of_not_mem marked, fillEach_nil] at starts
      simpa using Or.inl starts
  · rintro (⟨rest, rfl⟩ | ⟨front, rest, missing, rfl, scheme, -, later⟩)
    · rw [fillEach_append_of_not_mem unmarked]
      exact List.prefix_append _ _
    · have absent : Grammar.placeholder ∉ front := by
        rw [scheme] at unmarked
        exact fun member => unmarked (List.mem_append_left missing member)
      rw [fillEach_append_of_not_mem absent, scheme]
      exact (List.prefix_append_right_inj front).2 later

/-! ## Declarations -/

/-- A filled-in blueprint is a list of declarations when the blueprint is one already, or when
an argument with a semicolon has a placeholder once the arguments after it are filled in. -/
theorem isDeclarations_substitute_iff (blueprint : Text) (arguments : List Text) :
    isDeclarations (substitute ⟨blueprint⟩ arguments) = true ↔
      isDeclarations blueprint = true ∨
        ∃ index argument, arguments[index]? = some argument ∧ ';' ∈ argument ∧
          Grammar.placeholder :: Text.ofNat index <:+:
            fillEach (arguments.zipIdx.drop (index + 1)) blueprint := by
  rw [isDeclarations, isDeclarations, List.contains_iff_mem, List.contains_iff_mem,
    substitute_eq, mem_fillEach_iff (by decide) (by decide)]
  refine or_congr_right (exists_congr fun index => ?_)
  simp only [List.getElem?_zipIdx, Nat.zero_add, Option.map_eq_some_iff]
  constructor
  · rintro ⟨_, ⟨argument, there, rfl⟩, given⟩
    exact ⟨argument, there, given⟩
  · rintro ⟨argument, there, given⟩
    exact ⟨_, ⟨argument, there, rfl⟩, given⟩

/-! ## Parts -/

/-- The parts of a filled-in text are the filled-in parts of the text exactly when these have no
two dashes in a row and none but the last ends with a dash. -/
theorem parts_fillEach_eq_iff (entries : List (Text × Nat)) (text : Text) :
    Grammar.parts (fillEach entries text) = (Grammar.parts text).map (fillEach entries) ↔
      (∀ part ∈ Grammar.parts text, Text.DashesApart (fillEach entries part)) ∧
        ∀ part ∈ (Grammar.parts text).dropLast,
          (fillEach entries part).getLast? ≠ some '-' := by
  have written : (Grammar.parts text).map (fillEach entries) ≠ [] := by
    rw [ne_eq, List.map_eq_nil_iff]
    exact Grammar.parts_ne_nil text
  have joined : fillEach entries text =
      List.intercalate ['-', '-'] ((Grammar.parts text).map (fillEach entries)) := by
    rw [← fillEach_intercalate, Grammar.intercalate_parts]
  rw [joined, Grammar.parts_intercalate_eq_iff written, ← List.map_dropLast, List.forall_mem_map,
    List.forall_mem_map]

section Words

variable {entries : List (Text × Nat)} (words : ∀ entry ∈ entries, Text.IsWord entry.1)

include words

/-- Where words are filled in, dashes that stand apart still do. -/
theorem dashesApart_fillEach {text : Text} (apart : Text.DashesApart text) :
    Text.DashesApart (fillEach entries text) := by
  induction entries with
  | nil => exact apart
  | cons entry others inductionHypothesis =>
      rw [List.forall_mem_cons] at words
      exact Text.DashesApart.replace words.1 (inductionHypothesis words.2)

/-- Where words are filled in, no further text ends with a dash. -/
theorem getLast?_of_fillEach
    {text : Text}
    (dash : (fillEach entries text).getLast? = some '-') :
    text.getLast? = some '-' := by
  induction entries with
  | nil => exact dash
  | cons entry others inductionHypothesis =>
      rw [List.forall_mem_cons] at words
      exact inductionHypothesis words.2 (Text.getLast?_of_replace words.1 dash)

/-- Words never change where a text is cut into parts. -/
theorem parts_fillEach_of_words (text : Text) :
    Grammar.parts (fillEach entries text) = (Grammar.parts text).map (fillEach entries) := by
  refine (parts_fillEach_eq_iff entries text).2 ⟨?_, ?_⟩
  · exact fun part member =>
      dashesApart_fillEach words (Grammar.dashesApart_of_mem_parts member)
  · exact fun part member dash =>
      Grammar.getLast?_of_mem_dropLast_parts member (getLast?_of_fillEach words dash)

end Words

/-! ## Shapes -/

/-- Filling in keeps the shape of a blueprint but for three things that an argument can bring:
the end of the scheme, a semicolon, and a dash that stands next to another dash.  An argument
that is a word never moves the place where a class is cut into parts. -/
theorem shape_of_substitute (blueprint : Text) (arguments : List Text) :
    (isClass (substitute ⟨blueprint⟩ arguments) = true ↔
      isClass blueprint = true ∨
        ∃ front rest missing,
          blueprint = front ++ Grammar.placeholder :: rest ∧
          Grammar.scheme = front ++ missing ∧ missing ≠ [] ∧
          missing <+: substitute ⟨Grammar.placeholder :: rest⟩ arguments) ∧
    (isDeclarations (substitute ⟨blueprint⟩ arguments) = true ↔
      isDeclarations blueprint = true ∨
        ∃ index argument, arguments[index]? = some argument ∧ ';' ∈ argument ∧
          Grammar.placeholder :: Text.ofNat index <:+:
            fillEach (arguments.zipIdx.drop (index + 1)) blueprint) ∧
    ∀ body, blueprint = Grammar.scheme ++ body →
      let fillIn (text : Text) := substitute ⟨text⟩ arguments
      fillIn blueprint = Grammar.scheme ++ fillIn body ∧
      (Grammar.parts (fillIn body) = (Grammar.parts body).map fillIn ↔
        (∀ part ∈ Grammar.parts body, Text.DashesApart (fillIn part)) ∧
          ∀ part ∈ (Grammar.parts body).dropLast, (fillIn part).getLast? ≠ some '-') ∧
      ((∀ argument ∈ arguments, Text.IsWord argument) →
        Grammar.parts (fillIn body) = (Grammar.parts body).map fillIn) := by
  refine ⟨isClass_fillEach_iff arguments.zipIdx blueprint,
    isDeclarations_substitute_iff blueprint arguments, ?_⟩
  rintro body rfl
  refine ⟨fillEach_append_of_not_mem (by decide) arguments.zipIdx body,
    parts_fillEach_eq_iff arguments.zipIdx body, fun words => ?_⟩
  exact parts_fillEach_of_words (forall_mem_zipIdx words) body

/-- A color and a margin, both from arguments. -/
theorem shape_of_substitute_color :
    let arguments := ["red".toList, "x2".toList]
    let body := "c_var-color-§0--m_§1".toList
    (∀ argument ∈ arguments, Text.IsWord argument) ∧
    Grammar.parts (substitute ⟨body⟩ arguments) =
      ((Grammar.parts body).map fun part => substitute ⟨part⟩ arguments) ∧
    Grammar.parts (substitute ⟨body⟩ arguments) =
      ["c_var-color-red".toList, "m_x2".toList] := by
  intro arguments body
  have words : ∀ argument ∈ arguments, Text.IsWord argument := by decide
  have shape := shape_of_substitute (Grammar.scheme ++ body) arguments
  exact ⟨words, (shape.2.2 body rfl).2.2 words, by decide +kernel⟩

/-- An argument that starts with a dash moves the place where a class is cut, one that ends the
scheme makes a class of a value, and one with a semicolon makes declarations of a value. -/
theorem shape_of_substitute_ne :
    ClassName.rawArguments "tpl-c-var_-x".toList = ["-x".toList] ∧
    Grammar.parts (substitute ⟨"c_var-color-§0".toList⟩ ["-x".toList]) =
      ["c_var-color".toList, "x".toList] ∧
    (Grammar.parts "c_var-color-§0".toList).map (fun part =>
      substitute ⟨part⟩ ["-x".toList]) = ["c_var-color--x".toList] ∧
    isClass "§0--c_red".toList = false ∧
    isClass (substitute ⟨"§0--c_red".toList⟩ ["cssf".toList]) = true ∧
    isDeclarations "color: §0".toList = false ∧
    isDeclarations (substitute ⟨"color: §0".toList⟩ ["a;b".toList]) = true := by
  decide +kernel

end Template

namespace ClassName

/-- A template that is a class asks for the parts of its blueprint, each filled in on its own, when
the part that names it gives nothing but words. -/
theorem templateUse_of_words
    {lexicon : Lexicon}
    {part body : Text}
    (known : lexicon.templates.get? (nameAfter Grammar.template part) =
      some ⟨Grammar.scheme ++ body⟩)
    (words : ∀ argument ∈ rawArguments part, Text.IsWord argument) :
    templateUse lexicon part =
      .parts ((Grammar.parts body).map fun nested =>
        Template.substitute ⟨nested⟩ (rawArguments part)) := by
  have inside := Template.parts_fillEach_of_words (Template.forall_mem_zipIdx words) body
  have outside : Template.substitute ⟨Grammar.scheme ++ body⟩ (rawArguments part) =
      Grammar.scheme ++ Template.substitute ⟨body⟩ (rawArguments part) :=
    Template.fillEach_append_of_not_mem (by decide) _ body
  simp only [templateUse, known, outside, Text.after?_append]
  exact congrArg TemplateUse.parts inside

end ClassName

end AtomicCss
