import AtomicCss.Proofs.Lexicon.Filling
import AtomicCss.Proofs.Text.Digits
import Mathlib.Algebra.Order.BigOperators.Group.List
import Mathlib.Algebra.Order.Ring.Nat
import Mathlib.Data.List.GetD

/-!
Contract: blueprints in which every sign of a placeholder starts one.

Owns:
- such blueprints, their placeholders, and one pass that puts a text in for each of them;
- what becomes of one placeholder when arguments are filled in index by index;
- the equality of the two ways of filling in when there are enough arguments, and the exact
  condition under which placeholders without an argument stay in place.

Does not own: the shape of the text that comes out.

## Why one placeholder decides

A placeholder ends at the end of the text or in front of a character that no placeholder has.
Such a character stays where it is whatever is filled in around it, so no later argument meets
the digits of another placeholder, and each placeholder can be looked at alone.
-/

namespace AtomicCss

namespace Template

/-! ## Blueprints -/

/-- A text starts with an index: decimal digits without a zero in front, up to the end of the
text or to a character that is neither a digit of any script nor the sign of a placeholder. -/
def StartsIndex (text : Text) : Prop :=
  Text.digits text = Text.ofNat (Text.digitsValue (Text.digits text)) ∧
    (Text.afterDigits text).head? ≠ some Grammar.placeholder

instance (text : Text) : Decidable (StartsIndex text) :=
  inferInstanceAs (Decidable (_ ∧ _))

/-- Every sign of a placeholder in a text starts one. -/
def Marked : Text → Prop
  | [] => True
  | character :: rest => (character = Grammar.placeholder → StartsIndex rest) ∧ Marked rest

instance decidableMarked : (text : Text) → Decidable (Marked text)
  | [] => .isTrue trivial
  | character :: rest =>
      have : Decidable (Marked rest) := decidableMarked rest
      inferInstanceAs (Decidable ((character = Grammar.placeholder → StartsIndex rest) ∧ _))

/-- The indices of the placeholders of a text, however great. -/
def placeholders : Text → List Nat
  | [] => []
  | character :: rest =>
      if character = Grammar.placeholder then
        Text.digitsValue (Text.digits rest) :: placeholders rest
      else
        placeholders rest

/-- One pass from left to right that puts in a text for every placeholder. -/
def replaceEach (put : Nat → Text) : Text → Text
  | [] => []
  | character :: rest =>
      if character = Grammar.placeholder then
        put (Text.digitsValue (Text.digits rest)) ++ replaceEach put (Text.afterDigits rest)
      else
        character :: replaceEach put rest
termination_by text => text.length
decreasing_by
  · have shorter := (@List.dropWhile_sublist _ rest isDecimalDigit).length_le
    simp only [Text.afterDigits, List.length_cons]
    omega
  · simp

/-- The end of an index. -/
def EndsIndex (text : Text) : Prop :=
  ∀ character, text.head? = some character →
    isDecimalDigit character = false ∧ character ≠ Grammar.placeholder

theorem EndsIndex.endsDigits {text : Text} (ends : EndsIndex text) : Text.EndsDigits text :=
  fun character next => (ends character next).1

theorem placeholder_not_mem_ofNat (index : Nat) : Grammar.placeholder ∉ Text.ofNat index :=
  Text.not_mem_ofNat (by decide) index

section Indices

variable {later : Text} (ends : EndsIndex later) (index : Nat)

theorem isDecimalDigit_of_mem_ofNat :
    ∀ character ∈ Text.ofNat index, isDecimalDigit character = true :=
  fun _ member => isDecimalDigit_of_isDigit (Text.isDigit_of_mem_ofNat member)

include ends

theorem digits_ofNat_append : Text.digits (Text.ofNat index ++ later) = Text.ofNat index :=
  Text.digits_append (isDecimalDigit_of_mem_ofNat index) ends.endsDigits

theorem afterDigits_ofNat_append : Text.afterDigits (Text.ofNat index ++ later) = later :=
  Text.afterDigits_append (isDecimalDigit_of_mem_ofNat index) ends.endsDigits

theorem replaceEach_placeholder (put : Nat → Text) :
    replaceEach put (Grammar.placeholder :: (Text.ofNat index ++ later)) =
      put index ++ replaceEach put later := by
  rw [replaceEach, if_pos rfl, digits_ofNat_append ends, afterDigits_ofNat_append ends,
    Text.digitsValue_ofNat]

theorem placeholders_placeholder :
    placeholders (Grammar.placeholder :: (Text.ofNat index ++ later)) =
      index :: placeholders later := by
  have skip : ∀ front : Text, Grammar.placeholder ∉ front →
      placeholders (front ++ later) = placeholders later := by
    intro front absent
    induction front with
    | nil => rfl
    | cons character front inductionHypothesis =>
        rw [List.mem_cons, not_or] at absent
        rw [List.cons_append, placeholders, if_neg (Ne.symm absent.1),
          inductionHypothesis absent.2]
  rw [placeholders, if_pos rfl, digits_ofNat_append ends, Text.digitsValue_ofNat,
    skip _ (placeholder_not_mem_ofNat index)]

end Indices

theorem Marked.of_append {front rest : Text} (marked : Marked (front ++ rest)) : Marked rest := by
  induction front with
  | nil => exact marked
  | cons character front inductionHypothesis => exact inductionHypothesis marked.2

/-- Induction along a text in which every sign of a placeholder starts one, from placeholder to
placeholder. -/
@[elab_as_elim] theorem Marked.along
    {motive : Text → Prop}
    (nil : motive [])
    (placeholder : ∀ index later, EndsIndex later → motive later →
      motive (Grammar.placeholder :: (Text.ofNat index ++ later)))
    (kept : ∀ character rest, character ≠ Grammar.placeholder → motive rest →
      motive (character :: rest))
    {text : Text}
    (marked : Marked text) :
    motive text := by
  fun_induction replaceEach (fun _ => []) text with
  | case1 => exact nil
  | case2 rest inductionHypothesis =>
      obtain ⟨written, ends⟩ := marked.1 rfl
      have ended : EndsIndex (Text.afterDigits rest) := by
        intro character first
        refine ⟨?_, fun same => ends (same ▸ first)⟩
        have stopped := List.head?_dropWhile_not isDecimalDigit rest
        rw [Text.afterDigits] at first
        simpa [first] using stopped
      rw [← Text.digits_append_afterDigits rest, written]
      refine placeholder _ _ ended (inductionHypothesis ?_)
      have parts := Text.digits_append_afterDigits rest
      rw [← parts] at marked
      exact marked.2.of_append
  | case3 character rest other inductionHypothesis =>
      exact kept character rest other (inductionHypothesis marked.2)

/-! ## One pass -/

section Pass

variable {text : Text} (marked : Marked text)

include marked

/-- One pass asks only for the placeholders. -/
theorem replaceEach_congr
    {put other : Nat → Text}
    (same : ∀ index ∈ placeholders text, put index = other index) :
    replaceEach put text = replaceEach other text := by
  revert same
  refine Marked.along ?nil ?placeholder ?kept marked
  case nil => simp only [replaceEach, implies_true]
  case placeholder =>
      intro index later ends inductionHypothesis same
      rw [placeholders_placeholder ends, List.forall_mem_cons] at same
      rw [replaceEach_placeholder ends, replaceEach_placeholder ends, same.1,
        inductionHypothesis same.2]
  case kept =>
      intro character rest different inductionHypothesis same
      rw [placeholders, if_neg different] at same
      rw [replaceEach, replaceEach, if_neg different, if_neg different, inductionHypothesis same]

/-- The signs of placeholders in what one pass gives come from the texts that it puts in. -/
theorem count_replaceEach (put : Nat → Text) :
    (replaceEach put text).count Grammar.placeholder =
      ((placeholders text).map fun index => (put index).count Grammar.placeholder).sum := by
  refine Marked.along ?nil ?placeholder ?kept marked
  case nil => simp [replaceEach, placeholders]
  case placeholder =>
      intro index later ends inductionHypothesis
      rw [replaceEach_placeholder ends, placeholders_placeholder ends, List.count_append,
        inductionHypothesis, List.map_cons, List.sum_cons]
  case kept =>
      intro character rest different inductionHypothesis
      rw [replaceEach, placeholders, if_neg different, if_neg different,
        List.count_cons_of_ne different, inductionHypothesis]

/-- Placeholders are filled in one by one, each as if it stood alone. -/
theorem fillEach_eq_replaceEach (entries : List (Text × Nat)) :
    fillEach entries text =
      replaceEach
        (fun index => fillEach entries (Grammar.placeholder :: Text.ofNat index)) text := by
  have step {character : Char} (rest : Text) (other : character ≠ Grammar.placeholder) :
      fillEach entries (character :: rest) = character :: fillEach entries rest :=
    have absent : Grammar.placeholder ∉ [character] := by simpa using Ne.symm other
    fillEach_append_of_not_mem absent entries rest
  refine Marked.along ?nil ?placeholder ?kept marked
  case nil => rw [fillEach_nil, replaceEach]
  case placeholder =>
      intro index later ends inductionHypothesis
      rw [replaceEach_placeholder ends, ← inductionHypothesis]
      cases later with
      | nil => rw [fillEach_nil, List.append_nil, List.append_nil]
      | cons character rest =>
          obtain ⟨noDigit, other⟩ := ends character rfl
          have ascii : character.isDigit = false := by
            by_contra digit
            rw [isDecimalDigit_of_isDigit (by simpa using digit)] at noDigit
            cases noDigit
          rw [← List.cons_append, fillEach_append_cons other ascii, step rest other]
  case kept =>
      intro character rest other inductionHypothesis
      rw [replaceEach, if_neg other, step rest other, inductionHypothesis]

end Pass

/-! ## One placeholder -/

/-- A text without placeholders has nothing to fill in. -/
theorem fill_of_not_mem
    {text : Text}
    (absent : Grammar.placeholder ∉ text)
    (index : Nat)
    (argument : Text) :
    fill text index argument = text := by
  have whole : fill (text ++ []) index argument = text ++ fill [] index argument :=
    Text.replace_append_of_not_mem absent []
  rwa [fill, fill, Text.replace_nil, List.append_nil] at whole

/-- An argument takes the front of a placeholder whose index starts with its own. -/
theorem fill_of_prefix
    {front index : Nat}
    (starts : Text.ofNat front <+: Text.ofNat index)
    (argument : Text) :
    fill (Grammar.placeholder :: Text.ofNat index) front argument =
      argument ++ (Text.ofNat index).drop (Text.ofNat front).length := by
  obtain ⟨rest, same⟩ := starts
  have absent : Grammar.placeholder ∉ rest := by
    have digits := placeholder_not_mem_ofNat index
    rw [← same, List.mem_append, not_or] at digits
    exact digits.2
  rw [← same, List.drop_left, fill, Text.replace_found]
  exact congrArg (argument ++ ·) (fill_of_not_mem absent front argument)

theorem fill_of_not_prefix
    {front index : Nat}
    (other : ¬ Text.ofNat front <+: Text.ofNat index)
    (argument : Text) :
    fill (Grammar.placeholder :: Text.ofNat index) front argument =
      Grammar.placeholder :: Text.ofNat index := by
  rw [fill, Text.replace_kept fun _ => other]
  exact congrArg (Grammar.placeholder :: ·)
    (fill_of_not_mem (placeholder_not_mem_ofNat index) front argument)

/-- The last of the entries whose index, in digits, starts another one. -/
def lastFront? (entries : List (Text × Nat)) (index : Nat) : Option (Text × Nat) :=
  (entries.filter fun entry => Text.ofNat entry.2 <+: Text.ofNat index).getLast?

/-- What a placeholder becomes that stands alone: the last entry whose index starts its own
takes its front, and the digits after that stay.  Without such an entry it stays whole. -/
def taken (entries : List (Text × Nat)) (index : Nat) : Text :=
  match lastFront? entries index with
  | none => Grammar.placeholder :: Text.ofNat index
  | some entry => entry.1 ++ (Text.ofNat index).drop (Text.ofNat entry.2).length

theorem lastFront?_cons (entry : Text × Nat) (others : List (Text × Nat)) (index : Nat) :
    lastFront? (entry :: others) index =
      (lastFront? others index).or
        (if Text.ofNat entry.2 <+: Text.ofNat index then some entry else none) := by
  simp only [lastFront?, List.filter_cons, decide_eq_true_eq]
  split
  · rw [List.getLast?_cons]
    cases (others.filter fun entry => Text.ofNat entry.2 <+: Text.ofNat index).getLast? <;> rfl
  · rw [Option.or_none]

section Unmarked

variable
  {entries : List (Text × Nat)}
  (unmarked : ∀ entry ∈ entries, Grammar.placeholder ∉ entry.1)

include unmarked

/-- A placeholder whose front an entry takes is gone. -/
theorem not_mem_taken
    {index : Nat}
    {entry : Text × Nat}
    (found : lastFront? entries index = some entry) :
    Grammar.placeholder ∉ taken entries index := by
  have member := List.mem_of_mem_filter (List.mem_of_getLast? found)
  rw [taken, found, List.mem_append, not_or]
  exact ⟨unmarked entry member,
    fun left => placeholder_not_mem_ofNat index (List.mem_of_mem_drop left)⟩

theorem fillEach_placeholder (index : Nat) :
    fillEach entries (Grammar.placeholder :: Text.ofNat index) = taken entries index := by
  induction entries with
  | nil => rfl
  | cons entry others inductionHypothesis =>
      rw [List.forall_mem_cons] at unmarked
      rw [fillEach_cons, inductionHypothesis unmarked.2]
      cases found : lastFront? others index with
      | some last =>
          rw [fill_of_not_mem (not_mem_taken unmarked.2 found), taken, taken, lastFront?_cons,
            found]
          rfl
      | none =>
          rw [taken, taken, lastFront?_cons, found, Option.none_or]
          by_cases starts : Text.ofNat entry.2 <+: Text.ofNat index
          · rw [if_pos starts]
            exact fill_of_prefix starts entry.1
          · rw [if_neg starts]
            exact fill_of_not_prefix starts entry.1

end Unmarked

/-! ## Arguments -/

/-- What a placeholder becomes when the others do not matter: its argument, or the placeholder
itself when there is none. -/
def argumentOr (arguments : List Text) (index : Nat) : Text :=
  arguments[index]?.getD (Grammar.placeholder :: Text.ofNat index)

theorem lastFront?_of_lt {arguments : List Text} {index : Nat} (inside : index < arguments.length) :
    lastFront? arguments.zipIdx index = some (arguments[index], index) := by
  have cut : arguments.zipIdx =
      (arguments.take index).zipIdx ++
        (arguments[index], index) :: (arguments.drop (index + 1)).zipIdx (index + 1) := by
    conv_lhs => rw [← List.take_append_drop index arguments, List.drop_eq_getElem_cons inside]
    rw [List.zipIdx_append, List.zipIdx_cons, List.length_take_of_le (Nat.le_of_lt inside),
      Nat.zero_add]
  -- A greater index does not start a smaller one.
  have later : ((arguments.drop (index + 1)).zipIdx (index + 1)).filter
      (fun entry => Text.ofNat entry.2 <+: Text.ofNat index) = [] := by
    rw [List.filter_eq_nil_iff]
    intro entry member starts
    have above := List.le_snd_of_mem_zipIdx member
    have below := Text.le_of_ofNat_prefix (of_decide_eq_true starts)
    omega
  rw [lastFront?, cut, List.filter_append, List.filter_cons_of_pos (by simp), later,
    List.getLast?_append, List.getLast?_singleton, Option.some_or]

theorem lastFront?_eq_none_iff {arguments : List Text} {index : Nat} :
    lastFront? arguments.zipIdx index = none ↔
      ∀ front < arguments.length, ¬ Text.ofNat front <+: Text.ofNat index := by
  rw [lastFront?, List.getLast?_eq_none_iff, List.filter_eq_nil_iff]
  simp only [decide_eq_true_eq]
  constructor
  · intro none front inside
    refine none (arguments[front], front) ?_
    rw [List.mem_zipIdx_iff_getElem?]
    exact List.getElem?_eq_getElem inside
  · intro none entry member
    rw [List.mem_zipIdx_iff_getElem?] at member
    exact none entry.2 (List.getElem?_eq_some_iff.1 member).1

/-- A placeholder with an argument becomes the argument. -/
theorem taken_of_lt {arguments : List Text} {index : Nat} (inside : index < arguments.length) :
    taken arguments.zipIdx index = arguments[index] := by
  rw [taken, lastFront?_of_lt inside]
  simp

theorem substitute_eq_taken
    {blueprint : Text}
    {arguments : List Text}
    (marked : Marked blueprint)
    (unmarked : ∀ argument ∈ arguments, Grammar.placeholder ∉ argument) :
    substitute ⟨blueprint⟩ arguments = replaceEach (taken arguments.zipIdx) blueprint := by
  rw [substitute_eq, fillEach_eq_replaceEach marked]
  exact replaceEach_congr marked fun index _ =>
    fillEach_placeholder (forall_mem_zipIdx unmarked) index

/-! ## Enough arguments -/

/-- The placeholders whose indices are words are those that the arity counts. -/
theorem indices_eq_placeholders
    {text : Text}
    (marked : Marked text)
    (words : ∀ index ∈ placeholders text, index < wordLimit) :
    indices text = placeholders text := by
  induction text with
  | nil => rfl
  | cons character rest inductionHypothesis =>
      rw [placeholders] at words
      rw [indices, placeholders]
      by_cases sign : character = Grammar.placeholder
      · rw [if_pos sign, List.forall_mem_cons] at words
        have written := (marked.1 sign).1
        have read : Text.toNatBelow? wordLimit (Text.digits rest) =
            some (Text.digitsValue (Text.digits rest)) := by
          refine if_pos ⟨?_, ?_, words.1⟩
          · rw [written]
            exact Nat.toDigits_ne_nil
          · rw [written, List.all_eq_true]
            exact fun _ => Text.isDigit_of_mem_ofNat
        rw [read, if_pos sign]
        simp only [if_pos sign, inductionHypothesis marked.2 words.2]
      · rw [if_neg sign] at words
        rw [if_neg sign, ← inductionHypothesis marked.2 words]
        split <;> simp [sign]

theorem lt_arity
    {template : Template}
    (marked : Marked template.blueprint)
    (words : ∀ index ∈ placeholders template.blueprint, index < wordLimit - 1)
    {index : Nat}
    (member : index ∈ placeholders template.blueprint) :
    index < template.arity := by
  have same := indices_eq_placeholders marked
    fun index member => Nat.lt_of_lt_of_le (words index member) (Nat.sub_le _ _)
  rw [arity, same]
  cases found : (placeholders template.blueprint).max? with
  | none =>
      rw [List.max?_eq_none_iff] at found
      rw [found] at member
      cases member
  | some greatest =>
      obtain ⟨present, bound⟩ := List.max?_eq_some_iff.1 found
      have below := words _ present
      have above := bound index member
      show index < (greatest + 1) % wordLimit
      rw [Nat.mod_eq_of_lt (by omega)]
      omega

/-- With an argument for every index, filling in index by index is one pass that puts in for each
placeholder its own argument: no argument is looked at again, and no placeholder is left. -/
theorem substitute_eq_replaceEach
    {template : Template}
    {arguments : List Text}
    (marked : Marked template.blueprint)
    (words : ∀ index ∈ placeholders template.blueprint, index < wordLimit - 1)
    (enough : template.arity ≤ arguments.length)
    (unmarked : ∀ argument ∈ arguments, Grammar.placeholder ∉ argument) :
    (∀ index ∈ placeholders template.blueprint, index < arguments.length) ∧
    template.substitute arguments =
      replaceEach (fun index => arguments.getD index []) template.blueprint ∧
    Grammar.placeholder ∉ template.substitute arguments := by
  have inside : ∀ index ∈ placeholders template.blueprint, index < arguments.length :=
    fun index member => Nat.lt_of_lt_of_le (lt_arity marked words member) enough
  have onePass : template.substitute arguments =
      replaceEach (fun index => arguments.getD index []) template.blueprint := by
    refine (substitute_eq_taken marked unmarked).trans (replaceEach_congr marked ?_)
    intro index member
    rw [taken_of_lt (inside index member), List.getD_eq_getElem _ _ (inside index member)]
  refine ⟨inside, onePass, ?_⟩
  rw [onePass, ← List.count_eq_zero, count_replaceEach marked]
  refine List.sum_eq_zero (List.forall_mem_map.2 fun index member => ?_)
  rw [List.getD_eq_getElem _ _ (inside index member), List.count_eq_zero]
  exact unmarked _ (List.getElem_mem _)

/-- Eleven arguments: the last one is not mistaken for the second with a zero after it. -/
theorem substitute_eq_replaceEach_eleven :
    let template : Template := ⟨"x(§1, §10)".toList⟩
    let arguments := List.replicate 10 "a".toList ++ ["b".toList]
    Marked template.blueprint ∧
    (∀ index ∈ placeholders template.blueprint, index < wordLimit - 1) ∧
    template.arity ≤ arguments.length ∧
    (∀ argument ∈ arguments, Grammar.placeholder ∉ argument) ∧
    template.substitute arguments =
      replaceEach (fun index => arguments.getD index []) template.blueprint ∧
    replaceEach (fun index => arguments.getD index []) template.blueprint =
      "x(a, b)".toList := by
  intro template arguments
  have marked : Marked template.blueprint := by decide
  have words : ∀ index ∈ placeholders template.blueprint, index < wordLimit - 1 := by decide
  have enough : template.arity ≤ arguments.length := by decide
  have unmarked : ∀ argument ∈ arguments, Grammar.placeholder ∉ argument := by decide
  have onePass := substitute_eq_replaceEach marked words enough unmarked
  exact ⟨marked, words, enough, unmarked, onePass.2.1, by decide +kernel⟩

/-! ## Missing arguments -/

section Missing

variable
  {blueprint : Text}
  {arguments : List Text}
  (marked : Marked blueprint)
  (unmarked : ∀ argument ∈ arguments, Grammar.placeholder ∉ argument)

theorem argumentOr_of_lt {index : Nat} (inside : index < arguments.length) :
    argumentOr arguments index = arguments[index] := by
  rw [argumentOr, List.getElem?_eq_getElem inside, Option.getD_some]

theorem argumentOr_of_le {index : Nat} (beyond : arguments.length ≤ index) :
    argumentOr arguments index = Grammar.placeholder :: Text.ofNat index := by
  rw [argumentOr, List.getElem?_eq_none beyond, Option.getD_none]

theorem count_argumentOr_of_le {index : Nat} (beyond : arguments.length ≤ index) :
    (argumentOr arguments index).count Grammar.placeholder = 1 := by
  rw [argumentOr_of_le beyond, List.count_cons_self,
    List.count_eq_zero.2 (placeholder_not_mem_ofNat index)]

include unmarked

/-- A placeholder whose front is taken is gone. -/
theorem count_taken_of_front
    {front index : Nat}
    (inside : front < arguments.length)
    (starts : Text.ofNat front <+: Text.ofNat index) :
    (taken arguments.zipIdx index).count Grammar.placeholder = 0 := by
  cases found : lastFront? arguments.zipIdx index with
  | none => exact absurd starts (lastFront?_eq_none_iff.1 found front inside)
  | some entry => exact List.count_eq_zero.2 (not_mem_taken (forall_mem_zipIdx unmarked) found)

/-- No placeholder is left that has an argument, and none is left more than once. -/
theorem count_taken_le (index : Nat) :
    (taken arguments.zipIdx index).count Grammar.placeholder ≤
      (argumentOr arguments index).count Grammar.placeholder := by
  rcases Nat.lt_or_ge index arguments.length with inside | beyond
  · rw [taken_of_lt inside, argumentOr_of_lt inside]
  · rw [count_argumentOr_of_le beyond]
    by_cases kept : ∀ front < arguments.length, ¬ Text.ofNat front <+: Text.ofNat index
    · rw [taken, lastFront?_eq_none_iff.2 kept, ← argumentOr_of_le beyond,
        count_argumentOr_of_le beyond]
    · push Not at kept
      obtain ⟨front, inside, starts⟩ := kept
      rw [count_taken_of_front unmarked inside starts]
      exact Nat.zero_le 1

include marked

/-- Placeholders with an argument become the argument and the others stay in place exactly when
no index without an argument starts with the digits of an index that has one. -/
theorem substitute_eq_kept_iff :
    substitute ⟨blueprint⟩ arguments = replaceEach (taken arguments.zipIdx) blueprint ∧
    (substitute ⟨blueprint⟩ arguments = replaceEach (argumentOr arguments) blueprint ↔
      ∀ index ∈ placeholders blueprint, arguments.length ≤ index →
        ∀ front < arguments.length, ¬ Text.ofNat front <+: Text.ofNat index) := by
  have onePass := substitute_eq_taken marked unmarked
  refine ⟨onePass, ?_⟩
  rw [onePass]
  constructor
  · -- A placeholder that is gone makes fewer signs than there should be.
    intro same index member beyond front inside starts
    have fewer :
        ((placeholders blueprint).map fun index =>
          (taken arguments.zipIdx index).count Grammar.placeholder).sum <
        ((placeholders blueprint).map fun index =>
          (argumentOr arguments index).count Grammar.placeholder).sum := by
      refine List.sum_lt_sum _ _ (fun index _ => count_taken_le unmarked index)
        ⟨index, member, ?_⟩
      rw [count_taken_of_front unmarked inside starts, count_argumentOr_of_le beyond]
      exact Nat.one_pos
    rw [← count_replaceEach marked, ← count_replaceEach marked, same] at fewer
    exact Nat.lt_irrefl _ fewer
  · intro apart
    refine replaceEach_congr marked fun index member => ?_
    rcases Nat.lt_or_ge index arguments.length with inside | beyond
    · rw [taken_of_lt inside, argumentOr_of_lt inside]
    · rw [taken, lastFront?_eq_none_iff.2 (apart index member beyond), argumentOr_of_le beyond]

end Missing

/-- The third placeholder has no argument, and neither `0` nor `1` starts its index. -/
theorem substitute_eq_kept_iff_third :
    let blueprint := "a(§0, §1, §2)".toList
    let arguments := ["x".toList, "y".toList]
    Marked blueprint ∧
    (∀ argument ∈ arguments, Grammar.placeholder ∉ argument) ∧
    substitute ⟨blueprint⟩ arguments = replaceEach (argumentOr arguments) blueprint ∧
    replaceEach (argumentOr arguments) blueprint = "a(x, y, §2)".toList := by
  have marked : Marked "a(§0, §1, §2)".toList := by decide
  have unmarked : ∀ argument ∈ ["x".toList, "y".toList], Grammar.placeholder ∉ argument := by
    decide
  have apart : ∀ index ∈ placeholders "a(§0, §1, §2)".toList, 2 ≤ index →
      ∀ front < 2, ¬ Text.ofNat front <+: Text.ofNat index := by decide
  have written : replaceEach (argumentOr ["x".toList, "y".toList]) "a(§0, §1, §2)".toList =
      "a(x, y, §2)".toList := by decide +kernel
  exact ⟨marked, unmarked, (substitute_eq_kept_iff marked unmarked).2.2 apart, written⟩

/-- The eleventh placeholder has no argument, and the second argument takes its front. -/
theorem substitute_ne_kept :
    let blueprint := "§10 §1".toList
    let arguments := ["a".toList, "b".toList]
    Marked blueprint ∧
    arguments.length < arity ⟨blueprint⟩ ∧
    (∀ argument ∈ arguments, Grammar.placeholder ∉ argument) ∧
    replaceEach (argumentOr arguments) blueprint = "§10 b".toList ∧
    substitute ⟨blueprint⟩ arguments = "b0 b".toList := by
  decide +kernel

end Template

end AtomicCss
