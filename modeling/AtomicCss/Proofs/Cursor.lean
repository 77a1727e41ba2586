import AtomicCss.Proofs.Text.Splitting

/-!
Contract: a cursor hands out every token of its list exactly once.

Owns:
- the calls on a cursor, runs of them, and which runs are answered;
- where a call ends, read off the whole list of tokens and the place that it starts at;
- the place of a cursor in a list of tokens, which every call keeps;
- the main statement about every run from the front of a list.

Does not own: how many tokens a value asks for, or what they mean.

## Places

A cursor holds the tokens that are left and no others, so it cannot look back.  What a call does
is told here by places in the whole list, of which the cursor knows only the number.
-/

namespace AtomicCss.Cursor

variable {tokens : List Text} {cursor : Cursor}

/-! ## Runs -/

/-- What can be asked of a cursor. -/
inductive Call where
  | next
  | take (count : Nat)
  | takeRest
  | takeThrough (sentinel : Text)
  | takeName (isReserved : Text → Bool)

/-- The tokens that a call hands out, and the cursor after it.  A `take` has no answer when the
place that it leads to cannot be named. -/
def perform? (cursor : Cursor) : Call → Option (List Text × Cursor)
  | .next =>
      match cursor.next? with
      | none => some ([], cursor)
      | some (token, following) => some ([token], following)
  | .take count => if cursor.Addressable count then some (cursor.take count) else none
  | .takeRest => some cursor.takeRest
  | .takeThrough sentinel =>
      let taken := cursor.takeThrough sentinel
      some (taken.1.1, taken.2)
  | .takeName isReserved => some (cursor.takeName isReserved)

/-- What calls that are made one after the other hand out, and the cursor after them. -/
def run? (cursor : Cursor) : List Call → Option (List (List Text) × Cursor)
  | [] => some ([], cursor)
  | call :: others =>
      (cursor.perform? call).bind fun step =>
        (step.2.run? others).map fun rest => (step.1 :: rest.1, rest.2)

/-- Every `take` among the calls leads to a place that can be named. -/
def Addresses (cursor : Cursor) : List Call → Prop
  | [] => True
  | call :: others =>
      (∀ count, call = .take count → cursor.Addressable count) ∧
        ∀ step, cursor.perform? call = some step → step.2.Addresses others

/-! ## Where calls end -/

/-- The first token of a kind at a place or after it stands at an index. -/
structure FirstFrom
    (tokens : List Text)
    (kind : Text → Bool)
    (start index : Nat) : Prop where
  start_le : start ≤ index
  stands : ∃ token, tokens[index]? = some token ∧ kind token = true
  other :
    ∀ earlier token,
      start ≤ earlier → earlier < index → tokens[earlier]? = some token → kind token = false

/-- The place that a call leads to from another one.  A name takes the token that it starts at
whatever it is, so that only those after it can end it. -/
inductive EndsAt (tokens : List Text) (start : Nat) : Call → Nat → Prop where
  | next : EndsAt tokens start .next (min (start + 1) tokens.length)
  | take (count : Nat) : EndsAt tokens start (.take count) (min (start + count) tokens.length)
  | takeRest : EndsAt tokens start .takeRest tokens.length
  | throughSentinel
      {sentinel : Text}
      {index : Nat}
      (found : FirstFrom tokens (· = sentinel) start index) :
      EndsAt tokens start (.takeThrough sentinel) (index + 1)
  | withoutSentinel
      {sentinel : Text}
      (absent : ∀ token ∈ tokens.drop start, token ≠ sentinel) :
      EndsAt tokens start (.takeThrough sentinel) tokens.length
  | beforeReserved
      {isReserved : Text → Bool}
      {index : Nat}
      (found : FirstFrom tokens isReserved (start + 1) index) :
      EndsAt tokens start (.takeName isReserved) index
  | withoutReserved
      {isReserved : Text → Bool}
      (absent : ∀ token ∈ tokens.drop (start + 1), isReserved token = false) :
      EndsAt tokens start (.takeName isReserved) tokens.length

section Ends

variable {kind : Text → Bool} {start : Nat}

theorem firstFrom_of_findIdx?
    {offset : Nat}
    (found : (tokens.drop start).findIdx? kind = some offset) :
    FirstFrom tokens kind start (start + offset) := by
  obtain ⟨inside, fits, before⟩ := List.findIdx?_eq_some_iff_getElem.1 found
  refine ⟨Nat.le_add_right start offset, ⟨_, ?_, fits⟩, ?_⟩
  · rw [← List.getElem?_drop, List.getElem?_eq_getElem inside]
  · intro earlier token late early there
    obtain ⟨distance, rfl⟩ := Nat.exists_eq_add_of_le late
    rw [← List.getElem?_drop] at there
    obtain ⟨_, rfl⟩ := List.getElem?_eq_some_iff.1 there
    simpa using before distance (Nat.lt_of_add_lt_add_left early)

namespace FirstFrom

theorem lt_length
    {index : Nat}
    (first : FirstFrom tokens kind start index) :
    index < tokens.length := by
  obtain ⟨token, there, _⟩ := first.stands
  exact (List.getElem?_eq_some_iff.1 there).1

theorem not_absent
    {index : Nat}
    (first : FirstFrom tokens kind start index) :
    ¬ ∀ token ∈ tokens.drop start, kind token = false := by
  intro absent
  obtain ⟨token, there, fits⟩ := first.stands
  have member : token ∈ tokens.drop start := by
    refine List.mem_iff_getElem?.2 ⟨index - start, ?_⟩
    rw [List.getElem?_drop, Nat.add_sub_cancel' first.start_le, there]
  rw [absent token member] at fits
  cases fits

theorem unique
    {first second : Nat}
    (one : FirstFrom tokens kind start first)
    (two : FirstFrom tokens kind start second) :
    first = second := by
  obtain ⟨token, there, fits⟩ := one.stands
  obtain ⟨other, here, agrees⟩ := two.stands
  rcases Nat.lt_trichotomy first second with earlier | same | later
  · rw [two.other first token one.start_le earlier there] at fits
    cases fits
  · exact same
  · rw [one.other second other two.start_le later here] at agrees
    cases agrees

end FirstFrom

/-- A call leads to one place only. -/
theorem EndsAt.unique
    {call : Call}
    {first second : Nat}
    (one : EndsAt tokens start call first)
    (two : EndsAt tokens start call second) :
    first = second := by
  cases one with
  | next | take | takeRest =>
      cases two
      rfl
  | throughSentinel found =>
      cases two with
      | throughSentinel again => rw [found.unique again]
      | withoutSentinel absent =>
          exact absurd (fun token member => decide_eq_false (absent token member)) found.not_absent
  | withoutSentinel absent =>
      cases two with
      | throughSentinel found =>
          exact absurd (fun token member => decide_eq_false (absent token member)) found.not_absent
      | withoutSentinel _ => rfl
  | beforeReserved found =>
      cases two with
      | beforeReserved again => exact found.unique again
      | withoutReserved absent => exact absurd absent found.not_absent
  | withoutReserved absent =>
      cases two with
      | beforeReserved found => exact absurd absent found.not_absent
      | withoutReserved _ => rfl

end Ends

/-! ## Tokens from the front -/

/-- The number of tokens that a call asks for. -/
def asked (cursor : Cursor) : Call → Nat
  | .next => 1
  | .take count => count
  | .takeRest => cursor.remaining
  | .takeThrough sentinel => ((cursor.find? sentinel).map (· + 1)).getD cursor.remaining
  | .takeName isReserved => (nameTokens isReserved cursor.rest).length

/-- Every call takes tokens from the front. -/
theorem eq_take_of_perform?
    {call : Call}
    {step : List Text × Cursor}
    (answered : cursor.perform? call = some step) :
    step = cursor.take (cursor.asked call) := by
  cases call with
  | next =>
      obtain ⟨position, rest⟩ := cursor
      cases rest with
      | nil | cons token rest =>
          cases answered
          simp [take, asked]
  | take count =>
      simp only [perform?, Option.ite_none_right_eq_some, Option.some.injEq] at answered
      exact answered.2.symm
  | takeRest | takeName isReserved =>
      cases answered
      rfl
  | takeThrough sentinel =>
      cases answered
      unfold takeThrough
      cases found : cursor.find? sentinel with
      | none | some offset => simp [asked, found, takeRest]

theorem exists_perform?
    {call : Call}
    (addressed : ∀ count, call = .take count → cursor.Addressable count) :
    ∃ step, cursor.perform? call = some step := by
  cases call with
  | next =>
      obtain ⟨position, rest⟩ := cursor
      cases rest with
      | nil | cons token rest => exact ⟨_, rfl⟩
  | take count => exact ⟨_, if_pos (addressed count rfl)⟩
  | takeRest | takeThrough sentinel | takeName isReserved => exact ⟨_, rfl⟩

/-- A name ends before the first reserved token after the one that it starts at. -/
theorem length_nameTokens_cons (isReserved : Text → Bool) (first : Text) (others : List Text) :
    (nameTokens isReserved (first :: others)).length =
      1 + (others.findIdx? isReserved).getD others.length := by
  have inside : others.findIdx isReserved ≤ others.length := List.findIdx_le_length
  rw [nameTokens, List.length_cons, List.takeWhile_eq_take_findIdx_not, List.length_take]
  simp only [Bool.not_not]
  rw [Nat.min_eq_left inside, List.findIdx_eq_getD_findIdx?, Nat.add_comm]

/-! ## The place of a cursor -/

/-- The cursor stands at its position in the tokens: what is left are those from there on. -/
structure StandsIn (tokens : List Text) (cursor : Cursor) : Prop where
  position_le : cursor.position ≤ tokens.length
  rest_eq : cursor.rest = tokens.drop cursor.position

namespace StandsIn

theorem ofTokens (tokens : List Text) : StandsIn tokens (ofTokens tokens) :=
  ⟨Nat.zero_le _, rfl⟩

theorem position_add_length (stands : StandsIn tokens cursor) :
    cursor.position + cursor.rest.length = tokens.length := by
  rw [stands.rest_eq, List.length_drop, Nat.add_sub_cancel' stands.position_le]

theorem position_take (stands : StandsIn tokens cursor) (count : Nat) :
    (cursor.take count).2.position = min (cursor.position + count) tokens.length := by
  rw [← stands.position_add_length, Nat.add_min_add_left]
  rfl

theorem take (stands : StandsIn tokens cursor) (count : Nat) :
    StandsIn tokens (cursor.take count).2 := by
  have moved := stands.position_take count
  refine ⟨moved ▸ Nat.min_le_right _ _, ?_⟩
  change cursor.rest.drop count = _
  rw [moved, stands.rest_eq, List.drop_drop]
  rcases Nat.le_total (cursor.position + count) tokens.length with inside | beyond
  · rw [Nat.min_eq_left inside]
  · rw [Nat.min_eq_right beyond, List.drop_length, List.drop_of_length_le beyond]

/-- All tokens that are left lead to the end. -/
theorem min_position_add_length (stands : StandsIn tokens cursor) :
    min (cursor.position + cursor.rest.length) tokens.length = tokens.length := by
  rw [stands.position_add_length, Nat.min_self]

theorem endsAt_takeThrough (stands : StandsIn tokens cursor) (sentinel : Text) :
    EndsAt tokens cursor.position (.takeThrough sentinel)
      (min (cursor.position + cursor.asked (.takeThrough sentinel)) tokens.length) := by
  rw [asked, find?, remaining]
  cases found : cursor.rest.findIdx? (· = sentinel) with
  | none =>
      rw [Option.map_none, Option.getD_none, stands.min_position_add_length]
      rw [stands.rest_eq, List.findIdx?_eq_none_iff] at found
      exact .withoutSentinel fun token member => of_decide_eq_false (found token member)
  | some offset =>
      rw [stands.rest_eq] at found
      have first := firstFrom_of_findIdx? found
      rw [Option.map_some, Option.getD_some, ← Nat.add_assoc, Nat.min_eq_left first.lt_length]
      exact .throughSentinel first

/-- A name asks for no token when none is left, and else for those before the reserved one. -/
theorem endsAt_takeName (stands : StandsIn tokens cursor) (isReserved : Text → Bool) :
    EndsAt tokens cursor.position (.takeName isReserved)
      (min (cursor.position + cursor.asked (.takeName isReserved)) tokens.length) := by
  have whole := stands.min_position_add_length
  have after : tokens.drop (cursor.position + 1) = cursor.rest.tail := by
    rw [← List.drop_drop, ← stands.rest_eq, List.drop_one]
  rw [asked]
  cases left : cursor.rest with
  | nil =>
      rw [left] at after whole
      rw [nameTokens, whole]
      exact .withoutReserved (by simp [after])
  | cons named others =>
      rw [left] at after whole
      rw [length_nameTokens_cons]
      cases found : others.findIdx? isReserved with
      | none =>
          rw [Option.getD_none, Nat.add_comm 1, ← List.length_cons, whole]
          rw [List.findIdx?_eq_none_iff] at found
          exact .withoutReserved (by rwa [after])
      | some offset =>
          have first : FirstFrom tokens isReserved (cursor.position + 1) _ :=
            firstFrom_of_findIdx? (by rwa [after])
          rw [Option.getD_some, ← Nat.add_assoc, Nat.min_eq_left (Nat.le_of_lt first.lt_length)]
          exact .beforeReserved first

/-- A call ends at the place that as many tokens as it asks for lead to. -/
theorem endsAt_asked (stands : StandsIn tokens cursor) (call : Call) :
    EndsAt tokens cursor.position call (cursor.take (cursor.asked call)).2.position := by
  rw [stands.position_take]
  cases call with
  | next => exact .next
  | take count => exact .take count
  | takeRest =>
      rw [asked, remaining, stands.min_position_add_length]
      exact .takeRest
  | takeThrough sentinel => exact stands.endsAt_takeThrough sentinel
  | takeName isReserved => exact stands.endsAt_takeName isReserved

/-- What a call hands out stands in front of what it leaves. -/
theorem perform
    {call : Call}
    {step : List Text × Cursor}
    (stands : StandsIn tokens cursor)
    (answered : cursor.perform? call = some step) :
    StandsIn tokens step.2 ∧ step.1 ++ step.2.rest = cursor.rest := by
  obtain rfl := eq_take_of_perform? answered
  exact ⟨stands.take _, take_append_rest cursor _⟩

theorem position_eq_iff
    {call : Call}
    {step : List Text × Cursor}
    (stands : StandsIn tokens cursor)
    (answered : cursor.perform? call = some step)
    (stop : Nat) :
    step.2.position = stop ↔ EndsAt tokens cursor.position call stop := by
  obtain rfl := eq_take_of_perform? answered
  have ends := stands.endsAt_asked call
  exact ⟨fun same => same ▸ ends, ends.unique⟩

/-- Every call keeps the place and hands out tokens from the front, so a run does. -/
theorem run
    {calls : List Call}
    (stands : StandsIn tokens cursor)
    (addressed : cursor.Addresses calls) :
    ∃ handed last,
      cursor.run? calls = some (handed, last) ∧
        StandsIn tokens last ∧ handed.flatten ++ last.rest = cursor.rest := by
  induction calls generalizing cursor with
  | nil => exact ⟨[], cursor, rfl, stands, rfl⟩
  | cons call others inductionHypothesis =>
      obtain ⟨here, later⟩ := addressed
      obtain ⟨step, answered⟩ := exists_perform? here
      obtain ⟨placed, front⟩ := stands.perform answered
      obtain ⟨further, last, ran, ends, rest⟩ := inductionHypothesis placed (later step answered)
      refine ⟨step.1 :: further, last, ?_, ends, ?_⟩
      · rw [run?, answered, Option.bind_some, ran, Option.map_some]
      · rw [List.flatten_cons, List.append_assoc, rest, front]

end StandsIn

theorem takeName_ne_nil (isReserved : Text → Bool) (left : cursor.rest ≠ []) :
    (cursor.takeName isReserved).1 ≠ [] := by
  obtain ⟨first, others, written⟩ := List.exists_cons_of_ne_nil left
  simp [takeName, take, written, nameTokens]

/-! ## Every run -/

/-- The tokens of a text have no separator in them, and joining them gives the text back.  And
however calls follow each other from the front of a list of tokens, as long as every `take` leads
to a place that can be named: all of them are answered, the cursor does not pass the end, and what
was handed out and what is left make up the list.  From where it then stands every call that is
answered leads to the one place that it can end at, and a name takes at least one token if any is
left. -/
theorem tokens_handed_out_once
    (separator : Char)
    (text : Text)
    {tokens : List Text}
    {calls : List Call}
    (addressed : (ofTokens tokens).Addresses calls) :
    (∀ token ∈ (ofText separator text).rest, separator ∉ token) ∧
    Text.join separator (ofText separator text).rest = text ∧
    ∃ handed cursor,
      (ofTokens tokens).run? calls = some (handed, cursor) ∧
      cursor.position ≤ tokens.length ∧
      cursor.rest = tokens.drop cursor.position ∧
      handed.flatten ++ cursor.rest = tokens ∧
      (∀ call step stop,
        cursor.perform? call = some step →
          (step.2.position = stop ↔ EndsAt tokens cursor.position call stop)) ∧
      ∀ isReserved, cursor.rest ≠ [] → (cursor.takeName isReserved).1 ≠ [] := by
  refine ⟨fun token => not_mem_of_mem_tokens, join_tokens separator text, ?_⟩
  obtain ⟨handed, cursor, ran, stands, whole⟩ := (StandsIn.ofTokens tokens).run addressed
  exact ⟨handed, cursor, ran, stands.position_le, stands.rest_eq, whole,
    fun call step stop answered => stands.position_eq_iff answered stop,
    fun isReserved => takeName_ne_nil isReserved⟩

/-- The arguments of a function are read through `close`, and the name after them ends before
`pc`. -/
theorem tokens_handed_out_once_function :
    let text := "fn-calc_1px_close_main_nav_pc_hover".toList
    let tokens := Cursor.tokens '_' text
    let calls := [.take 1, .takeThrough Grammar.close]
    (ofTokens tokens).Addresses calls ∧
      Text.join '_' tokens = text ∧
      ["fn-calc", "1px", "close"].map String.toList ++ tokens.drop 3 = tokens ∧
      EndsAt tokens 3 (.takeName (· = "pc".toList)) 5 := by
  intro text tokens calls
  have addressed : (ofTokens tokens).Addresses calls := by
    refine ⟨?_, fun _ _ => ⟨?_, fun _ _ => trivial⟩⟩
    · rintro count ⟨⟩
      exact Or.inr (by decide)
    · rintro count ⟨⟩
  obtain ⟨_, joined, handed, cursor, ran, _, _, whole, ends, _⟩ :=
    tokens_handed_out_once '_' text addressed
  have read : (ofTokens tokens).run? calls =
      some ([["fn-calc".toList], ["1px".toList, "close".toList]],
        ⟨3, ["main", "nav", "pc", "hover"].map String.toList⟩) := by
    rfl
  obtain ⟨rfl, rfl⟩ := Prod.mk.inj (Option.some.inj (ran.symm.trans read))
  exact ⟨addressed, joined, whole, (ends (.takeName (· = "pc".toList)) _ 5 rfl).1 rfl⟩

end AtomicCss.Cursor
