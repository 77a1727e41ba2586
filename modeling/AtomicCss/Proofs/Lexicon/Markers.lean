import AtomicCss.Lexicon.Marker
import AtomicCss.Proofs.Lexicon.Longest
import AtomicCss.Proofs.OrderedMap
import AtomicCss.Proofs.Text.Splitting

/-!
Contract: what a registry of markers answers depends on the last registration of each marker alone.

Owns:
- the kind that a sequence of registrations binds a marker to;
- the markers of a token that a registry can answer with, and that it answers with the longest;
- that the order of registrations makes no difference but for which is the last of a marker.

Does not own: what a token with a marker resolves to.
-/

namespace AtomicCss.Registry

/-! ## Registrations -/

/-- The registry after a sequence of registrations. -/
def ofCalls (calls : List (Text × MarkerKind)) : Registry :=
  calls.foldl (fun registry call => registry.register call.1 call.2) empty

/-- The last registration of a marker binds it to a kind. -/
def BindsLast (calls : List (Text × MarkerKind)) (marker : Text) (kind : MarkerKind) : Prop :=
  ∃ earlier later, calls = earlier ++ (marker, kind) :: later ∧ marker ∉ later.map Prod.fst

theorem not_bindsLast_nil {marker : Text} {kind : MarkerKind} : ¬ BindsLast [] marker kind := by
  rintro ⟨earlier, later, none, -⟩
  cases earlier <;> cases none

/-- A further registration binds its marker, and no other one anew. -/
theorem bindsLast_append_singleton
    {calls : List (Text × MarkerKind)}
    {call : Text × MarkerKind}
    {marker : Text}
    {kind : MarkerKind} :
    BindsLast (calls ++ [call]) marker kind ↔
      if call.1 = marker then call.2 = kind else BindsLast calls marker kind := by
  constructor
  · rintro ⟨earlier, later, same, last⟩
    rcases List.eq_nil_or_concat' later with rfl | ⟨later, final, rfl⟩
    · obtain ⟨-, final⟩ := List.append_inj' same rfl
      cases final
      exact (if_pos rfl).mpr rfl
    · rw [← List.cons_append, ← List.append_assoc] at same
      obtain ⟨rfl, final⟩ := List.append_inj' same rfl
      cases final
      simp only [List.map_append, List.map_cons, List.map_nil, List.mem_append,
        List.mem_singleton, not_or] at last
      rw [if_neg fun again => last.2 again.symm]
      exact ⟨earlier, later, rfl, last.1⟩
  · intro bound
    by_cases same : call.1 = marker
    · rw [if_pos same] at bound
      subst same bound
      exact ⟨calls, [], rfl, List.not_mem_nil⟩
    · rw [if_neg same] at bound
      obtain ⟨earlier, later, rfl, last⟩ := bound
      refine ⟨earlier, later ++ [call], by simp, ?_⟩
      simp only [List.map_append, List.map_cons, List.map_nil, List.mem_append,
        List.mem_singleton, not_or]
      exact ⟨last, fun again => same again.symm⟩

theorem ofCalls_append_singleton (calls : List (Text × MarkerKind)) (call : Text × MarkerKind) :
    ofCalls (calls ++ [call]) = (ofCalls calls).register call.1 call.2 := by
  rw [ofCalls, List.foldl_append]
  rfl

theorem bindings_ofCalls (calls : List (Text × MarkerKind)) :
    (ofCalls calls).bindings = OrderedMap.ofList calls := by
  induction calls using List.reverseRecOn with
  | nil => rfl
  | append_singleton calls call inductionHypothesis =>
      have last : OrderedMap.ofList (calls ++ [call]) =
          (OrderedMap.ofList calls).insert call.1 call.2 :=
        OrderedMap.insertAll_append OrderedMap.empty calls [call]
      rw [ofCalls_append_singleton, last, ← inductionHypothesis]
      rfl

/-- Every registry comes from registrations, such as those of its bindings in their order. -/
theorem ofCalls_entries (registry : Registry) : ofCalls registry.bindings.entries = registry := by
  have entries := OrderedMap.entries_ofList_of_nodup registry.bindings.distinct
  rw [← bindings_ofCalls] at entries
  have same (other : Registry) (equal : other.bindings.entries = registry.bindings.entries) :
      other = registry := by
    obtain ⟨⟨_, _⟩⟩ := other
    obtain ⟨⟨_, _⟩⟩ := registry
    cases equal
    rfl
  exact same _ entries

/-- By induction on the registrations, as each binds its marker and leaves all others alone. -/
theorem get?_ofCalls {calls : List (Text × MarkerKind)} {marker : Text} {kind : MarkerKind} :
    (ofCalls calls).bindings.get? marker = some kind ↔ BindsLast calls marker kind := by
  induction calls using List.reverseRecOn with
  | nil =>
      have unbound : (ofCalls []).bindings.get? marker = none := rfl
      rw [unbound]
      exact iff_of_false (by simp) not_bindsLast_nil
  | append_singleton calls call inductionHypothesis =>
      have bound : (ofCalls (calls ++ [call])).bindings.get? marker =
          if call.1 = marker then some call.2 else (ofCalls calls).bindings.get? marker := by
        rw [ofCalls_append_singleton]
        exact OrderedMap.get?_insert _ _ _ _
      rw [bound, bindsLast_append_singleton]
      split
      · exact Option.some_inj
      · exact inductionHypothesis

theorem mem_entries_ofCalls
    {calls : List (Text × MarkerKind)}
    {marker : Text}
    {kind : MarkerKind} :
    (marker, kind) ∈ (ofCalls calls).bindings.entries ↔ BindsLast calls marker kind := by
  rw [← OrderedMap.get?_eq_some_iff, get?_ofCalls]

theorem mem_keys_ofCalls {calls : List (Text × MarkerKind)} {marker : Text} :
    marker ∈ (ofCalls calls).bindings.keys ↔ ∃ kind, BindsLast calls marker kind := by
  simp only [OrderedMap.mem_keys_iff, mem_entries_ofCalls]

/-! ## Answers -/

/-- A marker that a registry can answer with: it starts the token, and its last registration is
not of the excluded kind. -/
def Eligible
    (calls : List (Text × MarkerKind))
    (excluded : Option MarkerKind)
    (token marker : Text) : Prop :=
  marker <+: token ∧ ∃ kind, BindsLast calls marker kind ∧ some kind ≠ excluded

variable
  {calls : List (Text × MarkerKind)}
  {excluded : Option MarkerKind}
  {token marker : Text}
  {kind : MarkerKind}

theorem mem_candidates_ofCalls :
    (marker, kind) ∈ (ofCalls calls).candidates excluded token ↔
      BindsLast calls marker kind ∧ some kind ≠ excluded ∧ marker <+: token := by
  rw [candidates, List.mem_filter, mem_entries_ofCalls, Bool.and_eq_true, decide_eq_true_eq,
    Text.startsWith_iff_prefix]

theorem exists_candidate_iff :
    (∃ entry ∈ (ofCalls calls).candidates excluded token, entry.1 = marker) ↔
      Eligible calls excluded token marker := by
  constructor
  · rintro ⟨⟨_, kind⟩, member, rfl⟩
    obtain ⟨bound, allowed, starts⟩ := mem_candidates_ofCalls.1 member
    exact ⟨starts, kind, bound, allowed⟩
  · rintro ⟨starts, kind, bound, allowed⟩
    exact ⟨(marker, kind), mem_candidates_ofCalls.2 ⟨bound, allowed, starts⟩, rfl⟩

/-- A marker has one last registration. -/
theorem BindsLast.unique
    {other : MarkerKind}
    (bound : BindsLast calls marker kind)
    (again : BindsLast calls marker other) :
    kind = other := by
  rw [← get?_ofCalls] at bound again
  rw [bound] at again
  exact Option.some.inj again

theorem markerAt?_ofCalls_eq_some_iff :
    (ofCalls calls).markerAt? excluded token = some (marker, kind) ↔
      IsLongest (Eligible calls excluded token) marker ∧ BindsLast calls marker kind := by
  have starts : ∀ entry ∈ (ofCalls calls).candidates excluded token, entry.1 <+: token := by
    rintro ⟨other, otherKind⟩ member
    exact (mem_candidates_ofCalls.1 member).2.2
  have apart : ∀ one ∈ (ofCalls calls).candidates excluded token,
      ∀ other ∈ (ofCalls calls).candidates excluded token, one.1 = other.1 → one = other := by
    rintro ⟨_, oneKind⟩ left ⟨_, otherKind⟩ right rfl
    have bound := (mem_candidates_ofCalls.1 left).1
    rw [bound.unique (mem_candidates_ofCalls.1 right).1]
  rw [markerAt?, longest?_eq_some_iff starts apart]
  simp only [exists_candidate_iff]
  constructor
  · rintro ⟨member, longest⟩
    exact ⟨longest, (mem_candidates_ofCalls.1 member).1⟩
  · rintro ⟨longest, bound⟩
    obtain ⟨front, other, otherBound, allowed⟩ := longest.of_kind
    rw [otherBound.unique bound] at allowed
    exact ⟨mem_candidates_ofCalls.2 ⟨bound, allowed, front⟩, longest⟩

theorem markerAt?_ofCalls_eq_none_iff :
    (ofCalls calls).markerAt? excluded token = none ↔
      ∀ marker, ¬ Eligible calls excluded token marker := by
  rw [markerAt?, longest?_eq_none_iff_no_text]
  simp only [exists_candidate_iff]

/-! ## Order -/

section Order

variable
  {others : List (Text × MarkerKind)}
  (same : ∀ marker kind, BindsLast calls marker kind ↔ BindsLast others marker kind)

include same

theorem perm_bindings_ofCalls :
    (ofCalls calls).bindings.entries.Perm (ofCalls others).bindings.entries := by
  apply OrderedMap.perm_entries_of_get?
  intro marker
  apply Option.ext
  intro kind
  rw [get?_ofCalls, get?_ofCalls, same]

theorem eligible_iff_of_bindsLast :
    Eligible calls excluded token marker ↔ Eligible others excluded token marker := by
  simp only [Eligible, same]

theorem markerAt?_ofCalls_congr :
    (ofCalls calls).markerAt? excluded token = (ofCalls others).markerAt? excluded token := by
  have eligible : Eligible calls excluded token = Eligible others excluded token :=
    funext fun _ => propext (eligible_iff_of_bindsLast same)
  apply Option.ext
  rintro ⟨marker, kind⟩
  rw [markerAt?_ofCalls_eq_some_iff, markerAt?_ofCalls_eq_some_iff, eligible, same]

theorem isMarkerWord_ofCalls_congr (word : Text) :
    (ofCalls calls).isMarkerWord word = (ofCalls others).isMarkerWord word := by
  rw [isMarkerWord, isMarkerWord, Bool.eq_iff_iff, List.contains_iff_mem, List.contains_iff_mem,
    mem_keys_ofCalls, mem_keys_ofCalls]
  simp only [same]

end Order

/-- After any sequence of registrations the registry answers with the longest marker that starts
the token and whose last registration is not of the excluded kind, and with the kind of that
registration, and has no answer exactly when there is no such marker.  Markers are kept once, in
the order of their first registration.  Sequences whose last registrations agree answer alike. -/
theorem longest_marker_wins (calls : List (Text × MarkerKind)) :
    (∀ (excluded : Option MarkerKind) (token : Text),
      (∀ marker kind,
        (ofCalls calls).markerAt? excluded token = some (marker, kind) ↔
          IsLongest (Eligible calls excluded token) marker ∧ BindsLast calls marker kind) ∧
      ((ofCalls calls).markerAt? excluded token = none ↔
        ∀ marker, ¬ Eligible calls excluded token marker)) ∧
    (ofCalls calls).bindings.keys = (calls.map Prod.fst).eraseDups ∧
    (ofCalls calls).bindings.keys.Nodup ∧
    ∀ others : List (Text × MarkerKind),
      (∀ marker kind, BindsLast calls marker kind ↔ BindsLast others marker kind) →
        (∀ (excluded : Option MarkerKind) (token : Text),
          (ofCalls calls).markerAt? excluded token =
            (ofCalls others).markerAt? excluded token) ∧
        (∀ word, (ofCalls calls).isMarkerWord word = (ofCalls others).isMarkerWord word) ∧
        (ofCalls calls).size = (ofCalls others).size ∧
        (ofCalls calls).isEmpty = (ofCalls others).isEmpty := by
  refine ⟨?_, ?_, (ofCalls calls).bindings.distinct, ?_⟩
  · intro excluded token
    exact ⟨fun marker kind => markerAt?_ofCalls_eq_some_iff, markerAt?_ofCalls_eq_none_iff⟩
  · rw [bindings_ofCalls, OrderedMap.keys_ofList]
  · intro others same
    have bindings := perm_bindings_ofCalls same
    exact ⟨fun excluded token => markerAt?_ofCalls_congr same, isMarkerWord_ofCalls_congr same,
      bindings.length_eq, bindings.isEmpty_eq⟩

/-- Overlapping markers, of which one is empty and one is registered again, in two orders. -/
theorem longest_marker_wins_overlapping :
    let calls : List (Text × MarkerKind) :=
      [("va".toList, .character), ("val-".toList, .template), ([], .function),
        ("va".toList, .unicodeEscape)]
    let others : List (Text × MarkerKind) :=
      [([], .function), ("va".toList, .unicodeEscape), ("val-".toList, .template)]
    (∀ marker kind, BindsLast calls marker kind ↔ BindsLast others marker kind) ∧
    (ofCalls calls).markerAt? (some .template) "val-gap".toList =
      (ofCalls others).markerAt? (some .template) "val-gap".toList ∧
    (ofCalls others).markerAt? (some .template) "val-gap".toList =
      some ("va".toList, .unicodeEscape) := by
  intro calls others
  have bindings : (ofCalls calls).bindings.entries.Perm (ofCalls others).bindings.entries := by
    decide
  have same : ∀ marker kind, BindsLast calls marker kind ↔ BindsLast others marker kind := by
    intro marker kind
    rw [← get?_ofCalls, ← get?_ofCalls, OrderedMap.get?_eq_of_perm bindings]
  obtain ⟨-, -, -, alike⟩ := longest_marker_wins calls
  exact ⟨same, (alike others same).1 (some .template) "val-gap".toList, by decide⟩

end AtomicCss.Registry
