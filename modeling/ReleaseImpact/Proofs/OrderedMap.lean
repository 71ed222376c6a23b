import ReleaseImpact.OrderedMap
import Mathlib.Data.List.Induction
import Mathlib.Data.List.Perm.Subperm

/-!
Ordered maps that agree, and ordered maps in which each value tells its own key. Main statements:

- `get?_eq_find?`: where values tell their keys, a look-up is a search among the values.
- `filterMap_get?_filter_keys`: the values of some keys are those values that tell such a key.
- `mem_keys_iff_of_agreesBy`: maps that agree have the same keys.
- `entries_ofList`: a map has each key where it was first put in, with the value put in last.
-/

namespace ReleaseImpact.OrderedMap

variable {κ α β : Type}

@[simp] theorem keys_mapValues (f : α → β) (m : OrderedMap κ α) : (m.mapValues f).keys = m.keys := by
  simp only [keys, mapValues, List.map_map]
  rfl

theorem values_filterMap (f : α → Option β) (m : OrderedMap κ α) :
    (m.filterMap f).values = m.values.filterMap f := by
  simp only [values, filterMap, List.filterMap_map, List.map_filterMap, Option.map_map]
  congr 1
  funext e
  simp [Function.comp_def]

theorem keys_eq_map_values {keyOf : α → κ} {m : OrderedMap κ α}
    (tell : ∀ e ∈ m.entries, keyOf e.2 = e.1) : m.keys = m.values.map keyOf := by
  rw [keys, values, List.map_map]
  exact List.map_congr_left fun e member => (tell e member).symm

variable [DecidableEq κ]

theorem get?_mapValues (f : α → β) (m : OrderedMap κ α) (key : κ) :
    (m.mapValues f).get? key = (m.get? key).map f := by
  obtain ⟨entries, _⟩ := m
  simp only [get?, mapValues]
  induction entries with
  | nil => rfl
  | cons e rest ih =>
    simp only [List.map_cons, lookup]
    split
    · rfl
    · exact ih (List.nodup_cons.1 ‹_›).2

/-! ## Values that tell their keys -/

variable {keyOf : α → κ}

theorem get?_eq_find? {m : OrderedMap κ α} (tell : ∀ e ∈ m.entries, keyOf e.2 = e.1) (key : κ) :
    m.get? key = m.values.find? (keyOf · = key) := by
  obtain ⟨entries, _⟩ := m
  simp only [get?, values] at tell ⊢
  induction entries with
  | nil => rfl
  | cons e rest ih =>
    obtain ⟨first, others⟩ := List.forall_mem_cons.1 tell
    simp only [lookup, List.map_cons, List.find?_cons, first]
    by_cases same : e.1 = key
    · simp [same]
    · simpa [same] using ih (List.nodup_cons.1 ‹_›).2 others

theorem get?_keyOf {m : OrderedMap κ α} (tell : ∀ e ∈ m.entries, keyOf e.2 = e.1) {value : α}
    (member : value ∈ m.values) : m.get? (keyOf value) = some value := by
  obtain ⟨e, he, rfl⟩ := List.mem_map.1 member
  rw [tell e he]
  exact get?_eq_some_iff.2 he

theorem filterMap_get?_filter_keys {m : OrderedMap κ α} (tell : ∀ e ∈ m.entries, keyOf e.2 = e.1)
    (wanted : κ → Bool) :
    (m.keys.filter wanted).filterMap m.get? = m.values.filter fun value => wanted (keyOf value) := by
  have found : ∀ value ∈ m.values.filter (wanted ∘ keyOf), m.get? (keyOf value) = some value :=
    fun value member => get?_keyOf tell (List.mem_filter.1 member).1
  rw [keys_eq_map_values tell, List.filter_map, List.filterMap_map]
  exact (List.filterMap_congr found).trans List.filterMap_some

/-! ## Maps that agree -/

theorem agreesBy_self {same : α → α → Bool} (reflexive : ∀ value, same value value = true)
    (m : OrderedMap κ α) : m.agreesBy same m = true := by
  simp only [agreesBy, beq_self_eq_true, Bool.true_and, List.all_eq_true]
  intro e member
  rw [get?_eq_some_iff.2 member]
  exact reflexive e.2

theorem agrees_self [DecidableEq α] (m : OrderedMap κ α) : m.agrees m = true :=
  agreesBy_self (fun _ => beq_self_eq_true _) m

theorem get?_of_agreesBy {same : α → α → Bool} {m m' : OrderedMap κ α} (h : m.agreesBy same m' = true)
    {key : κ} {value : α} (found : m.get? key = some value) :
    ∃ other, m'.get? key = some other ∧ same value other = true := by
  simp only [agreesBy, Bool.and_eq_true, List.all_eq_true] at h
  have here := h.2 (key, value) (get?_eq_some_iff.1 found)
  simpa [Option.any_eq_true] using here

theorem mem_keys_iff_of_agreesBy {same : α → α → Bool} {m m' : OrderedMap κ α}
    (h : m.agreesBy same m' = true) (key : κ) : key ∈ m.keys ↔ key ∈ m'.keys := by
  have sub : m.keys ⊆ m'.keys := by
    intro k member
    obtain ⟨value, found⟩ := mem_keys_iff.1 member
    obtain ⟨other, found', _⟩ := get?_of_agreesBy h found
    exact mem_keys_iff.2 ⟨other, found'⟩
  have size : m'.keys.length ≤ m.keys.length := by
    simp only [agreesBy, Bool.and_eq_true, beq_iff_eq] at h
    simpa [keys, OrderedMap.size] using Nat.le_of_eq h.1.symm
  exact ((List.subperm_of_subset m.nodup_keys sub).perm_of_length_le size).mem_iff

theorem get?_of_agrees [DecidableEq α] {m m' : OrderedMap κ α} (h : m.agrees m' = true) {key : κ}
    {value : α} (found : m.get? key = some value) : m'.get? key = some value := by
  obtain ⟨other, found', same⟩ := get?_of_agreesBy h found
  rw [found', eq_of_beq same]

/-! ## Maps made from pairs -/

/-- The value of the last pair with a key. -/
def last? (key : κ) (pairs : List (κ × α)) : Option α :=
  ((pairs.filter (·.1 = key)).getLast?).map Prod.snd

/-- Each key where it stands first, with its last value. -/
def latest (pairs : List (κ × α)) : List (κ × α) :=
  (pairs.map Prod.fst).eraseDups.filterMap fun key => (last? key pairs).map (key, ·)

theorem last?_concat (key : κ) (pairs : List (κ × α)) (e : κ × α) :
    last? key (pairs ++ [e]) = if e.1 = key then some e.2 else last? key pairs := by
  by_cases same : e.1 = key <;> simp [last?, List.filter_append, same]

theorem mem_of_last? {key : κ} {pairs : List (κ × α)} {value : α} (last : last? key pairs = some value) :
    (key, value) ∈ pairs := by
  obtain ⟨⟨k, a⟩, found, rfl⟩ := Option.map_eq_some_iff.mp last
  obtain ⟨member, same⟩ := List.mem_filter.mp (List.mem_of_getLast? found)
  obtain rfl : k = key := of_decide_eq_true same
  exact member

theorem ofList_concat (pairs : List (κ × α)) (e : κ × α) :
    ofList (pairs ++ [e]) = (ofList pairs).insert e.1 e.2 := by
  simp [ofList, List.foldl_append]

theorem get?_ofList (key : κ) (pairs : List (κ × α)) : (ofList pairs).get? key = last? key pairs := by
  induction pairs using List.reverseRecOn with
  | nil => rfl
  | append_singleton pairs e ih => rw [ofList_concat, get?_insert, last?_concat, ih]

theorem eraseDups_concat (keys : List κ) (key : κ) :
    (keys ++ [key]).eraseDups = if key ∈ keys then keys.eraseDups else keys.eraseDups ++ [key] := by
  rw [List.eraseDups_append]
  by_cases known : key ∈ keys <;> simp [known, List.removeAll, List.eraseDups_cons]

theorem exists_first {keys front back : List κ} {key : κ} (listed : keys.eraseDups = front ++ key :: back) :
    ∃ earlier later, keys = earlier ++ key :: later ∧ ∀ k ∈ earlier, k ∈ front := by
  induction keys using List.reverseRecOn generalizing back with
  | nil => simp at listed
  | append_singleton keys last ih =>
    rw [eraseDups_concat] at listed
    split at listed
    · obtain ⟨earlier, later, rfl, before⟩ := ih listed
      exact ⟨earlier, later ++ [last], by simp, before⟩
    · rcases List.eq_nil_or_concat back with rfl | ⟨others, k, rfl⟩
      · obtain ⟨rfl, same⟩ := List.append_inj' listed rfl
        cases same
        exact ⟨keys, [], rfl, fun k member => List.mem_eraseDups.mpr member⟩
      · rw [List.concat_eq_append, ← List.cons_append, ← List.append_assoc] at listed
        obtain ⟨shorter, -⟩ := List.append_inj' listed rfl
        obtain ⟨earlier, later, rfl, before⟩ := ih shorter
        exact ⟨earlier, later ++ [last], by simp, before⟩

theorem keys_ofList (pairs : List (κ × α)) : (ofList pairs).keys = (pairs.map Prod.fst).eraseDups := by
  induction pairs using List.reverseRecOn with
  | nil => rfl
  | append_singleton pairs e ih =>
    rw [ofList_concat, keys_insert, ih, List.map_append, List.map_singleton, eraseDups_concat]
    simp only [List.mem_eraseDups]

theorem entries_eq_filterMap (m : OrderedMap κ α) :
    m.entries = m.keys.filterMap fun key => (m.get? key).map (key, ·) := by
  have found : ∀ e ∈ m.entries, (m.get? e.1).map (e.1, ·) = some e := fun e member => by
    rw [get?_eq_some_iff.mpr member]
    rfl
  rw [keys, List.filterMap_map]
  exact ((List.filterMap_congr found).trans List.filterMap_some).symm

theorem entries_ofList (pairs : List (κ × α)) : (ofList pairs).entries = latest pairs := by
  rw [entries_eq_filterMap, keys_ofList, latest]
  simp only [get?_ofList]

theorem ofList_entries (m : OrderedMap κ α) : ofList m.entries = m := by
  obtain ⟨entries, nodup⟩ := m
  suffices (ofList entries).entries = entries by
    cases made : ofList entries
    simp_all
  induction entries using List.reverseRecOn with
  | nil => rfl
  | append_singleton entries e ih =>
    rw [List.map_append, List.nodup_append] at nodup
    obtain ⟨nodup, -, apart⟩ := nodup
    have fresh : e.1 ∉ entries.map Prod.fst := fun member => apart _ member _ (by simp) rfl
    rw [ofList_concat, insert]
    dsimp only
    rw [ih nodup]
    clear ih apart nodup
    induction entries with
    | nil => rfl
    | cons first rest ih =>
      rw [List.map_cons, List.mem_cons, not_or] at fresh
      rw [put, if_neg (Ne.symm fresh.1), ih fresh.2, List.cons_append]

end ReleaseImpact.OrderedMap
