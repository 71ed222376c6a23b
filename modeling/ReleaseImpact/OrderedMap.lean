/-!
Maps that remember the order in which their keys were first put in. Main statements:

- `mem_entries_insert`: putting a value in adds no other pair.
- `keys_insert`: a new key goes to the end, a known one keeps its place.
- `get?_insert`: a key has the value put in last.
- `mem_keys_iff`: the keys are those with a value.
- `get?_eq_some_iff`: the value of a key is the one it is paired with.
-/

namespace ReleaseImpact

/-- A list of pairs in which no key occurs twice. -/
structure OrderedMap (κ α : Type) where
  entries : List (κ × α)
  nodup_keys : (entries.map Prod.fst).Nodup

namespace OrderedMap

variable {κ α β : Type} [DecidableEq κ]

def lookup (key : κ) : List (κ × α) → Option α
  | [] => none
  | (k, a) :: rest => if k = key then some a else lookup key rest

def put (key : κ) (value : α) : List (κ × α) → List (κ × α)
  | [] => [(key, value)]
  | (k, a) :: rest => if k = key then (key, value) :: rest else (k, a) :: put key value rest

theorem map_fst_put (key : κ) (value : α) (entries : List (κ × α)) :
    (put key value entries).map Prod.fst =
      if key ∈ entries.map Prod.fst then entries.map Prod.fst
      else entries.map Prod.fst ++ [key] := by
  induction entries with
  | nil => simp [put]
  | cons e rest ih =>
    obtain ⟨k, a⟩ := e
    by_cases h : k = key
    · simp [put, h]
    · simp only [put, h, if_false, List.map_cons, ih, List.mem_cons, Ne.symm h, false_or]
      split <;> simp

theorem lookup_put (key other : κ) (value : α) (entries : List (κ × α)) :
    lookup other (put key value entries) = if key = other then some value else lookup other entries := by
  induction entries with
  | nil => by_cases h : key = other <;> simp [put, lookup, h]
  | cons e rest ih =>
    obtain ⟨k, a⟩ := e
    by_cases h : k = key
    · subst h
      by_cases h' : k = other <;> simp [put, lookup, h']
    · by_cases h' : key = other
      · subst h'; simp [put, lookup, h, ih]
      · simp [put, lookup, h, ih, h']

theorem lookup_eq_none_iff {key : κ} {entries : List (κ × α)} :
    lookup key entries = none ↔ key ∉ entries.map Prod.fst := by
  induction entries with
  | nil => simp [lookup]
  | cons e rest ih =>
    obtain ⟨k, a⟩ := e
    by_cases h : k = key
    · simp [lookup, h]
    · simp only [lookup, h, if_false, ih, List.map_cons, List.mem_cons, Ne.symm h, false_or]

theorem lookup_eq_some_iff {key : κ} {value : α} {entries : List (κ × α)}
    (nodup : (entries.map Prod.fst).Nodup) :
    lookup key entries = some value ↔ (key, value) ∈ entries := by
  induction entries with
  | nil => simp [lookup]
  | cons e rest ih =>
    obtain ⟨k, a⟩ := e
    simp only [List.map_cons, List.nodup_cons] at nodup
    by_cases h : k = key
    · subst h
      have : ∀ v, (k, v) ∉ rest := fun v hv => nodup.1 (List.mem_map_of_mem (f := Prod.fst) hv)
      simp [lookup, this, eq_comm]
    · simp [lookup, h, ih nodup.2, Ne.symm h]

/-! ## The map -/

def empty : OrderedMap κ α := ⟨[], by simp⟩

instance : Inhabited (OrderedMap κ α) := ⟨empty⟩

def insert (m : OrderedMap κ α) (key : κ) (value : α) : OrderedMap κ α :=
  ⟨put key value m.entries, by
    rw [map_fst_put]
    split
    · exact m.nodup_keys
    · next h =>
      exact List.nodup_append.2 ⟨m.nodup_keys, by simp, by
        intro a ha b hb
        simp only [List.mem_singleton] at hb
        subst hb
        exact fun e => h (e ▸ ha)⟩⟩

def get? (m : OrderedMap κ α) (key : κ) : Option α := lookup key m.entries

def contains (m : OrderedMap κ α) (key : κ) : Bool := (m.get? key).isSome

def keys (m : OrderedMap κ α) : List κ := m.entries.map Prod.fst

def values (m : OrderedMap κ α) : List α := m.entries.map Prod.snd

def size (m : OrderedMap κ α) : Nat := m.entries.length

def ofList (pairs : List (κ × α)) : OrderedMap κ α :=
  pairs.foldl (fun m e => m.insert e.1 e.2) empty

def erase (m : OrderedMap κ α) (key : κ) : OrderedMap κ α :=
  ⟨m.entries.filter (·.1 ≠ key), by
    exact (List.Sublist.map Prod.fst List.filter_sublist).nodup m.nodup_keys⟩

/-- The same keys with other values. -/
def mapValues (f : α → β) (m : OrderedMap κ α) : OrderedMap κ β :=
  ⟨m.entries.map fun e => (e.1, f e.2), by
    rw [List.map_map]
    exact m.nodup_keys⟩

/-- The keys whose values have an image, with the images. -/
def filterMap (f : α → Option β) (m : OrderedMap κ α) : OrderedMap κ β :=
  ⟨m.entries.filterMap fun e => (f e.2).map (e.1, ·), by
    have h : (m.entries.filterMap fun e => (f e.2).map (e.1, ·)).map Prod.fst =
        (m.entries.filter fun e => (f e.2).isSome).map Prod.fst := by
      induction m.entries with
      | nil => rfl
      | cons e rest ih => cases he : f e.2 <;> simp [he, ih]
    rw [h]
    exact (List.Sublist.map Prod.fst List.filter_sublist).nodup m.nodup_keys⟩

/-- The same keys with values that are the same in some sense, in whatever order. -/
def agreesBy (same : α → α → Bool) (m m' : OrderedMap κ α) : Bool :=
  m.size == m'.size && m.entries.all fun e => (m'.get? e.1).any (same e.2)

/-- The same keys with equal values, in whatever order. -/
def agrees [DecidableEq α] (m m' : OrderedMap κ α) : Bool := agreesBy (· == ·) m m'

theorem mem_put {key : κ} {value : α} {entries : List (κ × α)} {e : κ × α}
    (h : e ∈ put key value entries) : e = (key, value) ∨ e ∈ entries := by
  induction entries with
  | nil => exact .inl (by simpa [put] using h)
  | cons first rest ih =>
    unfold put at h
    split at h
    · exact (List.mem_cons.1 h).imp_right (List.mem_cons_of_mem _)
    · rcases List.mem_cons.1 h with rfl | h
      · exact .inr List.mem_cons_self
      · exact (ih h).imp_right (List.mem_cons_of_mem _)

theorem mem_entries_insert {m : OrderedMap κ α} {key : κ} {value : α} {e : κ × α}
    (h : e ∈ (m.insert key value).entries) : e = (key, value) ∨ e ∈ m.entries := mem_put h

theorem keys_insert (m : OrderedMap κ α) (key : κ) (value : α) :
    (m.insert key value).keys = if key ∈ m.keys then m.keys else m.keys ++ [key] :=
  map_fst_put key value m.entries

@[simp] theorem get?_insert (m : OrderedMap κ α) (key other : κ) (value : α) :
    (m.insert key value).get? other = if key = other then some value else m.get? other :=
  lookup_put key other value m.entries

@[simp] theorem get?_empty (key : κ) : (empty : OrderedMap κ α).get? key = none := rfl

theorem mem_keys_iff {m : OrderedMap κ α} {key : κ} : key ∈ m.keys ↔ ∃ value, m.get? key = some value := by
  rw [← Option.isSome_iff_exists, ← Option.ne_none_iff_isSome, Ne, get?, lookup_eq_none_iff]
  exact Classical.not_not.symm

theorem get?_eq_some_iff {m : OrderedMap κ α} {key : κ} {value : α} :
    m.get? key = some value ↔ (key, value) ∈ m.entries :=
  lookup_eq_some_iff m.nodup_keys

theorem contains_iff {m : OrderedMap κ α} {key : κ} : m.contains key = true ↔ key ∈ m.keys := by
  rw [mem_keys_iff, contains, Option.isSome_iff_exists]

end OrderedMap

end ReleaseImpact
