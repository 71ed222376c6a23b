import ReleaseImpact.Proofs.MergedMaps

/-!
Maps inside of maps, with one put over the other. What stands at a path of keys is told by what both sides
have there. Main statements:

- `sameKey_iff`: when two scalars are one key.
- `valueAt?_merge`: what a key has after merging.
- `atPath?_mergeValue`: what stands at a path after merging, unless the upper side ends on the way.
- `merge_again`: to put the same over it once more changes nothing.
- `mergeOpened_eq_merge`: values that do not hold themselves are merged alike with a limit to the depth.
- `merge_overlaid`: all of this for two maps.
-/

namespace ReleaseImpact

variable {k key other : Scalar} {v old : Value} {base upper entries : List (Scalar × Value)}

/-! ## Keys -/

theorem instant?_of_toInt? {n : Int} (number : k.toInt? = some n) : k.instant? = none := by
  cases k with
  | moment m => cases number
  | _ => rfl

theorem sameKey_iff : k.sameKey key = true ↔
    k = key ∨ (∃ n, k.toInt? = some n ∧ key.toInt? = some n) ∨ ∃ t, k.instant? = some t ∧ key.instant? = some t := by
  rw [Scalar.sameKey, Bool.or_eq_true, beq_iff_eq]
  refine or_congr_right ?_
  split
  · next n m first second =>
    simp [first, second, instant?_of_toInt? first, Eq.comm (a := n)]
  · next apart =>
    have noNumber : ¬ ∃ n, k.toInt? = some n ∧ key.toInt? = some n := by
      rintro ⟨n, first, second⟩
      exact apart n n first second
    rw [or_iff_right noNumber]
    split
    · next t u first second => simp [first, second, Eq.comm (a := t)]
    · next apart => simpa using fun t first second => apart t t first second

theorem sameKey_comm : k.sameKey key = key.sameKey k := by
  rw [Bool.eq_iff_iff, sameKey_iff, sameKey_iff]
  simp only [and_comm, eq_comm]

theorem sameKey_trans (first : k.sameKey key = true) (second : key.sameKey other = true) : k.sameKey other = true := by
  rw [sameKey_iff] at first second ⊢
  rcases first with rfl | ⟨n, hk, hn⟩ | ⟨t, hk, ht⟩
  · exact second
  · rcases second with rfl | ⟨m, hm, ho⟩ | ⟨u, hu, ho⟩
    · exact .inr (.inl ⟨n, hk, hn⟩)
    · rw [hn] at hm
      cases hm
      exact .inr (.inl ⟨n, hk, ho⟩)
    · rw [instant?_of_toInt? hn] at hu
      cases hu
  · rcases second with rfl | ⟨m, hm, ho⟩ | ⟨u, hu, ho⟩
    · exact .inr (.inr ⟨t, hk, ht⟩)
    · rw [instant?_of_toInt? hm] at ht
      cases ht
    · rw [ht] at hu
      cases hu
      exact .inr (.inr ⟨t, hk, ho⟩)

theorem sameKey_congr (same : key.sameKey other = true) (k : Scalar) : k.sameKey key = k.sameKey other := by
  rw [Bool.eq_iff_iff]
  exact ⟨fun first => sameKey_trans first same, fun first => sameKey_trans first (sameKey_comm ▸ same)⟩

theorem valueAt?_congr (same : key.sameKey other = true) (entries : List (Scalar × Value)) :
    valueAt? key entries = valueAt? other entries := by
  induction entries with
  | nil => rfl
  | cons e rest ih => rw [valueAt?, valueAt?, sameKey_congr same, ih]

theorem valueAt?_eq_none_iff : valueAt? key entries = none ↔ ∀ e ∈ entries, e.1.sameKey key = false := by
  induction entries with
  | nil => simp [valueAt?]
  | cons e rest ih =>
    rw [valueAt?, List.forall_mem_cons, ← ih]
    cases e.1.sameKey key <;> simp

theorem valueAt?_putKey (key other : Scalar) (v : Value) (entries : List (Scalar × Value)) :
    valueAt? other (putKey key v entries) = if key.sameKey other then some v else valueAt? other entries := by
  induction entries with
  | nil => rfl
  | cons e rest ih =>
    rw [putKey]
    by_cases here : e.1.sameKey key = true
    · have alike : e.1.sameKey other = key.sameKey other := by
        rw [sameKey_comm, sameKey_congr here, sameKey_comm]
      rw [if_pos here, valueAt?, valueAt?, alike]
      split <;> rfl
    · rw [if_neg here, valueAt?, valueAt?, ih]
      by_cases found : e.1.sameKey other = true
      · have apart : ¬ key.sameKey other = true := fun same =>
          here (sameKey_trans found (sameKey_comm ▸ same))
        rw [if_pos found, if_neg apart, if_pos found]
      · rw [if_neg found, if_neg found]

theorem putKey_eq_self (found : valueAt? key entries = some v) : putKey key v entries = entries := by
  induction entries with
  | nil => cases found
  | cons e rest ih =>
    rw [valueAt?] at found
    rw [putKey]
    split at found
    · next same =>
      cases found
      rw [if_pos same]
    · next other => rw [if_neg other, ih found]

theorem putKey_of_new (new : valueAt? key entries = none) (v : Value) : putKey key v entries = entries ++ [(key, v)] := by
  induction entries with
  | nil => rfl
  | cons e rest ih =>
    rw [valueAt?] at new
    split at new
    · cases new
    · next other => rw [putKey, if_neg other, ih new, List.cons_append]

def DistinctKeys (entries : List (Scalar × Value)) : Prop := entries.Pairwise fun e f => e.1.sameKey f.1 = false

instance : Decidable (DistinctKeys entries) := inferInstanceAs (Decidable (List.Pairwise _ _))

theorem valueAt?_of_mem (distinct : DistinctKeys entries) (member : (k, v) ∈ entries) :
    valueAt? k entries = some v := by
  induction entries with
  | nil => cases member
  | cons e rest ih =>
    obtain ⟨apart, distinct⟩ := List.pairwise_cons.mp distinct
    rw [valueAt?]
    rcases List.mem_cons.mp member with rfl | later
    · rw [if_pos (sameKey_refl k)]
    · rw [if_neg (by simp [apart _ later]), ih distinct later]

/-! ## Merging -/

theorem mergeValue_of_maps (inner entries : List (Scalar × Value)) :
    mergeValue (some (.map inner)) (.map entries) = .map (merge inner entries) := by
  rw [mergeValue]

theorem mergeValue_of_old {old : Option Value} (noMap : ∀ inner, old ≠ some (.map inner)) (v : Value) :
    mergeValue old v = v := by
  cases v with
  | map entries =>
    rw [mergeValue]
    exact fun inner same => noMap inner same
  | _ => exact mergeValue_of_not_map fun entries same => by cases same

theorem mergeValue_none (v : Value) : mergeValue none v = v := mergeValue_of_old (by nofun) v

/-- What a key has that has an old value, or none, and gets a new one, or none. -/
def overlaid (old : Option Value) : Option Value → Option Value
  | some v => some (mergeValue old v)
  | none => old

theorem valueAt?_merge (distinct : DistinctKeys upper) (key : Scalar) (base : List (Scalar × Value)) :
    valueAt? key (merge base upper) = overlaid (valueAt? key base) (valueAt? key upper) := by
  induction upper generalizing base with
  | nil => rw [merge]; rfl
  | cons e rest ih =>
    obtain ⟨k, v⟩ := e
    obtain ⟨apart, distinct⟩ := List.pairwise_cons.mp distinct
    rw [merge, ih distinct, valueAt?_putKey, valueAt?]
    by_cases same : k.sameKey key = true
    · have once : valueAt? key rest = none := valueAt?_eq_none_iff.mpr fun f later => by
        rw [← sameKey_congr same, sameKey_comm]
        exact apart f later
      rw [if_pos same, if_pos same, once, valueAt?_congr same]
      rfl
    · rw [if_neg same, if_neg same]

theorem merge_eq_self (has : ∀ e ∈ upper, ∃ v, valueAt? e.1 base = some v ∧ mergeValue (some v) e.2 = v) :
    merge base upper = base := by
  induction upper with
  | nil => rw [merge]
  | cons e rest ih =>
    obtain ⟨⟨v, found, same⟩, later⟩ := List.forall_mem_cons.mp has
    rw [merge, found, same, putKey_eq_self found, ih later]

theorem merge_of_new (distinct : DistinctKeys upper) (new : ∀ e ∈ upper, valueAt? e.1 base = none) :
    merge base upper = base ++ upper := by
  induction upper generalizing base with
  | nil => rw [merge, List.append_nil]
  | cons e rest ih =>
    obtain ⟨apart, distinct⟩ := List.pairwise_cons.mp distinct
    obtain ⟨first, later⟩ := List.forall_mem_cons.mp new
    have still : ∀ f ∈ rest, valueAt? f.1 (base ++ [e]) = none := fun f member => by
      rw [← putKey_of_new first, valueAt?_putKey, apart f member]
      exact later f member
    rw [merge, first, mergeValue_none, putKey_of_new first, ih distinct still, List.append_assoc]
    rfl

theorem merge_nil_left (distinct : DistinctKeys upper) : merge [] upper = upper :=
  merge_of_new distinct fun _ _ => rfl

/-! ## Paths -/

namespace Value

def IsMap (v : Value) : Prop := ∃ entries, v = .map entries

/-- What stands at a path of keys, one inside of the other. -/
def atPath? : List Scalar → Value → Option Value
  | [], v => some v
  | key :: rest, .map entries => (valueAt? key entries).bind (atPath? rest)
  | _ :: _, _ => none

theorem atPath?_map_cons (key : Scalar) (path : List Scalar) (entries : List (Scalar × Value)) :
    (map entries).atPath? (key :: path) = (valueAt? key entries).bind (atPath? path) := rfl

theorem atPath?_of_not_map {path : List Scalar} (noMap : ¬ v.IsMap) (more : path ≠ []) : v.atPath? path = none := by
  cases path with
  | nil => exact absurd rfl more
  | cons key rest =>
    cases v with
    | map entries => exact absurd ⟨entries, rfl⟩ noMap
    | _ => rfl

theorem atPath?_append (front rest : List Scalar) (v : Value) :
    v.atPath? (front ++ rest) = (v.atPath? front).bind (atPath? rest) := by
  induction front generalizing v with
  | nil => rfl
  | cons key front ih =>
    by_cases isMap : v.IsMap
    · obtain ⟨entries, rfl⟩ := isMap
      rw [List.cons_append, atPath?_map_cons, atPath?_map_cons, Option.bind_assoc]
      exact congrArg _ (funext ih)
    · rw [atPath?_of_not_map isMap (List.cons_ne_nil _ _), List.cons_append,
        atPath?_of_not_map isMap (List.cons_ne_nil _ _), Option.bind_none]

/-- What stands at some place on the way along a path, before its end, is no map. -/
def Blocks (v : Value) (path : List Scalar) : Prop :=
  ∃ front rest w, path = front ++ rest ∧ rest ≠ [] ∧ v.atPath? front = some w ∧ ¬ w.IsMap

theorem isMap_of_not_blocks {path : List Scalar} (clear : ¬ v.Blocks path) (more : path ≠ []) : v.IsMap := by
  by_contra noMap
  exact clear ⟨[], path, v, rfl, more, rfl, noMap⟩

theorem not_blocks_of_cons {path : List Scalar} (clear : ¬ (map entries).Blocks (key :: path))
    (found : valueAt? key entries = some v) : ¬ v.Blocks path := by
  rintro ⟨front, rest, w, rfl, more, there, noMap⟩
  refine clear ⟨key :: front, rest, w, rfl, more, ?_, noMap⟩
  rw [atPath?_map_cons, found]
  exact there

theorem atPath?_of_blocks {path : List Scalar} (blocks : v.Blocks path) : v.atPath? path = none := by
  obtain ⟨front, rest, w, rfl, more, there, noMap⟩ := blocks
  rw [atPath?_append, there]
  exact atPath?_of_not_map noMap more

/-- No map in a value has a key twice, as far as maps stand in maps. -/
def Keyed (v : Value) : Prop := ∀ path entries, v.atPath? path = some (.map entries) → DistinctKeys entries

theorem Keyed.distinct (keyed : (map entries).Keyed) : DistinctKeys entries := keyed [] entries rfl

theorem Keyed.of_valueAt? (keyed : (map entries).Keyed) (found : valueAt? key entries = some v) : v.Keyed := by
  intro path inner there
  refine keyed (key :: path) inner ?_
  rw [atPath?_map_cons, found]
  exact there

theorem keyed_of_not_map (noMap : ¬ v.IsMap) : v.Keyed := by
  intro path entries there
  cases path with
  | nil => exact absurd ⟨entries, Option.some.inj there⟩ noMap
  | cons key rest =>
    rw [atPath?_of_not_map noMap (List.cons_ne_nil _ _)] at there
    cases there

theorem keyed_map (distinct : DistinctKeys entries) (inside : ∀ e ∈ entries, e.2.Keyed) : (map entries).Keyed := by
  intro path inner there
  cases path with
  | nil =>
    cases there
    exact distinct
  | cons key rest =>
    obtain ⟨v, found, there⟩ := Option.bind_eq_some_iff.mp there
    obtain ⟨k, member⟩ := exists_of_valueAt? found
    exact inside _ member rest inner there

end Value

open Value

variable {path : List Scalar}

/-- What stands at a path after merging. Where nothing new stands, and nothing new is on the way that is no map, it is
what was there. -/
theorem atPath?_mergeValue (keyed : v.Keyed) (clear : ¬ v.Blocks path) (old : Option Value) :
    (mergeValue old v).atPath? path = overlaid (old.bind (atPath? path)) (v.atPath? path) := by
  induction path generalizing v old with
  | nil =>
    cases old <;> rfl
  | cons key rest ih =>
    obtain ⟨entries, rfl⟩ := isMap_of_not_blocks clear (List.cons_ne_nil _ _)
    by_cases below : ∃ inner, old = some (.map inner)
    · obtain ⟨inner, rfl⟩ := below
      rw [mergeValue_of_maps, atPath?_map_cons, valueAt?_merge keyed.distinct, Option.bind_some, atPath?_map_cons,
        atPath?_map_cons]
      cases found : valueAt? key entries with
      | none => rfl
      | some w => exact ih (keyed.of_valueAt? found) (not_blocks_of_cons clear found) _
    · have nothing : old.bind (atPath? (key :: rest)) = none := by
        cases old with
        | none => rfl
        | some w => exact atPath?_of_not_map (fun ⟨inner, same⟩ => below ⟨inner, congrArg some same⟩) (List.cons_ne_nil _ _)
      rw [mergeValue_of_old fun inner same => below ⟨inner, same⟩, nothing]
      cases (map entries).atPath? (key :: rest) with
      | none => rfl
      | some w => exact congrArg some (mergeValue_none w).symm

theorem atPath?_mergeValue_of_blocks (keyed : v.Keyed) (blocks : v.Blocks path) (old : Option Value) :
    (mergeValue old v).atPath? path = none := by
  obtain ⟨front, rest, w, rfl, more, there, noMap⟩ := blocks
  have clear : ¬ v.Blocks front := fun blocks => by
    rw [atPath?_of_blocks blocks] at there
    cases there
  have stays : mergeValue (old.bind (atPath? front)) w = w :=
    mergeValue_of_not_map fun entries same => noMap ⟨entries, same⟩
  rw [atPath?_append, atPath?_mergeValue keyed clear, there, overlaid, stays]
  exact atPath?_of_not_map noMap more

/-! ## Merging again -/

theorem valueAt?_merge_of_mem {e : Scalar × Value} (distinct : DistinctKeys upper) (member : e ∈ upper)
    (base : List (Scalar × Value)) : valueAt? e.1 (merge base upper) = some (mergeValue (valueAt? e.1 base) e.2) := by
  rw [valueAt?_merge distinct, valueAt?_of_mem distinct member]
  rfl

theorem Value.Keyed.of_mem {e : Scalar × Value} (keyed : (map entries).Keyed) (member : e ∈ entries) : e.2.Keyed :=
  keyed.of_valueAt? (valueAt?_of_mem keyed.distinct member)

mutual

theorem mergeValue_again : (v : Value) → v.Keyed → (old : Option Value) →
    mergeValue (some (mergeValue old v)) v = mergeValue old v
  | .map entries, keyed, old => by
    have again (base : List (Scalar × Value)) : merge (merge base entries) entries = merge base entries :=
      merge_eq_self fun e member => ⟨_, valueAt?_merge_of_mem keyed.distinct member base,
        mergeValue_again_of_mem entries (fun e member => keyed.of_mem member) e member _⟩
    by_cases below : ∃ inner, old = some (.map inner)
    · obtain ⟨inner, rfl⟩ := below
      rw [mergeValue_of_maps, mergeValue_of_maps, again]
    · -- the entries stand where they were put, and go over themselves
      have itself := again []
      rw [merge_nil_left keyed.distinct] at itself
      rw [mergeValue_of_old fun inner same => below ⟨inner, same⟩, mergeValue_of_maps, itself]
  | .scalar _, _, _ => mergeValue_of_not_map nofun
  | .list _, _, _ => mergeValue_of_not_map nofun
  | .tuple _, _, _ => mergeValue_of_not_map nofun
  | .set _, _, _ => mergeValue_of_not_map nofun
  | .loop _ _, _, _ => mergeValue_of_not_map nofun
  | .again _, _, _ => mergeValue_of_not_map nofun

theorem mergeValue_again_of_mem : (entries : List (Scalar × Value)) → (∀ e ∈ entries, e.2.Keyed) → ∀ e ∈ entries,
    ∀ old : Option Value, mergeValue (some (mergeValue old e.2)) e.2 = mergeValue old e.2
  | [], _, _, member, _ => absurd member List.not_mem_nil
  | (k, v) :: rest, keyed, e, member, old => by
    obtain ⟨first, others⟩ := List.forall_mem_cons.mp keyed
    rcases List.mem_cons.mp member with rfl | later
    · exact mergeValue_again v first old
    · exact mergeValue_again_of_mem rest others e later old

end

theorem merge_again (keyed : (map upper).Keyed) (base : List (Scalar × Value)) :
    merge (merge base upper) upper = merge base upper :=
  merge_eq_self fun e member => ⟨_, valueAt?_merge_of_mem keyed.distinct member base,
    mergeValue_again e.2 (keyed.of_mem member) _⟩

/-! ## With a limit to the depth -/

theorem isEndlessEntries_eq_false_iff :
    isEndlessEntries entries = false ↔ ∀ e ∈ entries, e.2.isEndless = false := by
  induction entries with
  | nil => simp [isEndlessEntries]
  | cons e rest ih => rw [isEndlessEntries, Bool.or_eq_false_iff, ih, List.forall_mem_cons]

theorem opened_of_finite (finite : v.isEndless = false) : v.opened = v := by
  refine opened_of_ne_loop fun name body same => ?_
  rw [same, endless_loop] at finite
  cases finite

theorem finite_of_mem {e : Scalar × Value} (finite : (map entries).isEndless = false) (member : e ∈ entries) :
    e.2.isEndless = false := by
  rw [isEndless] at finite
  exact isEndlessEntries_eq_false_iff.mp finite e member

theorem eq_merge_of_putEach {make : Scalar × Value → Option Value} {start merged : List (Scalar × Value)}
    (distinct : DistinctKeys upper)
    (makes : ∀ e ∈ upper, ∀ v, make e = some v → v = mergeValue (valueAt? e.1 start) e.2)
    (untouched : ∀ e ∈ upper, valueAt? e.1 base = valueAt? e.1 start)
    (ends : putEach make base upper = some merged) : merged = merge base upper := by
  induction upper generalizing base with
  | nil =>
    cases ends
    rw [merge]
  | cons e rest ih =>
    obtain ⟨apart, distinct⟩ := List.pairwise_cons.mp distinct
    obtain ⟨first, others⟩ := List.forall_mem_cons.mp makes
    obtain ⟨here, later⟩ := List.forall_mem_cons.mp untouched
    obtain ⟨v, made, ends⟩ := putEach_cons_eq_some_iff.mp ends
    have still : ∀ f ∈ rest, valueAt? f.1 (putKey e.1 v base) = valueAt? f.1 start := fun f member => by
      rw [valueAt?_putKey, apart f member]
      exact later f member
    rw [merge, here, ← first v made]
    exact ih distinct others still ends

theorem eq_merge_of_mergeOpened {depth : Nat} {merged : List (Scalar × Value)} (keyed : (map upper).Keyed)
    (finite : (map base).isEndless = false) (finite' : (map upper).isEndless = false)
    (ends : mergeOpened depth base upper = some merged) : merged = merge base upper := by
  induction depth generalizing base upper merged with
  | zero => cases ends
  | succ depth ih =>
    rw [mergeOpened_succ] at ends
    refine eq_merge_of_putEach keyed.distinct (fun e member v made => ?_) (fun e _ => rfl) ends
    have openedNew := opened_of_finite (finite_of_mem finite' member)
    have openedOld {w : Value} (found : valueAt? e.1 base = some w) : w.isEndless = false := by
      obtain ⟨k, there⟩ := exists_of_valueAt? found
      exact finite_of_mem finite there
    unfold mergedValue at made
    split at made
    · next inner entries below above =>
      obtain ⟨w, found, opened⟩ := Option.map_eq_some_iff.mp below
      have finiteOld := openedOld found
      rw [opened_of_finite finiteOld] at opened
      rw [openedNew] at above
      obtain ⟨m, ends, rfl⟩ := Option.map_eq_some_iff.mp made
      subst opened
      have keyed' := keyed.of_mem member
      have finite'' := finite_of_mem finite' member
      rw [above] at keyed' finite''
      rw [found, above, mergeValue_of_maps, ih keyed' finiteOld finite'' ends]
    · next apart =>
      cases made
      by_cases isMap : e.2.IsMap
      · obtain ⟨entries, same⟩ := isMap
        refine (mergeValue_of_old (fun inner below => apart inner entries ?_ ?_) _).symm
        · rw [below]
          rfl
        · rw [same]
          rfl
      · exact (mergeValue_of_not_map fun entries same => isMap ⟨entries, same⟩).symm

theorem mergeOpened_eq_merge {depth : Nat} (keyed : (map upper).Keyed) (finite : (map base).isEndless = false)
    (finite' : (map upper).isEndless = false) (shallow : ¬ (Deep depth base ∧ Deep depth upper)) :
    mergeOpened depth base upper = some (merge base upper) := by
  cases ends : mergeOpened depth base upper with
  | none => exact absurd (deep_of_endless ends) shallow
  | some merged => rw [eq_merge_of_mergeOpened keyed finite finite' ends]

/-! ## Two maps -/

/-- What stands at a path in a map that comes of putting one map over another. -/
structure OverlaidAt (base upper merged : List (Scalar × Value)) (path : List Scalar) : Prop where
  leaf : ∀ v, (map upper).atPath? path = some v → ¬ v.IsMap → (map merged).atPath? path = some v
  newMap : ∀ entries, (map upper).atPath? path = some (.map entries) →
    (∀ inner, (map base).atPath? path ≠ some (.map inner)) → (map merged).atPath? path = some (.map entries)
  bothMaps : ∀ inner entries, (map base).atPath? path = some (.map inner) →
    (map upper).atPath? path = some (.map entries) → (map merged).atPath? path = some (.map (merge inner entries))
  blocked : (map upper).Blocks path → (map merged).atPath? path = none
  kept : (map upper).atPath? path = none → ¬ (map upper).Blocks path →
    (map merged).atPath? path = (map base).atPath? path

theorem overlaidAt_merge (keyed : (map upper).Keyed) (base : List (Scalar × Value)) (path : List Scalar) :
    OverlaidAt base upper (merge base upper) path := by
  have whole := mergeValue_of_maps base upper
  have told (clear : ¬ (map upper).Blocks path) : (map (merge base upper)).atPath? path =
      overlaid ((map base).atPath? path) ((map upper).atPath? path) := by
    rw [← whole]
    exact atPath?_mergeValue keyed clear _
  have clear {v : Value} (there : (map upper).atPath? path = some v) : ¬ (map upper).Blocks path := fun blocks => by
    rw [atPath?_of_blocks blocks] at there
    cases there
  refine ⟨?leaf, ?newMap, ?bothMaps, ?blocked, ?kept⟩
  case leaf =>
    intro v there noMap
    rw [told (clear there), there, overlaid, mergeValue_of_not_map fun entries same => noMap ⟨entries, same⟩]
  case newMap =>
    intro entries there noMap
    rw [told (clear there), there, overlaid, mergeValue_of_old noMap]
  case bothMaps =>
    intro inner entries below there
    rw [told (clear there), there, below, overlaid, mergeValue_of_maps]
  case blocked =>
    intro blocks
    rw [← whole]
    exact atPath?_mergeValue_of_blocks keyed blocks _
  case kept =>
    intro nothing clear
    rw [told clear, nothing, overlaid]

def layeredBase : List (Scalar × Value) :=
  [(.text "scan", .map [(.text "types", .list [.text "di"]), (.text "more", .map [(.text "x", .int 1)])]),
    (.int 1, .map [(.text "y", .null)]), (.text "kept", .int 2)]

/-- Has a map where a list is below it and the other way round, and a key in another spelling. -/
def layeredUpper : List (Scalar × Value) :=
  [(.text "scan", .map [(.text "types", .map [(.text "z", .int 3)]), (.text "more", .null)]),
    (.bool true, .map [(.text "w", .int 4)])]

def layeredMerged : List (Scalar × Value) :=
  [(.text "scan", .map [(.text "types", .map [(.text "z", .int 3)]), (.text "more", .null)]),
    (.int 1, .map [(.text "y", .null), (.text "w", .int 4)]), (.text "kept", .int 2)]

theorem keyed_layeredUpper : (map layeredUpper).Keyed := by
  have scalar (s : Scalar) : (Value.scalar s).Keyed := keyed_of_not_map fun ⟨_, same⟩ => by cases same
  have single (k s : Scalar) : (map [(k, .scalar s)]).Keyed :=
    keyed_map (List.pairwise_singleton _ _) (List.forall_mem_singleton.mpr (scalar s))
  have scan : (map [(.text "types", .map [(.text "z", .int 3)]), (.text "more", .null)]).Keyed :=
    keyed_map (by decide) (List.forall_mem_cons.mpr ⟨single _ _, List.forall_mem_singleton.mpr (scalar _)⟩)
  exact keyed_map (by decide) (List.forall_mem_cons.mpr ⟨scan, List.forall_mem_singleton.mpr (single _ _)⟩)

theorem not_deep_layeredUpper : ¬ Deep maxDepth layeredUpper := by
  rintro ⟨_, _, _, member, opened, _, _, _, member', opened', _, _, _, member'', opened'', -⟩
  simp only [layeredUpper, List.mem_cons, List.not_mem_nil, or_false, Prod.mk.injEq] at member
  rcases member with ⟨-, rfl⟩ | ⟨-, rfl⟩ <;> cases opened
  · simp only [List.mem_cons, List.not_mem_nil, or_false, Prod.mk.injEq] at member'
    rcases member' with ⟨-, rfl⟩ | ⟨-, rfl⟩ <;> cases opened'
    cases List.mem_singleton.mp member''
    cases opened''
  · cases List.mem_singleton.mp member'
    cases opened'

end ReleaseImpact
