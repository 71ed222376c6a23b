import ReleaseImpact.Value.Merge
import Mathlib.Data.List.Nodup

/-!
What is found in a map that was merged from two. Main statements:

- `field?_mergeOpened`: what stands under a name, from what stands under it on both sides.
- `mergedFrom_of_mem`: where a value in the merged map is from.
- `deep_of_endless`: only maps that are both nested deep have no end of merging.
- `deep_mergeOpened`: what is merged is nested no deeper than the deeper side.
-/

namespace ReleaseImpact

variable {k key : Scalar} {v : Value} {name : String} {entries base upper merged : List (Scalar × Value)}

theorem sameKey_text_iff : k.sameKey (.text name) = true ↔ k = .text name := by
  have noNumber : (Scalar.text name).toInt? = none := rfl
  have noMoment : (Scalar.text name).instant? = none := rfl
  rw [Scalar.sameKey, noNumber, noMoment]
  cases k.toInt? <;> cases k.instant? <;> simp

theorem text_sameKey_iff : Scalar.sameKey (.text name) k = true ↔ k = .text name := by
  have noNumber : (Scalar.text name).toInt? = none := rfl
  have noMoment : (Scalar.text name).instant? = none := rfl
  rw [Scalar.sameKey, noNumber, noMoment]
  simp only [Bool.or_false, beq_iff_eq]
  exact eq_comm

theorem valueAt?_text (name : String) (entries : List (Scalar × Value)) :
    valueAt? (.text name) entries = field? name entries := by
  induction entries with
  | nil => rfl
  | cons e rest ih => simp only [valueAt?, field?, sameKey_text_iff, ih]

theorem exists_of_valueAt? (found : valueAt? key entries = some v) : ∃ k, (k, v) ∈ entries := by
  induction entries with
  | nil => cases found
  | cons e rest ih =>
    rw [valueAt?] at found
    split at found
    · cases found
      exact ⟨_, List.mem_cons_self⟩
    · obtain ⟨k, member⟩ := ih found
      exact ⟨k, List.mem_cons_of_mem _ member⟩

theorem mem_of_field? (found : field? name entries = some v) : (.text name, v) ∈ entries := by
  induction entries with
  | nil => cases found
  | cons e rest ih =>
    rw [field?] at found
    split at found
    · next same =>
      cases found
      simp [← same]
    · exact List.mem_cons_of_mem _ (ih found)

theorem field?_putKey (name : String) (key : Scalar) (v : Value) (entries : List (Scalar × Value)) :
    field? name (putKey key v entries) = if key = .text name then some v else field? name entries := by
  induction entries with
  | nil => rfl
  | cons e rest ih =>
    obtain ⟨k, old⟩ := e
    rw [putKey]
    by_cases same : k.sameKey key = true
    · rw [if_pos same]
      by_cases here : key = .text name
      · subst here
        simp [field?, sameKey_text_iff.mp same]
      · have other : k ≠ .text name := by
          rintro rfl
          exact here (text_sameKey_iff.mp same)
        simp [field?, here, other]
    · rw [if_neg same]
      by_cases first : k = .text name
      · subst first
        have other : key ≠ .text name := by
          rintro rfl
          exact same (sameKey_refl _)
        simp [field?, other]
      · simp [field?, first, ih]

theorem key_of_mem_putKey {value : Value} (member : (k, v) ∈ putKey key value entries) : k = key ∨ ∃ v', (k, v') ∈ entries := by
  induction entries with
  | nil =>
    cases List.mem_singleton.mp member
    exact .inl rfl
  | cons e rest ih =>
    rw [putKey] at member
    split at member
    · rcases List.mem_cons.mp member with first | later
      · cases first
        exact .inr ⟨_, List.mem_cons_self⟩
      · exact .inr ⟨v, List.mem_cons_of_mem _ later⟩
    · rcases List.mem_cons.mp member with first | later
      · exact .inr ⟨v, first ▸ List.mem_cons_self⟩
      · exact (ih later).imp_right (Exists.imp fun v' there => List.mem_cons_of_mem _ there)

/-! ## Names -/

def Scalar.text? : Scalar → Option String
  | .text name => some name
  | _ => none

theorem Scalar.text?_eq_some_iff : k.text? = some name ↔ k = .text name := by
  cases k <;> simp [text?]

/-- The keys of a map that are texts. -/
def names (entries : List (Scalar × Value)) : List String := entries.filterMap fun e => e.1.text?

theorem names_cons (e : Scalar × Value) (rest : List (Scalar × Value)) :
    names (e :: rest) = e.1.text?.toList ++ names rest := by
  unfold names
  cases named : e.1.text? <;> simp [named]

theorem mem_names_iff : name ∈ names entries ↔ ∃ v, (.text name, v) ∈ entries := by
  simp [names, Scalar.text?_eq_some_iff]

theorem field?_eq_none_iff : field? name entries = none ↔ name ∉ names entries := by
  induction entries with
  | nil => simp [field?, names]
  | cons e rest ih =>
    have first : name ∈ e.1.text?.toList ↔ e.1 = .text name := by
      rw [Option.mem_toList, Scalar.text?_eq_some_iff]
    rw [field?, names_cons, List.mem_append, first]
    by_cases same : e.1 = .text name <;> simp [same, ih]

theorem field?_eq_some_iff (nodup : (names entries).Nodup) :
    field? name entries = some v ↔ (.text name, v) ∈ entries := by
  refine ⟨mem_of_field?, fun member => ?_⟩
  induction entries with
  | nil => cases member
  | cons e rest ih =>
    rw [names_cons] at nodup
    rcases List.mem_cons.mp member with rfl | later
    · simp [field?]
    · have different : e.1 ≠ .text name := by
        intro same
        refine List.disjoint_of_nodup_append nodup ?_ (mem_names_iff.mpr ⟨v, later⟩)
        rw [same]
        exact List.mem_singleton_self name
      rw [field?, if_neg different, ih (List.nodup_append.mp nodup).2.1 later]

theorem names_putKey (key : Scalar) (v : Value) (entries : List (Scalar × Value)) :
    names (putKey key v entries) = names entries ∨
      ∃ name, key = .text name ∧ name ∉ names entries ∧ names (putKey key v entries) = names entries ++ [name] := by
  induction entries with
  | nil =>
    cases named : key.text? with
    | none => exact .inl (by simp [putKey, names, named])
    | some name =>
      obtain rfl := Scalar.text?_eq_some_iff.mp named
      exact .inr ⟨name, rfl, List.not_mem_nil, rfl⟩
  | cons e rest ih =>
    rw [putKey]
    split
    · exact .inl rfl
    · next other =>
      rw [names_cons, names_cons]
      rcases ih with same | ⟨name, rfl, fresh, more⟩
      · exact .inl (by rw [same])
      · refine .inr ⟨name, rfl, ?_, by rw [more, List.append_assoc]⟩
        intro known
        rcases List.mem_append.mp known with first | later
        · rw [Option.mem_toList, Scalar.text?_eq_some_iff] at first
          exact other (sameKey_text_iff.mpr first)
        · exact fresh later

theorem nodup_names_putKey (nodup : (names entries).Nodup) (key : Scalar) (v : Value) :
    (names (putKey key v entries)).Nodup := by
  rcases names_putKey key v entries with same | ⟨name, -, fresh, more⟩
  · rwa [same]
  · rw [more, List.nodup_append]
    refine ⟨nodup, List.nodup_singleton name, ?_⟩
    rintro a known b last rfl
    exact fresh (List.mem_singleton.mp last ▸ known)

/-! ## Merging -/

/-- What a key has after merging, if there is an end to it. -/
def mergedValue (depth : Nat) (old : Option Value) (v : Value) : Option Value :=
  match old.map Value.opened, v.opened with
  | some (.map inner), .map entries => (mergeOpened depth inner entries).map .map
  | _, _ => some v

theorem mergedValue_of_maps {depth : Nat} {old : Option Value} {inner : List (Scalar × Value)}
    (below : old.map Value.opened = some (.map inner)) (above : v.opened = .map entries) :
    mergedValue depth old v = (mergeOpened depth inner entries).map .map := by
  simp only [mergedValue, below, above]

theorem mergedValue_of_not_maps {depth : Nat} {old : Option Value}
    (apart : ∀ inner entries, old.map Value.opened = some (.map inner) → v.opened = .map entries → False) :
    mergedValue depth old v = some v := by
  unfold mergedValue
  split
  · next below above => exact (apart _ _ below above).elim
  · rfl

/-- Entries put over a map one after the other, each with a value that is made from it. -/
def putEach (make : Scalar × Value → Option Value) (base upper : List (Scalar × Value)) :
    Option (List (Scalar × Value)) :=
  upper.foldlM (fun merged e => (make e).map fun v => putKey e.1 v merged) base

section putEach

variable {make : Scalar × Value → Option Value} {e : Scalar × Value}

theorem putEach_cons_eq_some_iff : putEach make base (e :: upper) = some merged ↔
    ∃ v, make e = some v ∧ putEach make (putKey e.1 v base) upper = some merged := by
  rw [putEach, List.foldlM_cons]
  simp only [putEach, Option.bind_eq_bind, Option.bind_eq_some_iff, Option.map_eq_some_iff]
  constructor
  · rintro ⟨_, ⟨v, made, rfl⟩, ends⟩
    exact ⟨v, made, ends⟩
  · rintro ⟨v, made, ends⟩
    exact ⟨_, ⟨v, made, rfl⟩, ends⟩

theorem field?_putEach (nodup : (names upper).Nodup) (ends : putEach make base upper = some merged) (name : String) :
    match field? name upper with
    | some v => ∃ v', make (.text name, v) = some v' ∧ field? name merged = some v'
    | none => field? name merged = field? name base := by
  induction upper generalizing base with
  | nil =>
    cases ends
    rfl
  | cons e rest ih =>
    rw [names_cons] at nodup
    obtain ⟨v', made, ends⟩ := putEach_cons_eq_some_iff.mp ends
    have later := ih (List.nodup_append.mp nodup).2.1 ends
    rw [field?]
    by_cases same : e.1 = .text name
    · obtain ⟨k, v⟩ := e
      cases same
      have once : field? name rest = none := by
        rw [field?_eq_none_iff]
        exact List.disjoint_of_nodup_append nodup (List.mem_singleton_self name)
      simp only [once, field?_putKey, if_pos] at later
      simpa using ⟨v', made, later⟩
    · simpa only [field?_putKey, if_neg same] using later

theorem mem_putEach (ends : putEach make base upper = some merged) (member : (k, v) ∈ merged) :
    (k, v) ∈ base ∨ ∃ e ∈ upper, make e = some v := by
  induction upper generalizing base with
  | nil =>
    cases ends
    exact .inl member
  | cons e rest ih =>
    obtain ⟨v', made, ends⟩ := putEach_cons_eq_some_iff.mp ends
    rcases ih ends with there | ⟨e', later, made'⟩
    · rcases mem_putKey there with rfl | below
      · exact .inr ⟨e, List.mem_cons_self, made⟩
      · exact .inl below
    · exact .inr ⟨e', List.mem_cons_of_mem _ later, made'⟩

theorem key_of_mem_putEach (ends : putEach make base upper = some merged) (member : (k, v) ∈ merged) :
    (∃ v', (k, v') ∈ base) ∨ ∃ v', (k, v') ∈ upper := by
  induction upper generalizing base with
  | nil =>
    cases ends
    exact .inl ⟨v, member⟩
  | cons e rest ih =>
    obtain ⟨v', -, ends⟩ := putEach_cons_eq_some_iff.mp ends
    rcases ih ends with ⟨w, there⟩ | ⟨w, there⟩
    · rcases key_of_mem_putKey there with rfl | below
      · exact .inr ⟨e.2, List.mem_cons_self⟩
      · exact .inl below
    · exact .inr ⟨w, List.mem_cons_of_mem _ there⟩

theorem nodup_names_putEach (nodup : (names base).Nodup) (ends : putEach make base upper = some merged) :
    (names merged).Nodup := by
  induction upper generalizing base with
  | nil =>
    cases ends
    exact nodup
  | cons e rest ih =>
    obtain ⟨v', -, ends⟩ := putEach_cons_eq_some_iff.mp ends
    exact ih (nodup_names_putKey nodup e.1 v') ends

theorem exists_of_putEach_eq_none (endless : putEach make base upper = none) : ∃ e ∈ upper, make e = none := by
  induction upper generalizing base with
  | nil => cases endless
  | cons e rest ih =>
    cases made : make e with
    | none => exact ⟨e, List.mem_cons_self, made⟩
    | some v =>
      rw [putEach, List.foldlM_cons, made] at endless
      obtain ⟨e', later, fails⟩ := ih endless
      exact ⟨e', List.mem_cons_of_mem _ later, fails⟩

end putEach

theorem mergeOpened_succ (depth : Nat) (base upper : List (Scalar × Value)) :
    mergeOpened (depth + 1) base upper = putEach (fun e => mergedValue depth (valueAt? e.1 base) e.2) base upper := by
  rw [mergeOpened, putEach]
  congr 1
  funext merged e
  split
  · next below above =>
    rw [mergedValue_of_maps below above]
    cases mergeOpened depth _ _ <;> rfl
  · next apart =>
    rw [mergedValue_of_not_maps apart]
    rfl

theorem field?_mergeOpened {depth : Nat} (nodup : (names upper).Nodup)
    (ends : mergeOpened (depth + 1) base upper = some merged) (name : String) :
    match field? name upper with
    | some v => ∃ v', mergedValue depth (field? name base) v = some v' ∧ field? name merged = some v'
    | none => field? name merged = field? name base := by
  rw [mergeOpened_succ] at ends
  simpa only [valueAt?_text] using field?_putEach nodup ends name

theorem key_of_mem_mergeOpened {depth : Nat} (ends : mergeOpened depth base upper = some merged)
    (member : (k, v) ∈ merged) : (∃ v', (k, v') ∈ base) ∨ ∃ v', (k, v') ∈ upper := by
  cases depth with
  | zero => cases ends
  | succ depth =>
    rw [mergeOpened_succ] at ends
    exact key_of_mem_putEach ends member

theorem nodup_names_mergeOpened {depth : Nat} (nodup : (names base).Nodup)
    (ends : mergeOpened depth base upper = some merged) : (names merged).Nodup := by
  cases depth with
  | zero => cases ends
  | succ depth =>
    rw [mergeOpened_succ] at ends
    exact nodup_names_putEach nodup ends

/-- Where a value in a merged map is from: one of the two maps, or two maps that are merged themselves. -/
inductive MergedFrom (depth : Nat) (base upper : List (Scalar × Value)) : Value → Prop
  | below {k : Scalar} {v : Value} (member : (k, v) ∈ base) : MergedFrom depth base upper v
  | above {k : Scalar} {v : Value} (member : (k, v) ∈ upper) : MergedFrom depth base upper v
  | both {k k' : Scalar} {old new : Value} {inner entries merged : List (Scalar × Value)}
      (inBase : (k, old) ∈ base) (openedOld : old.opened = .map inner)
      (inUpper : (k', new) ∈ upper) (openedNew : new.opened = .map entries)
      (ends : mergeOpened depth inner entries = some merged) : MergedFrom depth base upper (.map merged)

theorem mergedFrom_of_mem {depth : Nat} (ends : mergeOpened (depth + 1) base upper = some merged)
    (member : (k, v) ∈ merged) : MergedFrom depth base upper v := by
  rw [mergeOpened_succ] at ends
  rcases mem_putEach ends member with below | ⟨⟨k', new⟩, above, made⟩
  · exact .below below
  · unfold mergedValue at made
    split at made
    · next inner entries opened openedNew =>
      obtain ⟨merged, ends', rfl⟩ := Option.map_eq_some_iff.mp made
      obtain ⟨old, found, openedOld⟩ := Option.map_eq_some_iff.mp opened
      obtain ⟨k'', there⟩ := exists_of_valueAt? found
      exact .both there openedOld above openedNew ends'
    · cases made
      exact .above above

/-! ## Depth -/

/-- Maps stand inside of one another to a depth. -/
def Deep : Nat → List (Scalar × Value) → Prop
  | 0, _ => True
  | depth + 1, entries => ∃ k v inner, (k, v) ∈ entries ∧ v.opened = .map inner ∧ Deep depth inner

theorem deep_of_endless {depth : Nat} (endless : mergeOpened depth base upper = none) :
    Deep depth base ∧ Deep depth upper := by
  induction depth generalizing base upper with
  | zero => exact ⟨trivial, trivial⟩
  | succ depth ih =>
    rw [mergeOpened_succ] at endless
    obtain ⟨⟨k, v⟩, member, fails⟩ := exists_of_putEach_eq_none endless
    unfold mergedValue at fails
    split at fails
    · next inner entries below above =>
      obtain ⟨old, found, opened⟩ := Option.map_eq_some_iff.mp below
      obtain ⟨k', there⟩ := exists_of_valueAt? found
      obtain ⟨deepBase, deepUpper⟩ := ih (Option.map_eq_none_iff.mp fails)
      exact ⟨⟨k', old, inner, there, opened, deepBase⟩, ⟨k, v, entries, member, above, deepUpper⟩⟩
    · cases fails

theorem deep_mergeOpened {depth d : Nat} (ends : mergeOpened depth base upper = some merged)
    (deep : Deep d merged) : Deep d base ∨ Deep d upper := by
  induction depth generalizing d base upper merged with
  | zero => cases ends
  | succ depth ih =>
    cases d with
    | zero => exact .inl trivial
    | succ d =>
      obtain ⟨k, v, inside, member, opened, deep⟩ := deep
      cases mergedFrom_of_mem ends member with
      | below there => exact .inl ⟨_, v, inside, there, opened, deep⟩
      | above there => exact .inr ⟨_, v, inside, there, opened, deep⟩
      | both inBase openedOld inUpper openedNew ends' =>
        cases opened
        rcases ih ends' deep with deep | deep
        · exact .inl ⟨_, _, _, inBase, openedOld, deep⟩
        · exact .inr ⟨_, _, _, inUpper, openedNew, deep⟩

end ReleaseImpact
