import ReleaseImpact.Proofs.LowerCase
import ReleaseImpact.Proofs.MergedMaps
import ReleaseImpact.Proofs.OrderedMap
import ReleaseImpact.Settings.Variables

/-!
What variables for single settings say. Main statements:

- `singles_of_readable`: the settings of a group are those of its variables, each by its name.
- `properNames_of_lowered`: names that come from variables are proper already.
- `settings_of_plain`: variables for single settings are never refused for their names.
-/

namespace ReleaseImpact

theorem putKey_of_fresh {name : String} {entries : List (Scalar × Value)} (fresh : name ∉ names entries) (v : Value) :
    putKey (.text name) v entries = entries ++ [(.text name, v)] := by
  induction entries with
  | nil => rfl
  | cons e rest ih =>
    rw [names_cons, List.mem_append, not_or] at fresh
    have other : ¬ e.1.sameKey (.text name) = true := by
      intro same
      refine fresh.1 ?_
      rw [sameKey_text_iff.mp same]
      exact List.mem_singleton_self name
    rw [putKey, if_neg other, ih fresh.2, List.cons_append]

namespace Variables

/-- The name in lower case of the variable for a setting. -/
def nameOf (group name : String) : String := front ++ group ++ "__" ++ name

/-- What a variable stands for: JSON for a list, and the text as it is for everything else. -/
def valueOf (group name text : String) : Value :=
  if name ∈ listSettings group then (Json.parse? text).getD (.text text) else .text text

/-- What the variables say about a setting. Of two that differ in case only the later one counts. -/
def value? (env : Environment) (group name : String) : Option Value :=
  (OrderedMap.last? (nameOf group name) (env.vars.map fun v => (Text.lowered v.1, v.2))).map (valueOf group name)

/-- No variable is for a whole group, and none for something inside of a setting. -/
structure Plain (env : Environment) : Prop where
  noGroup : ∀ v ∈ env.vars, ∀ group ∈ Validation.sectionNames, Text.lowered v.1 ≠ front ++ group
  oneName : ∀ v ∈ env.vars, ∀ group ∈ Validation.sectionNames, ∀ name,
    Text.lowered v.1 = nameOf group name → ¬ ['_', '_'] <:+: name.toList

variable {env : Environment} {group name text : String} {vars : List (String × String)}

theorem toList_nameOf (group name : String) :
    (nameOf group name).toList = (front ++ group ++ "__").toList ++ name.toList := by
  rw [nameOf, String.toList_append (s := front ++ group ++ "__")]

theorem nameOf_injective {other : String} (same : nameOf group name = nameOf group other) : name = other := by
  rw [← String.toList_inj, toList_nameOf, toList_nameOf] at same
  exact String.toList_inj.mp (List.append_cancel_left same)

theorem parts_of_not_infix {cs : List Char} (one : ¬ ['_', '_'] <:+: cs) : parts cs = [cs] := by
  fun_induction parts cs with
  | case1 => rfl
  | case2 rest ih => exact absurd ⟨[], rest, rfl⟩ one
  | case3 c rest _ none ih =>
    have later := ih fun inside => one (inside.trans (List.suffix_cons c rest).isInfix)
    rw [none] at later
    cases later
  | case4 c rest _ p ps found ih =>
    have later := ih fun inside => one (inside.trans (List.suffix_cons c rest).isInfix)
    rw [found] at later
    cases later
    rfl

theorem single_of_readable (readable : name ∈ listSettings group → text ≠ "" → (Json.parse? text).isSome = true) :
    single group [name] text = .ok (valueOf group name text) := by
  unfold single valueOf
  by_cases listed : name ∈ listSettings group
  · by_cases empty : text = ""
    · subst empty
      have nothing : Json.parse? "" = none := rfl
      simp [listed, nothing]
    · obtain ⟨v, parsed⟩ := Option.isSome_iff_exists.mp (readable listed empty)
      simp [listed, empty, json, parsed]
  · simp [listed]

theorem singles_concat_of_ne {v : String × String} (other : ∀ name, v.1 ≠ nameOf group name) :
    singles group (vars ++ [v]) = singles group vars := by
  have outside : (front ++ group ++ "__").toList.isPrefixOf v.1.toList = false := by
    rw [Bool.eq_false_iff]
    intro starts
    obtain ⟨rest, whole⟩ := List.isPrefixOf_iff_prefix.mp starts
    refine other (String.ofList rest) ?_
    rw [← String.toList_inj, toList_nameOf, String.toList_ofList, whole]
  unfold singles
  dsimp only
  rw [List.foldlM_append]
  simp only [List.foldlM_cons, List.foldlM_nil, outside, Bool.false_eq_true, if_false]
  generalize (List.foldlM _ _ vars : Except Failure (List (Scalar × Value))) = earlier
  cases earlier <;> rfl

theorem singles_concat_of_eq {v : String × String} {value : Value} (named : v.1 = nameOf group name)
    (one : parts name.toList = [name.toList]) (reads : single group [name] v.2 = .ok value) :
    singles group (vars ++ [v]) = (singles group vars).map (putKey (.text name) value) := by
  have inside : (front ++ group ++ "__").toList.isPrefixOf v.1.toList = true := by
    rw [named, toList_nameOf, List.isPrefixOf_iff_prefix]
    exact List.prefix_append _ _
  have names : (parts (v.1.toList.drop (front ++ group ++ "__").toList.length)).map String.ofList = [name] := by
    rw [named, toList_nameOf, List.drop_left, one, List.map_singleton, String.ofList_toList]
  unfold singles
  dsimp only
  rw [List.foldlM_append]
  simp only [List.foldlM_cons, List.foldlM_nil, inside, if_true, names, reads]
  generalize (List.foldlM _ _ vars : Except Failure (List (Scalar × Value))) = earlier
  cases earlier <;> rfl

/-- The entries of a group that some variables amount to. -/
structure Tells (group : String) (vars : List (String × String)) (m : List (Scalar × Value)) : Prop where
  nodup : (names m).Nodup
  named : ∀ e ∈ m, ∃ name, e.1 = .text name
  found : ∀ name, field? name m = (OrderedMap.last? (nameOf group name) vars).map (valueOf group name)

theorem singles_of_readable
    (oneName : ∀ v ∈ vars, ∀ name, v.1 = nameOf group name → ¬ ['_', '_'] <:+: name.toList)
    (readable : ∀ v ∈ vars, ∀ name ∈ listSettings group, v.1 = nameOf group name → v.2 ≠ "" →
      (Json.parse? v.2).isSome = true) :
    ∃ m, singles group vars = .ok m ∧ Tells group vars m := by
  induction vars using List.reverseRecOn with
  | nil => exact ⟨[], rfl, List.nodup_nil, List.forall_mem_nil _, fun _ => rfl⟩
  | append_singleton vars v ih =>
    have earlier : ∀ e ∈ vars, e ∈ vars ++ [v] := fun e => List.mem_append_left _
    have last : v ∈ vars ++ [v] := List.mem_append_right _ (List.mem_singleton_self v)
    obtain ⟨m, ran, tells⟩ := ih (fun e member => oneName e (earlier e member))
      fun e member => readable e (earlier e member)
    by_cases named : ∃ name, v.1 = nameOf group name
    · obtain ⟨name, named⟩ := named
      have one := parts_of_not_infix (oneName v last name named)
      have reads := single_of_readable fun listed filled => readable v last name listed named filled
      refine ⟨putKey (.text name) (valueOf group name v.2) m, ?_, nodup_names_putKey tells.nodup _ _, ?_, fun other => ?_⟩
      · rw [singles_concat_of_eq named one reads, ran]
        rfl
      · rintro ⟨k, w⟩ member
        rcases key_of_mem_putKey member with rfl | ⟨w', there⟩
        · exact ⟨name, rfl⟩
        · exact tells.named (k, w') there
      · rw [field?_putKey, OrderedMap.last?_concat, tells.found, named]
        by_cases same : name = other
        · subst same
          simp
        · have apart : nameOf group name ≠ nameOf group other := fun h => same (nameOf_injective h)
          simp [same, apart]
    · have other : ∀ name, v.1 ≠ nameOf group name := fun name h => named ⟨name, h⟩
      refine ⟨m, by rw [singles_concat_of_ne other, ran], tells.nodup, tells.named, fun name => ?_⟩
      rw [OrderedMap.last?_concat, if_neg (other name), tells.found]

theorem properNames_of_lowered {m : List (Scalar × Value)} (nodup : (names m).Nodup)
    (named : ∀ e ∈ m, ∃ name, e.1 = .text name)
    (proper : ∀ name ∈ names m, Text.lowered name ∈ settingNames group → Text.lowered name = name) :
    properNames group m = m := by
  induction m using List.reverseRecOn with
  | nil => rfl
  | append_singleton m e ih =>
    obtain ⟨k, w⟩ := e
    obtain ⟨name, rfl⟩ : ∃ name, k = .text name := named (k, w) (List.mem_append_right _ (List.mem_singleton_self _))
    have whole : names (m ++ [(.text name, w)]) = names m ++ [name] := List.filterMap_append
    rw [whole] at nodup proper
    obtain ⟨nodup, -, apart⟩ := List.nodup_append.mp nodup
    have fresh : name ∉ names m := fun known => apart name known name (List.mem_singleton_self name) rfl
    have before := ih nodup (fun e member => named e (List.mem_append_left _ member))
      fun n member => proper n (List.mem_append_left _ member)
    have step : properNames group (m ++ [(.text name, w)]) = putKey (.text name) w (properNames group m) := by
      unfold properNames
      rw [List.foldl_append, List.foldl_cons, List.foldl_nil]
      dsimp only
      split
      · next found =>
        have same := List.find?_some found
        have listed := List.mem_of_find?_eq_some found
        obtain rfl := of_decide_eq_true same
        rw [proper name (by simp) listed]
      · rfl
    rw [step, before, putKey_of_fresh fresh]

/-! ## All groups -/

theorem last?_lowered (key : String) (env : Environment) :
    OrderedMap.last? key (lowered env) = OrderedMap.last? key (env.vars.map fun v => (Text.lowered v.1, v.2)) := by
  rw [← OrderedMap.get?_ofList, ← OrderedMap.get?_ofList, lowered, OrderedMap.ofList_entries]

theorem exists_of_mem_lowered {e : String × String} (member : e ∈ lowered env) :
    ∃ v ∈ env.vars, Text.lowered v.1 = e.1 ∧ v.2 = e.2 := by
  have found := OrderedMap.get?_eq_some_iff.mpr member
  rw [OrderedMap.get?_ofList] at found
  obtain ⟨v, there, same⟩ := List.mem_map.mp (OrderedMap.mem_of_last? found)
  obtain ⟨named, valued⟩ := Prod.mk.inj same
  exact ⟨v, there, named, valued⟩

theorem last?_of_mem_lowered {e : String × String} (member : e ∈ lowered env) :
    OrderedMap.last? e.1 (env.vars.map fun v => (Text.lowered v.1, v.2)) = some e.2 := by
  rw [← OrderedMap.get?_ofList]
  exact OrderedMap.get?_eq_some_iff.mpr member

theorem ascii_of_mem_settingNames (known : group ∈ Validation.sectionNames) (listed : name ∈ settingNames group) :
    ∀ c ∈ name.toList, c.toNat < 0x80 := by
  have all : ∀ group ∈ Validation.sectionNames, ∀ name ∈ settingNames group,
      name.toList.all (·.toNat < 0x80) = true := by decide
  simpa using all group known name listed

theorem groupValue_of_plain (plain : Plain env) (known : group ∈ Validation.sectionNames)
    (readable : ∀ name ∈ listSettings group, ∀ text,
      OrderedMap.last? (nameOf group name) (env.vars.map fun v => (Text.lowered v.1, v.2)) = some text → text ≠ "" →
        (Json.parse? text).isSome = true) :
    ∃ m, groupValue (lowered env) group = .ok (if m.isEmpty then none else some (.map m)) ∧
      Tells group (lowered env) m := by
  have noGroup : (lowered env).find? (·.1 = front ++ group) = none := by
    rw [List.find?_eq_none]
    intro e member
    obtain ⟨v, there, named, -⟩ := exists_of_mem_lowered member
    rw [← named]
    simpa using plain.noGroup v there group known
  have oneName : ∀ e ∈ lowered env, ∀ name, e.1 = nameOf group name → ¬ ['_', '_'] <:+: name.toList := by
    intro e member name named
    obtain ⟨v, there, same, -⟩ := exists_of_mem_lowered member
    exact plain.oneName v there group known name (same.trans named)
  obtain ⟨m, ran, tells⟩ := singles_of_readable oneName
    fun e member name listed named => readable name listed e.2 (named ▸ last?_of_mem_lowered member)
  refine ⟨m, ?_, tells⟩
  have proper : properNames group m = m := by
    refine properNames_of_lowered tells.nodup tells.named fun name member listed => ?_
    have found := tells.found name
    cases last : OrderedMap.last? (nameOf group name) (lowered env) with
    | none =>
      rw [last, Option.map_none, field?_eq_none_iff] at found
      exact absurd member found
    | some text =>
      obtain ⟨v, -, named, -⟩ := exists_of_mem_lowered (OrderedMap.mem_of_last? last)
      have part : name.toList ⊆ (Text.lowered v.1).toList := by
        rw [named, toList_nameOf]
        exact List.subset_append_right _ _
      exact Text.lowered_of_ascii part (ascii_of_mem_settingNames known listed)
  unfold groupValue
  rw [noGroup]
  simp only [Option.map_none, ran, bind, Except.bind, proper]
  rfl

theorem foldlM_groups {inner : String → List (Scalar × Value)} {groups : List String}
    (ran : ∀ group ∈ groups,
      groupValue (lowered env) group = .ok (if (inner group).isEmpty then none else some (.map (inner group))))
    (start : List (Scalar × Value)) :
    (groups.foldlM (fun m group => do
        match ← groupValue (lowered env) group with
        | some v => return m ++ [(.text group, v)]
        | none => return m) start : Except Failure (List (Scalar × Value))) =
      .ok (start ++ groups.filterMap fun group =>
        if (inner group).isEmpty then none else some (.text group, .map (inner group))) := by
  induction groups generalizing start with
  | nil => simp; rfl
  | cons group rest ih =>
    obtain ⟨here, later⟩ := List.forall_mem_cons.mp ran
    rw [List.foldlM_cons, here]
    by_cases empty : (inner group).isEmpty = true
    · simp only [empty, if_true, List.filterMap_cons]
      exact ih later start
    · simp only [if_neg empty, List.filterMap_cons]
      refine (ih later _).trans ?_
      rw [List.append_assoc, List.singleton_append]

theorem settings_of_plain (plain : Plain env)
    (readable : ∀ group ∈ Validation.sectionNames, ∀ name ∈ listSettings group, ∀ text,
      OrderedMap.last? (nameOf group name) (env.vars.map fun v => (Text.lowered v.1, v.2)) = some text → text ≠ "" →
        (Json.parse? text).isSome = true) :
    ∃ inner : String → List (Scalar × Value),
      settings env = .ok (Validation.sectionNames.filterMap fun group =>
        if (inner group).isEmpty then none else some (.text group, .map (inner group))) ∧
      ∀ group ∈ Validation.sectionNames, Tells group (lowered env) (inner group) := by
  have each := fun group known => groupValue_of_plain plain known (readable group known)
  choose! inner ran tells using each
  exact ⟨inner, foldlM_groups ran [], tells⟩

end Variables

end ReleaseImpact
