import ReleaseImpact.Comparison.VirtualTypes
import ReleaseImpact.Proofs.Registry
import ReleaseImpact.Proofs.Reports

/-!
What the comparison of virtual types reports, as a list that mentions neither shortcuts nor logs. Main
statements:

- `changedProperties_sublist`: of two declarations, the type is named before the scope.
- `compareType_reports`: what is reported of one virtual type.
- `expectedTypeChanges_of_sameIndex`: of registries with equal indexes there is nothing to report.
- `compareVirtualTypes_appends`: the comparison reports the expected changes, behind all earlier ones.
-/

namespace ReleaseImpact.VirtualTypeComparison

open Trail Registry

/-- The first virtual type of a name in any module. -/
def firstOfName? (r : Registry) (name : String) : Option VirtualType :=
  (r.modules.flatMap r.typesOf).find? (·.name = name)

/-- What becomes of a virtual type that no module declares any more. -/
def goneKind (isFile : String → Bool) (extension fileAfter name : String) : ChangeKind :=
  if (ClassPath.candidate? fileAfter name extension).any isFile then .virtualTypeToType
  else .virtualTypeRemoved

/-- What becomes of a virtual type of a module: it has changed against the one of its name in the
module, else against the first one of its name, else it is gone. -/
def expectedKinds (isFile : String → Bool) (extension : String) (after : Registry) (moduleName : String)
    (v : VirtualType) : List ChangeKind :=
  match (after.typesOf moduleName).find? (·.name = v.name) with
  | some same => (changedProperties v same).map .virtualTypeChanged
  | none =>
    match firstOfName? after v.name with
    | some moved => (changedProperties v moved).map .virtualTypeChanged
    | none => [goneKind isFile extension (after.fileOf moduleName) v.name]

def expectedTypeChanges (isFile : String → Bool) (extension : String) (before after : Registry) :
    List (String × Change) :=
  (before.modules.filter (· ∈ after.modules)).flatMap fun moduleName =>
    (before.typesOf moduleName).flatMap fun v =>
      (expectedKinds isFile extension after moduleName v).map fun kind =>
        (diDomain, ⟨kind, before.fileOf moduleName, v.name⟩)

theorem changedProperties_sublist (before after : VirtualType) :
    (changedProperties before after).Sublist ["type", "scope"] := by
  simp only [changedProperties]
  split
  · exact List.nil_sublist _
  · show List.Sublist _ (["type"] ++ ["scope"])
    refine List.Sublist.append ?_ ?_ <;> split <;> simp

/-! ## One virtual type -/

theorem firstNamed?_index (r : Registry) (name : String) :
    firstNamed? (r.index Node.virtualType?) name = firstOfName? r name := by
  have all : (r.index Node.virtualType?).values = r.modules.map r.types := by
    rw [OrderedMap.values, entries_index, List.map_map]
    rfl
  have values : OrderedMap.values ∘ r.types = r.typesOf := funext r.values_types
  rw [firstNamed?, firstOfName?, all, List.flatMap_map, ← values]
  rfl

theorem reportChanged_reports (before after : VirtualType) (file : String) :
    (reportChanged before after file).Reports ()
      ((changedProperties before after).map fun property =>
        (diDomain, ⟨.virtualTypeChanged property, file, before.name⟩)) := by
  rw [List.map_eq_flatMap]
  exact reports_each fun _ _ => (reports_log ..).bind_silent (reports_report ..)

theorem reportGone_reports (isFile : String → Bool) (extension : String) (before : VirtualType)
    (fileBefore fileAfter : String) :
    (reportGone isFile extension before fileBefore fileAfter).Reports ()
      [(diDomain, ⟨goneKind isFile extension fileAfter before.name, fileBefore, before.name⟩)] := by
  unfold reportGone goneKind
  cases ClassPath.candidate? fileAfter before.name extension with
  | none => exact (reports_log ..).bind_silent (reports_report ..)
  | some candidate =>
    have kind : (diDomain, if isFile candidate then
          (⟨.virtualTypeToType, fileBefore, before.name⟩ : Change)
        else ⟨.virtualTypeRemoved, fileBefore, before.name⟩) =
        (diDomain, ⟨if (some candidate).any isFile then .virtualTypeToType else .virtualTypeRemoved,
          fileBefore, before.name⟩) := by
      by_cases there : isFile candidate <;> simp [there]
    rw [← kind]
    exact (reports_step rfl).bind_silent (reports_report ..)

theorem compareType_reports (isFile : String → Bool) (extension : String) (after : Registry)
    (moduleName fileBefore : String) (v : VirtualType) :
    (compareType isFile extension (after.index Node.virtualType?) moduleName (after.types moduleName)
      fileBefore (after.fileOf moduleName) v).Reports ()
      ((expectedKinds isFile extension after moduleName v).map fun kind =>
        (diDomain, ⟨kind, fileBefore, v.name⟩)) := by
  have changed (other : VirtualType) := reportChanged_reports v other fileBefore
  unfold compareType expectedKinds
  rw [get?_types]
  cases (after.typesOf moduleName).find? (·.name = v.name) with
  | some same =>
    by_cases equal : v = same
    · subst equal
      simpa [changedProperties_self] using reports_pure ()
    · simpa [equal, Function.comp_def] using changed same
  | none =>
    rw [firstNamed?_index]
    cases firstOfName? after v.name with
    | some moved =>
      refine (reports_log ..).bind_silent ?_
      simpa [Function.comp_def] using changed moved
    | none => exact reportGone_reports ..

/-! ## Modules -/

theorem compareModule_reports (isFile : String → Bool) (extension : String) {before after : Registry}
    (sourcedBefore : before.Sourced) (sourcedAfter : after.Sourced) {moduleName : String}
    (member : moduleName ∈ before.modules) :
    (compareModule isFile extension before after (after.index Node.virtualType?) moduleName
      (before.types moduleName)).Reports ()
      (if moduleName ∈ after.modules then
        (before.typesOf moduleName).flatMap fun v =>
          (expectedKinds isFile extension after moduleName v).map fun kind =>
            (diDomain, ⟨kind, before.fileOf moduleName, v.name⟩)
      else []) := by
  unfold compareModule
  by_cases common : moduleName ∈ after.modules
  · rw [get?_index common, if_pos common, ← values_types]
    have fileBefore := reports_ofExcept (sourceFile_of_sourced sourcedBefore member)
    have fileAfter := reports_ofExcept (sourceFile_of_sourced sourcedAfter common)
    refine fileBefore.bind_silent (fileAfter.bind_silent (reports_each fun v _ => ?_))
    exact compareType_reports ..
  · have missing : (after.index Node.virtualType?).get? moduleName = none := by
      rw [← keys_index after Node.virtualType?] at common
      exact OrderedMap.lookup_eq_none_iff.2 common
    rw [missing, if_neg common]
    exact reports_pure ()

theorem expectedTypeChanges_of_sameIndex (isFile : String → Bool) (extension : String)
    {before after : Registry}
    (same : sameIndex (before.index Node.virtualType?) (after.index Node.virtualType?) = true) :
    expectedTypeChanges isFile extension before after = [] := by
  refine List.flatMap_eq_nil_iff.2 fun moduleName member => List.flatMap_eq_nil_iff.2 fun v hv => ?_
  obtain ⟨inBefore, inAfter⟩ := List.mem_filter.1 member
  obtain ⟨types, found, agree⟩ :=
    OrderedMap.get?_of_agreesBy same (get?_index inBefore Node.virtualType?)
  rw [get?_index (of_decide_eq_true inAfter)] at found
  cases found
  have here : (before.types moduleName).get? v.name = some v :=
    OrderedMap.get?_keyOf (before.named_types moduleName) (before.values_types moduleName ▸ hv)
  have kept := OrderedMap.get?_of_agrees agree here
  have unchanged : (after.typesOf moduleName).find? (·.name = v.name) = some v := by
    rw [← get?_types]
    exact kept
  simp [expectedKinds, unchanged, changedProperties_self]

theorem compareVirtualTypes_reports (isFile : String → Bool) (extension : String)
    {before after : Registry} (sourcedBefore : before.Sourced) (sourcedAfter : after.Sourced) :
    (compareVirtualTypes isFile extension before after).Reports ()
      (expectedTypeChanges isFile extension before after) := by
  unfold compareVirtualTypes
  by_cases same : sameIndex (before.index Node.virtualType?) (after.index Node.virtualType?) = true
  · rw [if_pos same, expectedTypeChanges_of_sameIndex isFile extension same]
    exact reports_pure ()
  · rw [if_neg same, entries_index, each_map, expectedTypeChanges, flatMap_filter]
    simp only [decide_eq_true_eq]
    exact reports_each fun moduleName member =>
      compareModule_reports isFile extension sourcedBefore sourcedAfter member

theorem compareVirtualTypes_appends (isFile : String → Bool) (extension : String)
    {before after : Registry} (sourcedBefore : before.Sourced) (sourcedAfter : after.Sourced)
    (report : Report) :
    (compareVirtualTypes isFile extension before after).outcome = .ok () ∧
      (report.append (compareVirtualTypes isFile extension before after).changes).entries =
        report.entries ++ expectedTypeChanges isFile extension before after ∧
      ∀ v w, (changedProperties v w).Sublist ["type", "scope"] := by
  obtain ⟨outcome, changes⟩ :=
    compareVirtualTypes_reports isFile extension sourcedBefore sourcedAfter
  exact ⟨outcome, congrArg (report.entries ++ ·) changes, changedProperties_sublist⟩

def shopBefore : Registry := .ofModules
  [("Acme_Shop", "code/Acme/Shop/etc/di.xml",
    [.virtualType ⟨"Kept", "T", "global", none⟩, .virtualType ⟨"Moved", "T", "global", none⟩,
      .virtualType ⟨"Acme\\Shop\\Made", "T", "global", none⟩, .virtualType ⟨"Gone", "T", "global", none⟩]),
   ("Acme_Old", "code/Acme/Old/etc/di.xml", [.virtualType ⟨"Lost", "T", "global", none⟩])]

def shopAfter : Registry := .ofModules
  [("Acme_New", "code/Acme/New/etc/di.xml", [.virtualType ⟨"Moved", "U", "frontend", none⟩]),
   ("Acme_Shop", "code/Acme/Shop/etc/di.xml", [.virtualType ⟨"Kept", " \\T", "adminhtml", none⟩])]

theorem compareVirtualTypes_appends_shop :
    shopBefore.Sourced ∧ shopAfter.Sourced ∧
      (compareVirtualTypes (· == "code/Acme/Shop/Made.php") ".php" shopBefore shopAfter).outcome = .ok () ∧
      (Report.append ⟨[("system", ⟨.fileAdded, "f", "system.xml"⟩)]⟩
        (compareVirtualTypes (· == "code/Acme/Shop/Made.php") ".php" shopBefore shopAfter).changes).entries =
        [("system", ⟨.fileAdded, "f", "system.xml"⟩),
          ("di", ⟨.virtualTypeChanged "scope", "code/Acme/Shop/etc/di.xml", "Kept"⟩),
          ("di", ⟨.virtualTypeChanged "type", "code/Acme/Shop/etc/di.xml", "Moved"⟩),
          ("di", ⟨.virtualTypeChanged "scope", "code/Acme/Shop/etc/di.xml", "Moved"⟩),
          ("di", ⟨.virtualTypeToType, "code/Acme/Shop/etc/di.xml", "Acme\\Shop\\Made"⟩),
          ("di", ⟨.virtualTypeRemoved, "code/Acme/Shop/etc/di.xml", "Gone"⟩)] := by
  have sourcedBefore : shopBefore.Sourced := by decide
  have sourcedAfter : shopAfter.Sourced := by decide
  obtain ⟨outcome, entries, -⟩ := compareVirtualTypes_appends (· == "code/Acme/Shop/Made.php") ".php"
    sourcedBefore sourcedAfter ⟨[("system", ⟨.fileAdded, "f", "system.xml"⟩)]⟩
  exact ⟨sourcedBefore, sourcedAfter, outcome, entries.trans (by decide)⟩

end ReleaseImpact.VirtualTypeComparison
