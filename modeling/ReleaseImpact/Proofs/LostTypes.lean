import ReleaseImpact.Proofs.VirtualTypes
import Mathlib.Data.List.Nodup

/-!
Virtual types whose name no module declares any more. Main statements:

- `goneChanges_expectedKinds`: a virtual type is reported as gone just if its name is lost.
- `mem_lostTypes_iff`: which virtual types are lost, among the modules that both snapshots have.
- `compareVirtualTypes_lost`: each lost virtual type is reported once, as removed or as made a class.
- `compareVirtualTypes_moduleGone`: of a module that is gone itself nothing is reported.
-/

namespace ReleaseImpact.VirtualTypeComparison

open Registry

/-- The kinds of change that say that a virtual type has no declaration any more. -/
def IsGone (kind : ChangeKind) : Prop := kind = .virtualTypeRemoved ∨ kind = .virtualTypeToType

instance (kind : ChangeKind) : Decidable (IsGone kind) := inferInstanceAs (Decidable (_ ∨ _))

def goneChanges (found : List (String × Change)) : List (String × Change) :=
  found.filter fun c => IsGone c.2.kind

/-- The virtual types of modules that both snapshots have whose names no later module has, each with its
module. -/
def lostTypes (before after : Registry) : List (String × VirtualType) :=
  (before.modules.filter (· ∈ after.modules)).flatMap fun moduleName =>
    ((before.typesOf moduleName).filter fun v => firstOfName? after v.name = none).map (moduleName, ·)

/-! ## Names without a declaration -/

theorem firstOfName?_eq_none_iff {r : Registry} {name : String} :
    firstOfName? r name = none ↔ ∀ moduleName ∈ r.modules, ∀ w ∈ r.typesOf moduleName, w.name ≠ name := by
  simp only [firstOfName?, List.find?_eq_none, List.mem_flatMap, decide_eq_true_eq]
  constructor
  · intro unnamed moduleName member w declared
    exact unnamed w ⟨moduleName, member, declared⟩
  · rintro unnamed w ⟨moduleName, member, declared⟩
    exact unnamed moduleName member w declared

theorem mem_lostTypes_iff {before after : Registry} {moduleName : String} {v : VirtualType} :
    (moduleName, v) ∈ lostTypes before after ↔
      moduleName ∈ before.modules ∧ moduleName ∈ after.modules ∧ v ∈ before.typesOf moduleName ∧
        ∀ other ∈ after.modules, ∀ w ∈ after.typesOf other, w.name ≠ v.name := by
  rw [← firstOfName?_eq_none_iff]
  simp only [lostTypes, List.mem_flatMap, List.mem_filter, List.mem_map, decide_eq_true_eq, Prod.mk.injEq]
  constructor
  · rintro ⟨_, ⟨inBefore, inAfter⟩, w, ⟨declared, lost⟩, rfl, rfl⟩
    exact ⟨inBefore, inAfter, declared, lost⟩
  · rintro ⟨inBefore, inAfter, declared, lost⟩
    exact ⟨moduleName, ⟨inBefore, inAfter⟩, v, ⟨declared, lost⟩, rfl, rfl⟩

theorem nodup_typesOf (r : Registry) (moduleName : String) : (r.typesOf moduleName).Nodup := by
  have names : (r.types moduleName).keys = (r.typesOf moduleName).map VirtualType.name := by
    rw [← values_types]
    exact OrderedMap.keys_eq_map_values (r.named_types moduleName)
  have distinct : (r.types moduleName).keys.Nodup := (r.types moduleName).nodup_keys
  rw [names] at distinct
  exact distinct.of_map

theorem nodup_lostTypes (before after : Registry) : (lostTypes before after).Nodup := by
  refine List.nodup_flatMap.2 ⟨fun moduleName _ => ?_, ?_⟩
  · have distinct := (nodup_typesOf before moduleName).filter fun v => firstOfName? after v.name = none
    exact distinct.map fun _ _ same => (Prod.mk.inj same).2
  · have modules : (before.modules.filter (· ∈ after.modules)).Nodup := before.nodes.nodup_keys.filter _
    refine modules.imp fun {m m'} other => ?_
    intro e here there
    obtain ⟨v, -, rfl⟩ := List.mem_map.1 here
    obtain ⟨w, -, same⟩ := List.mem_map.1 there
    exact other (Prod.mk.inj same).1.symm

/-! ## What is reported of lost names -/

theorem isGone_goneKind (isFile : String → Bool) (extension fileAfter name : String) :
    IsGone (goneKind isFile extension fileAfter name) := by
  unfold goneKind
  split
  · exact .inr rfl
  · exact .inl rfl

/-- A declaration with the name, in whatever module, makes a virtual type a changed one. -/
theorem goneChanges_expectedKinds (isFile : String → Bool) (extension : String) (after : Registry)
    {moduleName : String} (inAfter : moduleName ∈ after.modules) (file : String) (v : VirtualType) :
    goneChanges ((expectedKinds isFile extension after moduleName v).map fun kind =>
        (diDomain, ⟨kind, file, v.name⟩)) =
      if firstOfName? after v.name = none then
        [(diDomain, ⟨goneKind isFile extension (after.fileOf moduleName) v.name, file, v.name⟩)]
      else [] := by
  have kept (w : VirtualType) : goneChanges (((changedProperties v w).map .virtualTypeChanged).map fun kind =>
      (diDomain, (⟨kind, file, v.name⟩ : Change))) = [] := by
    simp [goneChanges, IsGone, List.filter_eq_nil_iff]
  unfold expectedKinds
  cases here : (after.typesOf moduleName).find? (·.name = v.name) with
  | some same =>
    have declared : firstOfName? after v.name ≠ none := by
      intro lost
      have named : same.name = v.name := by simpa using List.find?_some here
      exact firstOfName?_eq_none_iff.1 lost moduleName inAfter same (List.mem_of_find?_eq_some here) named
    rw [if_neg declared]
    exact kept same
  | none =>
    cases elsewhere : firstOfName? after v.name with
    | some moved =>
      rw [if_neg (Option.some_ne_none moved)]
      exact kept moved
    | none =>
      rw [if_pos rfl]
      simp [goneChanges, isGone_goneKind]

theorem goneChanges_expected (isFile : String → Bool) (extension : String) (before after : Registry) :
    goneChanges (expectedTypeChanges isFile extension before after) =
      (lostTypes before after).map fun e =>
        (diDomain, ⟨goneKind isFile extension (after.fileOf e.1) e.2.name, before.fileOf e.1, e.2.name⟩) := by
  rw [goneChanges, expectedTypeChanges, List.filter_flatMap, lostTypes, List.map_flatMap]
  refine List.flatMap_congr fun moduleName member => ?_
  have inAfter : moduleName ∈ after.modules := of_decide_eq_true (List.mem_filter.1 member).2
  rw [List.filter_flatMap, List.map_map]
  induction before.typesOf moduleName with
  | nil => rfl
  | cons v rest ih =>
    have first := goneChanges_expectedKinds isFile extension after inAfter (before.fileOf moduleName) v
    rw [goneChanges] at first
    rw [List.flatMap_cons, ih, first, List.filter_cons]
    by_cases lost : firstOfName? after v.name = none <;> simp [lost]

/-- The virtual types of modules that both snapshots have whose names are lost stand in one-to-one
correspondence with the changes that say so, each of one kind and at its own place. -/
theorem compareVirtualTypes_lost (isFile : String → Bool) (extension : String) {before after : Registry}
    (sourcedBefore : before.Sourced) (sourcedAfter : after.Sourced) :
    (compareVirtualTypes isFile extension before after).outcome = .ok () ∧
      ∃ lost : List (String × VirtualType), lost.Nodup ∧
        (∀ moduleName v, (moduleName, v) ∈ lost ↔
          moduleName ∈ before.modules ∧ moduleName ∈ after.modules ∧ v ∈ before.typesOf moduleName ∧
            ∀ other ∈ after.modules, ∀ w ∈ after.typesOf other, w.name ≠ v.name) ∧
        goneChanges (compareVirtualTypes isFile extension before after).changes = lost.map fun e =>
          (diDomain,
            ⟨if (ClassPath.candidate? (after.fileOf e.1) e.2.name extension).any isFile then .virtualTypeToType
              else .virtualTypeRemoved, before.fileOf e.1, e.2.name⟩) := by
  obtain ⟨outcome, changes⟩ := compareVirtualTypes_reports isFile extension sourcedBefore sourcedAfter
  refine ⟨outcome, lostTypes before after, nodup_lostTypes before after, fun _ _ => mem_lostTypes_iff, ?_⟩
  rw [changes]
  exact goneChanges_expected isFile extension before after

theorem compareVirtualTypes_lost_shop :
    shopBefore.Sourced ∧ shopAfter.Sourced ∧
      (compareVirtualTypes (· == "code/Acme/Shop/Made.php") ".php" shopBefore shopAfter).outcome = .ok () ∧
      ("di", ⟨.virtualTypeToType, "code/Acme/Shop/etc/di.xml", "Acme\\Shop\\Made"⟩) ∈ goneChanges
        (compareVirtualTypes (· == "code/Acme/Shop/Made.php") ".php" shopBefore shopAfter).changes ∧
      ("di", ⟨.virtualTypeRemoved, "code/Acme/Shop/etc/di.xml", "Gone"⟩) ∈ goneChanges
        (compareVirtualTypes (· == "code/Acme/Shop/Made.php") ".php" shopBefore shopAfter).changes := by
  have sourcedBefore : shopBefore.Sourced := by decide
  have sourcedAfter : shopAfter.Sourced := by decide
  obtain ⟨outcome, lost, -, member, changes⟩ :=
    compareVirtualTypes_lost (· == "code/Acme/Shop/Made.php") ".php" sourcedBefore sourcedAfter
  have made := (member "Acme_Shop" ⟨"Acme\\Shop\\Made", "T", "global", none⟩).2 (by decide)
  have gone := (member "Acme_Shop" ⟨"Gone", "T", "global", none⟩).2 (by decide)
  refine ⟨sourcedBefore, sourcedAfter, outcome, ?_, ?_⟩
  · rw [changes]
    exact List.mem_map.2 ⟨_, made, by decide⟩
  · rw [changes]
    exact List.mem_map.2 ⟨_, gone, by decide⟩

theorem compareVirtualTypes_moduleGone :
    let before := Registry.ofModules
      [("Acme_Old", "code/Acme/Old/etc/di.xml", [.virtualType ⟨"Lost", "T", "global", none⟩])]
    let after := Registry.ofModules [("Acme_New", "code/Acme/New/etc/di.xml", [])]
    before.Sourced ∧ after.Sourced ∧ "Acme_Old" ∈ before.modules ∧
      ⟨"Lost", "T", "global", none⟩ ∈ before.typesOf "Acme_Old" ∧
      (∀ other ∈ after.modules, ∀ w ∈ after.typesOf other, w.name ≠ "Lost") ∧
      (compareVirtualTypes (fun _ => false) ".php" before after).changes = [] := by decide +kernel

end ReleaseImpact.VirtualTypeComparison
