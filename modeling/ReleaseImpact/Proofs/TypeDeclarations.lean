import ReleaseImpact.Proofs.Copies
import ReleaseImpact.Proofs.TreeRegistry
import Mathlib.Data.List.Nodup

/-!
Which virtual types a module has after a scan. Declarations of one name follow each other in the order of
the files, and each takes the place of the one before. Main statements:

- `declaresType_iff`: what a file declares in a module, element by element.
- `find?_reverse_flatMap_iff`: the last of the values that several lists have under a key.
- `typesOf_iff_declaredLast`: a module has the virtual types that no later file of it declares again.
- `scanTree_overwrites`: a declaration for an area takes the place of the one for all areas.
-/

namespace ReleaseImpact.Survey

open Xml

/-- A file that is read declares a virtual type in a module: an element with a name, which is not empty. -/
structure DeclaresType (fs : FileSystem) (file : Path) (moduleName : String) (v : VirtualType) : Prop where
  kind : file.name = "di.xml"
  housed : moduleOfFile? file.text = some moduleName
  element : ∃ document, readDocument fs file.text = .ok (.ok document) ∧
    ∃ e ∈ document.named "virtualType", e.attribute? "name" = some v.name ∧ v.name ≠ "" ∧
      v.type = (e.attribute? "type").getD "" ∧ v.scope = areaScope file ∧
        v.shared = e.attribute? "shared"

/-- No file declares a name twice. -/
def NamesOnce (fs : FileSystem) (files : List Path) : Prop :=
  ∀ file ∈ files, file.name = "di.xml" → ∀ document, readDocument fs file.text = .ok (.ok document) →
    ((document.named "virtualType").filterMap (filled? "name")).Nodup

/-! ## Declarations of one file -/

theorem virtualTypeFinding_eq_node_iff {scope : String} {e : Element} {n : Node} :
    virtualTypeFinding scope e = .node n ↔
      ∃ name, filled? "name" e = some name ∧
        n = .virtualType ⟨name, (e.attribute? "type").getD "", scope, e.attribute? "shared"⟩ := by
  unfold virtualTypeFinding
  cases filled? "name" e <;> simp [eq_comm]

theorem mem_declaredIn_di_iff {fs : FileSystem} {moduleName : String} {file : Path} {n : Node} :
    n ∈ declaredIn fs .di moduleName file ↔ ∃ v, n = .virtualType v ∧ DeclaresType fs file moduleName v := by
  rw [mem_declaredIn_iff]
  constructor
  · rintro ⟨document, read, found⟩
    obtain ⟨kind, housed, opened⟩ := documentIn?_eq_some_iff.1 read
    obtain ⟨e, member, finding⟩ := List.mem_map.1 found
    obtain ⟨name, filled, rfl⟩ := virtualTypeFinding_eq_node_iff.1 finding
    obtain ⟨given, full⟩ := filled?_eq_some_iff.1 filled
    exact ⟨_, rfl, kind, housed, document, opened, e, member, given, full, rfl, rfl, rfl⟩
  · rintro ⟨v, rfl, kind, housed, document, opened, e, member, given, full, type, scope, shared⟩
    refine ⟨document, documentIn?_eq_some_iff.2 ⟨kind, housed, opened⟩, List.mem_map.2 ⟨e, member, ?_⟩⟩
    refine virtualTypeFinding_eq_node_iff.2 ⟨v.name, filled?_eq_some_iff.2 ⟨given, full⟩, ?_⟩
    rw [← type, ← scope, ← shared]

theorem declaresType_iff {fs : FileSystem} {moduleName : String} {file : Path} {v : VirtualType} :
    DeclaresType fs file moduleName v ↔ .virtualType v ∈ declaredIn fs .di moduleName file := by
  rw [mem_declaredIn_di_iff]
  constructor
  · intro declares
    exact ⟨v, rfl, declares⟩
  · rintro ⟨w, same, declares⟩
    cases same
    exact declares

theorem keys_virtualTypes (scope : String) (document : Element) :
    (nodesAmong (virtualTypes scope document)).map Node.key =
      (document.named "virtualType").filterMap (filled? "name") := by
  rw [virtualTypes]
  induction document.named "virtualType" with
  | nil => rfl
  | cons e rest ih =>
    rw [List.map_cons, List.filterMap_cons, nodesAmong, List.filterMap_cons, ← nodesAmong, virtualTypeFinding]
    cases filled? "name" e with
    | none => exact ih
    | some name => exact congrArg (name :: ·) ih

theorem nodup_keys_declaredIn {fs : FileSystem} {files : List Path} (once : NamesOnce fs files) {file : Path}
    (listed : file ∈ files) (moduleName : String) :
    ((declaredIn fs .di moduleName file).map Node.key).Nodup := by
  unfold declaredIn
  cases read : documentIn? fs .di moduleName file with
  | none => exact List.nodup_nil
  | some document =>
    obtain ⟨kind, -, opened⟩ := documentIn?_eq_some_iff.1 read
    have distinct := once file listed kind document opened
    rw [← keys_virtualTypes (areaScope file)] at distinct
    exact distinct

/-! ## The last declaration of a name -/

section Last

variable {α β : Type} {A B : α → Prop}

theorem exists_last_append_iff {items : List α} {x : α} :
    (∃ earlier a later, items ++ [x] = earlier ++ a :: later ∧ A a ∧ ∀ b ∈ later, B b) ↔
      A x ∨ (∃ earlier a later, items = earlier ++ a :: later ∧ A a ∧ ∀ b ∈ later, B b) ∧ B x := by
  constructor
  · rintro ⟨earlier, a, later, same, here, others⟩
    rcases List.eq_nil_or_concat later with rfl | ⟨later, y, rfl⟩
    · obtain ⟨-, last⟩ := List.append_inj' same rfl
      cases last
      exact .inl here
    · rw [List.concat_eq_append, ← List.cons_append, ← List.append_assoc] at same
      obtain ⟨rfl, last⟩ := List.append_inj' same rfl
      cases last
      simp only [List.concat_eq_append, List.forall_mem_append, List.forall_mem_singleton] at others
      exact .inr ⟨⟨earlier, a, later, rfl, here, others.1⟩, others.2⟩
  · rintro (here | ⟨⟨earlier, a, later, rfl, here, others⟩, last⟩)
    · exact ⟨items, x, [], rfl, here, List.forall_mem_nil _⟩
    · refine ⟨earlier, a, later ++ [x], by simp, here, ?_⟩
      exact List.forall_mem_append.2 ⟨others, List.forall_mem_singleton.2 last⟩

variable {keyOf : β → String} {values : α → List β}

theorem find?_reverse_of_mem {vs : List β} (distinct : (vs.map keyOf).Nodup) {v : β} (member : v ∈ vs) :
    vs.reverse.find? (fun w => keyOf w = keyOf v) = some v := by
  cases found : vs.reverse.find? (fun w => keyOf w = keyOf v) with
  | none =>
    have other : keyOf v ≠ keyOf v := by simpa using List.find?_eq_none.1 found v (List.mem_reverse.2 member)
    exact absurd rfl other
  | some w =>
    have same : keyOf w = keyOf v := by simpa using List.find?_some found
    have inside := List.mem_reverse.1 (List.mem_of_find?_eq_some found)
    rw [List.inj_on_of_nodup_map distinct inside member same]

theorem find?_reverse_flatMap_iff {items : List α} (distinct : ∀ a ∈ items, ((values a).map keyOf).Nodup)
    {v : β} :
    (items.flatMap values).reverse.find? (fun w => keyOf w = keyOf v) = some v ↔
      ∃ earlier a later, items = earlier ++ a :: later ∧ v ∈ values a ∧
        ∀ b ∈ later, ∀ w ∈ values b, keyOf w ≠ keyOf v := by
  induction items using List.reverseRecOn with
  | nil => simp
  | append_singleton items x ih =>
    obtain ⟨others, last⟩ := List.forall_mem_append.1 distinct
    rw [exists_last_append_iff, ← ih others, List.flatMap_append, List.flatMap_singleton, List.reverse_append,
      List.find?_append]
    -- the last list decides, unless it has nothing under the key
    by_cases here : v ∈ values x
    · rw [find?_reverse_of_mem (last x List.mem_cons_self) here]
      simp [here]
    · cases found : (values x).reverse.find? (fun w => keyOf w = keyOf v) with
      | none =>
        have free : ∀ w ∈ values x, keyOf w ≠ keyOf v := by simpa using List.find?_eq_none.1 found
        rw [Option.none_or, and_iff_left free, or_iff_right here]
      | some w =>
        have same : keyOf w = keyOf v := by simpa using List.find?_some found
        have inside := List.mem_reverse.1 (List.mem_of_find?_eq_some found)
        have other : w ≠ v := fun same => here (same ▸ inside)
        have taken : ¬∀ w ∈ values x, keyOf w ≠ keyOf v := fun free => free w inside same
        simp [here, other, taken]

end Last

theorem mem_typesOf_iff {r : Registry} {moduleName : String} {v : VirtualType} :
    v ∈ r.typesOf moduleName ↔ .virtualType v ∈ r.nodesOf moduleName := by
  rw [Registry.typesOf, List.mem_filterMap]
  constructor
  · rintro ⟨n, member, image⟩
    cases n <;> simp [Node.virtualType?] at image
    exact image ▸ member
  · intro member
    exact ⟨_, member, rfl⟩

/-- Where no file declares a name twice, a module has just the virtual types that one of its files
declares and no later one declares again; so of each name that is declared it keeps one. -/
theorem typesOf_iff_declaredLast {fs : FileSystem} {settings : ScanSettings} {root : Path}
    {registries : List (ReportType × Registry)} (scan : (scanTree fs settings root).outcome = .ok registries)
    (wanted : .di ∈ settings.reportTypes) (once : NamesOnce fs (fs.filesBelow settings.excludedDirs root)) :
    ∃ r, (.di, r) ∈ registries ∧
      (∀ moduleName v, v ∈ r.typesOf moduleName ↔
        ∃ earlier file later, fs.filesBelow settings.excludedDirs root = earlier ++ file :: later ∧
          DeclaresType fs file moduleName v ∧
            ∀ g ∈ later, ∀ w, DeclaresType fs g moduleName w → w.name ≠ v.name) ∧
      ∀ file ∈ fs.filesBelow settings.excludedDirs root, ∀ moduleName v, DeclaresType fs file moduleName v →
        ∃ w ∈ r.typesOf moduleName, w.name = v.name := by
  refine ⟨_, (mem_scanTree_iff scan).2 ⟨wanted, rfl⟩, fun moduleName v => ?_, ?_⟩
  · have distinct (file : Path) (listed : file ∈ fs.filesBelow settings.excludedDirs root) :=
      nodup_keys_declaredIn once listed moduleName
    rw [mem_typesOf_iff, mem_nodesOf_iff, get?_bucket_gathered, find?_reverse_flatMap_iff distinct]
    have free (g : Path) : (∀ n ∈ declaredIn fs .di moduleName g, n.key ≠ v.name) ↔
        ∀ w, DeclaresType fs g moduleName w → w.name ≠ v.name := by
      simp only [mem_declaredIn_di_iff]
      constructor
      · intro apart w declares
        exact apart _ ⟨w, rfl, declares⟩
      · rintro apart _ ⟨w, rfl, declares⟩
        exact apart w declares
    simp only [Node.key_virtualType, free, declaresType_iff]
  · intro file listed moduleName v declares
    obtain ⟨n, member, same⟩ := exists_of_mem_declaredIn listed (declaresType_iff.1 declares)
    obtain ⟨g, -, declared⟩ := exists_file_of_mem_nodesOf member
    obtain ⟨w, rfl, -⟩ := mem_declaredIn_di_iff.1 declared
    exact ⟨w, mem_typesOf_iff.2 member, same⟩

/-! ## A module with two areas -/

def twoAreas : FileSystem where
  root := .directory [("Acme", .directory [("Shop", .directory [("etc", .directory
    [("di.xml", .file typeBytes), ("frontend", .directory [("di.xml", .file typeBytes)])])])])]
  workingDirectory := []

def globalFile : Path := .ofText "/Acme/Shop/etc/di.xml"

def frontendFile : Path := .ofText "/Acme/Shop/etc/frontend/di.xml"

def plainType : Element := .mk "virtualType" [("name", "A")] "" "" []

theorem filesBelow_twoAreas :
    twoAreas.filesBelow ScanSettings.initial.excludedDirs (.ofText "/") = [globalFile, frontendFile] := by cbv

theorem documentIn_twoAreas {file : Path} (listed : file ∈ [globalFile, frontendFile]) :
    documentIn? twoAreas .di "Acme_Shop" file = some plainType := by
  have opened : twoAreas.read globalFile.text = .ok typeBytes ∧
      twoAreas.read frontendFile.text = .ok typeBytes := by constructor <;> cbv
  rw [documentIn?_eq_some_iff, readDocument_eq_ok_iff]
  simp only [List.mem_cons, List.not_mem_nil, or_false] at listed
  rcases listed with rfl | rfl
  · exact ⟨by decide +kernel, by decide +kernel, _, opened.1, ofBytes_typeBytes⟩
  · exact ⟨by decide +kernel, by decide +kernel, _, opened.2, ofBytes_typeBytes⟩

theorem holds_twoAreas :
    Holds twoAreas .initial (.ofText "/") .di "Acme_Shop"
      [(globalFile, plainType), (frontendFile, plainType)] where
  directory := by cbv
  listed := ⟨[], filesBelow_twoAreas, List.forall_mem_nil _⟩
  read := by simp [documentIn_twoAreas]

theorem namesOnce_twoAreas :
    NamesOnce twoAreas (twoAreas.filesBelow ScanSettings.initial.excludedDirs (.ofText "/")) := by
  intro file listed kind document read
  obtain ⟨known, member, opened⟩ := holds_twoAreas.exists_of_listed listed (.inl kind)
  rw [opened] at read
  cases read
  simp only [List.mem_cons, Prod.mk.injEq, List.not_mem_nil, or_false] at member
  obtain ⟨-, rfl⟩ | ⟨-, rfl⟩ := member <;> decide

theorem scope_global : areaScope globalFile = "global" := by decide +kernel

theorem scope_frontend : areaScope frontendFile = "frontend" := by decide +kernel

theorem declaresType_twoAreas {file : Path} (listed : file ∈ [globalFile, frontendFile]) :
    DeclaresType twoAreas file "Acme_Shop" ⟨"A", "", areaScope file, none⟩ := by
  rw [declaresType_iff, declaredIn, documentIn_twoAreas listed]
  exact List.mem_singleton.2 rfl

theorem typesOf_twoAreas :
    (gathered twoAreas .di (twoAreas.filesBelow ScanSettings.initial.excludedDirs (.ofText "/"))).typesOf
      "Acme_Shop" = [⟨"A", "", "frontend", none⟩] := by
  rw [holds_twoAreas.gathered_eq]
  decide +kernel

theorem typesOf_iff_declaredLast_twoAreas :
    .di ∈ ScanSettings.initial.reportTypes ∧
      NamesOnce twoAreas (twoAreas.filesBelow ScanSettings.initial.excludedDirs (.ofText "/")) ∧
      ∃ registries, (scanTree twoAreas .initial (.ofText "/")).outcome = .ok registries ∧
        ∃ r, (.di, r) ∈ registries ∧ ⟨"A", "", "frontend", none⟩ ∈ r.typesOf "Acme_Shop" ∧
          ⟨"A", "", "global", none⟩ ∉ r.typesOf "Acme_Shop" := by
  have wanted : .di ∈ ScanSettings.initial.reportTypes := by decide
  obtain ⟨registries, scan⟩ := holds_twoAreas.scanTree
  obtain ⟨r, among, last, -⟩ := typesOf_iff_declaredLast scan wanted namesOnce_twoAreas
  rw [filesBelow_twoAreas] at last
  have atFrontend : DeclaresType twoAreas frontendFile "Acme_Shop" ⟨"A", "", "frontend", none⟩ :=
    scope_frontend ▸ declaresType_twoAreas (by simp)
  have kept := (last ..).2 ⟨[globalFile], frontendFile, [], rfl, atFrontend, List.forall_mem_nil _⟩
  refine ⟨wanted, namesOnce_twoAreas, registries, scan, r, among, kept, ?_⟩
  intro kept
  obtain ⟨earlier, file, later, same, declares, free⟩ := (last ..).1 kept
  cases earlier with
  | nil =>
    cases same
    exact free frontendFile List.mem_cons_self _ atFrontend rfl
  | cons _ rest =>
    obtain ⟨-, -, rfl, -⟩ : _ = globalFile ∧ rest = [] ∧ file = frontendFile ∧ later = [] := by
      simpa [List.append_eq_singleton_iff, eq_comm] using same
    obtain ⟨_, -, _, -, -, -, -, scope, -⟩ := declares.element
    exact absurd scope (by decide +kernel)

/-- A declaration for one area takes the place of the one for all areas, though each is in its own file. -/
theorem scanTree_overwrites :
    NamesOnce twoAreas (twoAreas.filesBelow ScanSettings.initial.excludedDirs (.ofText "/")) ∧
      globalFile ∈ twoAreas.filesBelow ScanSettings.initial.excludedDirs (.ofText "/") ∧
      DeclaresType twoAreas globalFile "Acme_Shop" ⟨"A", "", "global", none⟩ ∧
      ∃ registries r, (scanTree twoAreas .initial (.ofText "/")).outcome = .ok registries ∧
        (.di, r) ∈ registries ∧ ∀ v ∈ r.typesOf "Acme_Shop", v.scope ≠ "global" := by
  obtain ⟨registries, scan⟩ := holds_twoAreas.scanTree
  have declares : DeclaresType twoAreas globalFile "Acme_Shop" ⟨"A", "", "global", none⟩ :=
    scope_global ▸ declaresType_twoAreas (by simp)
  refine ⟨namesOnce_twoAreas, by simp [filesBelow_twoAreas], declares, registries, _, scan,
    (mem_scanTree_iff scan).2 ⟨by decide, rfl⟩, ?_⟩
  rw [typesOf_twoAreas]
  decide

end ReleaseImpact.Survey
