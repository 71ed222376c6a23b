import ReleaseImpact.Proofs.Alike
import ReleaseImpact.Proofs.Places
import Mathlib

/-!
Comparing two directories that hold the same files. What the names around a directory say of the files
in it is all that can make a difference. Main statements:

- `compareTrees_of_scans`: a report lists the changes between the registries of both trees.
- `compareTrees_of_samePlace`: files at the same places are not reported.
- `compareTrees_of_copies`: copies of a directory do not differ if its files are in modules in it.
- `compareTrees_of_content`: directories with one content do not differ where each document belongs to
  one module and area below both.
- `compareTrees_moved`: where it belongs to another module or area, they may differ.
-/

namespace ReleaseImpact

open Trail Survey

variable {fs : FileSystem}

theorem distinct_types (settings : ScanSettings) :
    (ReportType.all.filter (· ∈ settings.reportTypes)).Nodup := List.filter_sublist.nodup (by decide)

theorem alike_self (as : List (ReportType × Registry)) : List.Forall₂ Alike as as :=
  List.forall₂_same.2 fun _ _ => ⟨rfl, rfl⟩

theorem compareTrees_of_scans {presence : Presence} {settings : Settings} {before after : Path}
    {as bs : List (ReportType × Registry)} {run : Trail Nat} {n : Nat}
    (scanBefore : (scanTree fs settings.scan before).outcome = .ok as)
    (scanAfter : (scanTree fs settings.scan after).outcome = .ok bs)
    (compared : compareRegistries fs presence.isFile settings.analysis 0 (TreeComparison.named as)
      (TreeComparison.named bs) = run)
    (ends : run.outcome = .ok n) (silent : run.probes = []) :
    (compareTrees fs presence settings before after).outcome = .ok ⟨run.changes⟩ := by
  have guarded : presence.guard run = run := Presence.guard_of_no_fault (by simp [silent])
  show (TreeComparison.body fs presence settings before after).outcome = _
  unfold TreeComparison.body
  rw [outcome_bind_of_ok _ rfl, outcome_bind_of_ok _ scanBefore, outcome_bind_of_ok _ scanAfter, compared,
    guarded, outcome_bind_of_ok _ ends]
  rfl

theorem compareTrees_of_samePlace {presence : Presence} {settings : Settings} {before after : Path}
    (content : fs.content settings.scan.excludedDirs before = fs.content settings.scan.excludedDirs after)
    (place : ∀ e ∈ fs.content settings.scan.excludedDirs before, ∀ type document,
      matchesAny (ReportType.patterns type) (before.below e.1).name = true →
        readDocument fs (before.below e.1).text = .ok (.ok document) →
          SamePlace type (before.below e.1) (after.below e.1))
    {as bs : List (ReportType × Registry)}
    (scanBefore : (scanTree fs settings.scan before).outcome = .ok as)
    (scanAfter : (scanTree fs settings.scan after).outcome = .ok bs) :
    (compareTrees fs presence settings before after).outcome = .ok .empty := by
  have runBefore := scanTree_eq_ok scanBefore
  have runAfter := scanTree_eq_ok scanAfter
  rw [FileSystem.filesBelow_eq_map_content] at runBefore runAfter
  rw [← content] at runAfter
  have alike := alike_readAll (fun e member => (FileSystem.mem_content member).2)
    (fun e member => (FileSystem.mem_content (content ▸ member)).2) place
    (fun e member => (FileSystem.mem_content member).1) (alike_self _) runBefore runAfter
  have distinct : (as.map Prod.fst).Nodup := by
    rw [types_readAll runBefore, types_start]
    exact distinct_types settings.scan
  obtain ⟨n, quiet⟩ :=
    compareRegistries_quiet fs presence.isFile settings.analysis alike distinct 0
  rw [compareTrees_of_scans scanBefore scanAfter rfl quiet.outcome quiet.probes_eq_nil,
    quiet.changes_eq_nil]
  rfl

theorem name_below {root : Path} {location : Location} (named : location ≠ []) {name : String} :
    (root.below location).name = name ↔ location.getLast? = some name := by
  simp [Path.name, Path.below, List.getLast?_append_of_ne_nil _ named, List.getLast?_eq_some_getLast named]

theorem compareTrees_of_copies {presence : Presence} {settings : Settings} {before after : Path}
    {place place' : Location} {e : Entry} (atBefore : fs.locate before.text = .ok (place, e))
    (atAfter : fs.locate after.text = .ok (place', e)) (plain : e.Plain)
    (checked : ∀ location d, e.entryAt location = some d →
      (FileSystem.checkText (before.below location).text = .ok () ∧
          FileSystem.withinLimit before location = true) ∧
        FileSystem.checkText (after.below location).text = .ok () ∧
          FileSystem.withinLimit after location = true)
    (housed : ∀ location bytes, e.entryAt location = some (.file bytes) →
      location.getLast? = some "di.xml" ∨ location.getLast? = some "system.xml" →
        (∀ name ∈ location, WholeName name) ∧ (moduleOfParts? location).isSome)
    {as bs : List (ReportType × Registry)}
    (scanBefore : (scanTree fs settings.scan before).outcome = .ok as)
    (scanAfter : (scanTree fs settings.scan after).outcome = .ok bs) :
    (compareTrees fs presence settings before after).outcome = .ok .empty := by
  have content := FileSystem.content_eq_of_plain atBefore atAfter plain checked settings.scan.excludedDirs
  refine compareTrees_of_samePlace content ?_ scanBefore scanAfter
  intro file member type document wanted _
  obtain ⟨named, -⟩ := FileSystem.mem_content member
  obtain ⟨bytes, found⟩ := FileSystem.entryAt_of_mem_content atBefore plain member
  have name := (name_below named).1 (wanted_iff.1 wanted)
  have kind : file.1.getLast? = some "di.xml" ∨ file.1.getLast? = some "system.xml" := by
    cases type with
    | di => exact .inl name
    | system => exact .inr name
  obtain ⟨whole, inModule⟩ := housed file.1 bytes found kind
  obtain ⟨moduleName, inModule⟩ := Option.isSome_iff_exists.1 inModule
  have deep := three_le_length_of_housed inModule
  constructor
  · rw [moduleOfFile?_below before whole inModule, moduleOfFile?_below after whole inModule]
  · exact fun _ => areaScope_below before after (by omega)

/-- Two directories that hold the same files, where each file that is read as a document belongs to one
module below both of them, and to one area if it declares virtual types, do not differ. -/
theorem compareTrees_of_content {presence : Presence} {settings : Settings} {before after : Path}
    {content : List (Location × Except PathFault (List UInt8))}
    (holdsBefore : fs.content settings.scan.excludedDirs before = content)
    (holdsAfter : fs.content settings.scan.excludedDirs after = content)
    (scanBefore : ∃ registries, (scanTree fs settings.scan before).outcome = .ok registries)
    (scanAfter : ∃ registries, (scanTree fs settings.scan after).outcome = .ok registries)
    (place : ∀ location bytes document, (location, .ok bytes) ∈ content →
      Xml.ofBytes bytes = .ok document →
        (location.getLast? = some "di.xml" ∨ location.getLast? = some "system.xml" →
          moduleOfFile? (before.below location).text = moduleOfFile? (after.below location).text) ∧
        (location.getLast? = some "di.xml" →
          areaScope (before.below location) = areaScope (after.below location))) :
    (compareTrees fs presence settings before after).outcome = .ok .empty := by
  obtain ⟨as, scanBefore⟩ := scanBefore
  obtain ⟨bs, scanAfter⟩ := scanAfter
  refine compareTrees_of_samePlace (holdsBefore.trans holdsAfter.symm) ?_ scanBefore scanAfter
  intro e member type document wanted read
  obtain ⟨named, same⟩ := FileSystem.mem_content member
  obtain ⟨bytes, opened, parsed⟩ := readDocument_eq_ok_iff.1 read
  have here : (e.1, .ok bytes) ∈ content := by
    rw [← holdsBefore, ← opened, same]
    exact member
  obtain ⟨module, area⟩ := place e.1 bytes document here parsed
  have name := (name_below named).1 (wanted_iff.1 wanted)
  cases type with
  | di => exact ⟨module (.inl name), fun _ => area name⟩
  | system => exact ⟨module (.inr name), fun di => by cases di⟩

/-! ## Copies of one directory -/

theorem scanTree_of_pair {settings : ScanSettings} {root f g : Path} {di system : Registry}
    (types : settings.reportTypes = ReportType.all) (directory : fs.hasDirectory root.text = .ok true)
    (listed : fs.filesBelow settings.excludedDirs root = [f, g]) (nameF : f.name = "di.xml")
    (nameG : g.name = "system.xml") (readF : readOne fs f (.di, .empty (some "di")) = .ok (.di, di))
    (readG : readOne fs g (.system, .empty (some "system")) = .ok (.system, system)) :
    (scanTree fs settings root).outcome = .ok [(.di, di), (.system, system)] := by
  have started : (start (ReportType.all.filter (· ∈ settings.reportTypes))).registries =
      [(.di, .empty (some "di")), (.system, .empty (some "system"))] := by
    rw [types]
    rfl
  have otherF : matchesAny ReportType.system.patterns f.name = false := by
    rw [Bool.eq_false_iff, Ne, wanted_iff, nameF]
    decide
  have otherG : matchesAny ReportType.di.patterns g.name = false := by
    rw [Bool.eq_false_iff, Ne, wanted_iff, nameG]
    decide
  have afterF : [(.di, .empty (some "di")), (.system, .empty (some "system"))].mapM (readOne fs f) =
      .ok [(.di, di), (.system, .empty (some "system"))] := by
    rw [List.mapM_cons, readF, List.mapM_cons, readOne_of_unwanted otherF]
    rfl
  have afterG : [(.di, di), (.system, .empty (some "system"))].mapM (readOne fs g) =
      .ok [(.di, di), (.system, system)] := by
    rw [List.mapM_cons, readOne_of_unwanted otherG, List.mapM_cons, readG]
    rfl
  rw [scanTree, directory]
  dsimp only
  rw [scanDirectory_outcome, listed, readAll, started, List.foldlM_cons, afterF]
  exact bind_eq_ok_iff.2 ⟨_, rfl, bind_eq_ok_iff.2 ⟨_, afterG, rfl⟩⟩

/-- The text of a virtual type. -/
def typeBytes : List UInt8 :=
  [60, 118, 105, 114, 116, 117, 97, 108, 84, 121, 112, 101, 32, 110, 97, 109, 101, 61, 39, 65, 39, 47, 62]

theorem ofBytes_typeBytes :
    Xml.ofBytes typeBytes = .ok (.mk "virtualType" [("name", "A")] "" "" []) := by
  have source : Xml.Source.ofBytes typeBytes =
      .ok ⟨false, "<virtualType name='A'/>".toList, 0, Char.utf8Size⟩ := by rfl
  have cut : Xml.Markup.ofText? "<virtualType name='A'/>".toList =
      some [.startTag "virtualType" [("name", [.written 'A'])] true] := by rfl
  exact ofBytes_of_items source rfl rfl cut (by cbv)

def areaTree : Entry := .directory [("di.xml", .file typeBytes), ("system.xml", .file typeBytes)]

def shopTree (areas : List String) : Entry :=
  .directory [("Shop", .directory [("etc", .directory (areas.map (·, areaTree)))])]

def areaCopies : FileSystem where
  root := .directory
    [("old", shopTree ["frontend", "adminhtml"]), ("new", shopTree ["frontend"]),
      ("backup", .directory [("old", shopTree ["frontend"])])]
  workingDirectory := []

/-- The copies, each with the names of its vendor and its area. -/
inductive IsCopy : String → String → String → Prop
  | frontend : IsCopy "/old/Shop/etc/frontend" "old" "frontend"
  | adminhtml : IsCopy "/old/Shop/etc/adminhtml" "old" "adminhtml"
  | moved : IsCopy "/new/Shop/etc/frontend" "new" "frontend"
  | backup : IsCopy "/backup/old/Shop/etc/frontend" "old" "frontend"

def copyFile (root name : String) : Path := (Path.ofText root).below [name]

def copyScan (root vendor area : String) : List (ReportType × Registry) :=
  [(.di, ((Registry.empty (some "di")).register (vendor ++ "_Shop") (copyFile root "di.xml").text).put
      (vendor ++ "_Shop") (.virtualType ⟨"A", "", area, none⟩)),
    (.system,
      (Registry.empty (some "system")).register (vendor ++ "_Shop") (copyFile root "system.xml").text)]

theorem content_copy {root vendor area : String} (copy : IsCopy root vendor area) :
    areaCopies.content ScanSettings.initial.excludedDirs (.ofText root) =
      [(["di.xml"], .ok typeBytes), (["system.xml"], .ok typeBytes)] := by cases copy <;> cbv

theorem readDocument_copy {root vendor area name : String} (copy : IsCopy root vendor area)
    (own : name = "di.xml" ∨ name = "system.xml") :
    readDocument areaCopies (copyFile root name).text =
      .ok (.ok (.mk "virtualType" [("name", "A")] "" "" [])) := by
  have listed : ([name], .ok typeBytes) ∈
      areaCopies.content ScanSettings.initial.excludedDirs (.ofText root) := by
    rw [content_copy copy]
    rcases own with rfl | rfl <;> simp
  exact readDocument_eq_ok_iff.2 ⟨_, (FileSystem.mem_content listed).2, ofBytes_typeBytes⟩

theorem place_copyFile {root vendor area name : String} (copy : IsCopy root vendor area)
    (own : name = "di.xml" ∨ name = "system.xml") :
    (copyFile root name).name = name ∧
      moduleOfFile? (copyFile root name).text = some (vendor ++ "_Shop") ∧
        areaScope (copyFile root name) = area := by
  rcases own with rfl | rfl <;> cases copy <;> decide +kernel

theorem isDirectory_copy {root vendor area : String} (copy : IsCopy root vendor area) :
    areaCopies.hasDirectory (Path.ofText root).text = .ok true := by cases copy <;> cbv

theorem filesBelow_copy {root vendor area : String} (copy : IsCopy root vendor area) :
    areaCopies.filesBelow ScanSettings.initial.excludedDirs (.ofText root) =
      [copyFile root "di.xml", copyFile root "system.xml"] := by
  rw [FileSystem.filesBelow_eq_map_content, content_copy copy]
  rfl

theorem scanTree_copy {root vendor area : String} (copy : IsCopy root vendor area) :
    (scanTree areaCopies .initial (.ofText root)).outcome = .ok (copyScan root vendor area) := by
  obtain ⟨nameDi, housedDi, scope⟩ := place_copyFile copy (.inl rfl)
  obtain ⟨nameSystem, housedSystem, -⟩ := place_copyFile copy (.inr rfl)
  have types := readOne_of_document (e := (.di, .empty (some "di"))) (wanted_iff.2 nameDi) housedDi
    (readDocument_copy copy (.inl rfl)) rfl
  have form := readOne_of_document (e := (.system, .empty (some "system"))) (wanted_iff.2 nameSystem)
    housedSystem (readDocument_copy copy (.inr rfl)) rfl
  rw [scope] at types
  exact scanTree_of_pair rfl (isDirectory_copy copy) (filesBelow_copy copy) nameDi nameSystem types form

theorem locate_copy {root vendor area : String} (copy : IsCopy root vendor area) :
    ∃ place, areaCopies.locate (Path.ofText root).text = .ok (place, areaTree) := by
  cases copy <;> exact ⟨_, by cbv⟩

theorem compareTrees_copy {root vendor area other vendor' area' : String} (before : IsCopy root vendor area)
    (after : IsCopy other vendor' area') {run : Trail Nat} {n : Nat} {found : List (String × Change)}
    (compared : compareRegistries areaCopies (Presence.ofFiles areaCopies).isFile .initial 0
      (TreeComparison.named (copyScan root vendor area))
      (TreeComparison.named (copyScan other vendor' area')) = run)
    (ends : run.outcome = .ok n) (silent : run.probes = []) (changes : run.changes = found) :
    (compareTrees areaCopies (.ofFiles areaCopies) .initial (.ofText root) (.ofText other)).outcome =
      .ok ⟨found⟩ := by
  rw [← changes]
  exact compareTrees_of_scans (scanTree_copy before) (scanTree_copy after) compared ends silent

theorem compareTrees_moved :
    (∃ place, areaCopies.locate (Path.ofText "/old/Shop/etc/frontend").text = .ok (place, areaTree)) ∧
      (∃ place, areaCopies.locate (Path.ofText "/new/Shop/etc/frontend").text = .ok (place, areaTree)) ∧
      (∃ place, areaCopies.locate (Path.ofText "/old/Shop/etc/adminhtml").text = .ok (place, areaTree)) ∧
      (∃ registries, (scanTree areaCopies .initial (.ofText "/old/Shop/etc/frontend")).outcome =
        .ok registries) ∧
      (∃ registries, (scanTree areaCopies .initial (.ofText "/new/Shop/etc/frontend")).outcome =
        .ok registries) ∧
      (∃ registries, (scanTree areaCopies .initial (.ofText "/old/Shop/etc/adminhtml")).outcome =
        .ok registries) ∧
      (compareTrees areaCopies (.ofFiles areaCopies) .initial (.ofText "/old/Shop/etc/frontend")
        (.ofText "/new/Shop/etc/frontend")).outcome =
        .ok ⟨[("system", ⟨.fileAdded, "/new/Shop/etc/frontend/system.xml", "system.xml"⟩),
          ("system", ⟨.fileRemoved, "/old/Shop/etc/frontend/system.xml", "system.xml"⟩)]⟩ ∧
      (compareTrees areaCopies (.ofFiles areaCopies) .initial (.ofText "/old/Shop/etc/frontend")
        (.ofText "/old/Shop/etc/adminhtml")).outcome =
        .ok ⟨[("di", ⟨.virtualTypeChanged "scope", "/old/Shop/etc/frontend/di.xml", "A"⟩)]⟩ := by
  refine ⟨locate_copy .frontend, locate_copy .moved, locate_copy .adminhtml,
    ⟨_, scanTree_copy .frontend⟩, ⟨_, scanTree_copy .moved⟩, ⟨_, scanTree_copy .adminhtml⟩,
    compareTrees_copy .frontend .moved rfl (n := 2) rfl (by decide +kernel) (by decide +kernel),
    compareTrees_copy .frontend .adminhtml rfl (n := 1) rfl (by decide +kernel) (by decide +kernel)⟩

theorem compareTrees_of_content_backup :
    areaCopies.content ScanSettings.initial.excludedDirs (.ofText "/old/Shop/etc/frontend") =
        [(["di.xml"], .ok typeBytes), (["system.xml"], .ok typeBytes)] ∧
      areaCopies.content ScanSettings.initial.excludedDirs (.ofText "/backup/old/Shop/etc/frontend") =
        [(["di.xml"], .ok typeBytes), (["system.xml"], .ok typeBytes)] ∧
      (compareTrees areaCopies (.ofFiles areaCopies) .initial (.ofText "/old/Shop/etc/frontend")
        (.ofText "/backup/old/Shop/etc/frontend")).outcome = .ok .empty := by
  refine ⟨content_copy .frontend, content_copy .backup,
    compareTrees_of_content (content_copy .frontend) (content_copy .backup) ⟨_, scanTree_copy .frontend⟩
      ⟨_, scanTree_copy .backup⟩ ?_⟩
  intro location bytes document member _
  have known : location = ["di.xml"] ∨ location = ["system.xml"] := by
    simp only [List.mem_cons, Prod.mk.injEq, List.not_mem_nil, or_false] at member
    exact member.imp And.left And.left
  have same : moduleOfFile? ((Path.ofText "/old/Shop/etc/frontend").below location).text =
        moduleOfFile? ((Path.ofText "/backup/old/Shop/etc/frontend").below location).text ∧
      areaScope ((Path.ofText "/old/Shop/etc/frontend").below location) =
        areaScope ((Path.ofText "/backup/old/Shop/etc/frontend").below location) := by
    rcases known with rfl | rfl <;> decide +kernel
  exact ⟨fun _ => same.1, fun _ => same.2⟩

end ReleaseImpact
