import ReleaseImpact.Proofs.BrokenSiblings
import ReleaseImpact.Proofs.PrunedTrees
import ReleaseImpact.Proofs.TreeRuns

/-!
Two trees that differ in nothing but what is in directories that a scan does not enter. The search for
duplicates has directories of its own and enters all that is in them, so it may come upon the difference.
Main statements:

- `filter_expectedFormChanges_congr`: which changes to forms depend on which answers.
- `entries_of_forms`: what a report says of forms, by the answers of a search without a memory.
- `Search.verdict_of_seesAlike`: a search that comes upon the same answers the same.
- `compareTrees_of_alikeOutside`: reports on such trees say the same of forms, apart from added nodes for
  which the search does not come upon the same.
- `compareTrees_generated`: a form in a directory that is not scanned makes a new field a duplicate.
- `compareTrees_linkedForm`: a link into such a directory is scanned.
-/

namespace ReleaseImpact

open FileSystem FormComparison RegistryComparison

/-! ## Forms -/

namespace FormComparison

variable {rules : FormRules} {before after : Registry} {verdict verdict' : Inquiry → Verdict}
variable {kept : String × Change → Bool}

theorem filter_nodeChange_eq_nil {kind? : Option ChangeKind} {file : String} {n : Node}
    (dropped : ∀ kind, kind? = some kind → kept (systemDomain, ⟨kind, file, n.path⟩) = false) :
    (nodeChange kind? file n).filter kept = [] := by
  cases kind? with
  | none => rfl
  | some kind => simp [nodeChange, dropped kind rfl]

/-- The changes that are kept depend on the answers to those questions alone whose answers are reported in
a change that is kept. -/
theorem filter_expectedFormChanges_congr
    (agree : ∀ q ∈ asked rules before after, verdict q = verdict' q ∨
      ∀ v kind, judgedKind? q.node v = some kind →
        kept (systemDomain, ⟨kind, q.schemaFile, q.node.path⟩) = false) :
    (expectedFormChanges verdict rules before after).filter kept =
      (expectedFormChanges verdict' rules before after).filter kept := by
  simp only [expectedFormChanges, List.filter_append, List.filter_flatMap]
  congr 1
  refine List.flatMap_congr fun m member => ?_
  obtain ⟨inBefore, inAfter⟩ := List.mem_filter.mp member
  simp only [expectedModuleChanges, List.filter_append, nodeChanges_eq, List.filter_flatMap]
  congr 1
  refine List.flatMap_congr fun n new => ?_
  by_cases question : IsAsked rules (after.fileOf m) n
  · have raised := mem_asked_iff.mpr ⟨m, inBefore, of_decide_eq_true inAfter, n, new, question, rfl⟩
    rw [expectedAddedKind?_of_asked question, expectedAddedKind?_of_asked question]
    rcases agree _ raised with same | dropped
    · rw [same]
    · rw [filter_nodeChange_eq_nil (dropped _), filter_nodeChange_eq_nil (dropped _)]
  · rw [expectedAddedKind?_congr fun asked => absurd asked question]

theorem expectedFormChanges_congr (agree : ∀ q ∈ asked rules before after, verdict q = verdict' q) :
    expectedFormChanges verdict rules before after = expectedFormChanges verdict' rules before after := by
  have all : (expectedFormChanges verdict rules before after).filter (fun _ => true) =
      (expectedFormChanges verdict' rules before after).filter fun _ => true :=
    filter_expectedFormChanges_congr fun q raised => .inl (agree q raised)
  rwa [List.filter_true, List.filter_true] at all

end FormComparison

/-! ## Reports -/

section Reports

variable {fs : FileSystem} {presence : Presence} {settings : Settings} {before after : Path}
variable {report : Report}

theorem filter_changes_forms (fs : FileSystem) (isFile : String → Bool) (analysis : AnalysisSettings)
    (r r' : Registry) :
    (compareType fs isFile analysis r r' .system).changes.filter (·.1 = systemDomain) =
      (compareType fs isFile analysis r r' .system).changes := by
  have forms : Trail.Every IsOfForms (compareType fs isFile analysis r r' .system) :=
    (every_compareForms ..).bind fun _ => Trail.every_pure ()
  refine List.filter_eq_self.mpr fun c member => decide_eq_true ?_
  obtain ⟨step, here, change⟩ := List.mem_filterMap.mp member
  exact (forms.holds step here).2 c change

theorem filter_changes_types (fs : FileSystem) (isFile : String → Bool) (analysis : AnalysisSettings)
    {r r' : Registry} (sourced : r.Sourced) (sourced' : r'.Sourced) :
    (compareType fs isFile analysis r r' .di).changes.filter (·.1 = systemDomain) = [] := by
  refine List.filter_eq_nil_iff.mpr fun c member => ?_
  rw [VirtualTypeComparison.domain_of_mem isFile _ sourced sourced' member]
  decide

theorem entries_of_forms (run : (compareTrees fs presence settings before after).outcome = .ok report) :
    report.entries.filter (·.1 = systemDomain) =
      if .system ∈ settings.scan.reportTypes then
        expectedFormChanges (verdictOf (settings.analysis.verdict fs)) settings.analysis.formRules
          (readBelow fs settings.scan before .system) (readBelow fs settings.scan after .system)
      else [] := by
  obtain ⟨-, -, ends, entries⟩ := entries_of_compareTrees run
  have sourced (root : Path) (type : ReportType) := sourced_readBelow fs settings.scan root type
  have parts (t : ReportType) (listed : t ∈ ReportType.all.filter (· ∈ settings.scan.reportTypes)) :
      (compareType fs presence.isFile settings.analysis (readBelow fs settings.scan before t)
        (readBelow fs settings.scan after t) t).changes.filter (·.1 = systemDomain) =
        if t = .system then
          expectedFormChanges (verdictOf (settings.analysis.verdict fs)) settings.analysis.formRules
            (readBelow fs settings.scan before .system) (readBelow fs settings.scan after .system)
        else [] := by
    cases t with
    | di =>
      exact filter_changes_types fs presence.isFile settings.analysis (sourced before .di) (sourced after .di)
    | system =>
      obtain ⟨ended, changes⟩ := compareType_system (ends .system listed)
      rw [filter_changes_forms, changes]
      exact changes_of_judges (settings.analysis.judges fs) (sourced before .system) (sourced after .system)
        ended
  rw [entries, List.filter_flatMap, List.flatMap_congr parts, ReportType.all]
  by_cases di : ReportType.di ∈ settings.scan.reportTypes <;>
    by_cases system : ReportType.system ∈ settings.scan.reportTypes <;> simp [di, system]

end Reports

/-! ## Searches -/

namespace Search

/-- In two file systems a search comes upon the same project, the same other schema files and the same
documents in them. -/
structure SeesAlike (s : Search) (fs fs' : FileSystem) (schemaFile : String) : Prop where
  project : projectRoot? fs' schemaFile s.marker = projectRoot? fs schemaFile s.marker
  others : ∀ root, projectRoot? fs schemaFile s.marker = .ok (some root) →
    s.others fs' root schemaFile = s.others fs root schemaFile
  documents : ∀ root files, projectRoot? fs schemaFile s.marker = .ok (some root) →
    s.others fs root schemaFile = .ok files → ∀ file ∈ files, documentOf fs' file = documentOf fs file

variable {s : Search} {fs fs' : FileSystem} {q : Inquiry}

theorem lookUp_congr {address : Address} {files : List Path}
    (same : ∀ file ∈ files, documentOf fs' file = documentOf fs file) :
    lookUp fs' address files = lookUp fs address files := by
  induction files with
  | nil => rfl
  | cons file rest ih =>
    obtain ⟨first, others⟩ := List.forall_mem_cons.mp same
    rw [lookUp, lookUp, first, ih others]

theorem verdict_of_seesAlike (alike : s.SeesAlike fs fs' q.schemaFile) : s.verdict fs' q = s.verdict fs q := by
  unfold verdict
  rw [alike.project]
  cases q.node.address? with
  | none => rfl
  | some address =>
    cases project : projectRoot? fs q.schemaFile s.marker with
    | error fault => rfl
    | ok place =>
      cases place with
      | none => rfl
      | some root =>
        simp only [alike.others root project]
        cases listed : s.others fs root q.schemaFile with
        | error fault => rfl
        | ok files =>
          cases files with
          | nil => rfl
          | cons file rest => exact lookUp_congr (alike.documents root _ project listed)

end Search

theorem AnalysisSettings.verdict_of_seesAlike {settings : AnalysisSettings} {fs fs' : FileSystem}
    {q : Inquiry} (alike : settings.duplicateStrategy ≠ .structural →
      settings.search.SeesAlike fs fs' q.schemaFile) :
    settings.verdict fs' q = settings.verdict fs q := by
  unfold verdict
  cases strategy : settings.duplicateStrategy with
  | structural => rfl
  | crossFile => exact Search.verdict_of_seesAlike (alike (by simp [strategy]))
  | auto =>
    have same := Search.verdict_of_seesAlike (alike (by simp [strategy]))
    simp only [Search.verdictOrLikeness, same]

/-! ## Trees -/

/-- A change tells of an added node for which the search does not come upon the same in two file
systems. -/
def SeenApart (fs fs' : FileSystem) (settings : Settings) (before after : Path) (c : Change) : Prop :=
  ∃ q ∈ TreeComparison.searched fs settings before after,
    ¬settings.analysis.search.SeesAlike fs fs' q.schemaFile ∧
      ∃ v kind, judgedKind? q.node v = some kind ∧ c = ⟨kind, q.schemaFile, q.node.path⟩

section Trees

variable {fs fs' : FileSystem} {presence presence' : Presence} {settings : Settings} {before after : Path}
variable {report report' : Report}

theorem mem_searched_iff (wanted : .system ∈ settings.scan.reportTypes)
    (strategy : settings.analysis.duplicateStrategy ≠ .structural) {q : Inquiry} :
    q ∈ TreeComparison.searched fs settings before after ↔
      q ∈ asked settings.analysis.formRules (readBelow fs settings.scan before .system)
        (readBelow fs settings.scan after .system) := by
  rw [TreeComparison.searched, if_pos ⟨wanted, strategy⟩]

/-- Reports on trees that are alike but for excluded directories say the same of forms, apart from added
nodes for which the search does not come upon the same. -/
theorem filter_entries_of_alikeOutside (proper : fs.root.Proper) (proper' : fs'.root.Proper)
    (sameBefore : fs'.content settings.scan.excludedDirs before = fs.content settings.scan.excludedDirs before)
    (alike : fs.AlikeOutside fs' settings.scan.excludedDirs after)
    (run : (compareTrees fs presence settings before after).outcome = .ok report)
    (run' : (compareTrees fs' presence' settings before after).outcome = .ok report')
    (kept : String × Change → Bool)
    (seen : ∀ c, kept (systemDomain, c) = true → ¬SeenApart fs fs' settings before after c) :
    (report'.entries.filter (·.1 = systemDomain)).filter kept =
      (report.entries.filter (·.1 = systemDomain)).filter kept := by
  have sameAfter := content_of_alikeOutside proper proper' alike
  rw [entries_of_forms run, entries_of_forms run', readBelow_of_content sameBefore,
    readBelow_of_content sameAfter]
  by_cases wanted : .system ∈ settings.scan.reportTypes
  · rw [if_pos wanted, if_pos wanted]
    refine filter_expectedFormChanges_congr fun q raised => ?_
    -- A question that is seen alike has one verdict, and the answer to any other is not kept.
    by_cases sees : settings.analysis.duplicateStrategy ≠ .structural →
        settings.analysis.search.SeesAlike fs fs' q.schemaFile
    · exact .inl (congrArg (fun answer => answer.toOption.getD .unique)
        (AnalysisSettings.verdict_of_seesAlike sees))
    · obtain ⟨strategy, apart⟩ := Classical.not_imp.mp sees
      refine .inr fun v kind judged => ?_
      by_contra told
      have question := (mem_searched_iff wanted strategy).mpr raised
      exact seen _ (by simpa using told) ⟨q, question, apart, v, kind, judged, rfl⟩
  · rw [if_neg wanted, if_neg wanted]

open Classical in
theorem compareTrees_of_alikeOutside (proper : fs.root.Proper) (proper' : fs'.root.Proper)
    (sameBefore : fs'.content settings.scan.excludedDirs before = fs.content settings.scan.excludedDirs before)
    (alike : fs.AlikeOutside fs' settings.scan.excludedDirs after)
    (run : (compareTrees fs presence settings before after).outcome = .ok report)
    (run' : (compareTrees fs' presence' settings before after).outcome = .ok report') :
    let forms (r : Report) := r.entries.filter (·.1 = systemDomain)
    (forms report').filter (¬SeenApart fs fs' settings before after ·.2) =
        (forms report).filter (¬SeenApart fs fs' settings before after ·.2) ∧
      ((∀ q ∈ TreeComparison.searched fs settings before after,
          settings.analysis.search.SeesAlike fs fs' q.schemaFile) →
        forms report' = forms report) := by
  intro forms
  have parts := filter_entries_of_alikeOutside proper proper' sameBefore alike run run'
  constructor
  · exact parts _ fun c kept => of_decide_eq_true kept
  · intro sees
    have all : (forms report').filter (fun _ => true) = (forms report).filter fun _ => true :=
      parts _ fun c _ ⟨q, question, apart, _⟩ => apart (sees q question)
    rwa [List.filter_true, List.filter_true] at all

end Trees

/-! ## A shop with directories that are not scanned -/

open Survey

/-- A project with one form, with more directories in its code and beside it. -/
def shopWith (form : Entry) (code beside : List (String × Entry)) : FileSystem where
  root := .directory
    [("bare", projectTree [("system.xml", .file typeBytes)]),
      ("shop", .directory ([("SECURITY.md", .file []), ("app", .directory [("code", .directory
        (("Acme", .directory [("Shop", .directory [("etc", .directory [("system.xml", form)])])]) ::
          code))])] ++ beside))]
  workingDirectory := []

def plainShop : FileSystem := shopWith (.file formBytes) [] []

/-- The field of the form is declared in generated code, too. -/
def generatedShop : FileSystem := shopWith (.file formBytes) [("generated", formIn formBytes)] []

/-- The packages bring another form of the module. -/
def packedShop : FileSystem :=
  shopWith (.file formBytes) []
    [("node_modules", .directory [("Acme", .directory [("Shop", .directory [("etc", formIn typeBytes)])])])]

/-- The form is a link to a file in a directory that is not scanned. -/
def linkedForm (bytes : List UInt8) : FileSystem :=
  shopWith (.link "/shop/var/form.xml") [] [("var", .directory [("form.xml", .file bytes)])]

def shopSettings (strategy : DuplicateStrategy) : Settings :=
  { Settings.initial with analysis := { AnalysisSettings.initial with duplicateStrategy := strategy } }

def bareRegistry : Registry := projectRegistry "/bare" [(["system.xml"], bareForm)]

def shopRegistry (form : Xml.Element) : Registry := projectRegistry "/shop" [(["system.xml"], form)]

def formPlace : String := "/shop/app/code/Acme/Shop/etc/system.xml"

section Shops

variable {fs : FileSystem} {form : Xml.Element}

theorem holds_of_files {root : String} {bytes : List UInt8} (either : root = "/bare" ∨ root = "/shop")
    (directory : fs.hasDirectory (Path.ofText root).text = .ok true)
    (files : fs.filesBelow ScanSettings.initial.excludedDirs (.ofText root) =
      [(Path.ofText root).below ["SECURITY.md"], etcFile root ["system.xml"]])
    (opened : fs.read (etcFile root ["system.xml"]).text = .ok bytes) (parsed : Xml.ofBytes bytes = .ok form) :
    Holds fs ScanSettings.initial (.ofText root) .system "Acme_Shop" [(etcFile root ["system.xml"], form)] where
  directory := directory
  listed := by
    refine ⟨[(Path.ofText root).below ["SECURITY.md"]], files, List.forall_mem_singleton.mpr ?_⟩
    rcases either with rfl | rfl <;> cbv
  read := by
    refine List.forall_mem_singleton.mpr (documentIn?_eq_some_iff.mpr ?_)
    have place : (etcFile root ["system.xml"]).name = "system.xml" ∧
        moduleOfFile? (etcFile root ["system.xml"]).text = some "Acme_Shop" := by
      rcases either with rfl | rfl <;> cbv
    exact ⟨place.1, place.2, readDocument_eq_ok_iff.mpr ⟨bytes, opened, parsed⟩⟩

/-- What is read of the project before, and what is read of it with its form. -/
structure IsShop (fs : FileSystem) (form : Xml.Element) : Prop where
  before : Holds fs ScanSettings.initial (.ofText "/bare") .system "Acme_Shop"
    [(etcFile "/bare" ["system.xml"], bareForm)]
  after : Holds fs ScanSettings.initial (.ofText "/shop") .system "Acme_Shop"
    [(etcFile "/shop" ["system.xml"], form)]

theorem isShop_of_after {entry : Entry} {code beside : List (String × Entry)}
    (after : Holds (shopWith entry code beside) ScanSettings.initial (.ofText "/shop") .system "Acme_Shop"
      [(etcFile "/shop" ["system.xml"], form)]) : IsShop (shopWith entry code beside) form where
  before := holds_of_files (.inl rfl) (by cbv) (by cbv) (by cbv) ofBytes_typeBytes
  after := after

theorem isShop_plain : IsShop plainShop shopForm :=
  isShop_of_after (holds_of_files (.inr rfl) (by cbv) (by cbv) (by cbv) ofBytes_formBytes)

theorem isShop_generated : IsShop generatedShop shopForm :=
  isShop_of_after (holds_of_files (.inr rfl) (by cbv) (by cbv) (by cbv) ofBytes_formBytes)

theorem isShop_packed : IsShop packedShop shopForm :=
  isShop_of_after (holds_of_files (.inr rfl) (by cbv) (by cbv) (by cbv) ofBytes_formBytes)

theorem IsShop.registries (isShop : IsShop fs form) :
    readBelow fs ScanSettings.initial (.ofText "/bare") .system = bareRegistry ∧
      readBelow fs ScanSettings.initial (.ofText "/shop") .system = shopRegistry form := by
  rw [readBelow, readBelow, isShop.before.gathered_eq, isShop.after.gathered_eq]
  exact ⟨rfl, rfl⟩

/-- The one question that the form raises. -/
def fieldQuestion : Inquiry := ⟨ownField, formPlace, bareRegistry.bucket "Acme_Shop"⟩

theorem asked_shopForm :
    ∀ q ∈ asked AnalysisSettings.initial.formRules bareRegistry (shopRegistry shopForm), q = fieldQuestion := by
  have modules : bareRegistry.modules = ["Acme_Shop"] := by cbv
  have new : missingNodes (shopRegistry shopForm) bareRegistry "Acme_Shop" =
      [.configSection ⟨"s", none⟩, .configGroup ⟨"g", "s", none⟩, ownField] := by cbv
  have source : (shopRegistry shopForm).fileOf "Acme_Shop" = formPlace := by cbv
  intro q raised
  obtain ⟨m, inBefore, -, n, missing, ⟨-, -, addressed⟩, rfl⟩ := mem_asked_iff.mp raised
  obtain rfl : m = "Acme_Shop" := by simpa [modules] using inBefore
  rw [source]
  rw [new] at missing
  simp only [List.mem_cons, List.not_mem_nil, or_false] at missing
  rcases missing with rfl | rfl | rfl
  · exact absurd (by cbv) addressed
  · exact absurd (by cbv) addressed
  · rfl

theorem asked_bareForm :
    asked AnalysisSettings.initial.formRules bareRegistry (shopRegistry bareForm) = [] := by
  have modules : bareRegistry.modules = ["Acme_Shop"] := by cbv
  have new : missingNodes (shopRegistry bareForm) bareRegistry "Acme_Shop" = [] := by cbv
  refine List.eq_nil_iff_forall_not_mem.mpr fun q raised => ?_
  obtain ⟨m, inBefore, -, n, missing, -⟩ := mem_asked_iff.mp raised
  obtain rfl : m = "Acme_Shop" := by simpa [modules] using inBefore
  rw [new] at missing
  cases missing

theorem IsShop.exists_report {strategy : DuplicateStrategy} {v : Verdict} (isShop : IsShop fs form)
    (told : ∀ q ∈ asked AnalysisSettings.initial.formRules bareRegistry (shopRegistry form),
      (shopSettings strategy).analysis.verdict fs q = .ok v) :
    ∃ report, (compareTrees fs (.ofNames []) (shopSettings strategy) (.ofText "/bare")
        (.ofText "/shop")).outcome = .ok report ∧
      report.entries.filter (·.1 = systemDomain) =
        expectedFormChanges (fun _ => v) AnalysisSettings.initial.formRules bareRegistry
          (shopRegistry form) := by
  obtain ⟨as, scanBefore⟩ := isShop.before.scanTree
  obtain ⟨bs, scanAfter⟩ := isShop.after.scanTree
  obtain ⟨before, after⟩ := isShop.registries
  have ends : ∃ last, (compareForms (Detector.ask fs) AnalysisSettings.initial.formRules
      (shopSettings strategy).analysis.detector bareRegistry (shopRegistry form)).outcome = .ok last := by
    rw [ends_iff_told ((shopSettings strategy).analysis.judges fs)
      (before ▸ sourced_readBelow fs _ _ .system) (after ▸ sourced_readBelow fs _ _ .system)]
    intro m inBefore inAfter n new question
    exact ⟨v, told _ (mem_asked_iff.mpr ⟨m, inBefore, inAfter, n, new, question, rfl⟩)⟩
  have kinds (t : ReportType) : (compareType fs (Presence.ofNames []).isFile (shopSettings strategy).analysis
      (readBelow fs ScanSettings.initial (.ofText "/bare") t)
      (readBelow fs ScanSettings.initial (.ofText "/shop") t) t).outcome = .ok () := by
    cases t with
    | di =>
      have sourced (root : String) := sourced_readBelow fs ScanSettings.initial (.ofText root) .di
      have types := VirtualTypeComparison.compareVirtualTypes_reports (Presence.ofNames []).isFile
        (shopSettings strategy).analysis.classFileExtension (sourced "/bare") (sourced "/shop")
      exact types.outcome
    | system =>
      obtain ⟨last, ends⟩ := ends
      rw [before, after]
      exact Trail.outcome_bind_of_ok _ ends
  have exists_report : ∃ report, (compareTrees fs (.ofNames []) (shopSettings strategy) (.ofText "/bare")
      (.ofText "/shop")).outcome = .ok report :=
    compareTrees_ends (fun _ => rfl) scanBefore scanAfter fun t _ => kinds t
  obtain ⟨report, run⟩ := exists_report
  have wanted : ReportType.system ∈ ReportType.all := by decide
  refine ⟨report, run, (entries_of_forms run).trans ((if_pos wanted).trans ?_)⟩
  show expectedFormChanges _ AnalysisSettings.initial.formRules (readBelow fs ScanSettings.initial _ .system)
    (readBelow fs ScanSettings.initial _ .system) = _
  rw [before, after]
  refine expectedFormChanges_congr fun q raised => ?_
  simp [verdictOf, told q raised, Except.toOption]

theorem likeness_fieldQuestion : likeness fieldQuestion = .unique := by cbv

/-- The search from the form of a shop comes upon some other schema files. -/
structure Searched (fs : FileSystem) (files : List Path) : Prop where
  marked : projectRoot? fs formPlace AnalysisSettings.initial.search.marker = .ok (some (.ofText "/shop"))
  others : AnalysisSettings.initial.search.others fs (.ofText "/shop") formPlace = .ok files

theorem searched_plain : Searched plainShop [] := ⟨by cbv, by cbv⟩

theorem searched_packed : Searched packedShop [] := ⟨by cbv, by cbv⟩

def generatedPlace : Location := ["shop", "app", "code", "generated", "system.xml"]

theorem searched_generated : Searched generatedShop [pathOf generatedPlace] := ⟨by cbv, by cbv⟩

theorem verdict_of_searched {files : List Path} (searched : Searched fs files) :
    AnalysisSettings.initial.search.verdict fs fieldQuestion =
      if files = [] then .ok .unavailable
      else Search.lookUp fs (formAddress "s" ["g"] .configField "f") files := by
  have spelt : fieldQuestion.node.address? = some (formAddress "s" ["g"] .configField "f") :=
    address_ownField
  have place : fieldQuestion.schemaFile = formPlace := rfl
  simp only [Search.verdict, spelt, place, searched.marked, searched.others]
  cases files <;> rfl

theorem told_of_nothing (searched : Searched fs []) :
    ∀ q ∈ asked AnalysisSettings.initial.formRules bareRegistry (shopRegistry shopForm),
      (shopSettings .auto).analysis.verdict fs q = .ok .unique := by
  intro q raised
  rw [asked_shopForm q raised]
  show AnalysisSettings.initial.search.verdictOrLikeness fs fieldQuestion = _
  rw [Search.verdictOrLikeness, verdict_of_searched searched, if_pos rfl, likeness_fieldQuestion]

theorem told_generated :
    ∀ q ∈ asked AnalysisSettings.initial.formRules bareRegistry (shopRegistry shopForm),
      (shopSettings .auto).analysis.verdict generatedShop q = .ok .duplicate := by
  have opened : generatedShop.read (pathOf generatedPlace).text = .ok formBytes := by cbv
  have read : documentOf generatedShop (pathOf generatedPlace) = .ok (some shopForm) :=
    documentOf_eq_some_iff.mpr (readDocument_eq_ok_iff.mpr ⟨formBytes, opened, ofBytes_formBytes⟩)
  have holds : (formAddress "s" ["g"] .configField "f").holds shopForm = true := by cbv
  have found : Search.lookUp generatedShop (formAddress "s" ["g"] .configField "f") [pathOf generatedPlace] =
      .ok .duplicate := by
    simp only [Search.lookUp, read, Option.any_some, holds, if_true]
  intro q raised
  rw [asked_shopForm q raised]
  show AnalysisSettings.initial.search.verdictOrLikeness generatedShop fieldQuestion = _
  rw [Search.verdictOrLikeness, verdict_of_searched searched_generated, if_neg (by simp), found]

theorem told_by_likeness (fs : FileSystem) :
    ∀ q ∈ asked AnalysisSettings.initial.formRules bareRegistry (shopRegistry shopForm),
      (shopSettings .structural).analysis.verdict fs q = .ok .unique := by
  intro q raised
  rw [asked_shopForm q raised]
  exact congrArg Except.ok likeness_fieldQuestion

theorem expected_unique :
    expectedFormChanges (fun _ => .unique) AnalysisSettings.initial.formRules bareRegistry
      (shopRegistry shopForm) = [(systemDomain, ⟨.fieldAdded, formPlace, "s/g/f"⟩)] := by rfl

theorem expected_duplicate :
    expectedFormChanges (fun _ => .duplicate) AnalysisSettings.initial.formRules bareRegistry
      (shopRegistry shopForm) = [(systemDomain, ⟨.duplicateFieldAdded, formPlace, "s/g/f"⟩)] := by
  rfl

theorem expected_nothing :
    expectedFormChanges (fun _ => .unique) AnalysisSettings.initial.formRules bareRegistry
      (shopRegistry bareForm) = [] := by cbv

theorem content_bare (form : Entry) (code beside : List (String × Entry)) :
    (shopWith form code beside).content ScanSettings.initial.excludedDirs (.ofText "/bare") =
      [(["SECURITY.md"], .ok []), (["app", "code", "Acme", "Shop", "etc", "system.xml"], .ok typeBytes)] := by
  cbv

def scannedShop : Entry :=
  .directory [("SECURITY.md", .file []), ("app", .directory [("code", .directory
    [("Acme", .directory [("Shop", .directory [("etc", formIn formBytes)])])])])]

theorem pruned_plain :
    plainShop.pruned ScanSettings.initial.excludedDirs (.ofText "/shop") = .ok scannedShop := by cbv

theorem pruned_generated :
    generatedShop.pruned ScanSettings.initial.excludedDirs (.ofText "/shop") = .ok scannedShop := by cbv

theorem pruned_packed :
    packedShop.pruned ScanSettings.initial.excludedDirs (.ofText "/shop") = .ok scannedShop := by cbv

theorem alikeOutside_packed :
    plainShop.AlikeOutside packedShop ScanSettings.initial.excludedDirs (.ofText "/shop") :=
  alikeOutside_of_no_links pruned_plain pruned_packed rfl

theorem IsShop.searched_eq (isShop : IsShop fs form) :
    TreeComparison.searched fs .initial (.ofText "/bare") (.ofText "/shop") =
      asked AnalysisSettings.initial.formRules bareRegistry (shopRegistry form) := by
  obtain ⟨before, after⟩ := isShop.registries
  rw [← before, ← after]
  exact if_pos (by decide)

theorem seesAlike_packed : AnalysisSettings.initial.search.SeesAlike plainShop packedShop formPlace where
  project := searched_packed.marked.trans searched_plain.marked.symm
  others root marked := by
    cases searched_plain.marked.symm.trans marked
    exact searched_packed.others.trans searched_plain.others.symm
  documents root files marked listed := by
    cases searched_plain.marked.symm.trans marked
    cases searched_plain.others.symm.trans listed
    exact List.forall_mem_nil _

theorem compareTrees_of_alikeOutside_packed :
    let excluded := ScanSettings.initial.excludedDirs
    let run (fs : FileSystem) :=
      (compareTrees fs (.ofNames []) .initial (.ofText "/bare") (.ofText "/shop")).outcome
    plainShop.root.Proper ∧ packedShop.root.Proper ∧
      packedShop.content excluded (.ofText "/bare") = plainShop.content excluded (.ofText "/bare") ∧
      plainShop.AlikeOutside packedShop excluded (.ofText "/shop") ∧
      (∀ q ∈ TreeComparison.searched plainShop .initial (.ofText "/bare") (.ofText "/shop"),
        AnalysisSettings.initial.search.SeesAlike plainShop packedShop q.schemaFile) ∧
      ∃ report report', run plainShop = .ok report ∧ run packedShop = .ok report' ∧
        report.entries.filter (·.1 = systemDomain) = [(systemDomain, ⟨.fieldAdded, formPlace, "s/g/f"⟩)] ∧
        report'.entries.filter (·.1 = systemDomain) = [(systemDomain, ⟨.fieldAdded, formPlace, "s/g/f"⟩)] := by
  intro excluded run
  have proper : plainShop.root.Proper := by decide +kernel
  have proper' : packedShop.root.Proper := by decide +kernel
  have sameBefore : packedShop.content excluded (.ofText "/bare") = plainShop.content excluded (.ofText "/bare") :=
    (content_bare ..).trans (content_bare ..).symm
  have sees : ∀ q ∈ TreeComparison.searched plainShop .initial (.ofText "/bare") (.ofText "/shop"),
      AnalysisSettings.initial.search.SeesAlike plainShop packedShop q.schemaFile := by
    rw [isShop_plain.searched_eq]
    intro q raised
    rw [asked_shopForm q raised]
    exact seesAlike_packed
  obtain ⟨report, ends, entries⟩ := isShop_plain.exists_report (told_of_nothing searched_plain)
  obtain ⟨report', ends', -⟩ := isShop_packed.exists_report (told_of_nothing searched_packed)
  have same := (compareTrees_of_alikeOutside proper proper' sameBefore alikeOutside_packed ends ends').2 sees
  have added := entries.trans expected_unique
  exact ⟨proper, proper', sameBefore, alikeOutside_packed, sees, report, report', ends, ends', added,
    same.trans added⟩

/-- The trees are the same but for a form in a directory that is not scanned. The search enters it, and
what was added is a duplicate. -/
theorem compareTrees_generated :
    let excluded := ScanSettings.initial.excludedDirs
    let run (fs : FileSystem) :=
      (compareTrees fs (.ofNames []) .initial (.ofText "/bare") (.ofText "/shop")).outcome
    plainShop.root.Proper ∧ generatedShop.root.Proper ∧
      generatedShop.content excluded (.ofText "/bare") = plainShop.content excluded (.ofText "/bare") ∧
      plainShop.AlikeOutside generatedShop excluded (.ofText "/shop") ∧
      ∃ report report', run plainShop = .ok report ∧ run generatedShop = .ok report' ∧
        report.entries.filter (·.1 = systemDomain) = [(systemDomain, ⟨.fieldAdded, formPlace, "s/g/f"⟩)] ∧
        report'.entries.filter (·.1 = systemDomain) =
          [(systemDomain, ⟨.duplicateFieldAdded, formPlace, "s/g/f"⟩)] := by
  intro excluded run
  obtain ⟨report, ends, entries⟩ := isShop_plain.exists_report (told_of_nothing searched_plain)
  obtain ⟨report', ends', entries'⟩ := isShop_generated.exists_report told_generated
  exact ⟨by decide +kernel, by decide +kernel, (content_bare ..).trans (content_bare ..).symm,
    alikeOutside_of_no_links pruned_plain pruned_generated rfl, report, report', ends, ends',
    entries.trans expected_unique, entries'.trans expected_duplicate⟩

/-! ### A form that is a link -/

def formParts : List String := ["shop", "app", "code", "Acme", "Shop", "etc", "system.xml"]

theorem locate_linkedForm (bytes : List UInt8) :
    (linkedForm bytes).locate formPlace = .ok (["shop", "var", "form.xml"], .file bytes) := by
  have above : (linkedForm bytes).root.entryAt ["shop", "app", "code", "Acme", "Shop", "etc"] =
      some (.directory [("system.xml", .link "/shop/var/form.xml")]) := rfl
  have down : Entry.reach (linkedForm bytes).root 40 [] ("" :: formParts) =
      Entry.reach (linkedForm bytes).root 40 ["shop", "app", "code", "Acme", "Shop", "etc"] ["system.xml"] := by
    cbv
  have proper : ProperName "system.xml" := by decide
  have led : Entry.reach (linkedForm bytes).root 40 ["shop", "app", "code", "Acme", "Shop", "etc"]
      ["system.xml"] = Entry.reach (linkedForm bytes).root 39 [] ["", "shop", "var", "form.xml"] :=
    Entry.reach_link above (Entry.lookedUp_of_proper proper) rfl []
  have further : Entry.reach (linkedForm bytes).root 39 [] ["", "shop", "var", "form.xml"] =
      .ok (["shop", "var", "form.xml"], some (.file bytes)) := by cbv
  have start : (linkedForm bytes).start formPlace = [] := if_pos (by cbv)
  have parts : Entry.rawParts formPlace = "" :: formParts := by cbv
  rw [locate_eq_ok_iff, start, parts]
  exact ⟨by cbv, (down.trans led).trans further⟩

def linkedEntry : Entry :=
  .directory [("SECURITY.md", .file []), ("app", .directory [("code", .directory
    [("Acme", .directory [("Shop", .directory [("etc", .directory
      [("system.xml", .link "/shop/var/form.xml")])])])])])]

theorem pruned_linkedForm (bytes : List UInt8) :
    (linkedForm bytes).pruned ScanSettings.initial.excludedDirs (.ofText "/shop") = .ok linkedEntry := by cbv

theorem filesBelow_linkedForm (bytes : List UInt8) :
    (linkedForm bytes).filesBelow ScanSettings.initial.excludedDirs (.ofText "/shop") =
      [(Path.ofText "/shop").below ["SECURITY.md"], etcFile "/shop" ["system.xml"]] := by
  have noDirectory : (linkedForm bytes).isDirectory formPlace = false := by
    rw [isDirectory, locate_linkedForm]
    rfl
  have text : ((Path.ofText "/shop").below formParts.tail).text = formPlace := by cbv
  have links : linkedEntry.linkPlaces = [formParts.tail] := rfl
  have walked : linkedEntry.walk
        (fun names => withinLimit (.ofText "/shop") names &&
          (linkedForm bytes).isDirectory ((Path.ofText "/shop").below names).text)
        (ScanSettings.initial.excludedDirs.contains ·) [] =
      linkedEntry.walk (fun _ => false) (ScanSettings.initial.excludedDirs.contains ·) [] := by
    refine Entry.walk_congr_links ?_
    rw [links, List.forall_mem_singleton, List.nil_append, text, noDirectory, Bool.and_false]
  rw [filesBelow, walk_eq_of_pruned (pruned_linkedForm bytes), walked]
  cbv

theorem isShop_linked {bytes : List UInt8} (parsed : Xml.ofBytes bytes = .ok form) :
    IsShop (linkedForm bytes) form := by
  have text : (etcFile "/shop" ["system.xml"]).text = formPlace := by cbv
  have opened : (linkedForm bytes).read (etcFile "/shop" ["system.xml"]).text = .ok bytes :=
    text ▸ read_of_file (locate_linkedForm bytes)
  exact isShop_of_after (holds_of_files (.inr rfl) (by cbv) (filesBelow_linkedForm bytes) opened parsed)

/-- The trees are the same but for a file in a directory that is not scanned. A link leads to it, and what
it holds is reported. -/
theorem compareTrees_linkedForm :
    let excluded := ScanSettings.initial.excludedDirs
    let run (bytes : List UInt8) :=
      (compareTrees (linkedForm bytes) (.ofNames []) (shopSettings .structural) (.ofText "/bare")
        (.ofText "/shop")).outcome
    (linkedForm typeBytes).pruned excluded (.ofText "/shop") =
        (linkedForm formBytes).pruned excluded (.ofText "/shop") ∧
      (linkedForm typeBytes).content excluded (.ofText "/bare") =
        (linkedForm formBytes).content excluded (.ofText "/bare") ∧
      (∃ report, run formBytes = .ok report ∧
        report.entries.filter (·.1 = systemDomain) = [(systemDomain, ⟨.fieldAdded, formPlace, "s/g/f"⟩)]) ∧
      ∃ report, run typeBytes = .ok report ∧ report.entries.filter (·.1 = systemDomain) = [] := by
  intro excluded run
  refine ⟨?_, ?_, ?_, ?_⟩
  · exact (pruned_linkedForm typeBytes).trans (pruned_linkedForm formBytes).symm
  · exact (content_bare ..).trans (content_bare ..).symm
  · obtain ⟨report, ends, entries⟩ := (isShop_linked ofBytes_formBytes).exists_report (told_by_likeness _)
    exact ⟨report, ends, entries.trans expected_unique⟩
  · have nothing : ∀ q ∈ asked AnalysisSettings.initial.formRules bareRegistry (shopRegistry bareForm),
        (shopSettings .structural).analysis.verdict (linkedForm typeBytes) q = .ok .unique := by
      rw [asked_bareForm]
      exact List.forall_mem_nil _
    obtain ⟨report, ends, entries⟩ := (isShop_linked ofBytes_typeBytes).exists_report nothing
    exact ⟨report, ends, entries.trans expected_nothing⟩

end Shops

end ReleaseImpact
