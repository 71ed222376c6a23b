import ReleaseImpact.Proofs.Descent
import ReleaseImpact.Proofs.Siblings
import ReleaseImpact.Proofs.TreeReports

/-!
Whether an added group or field is taken for a duplicate of itself. The search leaves out the source file
of the module, which is the last of its schema files, and not the file that declares the node. Main
statements:

- `address_of_mem_nodesOf`: which groups and fields of a tree have an address.
- `searching_ask`: a detector that searches answers as a search without a memory.
- `compareTrees_reportsOwn`: what only the source file of its module declares is reported as added.
- `mem_entries_of_held`: what another schema file of the project declares is reported as a duplicate.
- `compareTrees_ownDuplicate`: what only another file of its module declares is taken for a duplicate.
-/

namespace ReleaseImpact

open Survey FormComparison

variable {fs : FileSystem}

/-! ## Addresses of nodes -/

theorem Survey.address_of_mem_nodesOf {files : List Path} (free : SlashFreeForms fs files)
    {moduleName : String} {n : Node} (member : n ∈ (gathered fs .system files).nodesOf moduleName)
    (deep : n.kind = .configField ∨ n.kind = .configGroup ∧ 3 ≤ (Address.pathParts n.path).length) :
    ∃ first groups last, groups ≠ [] ∧ Plain (first :: (groups ++ [last])) ∧
      n.address? = some (formAddress first groups n.kind last) := by
  obtain ⟨file, listed, declared⟩ := exists_file_of_mem_nodesOf member
  obtain ⟨document, read, found⟩ := mem_declaredIn_system_iff.mp declared
  obtain ⟨named, -, opened⟩ := documentIn?_eq_some_iff.mp read
  rcases formLeads_of_collected found with
    ⟨_, _, _, _, _, rfl⟩ | ⟨first, groups, last, x, led, named, path, form⟩
  · rcases deep with field | ⟨group, -⟩
    · cases field
    · cases group
  · have plain := plain_of_leads (free file listed ‹_› document opened) led named
    have nested : groups ≠ [] := by
      rcases form with group | ⟨-, nested⟩
      · rintro rfl
        rw [path, pathParts_join (List.cons_ne_nil _ _) plain, group] at deep
        simp at deep
      · exact nested
    refine ⟨first, groups, last, nested, plain, ?_⟩
    rw [address?_of_path (form.imp_right And.left) plain path, if_neg nested]

/-- Among the schema files of the project of a file, no other declares the address of a node. -/
def Search.OnlyDeclaredBy (s : Search) (fs : FileSystem) (schemaFile : String) (n : Node) : Prop :=
  ∀ root own files, projectRoot? fs schemaFile s.marker = .ok (some root) →
    fs.resolve (.ofText schemaFile) = .ok own → s.schemaFiles fs root = .ok files →
      ∀ file ∈ files, ∀ document, readDocument fs file.text = .ok (.ok document) →
        (∃ x, .node x ∈ formNodes document ∧ x.address? = n.address?) → file = own

theorem Search.OnlyDeclaredBy.not_held {s : Search} {schemaFile : String} {n : Node}
    (only : s.OnlyDeclaredBy fs schemaFile n) {first last : String} {groups : List String} {kind : Kind}
    (form : kind = .configGroup ∨ kind = .configField) (nested : groups ≠ [])
    (plain : Plain (first :: (groups ++ [last])))
    (spelt : n.address? = some (formAddress first groups kind last)) :
    ¬s.HeldElsewhere fs schemaFile (formAddress first groups kind last) := by
  rintro ⟨root, own, files, marked, resolved, listed, file, member, other, document, opened, holds⟩
  have found := search_formAddress document first groups form last
  rw [holds] at found
  obtain ⟨x, inside, -, same⟩ := collected_of_search form nested plain found
  exact other (only root own files marked resolved listed file member document opened
    ⟨x, inside, same.trans spelt.symm⟩)

/-! ## Detectors that search -/

/-- A detector that searches and remembers only what is so. -/
def Searching (s : Search) (fs : FileSystem) (d : Detector) : Prop :=
  ∃ m, d = .crossFile s m ∧ s.Remembers fs m

theorem searching_ask {s : Search} {d : Detector} (searching : Searching s fs d) (q : Inquiry) :
    (d.ask fs q).verdict = s.verdict fs q ∧ Searching s fs (d.ask fs q).next := by
  obtain ⟨m, rfl, remembers⟩ := searching
  obtain ⟨answer, kept⟩ := s.ask_verdict remembers q
  exact ⟨answer, _, rfl, kept⟩

/-! ## What becomes of an added node -/

theorem eq_of_mem_of_key_eq {r : Registry} {moduleName : String} {n x : Node}
    (member : n ∈ r.nodesOf moduleName) (other : x ∈ r.nodesOf moduleName) (same : x.key = n.key) :
    x = n := by
  have found := mem_nodesOf_iff.mp member
  have found' := mem_nodesOf_iff.mp other
  rw [same, found] at found'
  exact (Option.some.inj found').symm

theorem expectedAddedKind?_of_asked {rules : FormRules} {file : String} {n : Node}
    (asked : IsAsked rules file n) (verdict : Inquiry → Verdict) (existing : Nodes) :
    expectedAddedKind? verdict rules.fixtureMarkers file existing n =
      judgedKind? n (verdict ⟨n, file, existing⟩) := by
  obtain ⟨form, up, addressed⟩ := asked
  have noMarker : ¬∃ marker ∈ rules.fixtureMarkers, marker.toList <:+: file.toList := by
    rw [← looksUp_eq_false_iff, up]
    decide
  rw [expectedAddedKind?, if_neg noMarker, if_neg (mt (address?_eq_none_iff form).mpr addressed)]

theorem expectedAddedKind?_of_not_asked {rules : FormRules} {file : String} {n : Node}
    (unasked : ¬IsAsked rules file n) (addressed : n.address? ≠ none) (verdict : Inquiry → Verdict)
    (existing : Nodes) :
    expectedAddedKind? verdict rules.fixtureMarkers file existing n = addedKind? n := by
  have form : n.kind ≠ .virtualType := by
    intro virtual
    cases n <;> cases virtual
    exact addressed rfl
  have fixture : looksUp rules file = false := by
    by_contra up
    exact unasked ⟨form, by simpa using up, addressed⟩
  rw [expectedAddedKind?, if_pos (looksUp_eq_false_iff.mp fixture)]

theorem isField_of_duplicate {verdict : Inquiry → Verdict} {markers : List String} {file : String}
    {existing : Nodes} {n : Node}
    (h : expectedAddedKind? verdict markers file existing n = some .duplicateFieldAdded) :
    n.kind = .configField := by
  cases n with
  | configField f => rfl
  | virtualType v =>
    rw [expectedAddedKind?_virtualType] at h
    cases h
  | configSection c =>
    unfold expectedAddedKind? at h
    split at h
    · cases h
    · rw [if_pos (.inl rfl)] at h
      cases h
  | configGroup g =>
    unfold expectedAddedKind? at h
    split at h
    · cases h
    · split at h
      · cases h
      · cases found : verdict ⟨.configGroup g, file, existing⟩ <;> rw [found] at h <;> cases h

theorem mem_answeredChanges {rules : FormRules} {before after : Registry} {moduleName : String} {n : Node}
    {answers : String → Node → Verdict} (inBefore : moduleName ∈ before.modules)
    (inAfter : moduleName ∈ after.modules) (new : n ∈ missingNodes after before moduleName)
    {kind : ChangeKind}
    (expected : expectedAddedKind? (fun q => answers moduleName q.node) rules.fixtureMarkers
      (after.fileOf moduleName) (before.bucket moduleName) n = some kind) :
    (systemDomain, ⟨kind, after.fileOf moduleName, n.path⟩) ∈
      answeredChanges rules before after answers := by
  have addition : IsAddition kind := isAddition_of_expected expected
  rw [mem_added_iff addition]
  exact ⟨moduleName, inBefore, inAfter, rfl, n, new, expected, rfl⟩

/-! ## Reports on two trees -/

section Trees

variable {presence : Presence} {settings : Settings} {before after : Path} {report : Report}
variable {moduleName : String} {n : Node}

/-- The report holds the expected changes for the answers of a search without a memory. -/
theorem exists_answers (run : (compareTrees fs presence settings before after).outcome = .ok report)
    (wanted : .system ∈ settings.scan.reportTypes)
    (crossFile : settings.analysis.duplicateStrategy = .crossFile) :
    ∃ answers : String → Node → Verdict,
      (∀ c, (systemDomain, c) ∈ report.entries ↔ (systemDomain, c) ∈
        answeredChanges settings.analysis.formRules (readBelow fs settings.scan before .system)
          (readBelow fs settings.scan after .system) answers) ∧
      ∀ m ∈ (readBelow fs settings.scan before .system).modules,
        m ∈ (readBelow fs settings.scan after .system).modules →
          ∀ n ∈ missingNodes (readBelow fs settings.scan after .system)
              (readBelow fs settings.scan before .system) m,
            IsAsked settings.analysis.formRules ((readBelow fs settings.scan after .system).fileOf m) n →
              settings.analysis.search.verdict fs
                ⟨n, (readBelow fs settings.scan after .system).fileOf m,
                  (readBelow fs settings.scan before .system).bucket m⟩ = .ok (answers m n) := by
  obtain ⟨⟨d, ends⟩, entries⟩ := mem_system_entries_iff run wanted
  have detector : settings.analysis.detector = .crossFile settings.analysis.search .empty := by
    simp only [AnalysisSettings.detector, crossFile]
    rfl
  have starts : Searching settings.analysis.search fs settings.analysis.detector :=
    ⟨_, detector, Search.remembers_empty _ _⟩
  obtain ⟨-, answers, given, changes⟩ :=
    compareForms_answered (Searching settings.analysis.search fs)
      (fun d q searching => (searching_ask searching q).2) (sourced_readBelow fs settings.scan before .system)
      (sourced_readBelow fs settings.scan after .system) starts ends
  refine ⟨answers, fun c => by rw [entries c, changes], ?_⟩
  intro m inBefore inAfter n new asked
  obtain ⟨d, searching, answer⟩ := given m inBefore inAfter n new asked
  rw [(searching_ask searching _).1] at answer
  exact answer

/-- The answer on a node that only its source file declares does not keep it from being reported. -/
theorem expectedAddedKind?_of_own {rules : FormRules} {search : Search} {files : List Path} {r : Registry}
    (isRead : r = gathered fs .system files) (free : SlashFreeForms fs files)
    (member : n ∈ r.nodesOf moduleName)
    (deep : n.kind = .configField ∨ n.kind = .configGroup ∧ 3 ≤ (Address.pathParts n.path).length)
    (only : search.OnlyDeclaredBy fs (r.fileOf moduleName) n) {existing : Nodes}
    {verdict : Inquiry → Verdict}
    (answered : IsAsked rules (r.fileOf moduleName) n →
      search.verdict fs ⟨n, r.fileOf moduleName, existing⟩ =
        .ok (verdict ⟨n, r.fileOf moduleName, existing⟩)) :
    expectedAddedKind? verdict rules.fixtureMarkers (r.fileOf moduleName) existing n = addedKind? n := by
  subst isRead
  obtain ⟨first, groups, last, nested, plain, spelt⟩ := address_of_mem_nodesOf free member deep
  by_cases asked : IsAsked rules ((gathered fs .system files).fileOf moduleName) n
  · rw [expectedAddedKind?_of_asked asked]
    obtain ⟨resolved, duplicate⟩ := Search.verdict_cases spelt (answered asked)
    have form := deep.symm.imp_left And.left
    have unique := mt duplicate.mp (only.not_held form nested plain spelt)
    cases answer : verdict ⟨n, (gathered fs .system files).fileOf moduleName, existing⟩ with
    | unresolved => exact absurd answer resolved
    | duplicate => exact absurd answer unique
    | unique => rfl
    | unavailable => rfl
  · exact expectedAddedKind?_of_not_asked asked (by simp [spelt]) verdict existing

/-- Searching in the other schema files of the project, a comparison reports as added what the source
file of a module is the only one to declare. -/
theorem compareTrees_reportsOwn
    (run : (compareTrees fs presence settings before after).outcome = .ok report)
    (wanted : .system ∈ settings.scan.reportTypes)
    (crossFile : settings.analysis.duplicateStrategy = .crossFile)
    (free : SlashFreeForms fs (fs.filesBelow settings.scan.excludedDirs after))
    (inBefore : moduleName ∈ (readBelow fs settings.scan before .system).modules)
    (inAfter : moduleName ∈ (readBelow fs settings.scan after .system).modules)
    (new : n ∈ missingNodes (readBelow fs settings.scan after .system)
      (readBelow fs settings.scan before .system) moduleName)
    (only : settings.analysis.search.OnlyDeclaredBy fs
      ((readBelow fs settings.scan after .system).fileOf moduleName) n) :
    (n.kind = .configField →
      (systemDomain, ⟨.fieldAdded, (readBelow fs settings.scan after .system).fileOf moduleName, n.path⟩) ∈
          report.entries ∧
        (systemDomain,
          ⟨.duplicateFieldAdded, (readBelow fs settings.scan after .system).fileOf moduleName, n.path⟩) ∉
          report.entries) ∧
      (n.kind = .configGroup → 3 ≤ (Address.pathParts n.path).length →
        (systemDomain, ⟨.groupAdded, (readBelow fs settings.scan after .system).fileOf moduleName, n.path⟩) ∈
          report.entries) := by
  obtain ⟨answers, entries, given⟩ := exists_answers run wanted crossFile
  have own (deep : n.kind = .configField ∨ n.kind = .configGroup ∧ 3 ≤ (Address.pathParts n.path).length) :
      expectedAddedKind? (fun q => answers moduleName q.node) settings.analysis.formRules.fixtureMarkers
        ((readBelow fs settings.scan after .system).fileOf moduleName)
        ((readBelow fs settings.scan before .system).bucket moduleName) n = addedKind? n :=
    expectedAddedKind?_of_own rfl free (List.mem_filter.mp new).1 deep only
      (given moduleName inBefore inAfter n new)
  constructor
  · intro field
    have expected := own (.inl field)
    have isAdded : addedKind? n = some .fieldAdded := by
      cases n <;> cases field
      rfl
    rw [isAdded] at expected
    constructor
    · rw [entries]
      exact mem_answeredChanges inBefore inAfter new expected
    · rw [entries, mem_added_iff (by simp [IsAddition])]
      rintro ⟨m, -, inAfter', same, x, new', duplicate, path⟩
      -- a file is the source of one module, and in it a path and a kind lead to one node
      obtain rfl : moduleName = m := fileOf_injective inAfter inAfter' same
      have isField := isField_of_duplicate duplicate
      have keys : x.key = n.key :=
        (Node.key_eq_iff_path_eq (isField.trans field.symm) (by simp [isField])).mpr path
      obtain rfl := eq_of_mem_of_key_eq (List.mem_filter.mp new).1 (List.mem_filter.mp new').1 keys
      have both := expected.symm.trans duplicate
      cases both
  · intro group deep
    have expected := own (.inr ⟨group, deep⟩)
    have isAdded : addedKind? n = some .groupAdded := by
      cases n <;> cases group
      rfl
    rw [isAdded] at expected
    rw [entries]
    exact mem_answeredChanges inBefore inAfter new expected

/-- What another schema file of the project declares is reported as a duplicate, also where that file
belongs to the same module. -/
theorem mem_entries_of_held (run : (compareTrees fs presence settings before after).outcome = .ok report)
    (wanted : .system ∈ settings.scan.reportTypes)
    (crossFile : settings.analysis.duplicateStrategy = .crossFile)
    (inBefore : moduleName ∈ (readBelow fs settings.scan before .system).modules)
    (inAfter : moduleName ∈ (readBelow fs settings.scan after .system).modules)
    (new : n ∈ missingNodes (readBelow fs settings.scan after .system)
      (readBelow fs settings.scan before .system) moduleName)
    (field : n.kind = .configField)
    (asked : IsAsked settings.analysis.formRules
      ((readBelow fs settings.scan after .system).fileOf moduleName) n)
    {address : Address} (spelt : n.address? = some address)
    (held : settings.analysis.search.HeldElsewhere fs
      ((readBelow fs settings.scan after .system).fileOf moduleName) address) :
    (systemDomain,
      ⟨.duplicateFieldAdded, (readBelow fs settings.scan after .system).fileOf moduleName, n.path⟩) ∈
        report.entries := by
  obtain ⟨answers, entries, given⟩ := exists_answers run wanted crossFile
  obtain ⟨-, duplicate⟩ := Search.verdict_cases spelt (given moduleName inBefore inAfter n new asked)
  have isDuplicate : judgedKind? n .duplicate = some .duplicateFieldAdded := by
    cases n <;> cases field
    rfl
  rw [entries]
  refine mem_answeredChanges inBefore inAfter new ?_
  rw [expectedAddedKind?_of_asked asked, duplicate.mpr held]
  exact isDuplicate

end Trees

/-! ## Projects with one module -/

def bareForm : Xml.Element := .mk "virtualType" [("name", "A")] "" "" []

def projectTree (forms : List (String × Entry)) : Entry :=
  .directory [("SECURITY.md", .file []), ("app", .directory [("code", .directory
    [("Acme", .directory [("Shop", .directory [("etc", .directory forms)])])])])]

def projects : FileSystem where
  root := .directory
    [("bare", projectTree [("system.xml", .file typeBytes)]),
      ("one", projectTree [("system.xml", .file formBytes)]),
      ("two", projectTree
        [("system.xml", .file formBytes), ("adminhtml", .directory [("system.xml", .file typeBytes)])])]
  workingDirectory := []

/-- The projects, each with the places of the forms of its module. -/
inductive IsProject : String → List (Location × Xml.Element) → Prop
  | bare : IsProject "/bare" [(["system.xml"], bareForm)]
  | one : IsProject "/one" [(["system.xml"], shopForm)]
  | two : IsProject "/two" [(["system.xml"], shopForm), (["adminhtml", "system.xml"], bareForm)]

/-- The forms of the projects, each with its place. -/
inductive IsForm : String → Location → Xml.Element → Prop
  | bare : IsForm "/bare" ["system.xml"] bareForm
  | one : IsForm "/one" ["system.xml"] shopForm
  | first : IsForm "/two" ["system.xml"] shopForm
  | last : IsForm "/two" ["adminhtml", "system.xml"] bareForm

def searchSettings : Settings :=
  { Settings.initial with analysis := { AnalysisSettings.initial with duplicateStrategy := .crossFile } }

def etcFile (root : String) (location : Location) : Path :=
  (Path.ofText root).below (["app", "code", "Acme", "Shop", "etc"] ++ location)

/-- The field of the form. -/
def ownField : Node := .configField ⟨"f", "s/g", none, none⟩

def projectRegistry (root : String) (forms : List (Location × Xml.Element)) : Registry :=
  forms.foldl (fun r e => (formNodes e.2).foldl (take "Acme_Shop")
    (r.register "Acme_Shop" (etcFile root e.1).text)) (.empty (some "system"))

section Projects

variable {root : String} {forms : List (Location × Xml.Element)}

theorem isForm_of_project (isProject : IsProject root forms) {e : Location × Xml.Element}
    (member : e ∈ forms) : IsForm root e.1 e.2 := by
  cases isProject <;> simp only [List.mem_cons, List.not_mem_nil, or_false] at member
  · exact member ▸ .bare
  · exact member ▸ .one
  · rcases member with rfl | rfl
    · exact .first
    · exact .last

theorem documentIn_form {location : Location} {form : Xml.Element} (isForm : IsForm root location form) :
    documentIn? projects .system "Acme_Shop" (etcFile root location) = some form := by
  have place : (etcFile root location).name = "system.xml" ∧
      moduleOfFile? (etcFile root location).text = some "Acme_Shop" := by
    cases isForm <;> decide +kernel
  have opened : ∃ bytes, projects.read (etcFile root location).text = .ok bytes ∧
      Xml.ofBytes bytes = .ok form := by
    cases isForm with
    | bare => exact ⟨typeBytes, by cbv, ofBytes_typeBytes⟩
    | one => exact ⟨formBytes, by cbv, ofBytes_formBytes⟩
    | first => exact ⟨formBytes, by cbv, ofBytes_formBytes⟩
    | last => exact ⟨typeBytes, by cbv, ofBytes_typeBytes⟩
  exact documentIn?_eq_some_iff.mpr ⟨place.1, place.2, readDocument_eq_ok_iff.mpr opened⟩

theorem filesBelow_project (isProject : IsProject root forms) :
    projects.filesBelow searchSettings.scan.excludedDirs (.ofText root) =
      [(Path.ofText root).below ["SECURITY.md"]] ++ forms.map fun e => etcFile root e.1 := by
  cases isProject <;> cbv

theorem name_marker (isProject : IsProject root forms) :
    ((Path.ofText root).below ["SECURITY.md"]).name = "SECURITY.md" := by
  cases isProject <;> decide +kernel

theorem holds_project (isProject : IsProject root forms) :
    Holds projects searchSettings.scan (.ofText root) .system "Acme_Shop"
      (forms.map fun e => (etcFile root e.1, e.2)) where
  directory := by cases isProject <;> cbv
  listed := by
    refine ⟨[(Path.ofText root).below ["SECURITY.md"]], ?_, List.forall_mem_singleton.mpr ?_⟩
    · rw [filesBelow_project isProject, List.map_map]
      rfl
    · rw [name_marker isProject]
      decide
  read := List.forall_mem_map.mpr fun _ member => documentIn_form (isForm_of_project isProject member)

theorem readBelow_project (isProject : IsProject root forms) :
    readBelow projects searchSettings.scan (.ofText root) .system = projectRegistry root forms := by
  rw [readBelow, (holds_project isProject).gathered_eq, List.foldl_map]
  rfl

theorem modules_project (isProject : IsProject root forms) :
    (readBelow projects searchSettings.scan (.ofText root) .system).modules = ["Acme_Shop"] := by
  rw [readBelow_project isProject]
  cases isProject <;> decide +kernel

theorem mem_modules_project (isProject : IsProject root forms) :
    "Acme_Shop" ∈ (readBelow projects searchSettings.scan (.ofText root) .system).modules := by
  rw [modules_project isProject]
  exact List.mem_cons_self

theorem slashFree_project (isProject : IsProject root forms) :
    SlashFreeForms projects (projects.filesBelow searchSettings.scan.excludedDirs (.ofText root)) := by
  refine (holds_project isProject).slashFree (List.forall_mem_map.mpr ?_)
  unfold SlashFree
  cases isProject <;> decide +kernel

/-- The source file of the module of a project, and the search in the project. -/
structure IsSearched (root : String) (forms : List (Location × Xml.Element)) (own : Path) : Prop where
  source : (projectRegistry root forms).fileOf "Acme_Shop" = own.text
  marked : projectRoot? projects own.text searchSettings.analysis.search.marker = .ok (some (.ofText root))
  resolved : projects.resolve (.ofText own.text) = .ok own
  listed : searchSettings.analysis.search.schemaFiles projects (.ofText root) =
    .ok (forms.map fun e => etcFile root e.1)

theorem isSearched_one : IsSearched "/one" [(["system.xml"], shopForm)] (etcFile "/one" ["system.xml"]) where
  source := by decide +kernel
  marked := by cbv
  resolved := by cbv
  listed := by cbv

theorem isSearched_two :
    IsSearched "/two" [(["system.xml"], shopForm), (["adminhtml", "system.xml"], bareForm)]
      (etcFile "/two" ["adminhtml", "system.xml"]) where
  source := by decide +kernel
  marked := by cbv
  resolved := by cbv
  listed := by cbv

theorem exists_report (isProject : IsProject root forms) {own : Path} (searched : IsSearched root forms own) :
    ∃ report, (compareTrees projects (.ofNames []) searchSettings (.ofText "/bare") (.ofText root)).outcome =
      .ok report := by
  obtain ⟨as, scanBefore⟩ := (holds_project .bare).scanTree
  obtain ⟨bs, scanAfter⟩ := (holds_project isProject).scanTree
  refine compareTrees_ends (fun _ => rfl) scanBefore scanAfter fun t _ => ?_
  cases t with
  | di =>
    exact (VirtualTypeComparison.compareVirtualTypes_reports _ _ (sourced_readBelow projects _ _ .di)
      (sourced_readBelow projects _ _ .di)).outcome
  | system =>
    have answering : ∀ m ∈ (readBelow projects searchSettings.scan (.ofText "/bare") .system).modules,
        m ∈ (readBelow projects searchSettings.scan (.ofText root) .system).modules →
          Answering (Detector.ask projects) (Searching searchSettings.analysis.search projects)
            searchSettings.analysis.formRules
            (readBelow projects searchSettings.scan (.ofText "/bare") .system)
            (readBelow projects searchSettings.scan (.ofText root) .system) m := by
      intro m _ inAfter n _ _ d searching
      rw [modules_project isProject, List.mem_singleton] at inAfter
      subst inAfter
      rw [readBelow_project isProject, (searching_ask searching _).1, searched.source]
      have others := Search.others_eq_ok_iff.mpr ⟨_, _, searched.resolved, searched.listed, rfl⟩
      refine Search.exists_verdict searched.marked others fun file member => ?_
      obtain ⟨e, inside, rfl⟩ := List.mem_map.mp (List.mem_filter.mp member).1
      obtain ⟨-, -, opened⟩ := documentIn?_eq_some_iff.mp (documentIn_form (isForm_of_project isProject inside))
      exact ⟨_, documentOf_eq_some_iff.mpr opened⟩
    have starts : Searching searchSettings.analysis.search projects searchSettings.analysis.detector :=
      ⟨_, rfl, Search.remembers_empty _ _⟩
    obtain ⟨d, ends, -⟩ := compareForms_ends (Searching searchSettings.analysis.search projects)
      (fun d q searching => (searching_ask searching q).2) (sourced_readBelow projects _ _ .system)
      (sourced_readBelow projects _ _ .system) starts answering
    exact Trail.outcome_bind_of_ok _ ends

theorem ownField_new (isProject : IsProject root forms) (other : root ≠ "/bare") :
    ownField ∈ missingNodes (readBelow projects searchSettings.scan (.ofText root) .system)
      (readBelow projects searchSettings.scan (.ofText "/bare") .system) "Acme_Shop" := by
  rw [readBelow_project .bare, readBelow_project isProject]
  cases isProject with
  | bare => exact absurd rfl other
  | one => decide +kernel
  | two => decide +kernel

end Projects

theorem path_ownField : ownField.path = "s/g/f" := by decide +kernel

theorem compareTrees_reportsOwn_one :
    ∃ report,
      (compareTrees projects (.ofNames []) searchSettings (.ofText "/bare") (.ofText "/one")).outcome =
        .ok report ∧
      searchSettings.analysis.duplicateStrategy = .crossFile ∧
      SlashFreeForms projects (projects.filesBelow searchSettings.scan.excludedDirs (.ofText "/one")) ∧
      ownField ∈ missingNodes (readBelow projects searchSettings.scan (.ofText "/one") .system)
        (readBelow projects searchSettings.scan (.ofText "/bare") .system) "Acme_Shop" ∧
      searchSettings.analysis.search.OnlyDeclaredBy projects "/one/app/code/Acme/Shop/etc/system.xml"
        ownField ∧
      (systemDomain, ⟨.fieldAdded, "/one/app/code/Acme/Shop/etc/system.xml", "s/g/f"⟩) ∈ report.entries ∧
      (systemDomain, ⟨.duplicateFieldAdded, "/one/app/code/Acme/Shop/etc/system.xml", "s/g/f"⟩) ∉
        report.entries := by
  obtain ⟨report, run⟩ := exists_report .one isSearched_one
  have after := readBelow_project .one
  have wanted : .system ∈ searchSettings.scan.reportTypes := by decide
  have new := ownField_new .one (by decide)
  have source : (readBelow projects searchSettings.scan (.ofText "/one") .system).fileOf "Acme_Shop" =
      "/one/app/code/Acme/Shop/etc/system.xml" := by
    rw [after]
    decide +kernel
  have only : searchSettings.analysis.search.OnlyDeclaredBy projects
      ((readBelow projects searchSettings.scan (.ofText "/one") .system).fileOf "Acme_Shop") ownField := by
    rw [after, isSearched_one.source]
    intro root own files marked resolved listed file member document read declares
    rw [isSearched_one.marked] at marked
    cases marked
    rw [isSearched_one.resolved] at resolved
    cases resolved
    rw [isSearched_one.listed] at listed
    cases listed
    exact List.mem_singleton.mp member
  have reported := (compareTrees_reportsOwn run wanted rfl (slashFree_project .one) (mem_modules_project .bare)
    (mem_modules_project .one) new only).1 rfl
  rw [source] at only reported
  rw [path_ownField] at reported
  exact ⟨report, run, rfl, slashFree_project .one, new, only, reported.1, reported.2⟩

theorem declares_ownField_iff :
    ∀ file ∈ projects.filesBelow searchSettings.scan.excludedDirs (.ofText "/two"),
      ownField ∈ declaredIn projects .system "Acme_Shop" file ↔
        file = .ofText "/two/app/code/Acme/Shop/etc/system.xml" := by
  have declaredFirst : ownField ∈ declaredIn projects .system "Acme_Shop" (etcFile "/two" ["system.xml"]) := by
    rw [declaredIn, documentIn_form .first]
    decide +kernel
  have notLast : ownField ∉
      declaredIn projects .system "Acme_Shop" (etcFile "/two" ["adminhtml", "system.xml"]) := by
    rw [declaredIn, documentIn_form .last]
    decide +kernel
  have notMarker : ownField ∉
      declaredIn projects .system "Acme_Shop" ((Path.ofText "/two").below ["SECURITY.md"]) := by
    intro declared
    obtain ⟨_, read, -⟩ := mem_declaredIn_iff.mp declared
    have named := (documentIn?_eq_some_iff.mp read).1
    rw [name_marker .two] at named
    exact absurd named (by decide)
  have first : etcFile "/two" ["system.xml"] = .ofText "/two/app/code/Acme/Shop/etc/system.xml" := by
    decide +kernel
  rw [filesBelow_project .two, ← first]
  simp only [List.map_cons, List.map_nil, List.cons_append, List.nil_append, List.forall_mem_cons,
    declaredFirst, notLast, notMarker, false_iff]
  decide +kernel

/-- The form with the field is the only one of the project that declares it, but another form is the
source file of the module. -/
theorem compareTrees_ownDuplicate :
    ∃ report,
      (compareTrees projects (.ofNames []) searchSettings (.ofText "/bare") (.ofText "/two")).outcome =
        .ok report ∧
      (∀ file ∈ projects.filesBelow searchSettings.scan.excludedDirs (.ofText "/two"),
        ownField ∈ declaredIn projects .system "Acme_Shop" file ↔
          file = .ofText "/two/app/code/Acme/Shop/etc/system.xml") ∧
      ownField ∈ missingNodes (readBelow projects searchSettings.scan (.ofText "/two") .system)
        (readBelow projects searchSettings.scan (.ofText "/bare") .system) "Acme_Shop" ∧
      (systemDomain, ⟨.duplicateFieldAdded, "/two/app/code/Acme/Shop/etc/adminhtml/system.xml", "s/g/f"⟩) ∈
        report.entries := by
  obtain ⟨report, run⟩ := exists_report .two isSearched_two
  have after := readBelow_project .two
  have new := ownField_new .two (by decide)
  refine ⟨report, run, declares_ownField_iff, new, ?_⟩
  have spelt : ownField.address? = some (formAddress "s" ["g"] .configField "f") := by decide +kernel
  have held : searchSettings.analysis.search.HeldElsewhere projects
      ((readBelow projects searchSettings.scan (.ofText "/two") .system).fileOf "Acme_Shop")
      (formAddress "s" ["g"] .configField "f") := by
    obtain ⟨-, -, opened⟩ := documentIn?_eq_some_iff.mp (documentIn_form .first)
    rw [after, isSearched_two.source]
    exact ⟨_, _, _, isSearched_two.marked, isSearched_two.resolved, isSearched_two.listed,
      etcFile "/two" ["system.xml"], by simp, by decide +kernel, shopForm, opened, by decide +kernel⟩
  have source : (readBelow projects searchSettings.scan (.ofText "/two") .system).fileOf "Acme_Shop" =
      "/two/app/code/Acme/Shop/etc/adminhtml/system.xml" := by
    rw [after]
    decide +kernel
  have asked : IsAsked searchSettings.analysis.formRules
      ((readBelow projects searchSettings.scan (.ofText "/two") .system).fileOf "Acme_Shop") ownField := by
    rw [source]
    exact ⟨by decide, by decide +kernel, by simp [spelt]⟩
  have reported := mem_entries_of_held run (by decide) rfl (mem_modules_project .bare)
    (mem_modules_project .two) new rfl asked spelt held
  rw [source, path_ownField] at reported
  exact reported

end ReleaseImpact
