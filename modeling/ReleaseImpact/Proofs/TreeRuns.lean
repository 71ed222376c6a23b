import ReleaseImpact.Proofs.SiblingWarnings

/-!
How the comparison of two directories ends, and what it makes of files that cannot be read. Main
statements:

- `compareRegistriesBy_ends_iff`: registries are compared to the end just if each kind of file is.
- `alone_forms_ends_iff`: forms are compared to the end just if the search halts at no question.
- `compareTrees_ends_iff`: what keeps the comparison of two directories from a report.
- `TreeComparison.passesOver_of_report`: a report tells of files that cannot be read, and of nothing in them.
-/

namespace ReleaseImpact

open Trail Survey FormComparison VirtualTypeComparison RegistryComparison

/-! ## Registries -/

namespace RegistryComparison

variable {compare : Registry → Registry → ReportType → Trail Unit} {after : OrderedMap String Registry}

theorem compareRegistriesBy_ends_iff {entries : List (String × Registry)} {found : Nat} :
    (∃ n, (compareRegistriesBy compare found entries after).outcome = .ok n) ↔
      ∀ e ∈ entries, (part compare after e).outcome = .ok () := by
  rcases exists_first_fails compare after entries with ends | ⟨first, e, rest, f, rfl, ends, fails⟩
  · exact iff_of_true ⟨_, (reports_compareRegistriesBy ends found).outcome⟩ ends
  · obtain ⟨outcome, -⟩ := compareRegistriesBy_of_fails ends fails rest found
    refine iff_of_false ?_ fun all => ?_
    · rw [outcome]
      exact nofun
    · exact absurd ((all e (by simp)).symm.trans fails) nofun

theorem infix_compareRegistriesBy {entries : List (String × Registry)}
    (ends : ∀ e ∈ entries, (part compare after e).outcome = .ok ()) (found : Nat) {e : String × Registry}
    (member : e ∈ entries) :
    (part compare after e).steps <:+: (compareRegistriesBy compare found entries after).steps := by
  induction entries generalizing found with
  | nil => cases member
  | cons first rest ih =>
    obtain ⟨here, later⟩ := List.forall_mem_cons.mp ends
    have whole : (compareRegistriesBy compare found (first :: rest) after).steps =
        (compareNamedBy compare after found first).steps ++ _ :=
      steps_bind_of_ok _ (compareNamedBy_reports here found).outcome
    rw [whole]
    rcases List.mem_cons.mp member with rfl | member
    · obtain ⟨last, spelt, -⟩ := exists_compareNamedBy_eq compare after found e
      rw [spelt, steps_bind_of_ok _ here, List.append_assoc]
      exact (List.prefix_append _ _).isInfix
    · exact (ih later _ member).trans (List.suffix_append _ _).isInfix

variable {fs : FileSystem} {p : Presence} {settings : AnalysisSettings} {registry registry' : Registry}

theorem mem_asked_iff {rules : FormRules} {q : Inquiry} :
    q ∈ asked rules registry registry' ↔
      ∃ m ∈ registry.modules, m ∈ registry'.modules ∧ ∃ n ∈ missingNodes registry' registry m,
        IsAsked rules (registry'.fileOf m) n ∧ q = ⟨n, registry'.fileOf m, registry.bucket m⟩ := by
  simp only [asked, addedForms, newForms, inquiry, List.mem_map, List.mem_filter, List.mem_flatMap,
    decide_eq_true_eq]
  constructor
  · rintro ⟨_, ⟨⟨m, ⟨inBefore, inAfter⟩, n, ⟨new, -⟩, rfl⟩, question⟩, rfl⟩
    exact ⟨m, inBefore, inAfter, n, new, question, rfl⟩
  · rintro ⟨m, inBefore, inAfter, n, new, question, rfl⟩
    exact ⟨(m, n), ⟨⟨m, ⟨inBefore, inAfter⟩, n, ⟨new, question.1⟩, rfl⟩, question⟩, rfl⟩

section Alone

variable (sourced : registry.Sourced) (sourced' : registry'.Sourced)
include sourced sourced'

theorem alone_forms_ends_iff :
    (alone fs p settings registry registry' .system).outcome = .ok () ↔
      (settings.duplicateStrategy ≠ .structural →
        ∀ q ∈ asked settings.formRules registry registry', ¬settings.search.Halted fs q) := by
  obtain ⟨verdict, judges, told⟩ := settings.exists_judges fs
  have ends : (alone fs p settings registry registry' .system).outcome = .ok () ↔
      ∃ last, (compareForms (Detector.ask fs) settings.formRules settings.detector registry
        registry').outcome = .ok last := by
    rw [alone_system, outcome_compareForms]
    cases (compareForms (Detector.ask fs) settings.formRules settings.detector registry
      registry').outcome <;> simp [Except.map]
  have answered (q : Inquiry) : (∃ v, verdict q = .ok v) ↔
      (settings.duplicateStrategy ≠ .structural → ¬settings.search.Halted fs q) := by
    rw [told, ← Search.verdict_ends_iff]
    exact or_iff_not_imp_left
  rw [ends, ends_iff_told judges sourced sourced']
  constructor
  · intro told strategy q member
    obtain ⟨m, inBefore, inAfter, n, new, question, rfl⟩ := mem_asked_iff.mp member
    exact (answered _).mp (told m inBefore inAfter n new question) strategy
  · intro clear m inBefore inAfter n new question
    exact (answered _).mpr fun strategy =>
      clear strategy _ (mem_asked_iff.mpr ⟨m, inBefore, inAfter, n, new, question, rfl⟩)

theorem alone_types_ends_iff :
    (alone fs p settings registry registry' .di).outcome = .ok () ↔
      ∀ path ∈ classFiles settings.classFileExtension registry registry', p.fault? path = none := by
  have fails : _ ↔ Refused fs p settings registry registry' .di := alone_fails_iff sourced sourced' nofun
  simp only [Refused] at fails
  have ends : (alone fs p settings registry registry' .di).outcome = .ok () ↔
      ¬∃ f, (alone fs p settings registry registry' .di).outcome = .error f := by
    cases (alone fs p settings registry registry' .di).outcome <;> simp
  rw [ends, fails]
  simp

end Alone

end RegistryComparison

/-! ## Trees -/

namespace TreeComparison

section Trees

variable (fs : FileSystem) (presence : Presence) (settings : Settings) (before after : Path)

def started : Event :=
  ⟨.info, logger, "compare_started", [("before", .text before.text), ("after", .text after.text)]⟩

def finished (report : Report) : Event :=
  ⟨.info, logger, "compare_finished",
    [("operations", .nat report.length), ("level", levelValue (report.level? none))]⟩

/-- What is read below a directory, by the names of the kinds of file. -/
def snapshot (root : Path) : OrderedMap String Registry where
  entries := (wantedTypes settings.scan).map fun t => (t.name, readBelow fs settings.scan root t)
  nodup_keys := by
    rw [List.map_map]
    exact (distinct_types settings.scan).map fun _ _ same => ReportType.name_injective same

/-- The run over the registries of both trees. -/
def registryRun : Trail Nat :=
  compareRegistriesBy (alone fs presence settings.analysis) 0 (snapshot fs settings before).entries
    (snapshot fs settings after)

/-- The class files that a comparison of trees asks for. -/
def probed : List String :=
  if .di ∈ settings.scan.reportTypes then
    classFiles settings.analysis.classFileExtension (readBelow fs settings.scan before .di)
      (readBelow fs settings.scan after .di)
  else []

/-- The questions to the search in a comparison of trees. -/
def searched : List Inquiry :=
  if .system ∈ settings.scan.reportTypes ∧ settings.analysis.duplicateStrategy ≠ .structural then
    asked settings.analysis.formRules (readBelow fs settings.scan before .system)
      (readBelow fs settings.scan after .system)
  else []

/-- What keeps a comparison of two directories from a report: a file that is scanned stops the reader, a
look-up of a class file is refused, or the search halts. -/
inductive Halts : Prop
  | scan {root file : Path} (either : root = before ∨ root = after)
      (listed : file ∈ fs.filesBelow settings.scan.excludedDirs root)
      (read : IsRead (wantedTypes settings.scan) file) (stops : StopsReader fs file)
  | classFile {path : String} (asked : path ∈ probed fs settings before after)
      (refused : presence.fault? path ≠ none)
  | search {q : Inquiry} (asked : q ∈ searched fs settings before after)
      (halted : settings.analysis.search.Halted fs q)

variable {fs presence settings before after}

theorem get?_snapshot {t : ReportType} (wanted : t ∈ wantedTypes settings.scan) (root : Path) :
    (snapshot fs settings root).get? t.name = some (readBelow fs settings.scan root t) :=
  OrderedMap.get?_eq_some_iff.mpr (List.mem_map_of_mem wanted)

theorem part_snapshot {t : ReportType} (wanted : t ∈ wantedTypes settings.scan) :
    part (alone fs presence settings.analysis) (snapshot fs settings after)
        (t.name, readBelow fs settings.scan before t) =
      alone fs presence settings.analysis (readBelow fs settings.scan before t)
        (readBelow fs settings.scan after t) t :=
  part_of_known (get?_snapshot wanted after) (ReportType.ofName?_name t)

theorem registryRun_ends_iff :
    (∃ n, (registryRun fs presence settings before after).outcome = .ok n) ↔
      ∀ t ∈ wantedTypes settings.scan,
        (alone fs presence settings.analysis (readBelow fs settings.scan before t)
          (readBelow fs settings.scan after t) t).outcome = .ok () := by
  rw [registryRun, compareRegistriesBy_ends_iff]
  simp only [snapshot, List.forall_mem_map]
  exact forall₂_congr fun t wanted => by rw [← part_snapshot wanted]; rfl

theorem guard_compareRegistries {as bs : List (ReportType × Registry)}
    (scanBefore : (scanTree fs settings.scan before).outcome = .ok as)
    (scanAfter : (scanTree fs settings.scan after).outcome = .ok bs) :
    presence.guard (compareRegistries fs presence.isFile settings.analysis 0 (named as) (named bs)) =
      registryRun fs presence settings before after := by
  have run : runInto fs presence settings.analysis (snapshot fs settings after)
      (snapshot fs settings before).entries .empty = registryRun fs presence settings before after :=
    runInto_eq _ .empty
  rw [named_scan scanBefore, named_scan scanAfter]
  exact run

theorem ends_iff_parts :
    (∃ report, (compareTrees fs presence settings before after).outcome = .ok report) ↔
      (∃ as, (scanTree fs settings.scan before).outcome = .ok as) ∧
        (∃ bs, (scanTree fs settings.scan after).outcome = .ok bs) ∧
          ∃ n, (registryRun fs presence settings before after).outcome = .ok n := by
  show (∃ report, (body fs presence settings before after).outcome = .ok report) ↔ _
  unfold body
  rw [outcome_bind_of_ok _ rfl]
  constructor
  · rintro ⟨report, ends⟩
    rw [outcome_bind] at ends
    obtain ⟨as, scanBefore, ends⟩ := bind_eq_ok_iff.1 ends
    rw [outcome_bind] at ends
    obtain ⟨bs, scanAfter, ends⟩ := bind_eq_ok_iff.1 ends
    rw [guard_compareRegistries scanBefore scanAfter, outcome_bind] at ends
    obtain ⟨n, run, -⟩ := bind_eq_ok_iff.1 ends
    exact ⟨⟨as, scanBefore⟩, ⟨bs, scanAfter⟩, n, run⟩
  · rintro ⟨⟨as, scanBefore⟩, ⟨bs, scanAfter⟩, n, run⟩
    rw [outcome_bind_of_ok _ scanBefore, outcome_bind_of_ok _ scanAfter,
      guard_compareRegistries scanBefore scanAfter, outcome_bind_of_ok _ run]
    exact ⟨_, rfl⟩

theorem steps_of_report {report : Report}
    (ends : (compareTrees fs presence settings before after).outcome = .ok report) :
    (compareTrees fs presence settings before after).steps =
      [.mark true, .event (started before after)] ++
        ((scanTree fs settings.scan before).steps ++ (scanTree fs settings.scan after).steps ++
          (registryRun fs presence settings before after).steps) ++
        [.event (finished ⟨(registryRun fs presence settings before after).changes⟩), .mark false] := by
  obtain ⟨⟨as, scanBefore⟩, ⟨bs, scanAfter⟩, n, run⟩ := ends_iff_parts.mp ⟨report, ends⟩
  rw [compareTrees_marked, body, steps_bind_of_ok _ rfl, steps_bind_of_ok _ scanBefore,
    steps_bind_of_ok _ scanAfter, guard_compareRegistries scanBefore scanAfter, steps_bind_of_ok _ run]
  show Step.mark true :: (.event (started before after) :: (_ ++ (_ ++ (_ ++ [.event (finished _)]))) ++ _) = _
  simp only [List.append_assoc, List.cons_append, List.nil_append]

/-- A comparison of two directories ends with a report just if nothing halts it. -/
theorem ends_iff_not_halts (directoryBefore : fs.hasDirectory before.text = .ok true)
    (directoryAfter : fs.hasDirectory after.text = .ok true) :
    (∃ report, (compareTrees fs presence settings before after).outcome = .ok report) ↔
      ¬Halts fs presence settings before after := by
  have sourced (root : Path) (type : ReportType) : (readBelow fs settings.scan root type).Sourced :=
    sourced_readBelow fs settings.scan root type
  have listed (t : ReportType) : t ∈ wantedTypes settings.scan ↔ t ∈ settings.scan.reportTypes := by
    cases t <;> simp [wantedTypes, ReportType.all]
  rw [ends_iff_parts, scanTree_ends_iff directoryBefore, scanTree_ends_iff directoryAfter,
    registryRun_ends_iff]
  -- Each way to halt belongs to one part of the run: a scan, the types or the forms.
  constructor
  · rintro ⟨soundBefore, soundAfter, ends⟩ halts
    cases halts with
    | scan either listed read stops =>
      rcases either with rfl | rfl
      · exact soundBefore _ listed read stops
      · exact soundAfter _ listed read stops
    | classFile asked refused =>
      unfold probed at asked
      split at asked
      · next wanted =>
        have clear := (alone_types_ends_iff (sourced before .di) (sourced after .di)).mp
          (ends .di ((listed .di).mpr wanted))
        exact refused (clear _ asked)
      · cases asked
    | search asked halted =>
      unfold searched at asked
      split at asked
      · next wanted =>
        have clear := (alone_forms_ends_iff (sourced before .system) (sourced after .system)).mp
          (ends .system ((listed .system).mpr wanted.1))
        exact clear wanted.2 _ asked halted
      · cases asked
  · intro clear
    refine ⟨fun file listed read stops => clear (.scan (.inl rfl) listed read stops),
      fun file listed read stops => clear (.scan (.inr rfl) listed read stops), fun t wanted => ?_⟩
    rw [listed] at wanted
    cases t with
    | di =>
      refine (alone_types_ends_iff (sourced before .di) (sourced after .di)).mpr fun path asked => ?_
      by_contra refused
      exact clear (.classFile (by rwa [probed, if_pos wanted]) refused)
    | system =>
      refine (alone_forms_ends_iff (sourced before .system) (sourced after .system)).mpr ?_
      intro strategy q asked halted
      exact clear (.search (by rwa [searched, if_pos ⟨wanted, strategy⟩]) halted)

/-! ## Files that cannot be read -/

theorem gathered_filter (type : ReportType) (files : List Path) :
    gathered fs type (files.filter (Search.isSound fs)) = gathered fs type files := by
  unfold gathered
  generalize Registry.empty (some type.name) = r
  induction files generalizing r with
  | nil => rfl
  | cons file rest ih =>
    rw [List.filter_cons]
    split
    · exact ih _
    · next unsound =>
      obtain ⟨reason, read⟩ := Search.isSound_eq_false_iff.mp (Bool.not_eq_true _ ▸ unsound)
      have unread (moduleName : String) : documentIn? fs type moduleName file = none := by
        simp only [documentIn?, read, ite_self]
      rw [List.foldl_cons, gather_of_unread unread]
      exact ih r

theorem infix_compareForms {report : Report}
    (ends : (compareTrees fs presence settings before after).outcome = .ok report)
    (wanted : .system ∈ wantedTypes settings.scan) :
    (∃ last, (compareForms (Detector.ask fs) settings.analysis.formRules settings.analysis.detector
        (readBelow fs settings.scan before .system) (readBelow fs settings.scan after .system)).outcome =
          .ok last) ∧
      (compareForms (Detector.ask fs) settings.analysis.formRules settings.analysis.detector
        (readBelow fs settings.scan before .system) (readBelow fs settings.scan after .system)).steps <:+:
          (compareTrees fs presence settings before after).steps := by
  obtain ⟨-, -, run⟩ := ends_iff_parts.mp ⟨report, ends⟩
  have parts := compareRegistriesBy_ends_iff.mp run
  have member : (ReportType.system.name, readBelow fs settings.scan before .system) ∈
      (snapshot fs settings before).entries := List.mem_map_of_mem wanted
  have part := parts _ member
  have inside := infix_compareRegistriesBy parts 0 member
  rw [part_snapshot wanted, alone_system] at part inside
  obtain ⟨ended, -⟩ := compareType_system part
  obtain ⟨last, ended⟩ := ended
  have steps : (compareType fs presence.isFile settings.analysis (readBelow fs settings.scan before .system)
      (readBelow fs settings.scan after .system) .system).steps =
        (compareForms (Detector.ask fs) settings.analysis.formRules settings.analysis.detector
          (readBelow fs settings.scan before .system)
          (readBelow fs settings.scan after .system)).steps ++ [] := steps_bind_of_ok _ ended
  rw [steps, List.append_nil] at inside
  refine ⟨⟨last, ended⟩, inside.trans ?_⟩
  rw [steps_of_report ends]
  exact (List.suffix_append _ _).isInfix.trans (List.infix_append _ _ _)

variable (fs presence settings before after)

/-- Files that cannot be read leave nothing in the registries and do not count in a search, and the log is
told of each that is scanned, once for each kind, and of each that a search comes to, once. -/
structure PassesOver : Prop where
  scanned : ∀ root, root = before ∨ root = after →
    (scanTree fs settings.scan root).steps <:+: (compareTrees fs presence settings before after).steps ∧
      (scanTree fs settings.scan root).steps.filterMap skip? =
        (fs.filesBelow settings.scan.excludedDirs root).flatMap (warned fs (wantedTypes settings.scan))
  told : ∀ file reason, moduleOfFile? file.text ≠ none → readDocument fs file.text = .ok (.error reason) →
    warned fs (wantedTypes settings.scan) file =
      (kindsOf (wantedTypes settings.scan) file).map fun _ => unreadable file reason
  registries : ∀ root type, readBelow fs settings.scan root type =
    gathered fs type ((fs.filesBelow settings.scan.excludedDirs root).filter (Search.isSound fs))
  searched : .system ∈ settings.scan.reportTypes → settings.analysis.duplicateStrategy ≠ .structural →
    ∃ files : List Path, files.Nodup ∧
      (∀ file, file ∈ files ↔
        ∃ q ∈ searched fs settings before after, file ∈ settings.analysis.search.opened fs q) ∧
      ∃ steps, steps <:+: (compareTrees fs presence settings before after).steps ∧
        steps.filterMap FormComparison.warning? = files.filterMap (Search.warning? fs)
  verdicts : ∀ address files,
    Search.lookUp fs address (files.filter (Search.isSound fs)) = Search.lookUp fs address files

end Trees

section Ended

variable {fs : FileSystem} {presence : Presence} {settings : Settings} {before after : Path}

theorem infix_scanTree {report : Report}
    (ends : (compareTrees fs presence settings before after).outcome = .ok report) {root : Path}
    (either : root = before ∨ root = after) :
    (scanTree fs settings.scan root).steps <:+: (compareTrees fs presence settings before after).steps := by
  rw [steps_of_report ends]
  refine List.IsInfix.trans ?_ (List.infix_append _ _ _)
  rw [List.append_assoc]
  rcases either with rfl | rfl
  · exact (List.prefix_append _ _).isInfix
  · exact List.infix_append' _ _ _

theorem runsOn_detector {settings : AnalysisSettings} (strategy : settings.duplicateStrategy ≠ .structural) :
    settings.detector.RunsOn settings.search .empty := by
  unfold AnalysisSettings.detector
  split
  · next structural => exact absurd structural strategy
  · exact .alone
  · exact .first

theorem passesOver_of_report {report : Report} (clear : ¬Halts fs presence settings before after)
    (ends : (compareTrees fs presence settings before after).outcome = .ok report) :
    PassesOver fs presence settings before after where
  scanned root either := by
    obtain ⟨⟨as, scanBefore⟩, ⟨bs, scanAfter⟩, -⟩ := ends_iff_parts.mp ⟨report, ends⟩
    refine ⟨infix_scanTree ends either, ?_⟩
    rcases either with rfl | rfl
    · exact (scanTree_tells scanBefore).1
    · exact (scanTree_tells scanAfter).1
  told file reason housed read := by
    obtain ⟨moduleName, housed⟩ := Option.ne_none_iff_exists'.mp housed
    have warns : Survey.warning? fs file = some (unreadable file reason) := by
      simp only [Survey.warning?, housed, read]
    exact (warned_of_warning warns _).1
  registries root type := (gathered_filter type _).symm
  searched wanted strategy := by
    have listed : ReportType.system ∈ wantedTypes settings.scan := by
      simpa [wantedTypes, ReportType.all] using wanted
    obtain ⟨⟨last, ended⟩, inside⟩ := infix_compareForms ends listed
    obtain ⟨files, distinct, warned, known⟩ := warned_once (runsOn_detector strategy)
      (sourced_readBelow fs settings.scan before .system) (sourced_readBelow fs settings.scan after .system)
      ended
    have questions : searched fs settings before after = _ := if_pos ⟨wanted, strategy⟩
    refine ⟨files, distinct, fun file => ?_, _, inside, warned⟩
    rw [known, questions, and_iff_left_iff_imp]
    rintro ⟨q, question, opened⟩ stops
    exact clear (.search (questions ▸ question) (.inr ⟨file, opened, stops⟩))
  verdicts _ files := Search.lookUp_filter files

end Ended

end TreeComparison

def asciiBytes (text : String) : List UInt8 := text.toList.map fun c => UInt8.ofNat c.toNat

/-- An empty tree, and one with a file of virtual types. -/
def newShop (bytes : List UInt8) : FileSystem :=
  ⟨.directory [("old", .directory []),
    ("new", .directory [("Shop", .directory [("etc", .directory [("di.xml", .file bytes)])])])], []⟩

theorem filesBelow_newShop :
    (newShop [60]).filesBelow Settings.initial.scan.excludedDirs (.ofText "/old") = [] ∧
      (newShop [60]).filesBelow Settings.initial.scan.excludedDirs (.ofText "/new") =
        [.ofText "/new/Shop/etc/di.xml"] := ⟨by cbv, by cbv⟩

theorem readDocument_newShop :
    readDocument (newShop [60]) (Path.ofText "/new/Shop/etc/di.xml").text =
      .ok (.error "not well-formed") := by
  have opened : (newShop [60]).read (Path.ofText "/new/Shop/etc/di.xml").text = .ok [60] := by cbv
  have malformed : Xml.ofBytes [60] = .error .malformed := by cbv
  simp only [readDocument, opened, malformed]

theorem not_halts_newShop :
    ¬TreeComparison.Halts (newShop [60]) (.ofNames []) .initial (.ofText "/old") (.ofText "/new") := by
  rintro (⟨either, listed, -, stops⟩ | ⟨-, refused⟩ | ⟨asked, -⟩)
  · rcases either with rfl | rfl
    · rw [filesBelow_newShop.1] at listed
      cases listed
    · rw [filesBelow_newShop.2, List.mem_singleton] at listed
      obtain ⟨f, fails⟩ := readDocument_fails_iff.mpr (listed ▸ stops)
      cases readDocument_newShop.symm.trans fails
  · exact refused rfl
  · have none : (readBelow (newShop [60]) Settings.initial.scan (.ofText "/old") .system).modules = [] := by
      rw [readBelow, filesBelow_newShop.1]
      rfl
    rw [TreeComparison.searched, if_pos (by decide)] at asked
    obtain ⟨m, inBefore, -⟩ := mem_asked_iff.mp asked
    rw [none] at inBefore
    cases inBefore

def bogusBytes : List UInt8 := asciiBytes "<?xml version='1.0' encoding='bogus'?><c/>"

theorem ofName_bogus : Xml.Encoding.ofName "bogus" = .error (.unknownEncoding "bogus") := by
  have refused : (match Xml.Encoding.ofName "bogus" with
      | .error fault => decide (fault = .unknownEncoding "bogus")
      | .ok _ => false) = true := by decide +kernel
  cases named : Xml.Encoding.ofName "bogus" with
  | error fault =>
    rw [named] at refused
    rw [of_decide_eq_true refused]
  | ok encoding =>
    rw [named] at refused
    cases refused

end ReleaseImpact
