import ReleaseImpact.Proofs.RegistryRuns
import ReleaseImpact.Proofs.SingleModules
import ReleaseImpact.Proofs.Verdicts

/-!
Comparisons of registries by the settings, for which paths have to be looked up. A look-up may be refused,
and that is the only way in which the comparison of a known kind of file can fail. Main statements:

- `probes_compareVirtualTypes`: the class files that a comparison asks for.
- `every_compareForms`: a comparison of forms asks for none, and reports nothing but changes of forms.
- `AnalysisSettings.exists_judges`: which questions the detector of the settings answers.
- `alone_fails_iff`: when the comparison of one kind of file fails.
- `registries_run_apart`: a run appends what is reported of each kind alone, up to the first that fails.
- `runInto_longMarker`: a marker with too long a name ends the run before the second kind.
-/

namespace ReleaseImpact

open Trail

namespace Trail

variable {α : Type}

theorem every_each {P : Step → Prop} {items : List α} {body : α → Trail Unit}
    (each : ∀ a ∈ items, Every P (body a)) : Every P (Trail.each items body) := by
  rw [← fold_unit body items ()]
  exact every_fold (fun a member _ => each a member) ()

theorem probes_each {items : List α} {body : α → Trail Unit} {asked : α → List String}
    (each : ∀ a ∈ items, (body a).outcome = .ok () ∧ (body a).probes = asked a) :
    (Trail.each items body).probes = items.flatMap asked := by
  induction items with
  | nil => rfl
  | cons a rest ih =>
    obtain ⟨⟨ends, first⟩, later⟩ := List.forall_mem_cons.mp each
    have both := probes_bind (fun _ => Trail.each rest body) ends
    rw [first, ih later] at both
    exact both

end Trail

/-! ## Virtual types -/

namespace VirtualTypeComparison

open Registry

/-- The class files that a comparison asks for: one for each lost virtual type whose name leads to one. -/
def classFiles (extension : String) (before after : Registry) : List String :=
  (lostTypes before after).filterMap fun e =>
    ClassPath.candidate? (after.fileOf e.1) e.2.name extension

theorem probes_compareType (isFile : String → Bool) (extension : String) (after : Registry)
    {moduleName : String} (inAfter : moduleName ∈ after.modules) (fileBefore : String) (v : VirtualType) :
    (compareType isFile extension (after.index Node.virtualType?) moduleName (after.types moduleName)
      fileBefore (after.fileOf moduleName) v).probes =
      if firstOfName? after v.name = none then
        (ClassPath.candidate? (after.fileOf moduleName) v.name extension).toList
      else [] := by
  unfold compareType
  rw [get?_types]
  cases here : (after.typesOf moduleName).find? (·.name = v.name) with
  | some same =>
    have declared : firstOfName? after v.name ≠ none := by
      intro lost
      have named : same.name = v.name := by simpa using List.find?_some here
      exact firstOfName?_eq_none_iff.mp lost moduleName inAfter same (List.mem_of_find?_eq_some here) named
    rw [if_neg declared]
    dsimp only
    split
    · rfl
    · exact probes_reportChanged v same fileBefore
  | none =>
    dsimp only
    rw [firstNamed?_index]
    cases firstOfName? after v.name with
    | some moved =>
      dsimp only
      rw [if_neg (Option.some_ne_none moved), probes_bind _ rfl, probes_reportChanged]
      rfl
    | none =>
      rw [if_pos rfl]
      unfold reportGone
      cases ClassPath.candidate? (after.fileOf moduleName) v.name extension <;> rfl

theorem lostTypes_of_sameIndex {before after : Registry}
    (same : sameIndex (before.index Node.virtualType?) (after.index Node.virtualType?) = true) :
    lostTypes before after = [] := by
  have gone := goneChanges_expected (fun _ => false) "" before after
  rw [expectedTypeChanges_of_sameIndex _ _ same] at gone
  exact List.map_eq_nil_iff.mp gone.symm

theorem probes_compareVirtualTypes (isFile : String → Bool) (extension : String)
    {before after : Registry} (sourcedBefore : before.Sourced) (sourcedAfter : after.Sourced) :
    (compareVirtualTypes isFile extension before after).probes = classFiles extension before after := by
  unfold compareVirtualTypes classFiles
  by_cases same : sameIndex (before.index Node.virtualType?) (after.index Node.virtualType?) = true
  · rw [if_pos same, lostTypes_of_sameIndex same]
    rfl
  · rw [if_neg same, entries_index, each_map, lostTypes, List.filterMap_flatMap, flatMap_filter]
    refine probes_each fun m member => ?_
    refine ⟨(compareModule_reports isFile extension sourcedBefore sourcedAfter member).outcome, ?_⟩
    unfold compareModule
    by_cases common : m ∈ after.modules
    · rw [get?_index common, if_pos (decide_eq_true common)]
      have fileBefore : Trail.ofExcept (before.sourceFile m) = pure (before.fileOf m) :=
        congrArg ofExcept (sourceFile_of_sourced sourcedBefore member)
      have fileAfter : Trail.ofExcept (after.sourceFile m) = pure (after.fileOf m) :=
        congrArg ofExcept (sourceFile_of_sourced sourcedAfter common)
      simp only [fileBefore, fileAfter, pure_bind]
      rw [List.filterMap_map, ← values_types, List.filterMap_filter, List.filterMap_eq_flatMap_toList]
      refine probes_each fun v _ => ⟨(compareType_reports ..).outcome, ?_⟩
      refine (probes_compareType isFile extension after common (before.fileOf m) v).trans ?_
      by_cases lost : firstOfName? after v.name = none <;> simp [lost]
    · have missing : (after.index Node.virtualType?).get? m = none := by
        rw [← keys_index after Node.virtualType?] at common
        exact OrderedMap.lookup_eq_none_iff.mpr common
      rw [missing, if_neg (by simpa using common)]
      rfl

end VirtualTypeComparison

/-! ## Forms -/

namespace FormComparison

/-- A step that asks for no file and reports nothing but changes of forms. -/
def IsOfForms (s : Step) : Prop := s.probe? = none ∧ ∀ c, s.change? = some c → c.1 = systemDomain

variable {δ : Type} {before after : Registry}

theorem isOfForms_event (e : Event) : IsOfForms (.event e) := ⟨rfl, nofun⟩

theorem every_report (c : Change) : Every IsOfForms (report systemDomain c) := by
  refine every_step ⟨rfl, fun c' same => ?_⟩
  cases same
  rfl

theorem every_log (level : Level) (logger message : String) (fields : List (String × Value)) :
    Every IsOfForms (log level logger message fields) := every_step (isOfForms_event _)

theorem every_reportNode (kind? : Kind → Option ChangeKind) (n : Node) (file : String) :
    Every IsOfForms (reportNode kind? n file) := by
  unfold reportNode
  split
  · exact every_pure ()
  · exact every_report _

theorem every_judge (n : Node) (file : String) (v : Verdict) : Every IsOfForms (judge n file v) := by
  unfold judge
  split
  · exact every_log ..
  · split
    · exact every_report _
    · exact every_log ..
  · exact every_reportNode ..

theorem every_compareAdded (ask : δ → Inquiry → Reply δ) (lookUp : Bool) (existing : Nodes) (file : String)
    (d : δ) (n : Node) : Every IsOfForms (compareAdded ask lookUp existing file d n) := by
  unfold compareAdded
  split
  · exact every_pure d
  split
  · exact (every_reportNode ..).bind fun _ => every_pure d
  split
  · exact (every_log ..).bind fun _ => every_pure d
  · refine (every_step ⟨rfl, nofun⟩).bind fun _ => ?_
    refine (every_each fun e _ => every_step (isOfForms_event e)).bind fun _ => ?_
    exact (every_ofExcept _).bind fun v => (every_judge n file v).bind fun _ => every_pure _

theorem every_compareModule (ask : δ → Inquiry → Reply δ) (rules : FormRules) (d : δ)
    (pairing : String × KeyMatch) : Every IsOfForms (compareModule ask rules before after d pairing) := by
  obtain ⟨m, keys⟩ := pairing
  rw [compareModule_eq_parts]
  have lost : Every IsOfForms (reportLost before m keys.removed) := by
    unfold reportLost
    split
    · exact every_pure ()
    · exact (every_ofExcept _).bind fun file => every_each fun n _ => every_reportNode ..
  refine lost.bind fun _ => ?_
  unfold compareGained
  split
  · exact every_pure d
  · exact (every_ofExcept _).bind fun file => every_fold (fun n _ d => every_compareAdded ..) d

theorem every_compareForms (ask : δ → Inquiry → Reply δ) (rules : FormRules) (d : δ)
    (before after : Registry) : Every IsOfForms (compareForms ask rules d before after) := by
  have files (kind : ChangeKind) (r : Registry) (modules : List String) :
      Every IsOfForms (reportFiles kind rules r modules) :=
    every_each fun m _ => (every_ofExcept _).bind fun file => every_report _
  rw [compareForms_eq]
  split
  · exact every_pure d
  · refine (files ..).bind fun _ => (files ..).bind fun _ => ?_
    exact every_fold (fun m _ d => every_compareModule ..) d

end FormComparison

/-! ## Detectors -/

open FormComparison VirtualTypeComparison RegistryComparison

section Detectors

variable (s : Search) (fs : FileSystem)

theorem search_judges : Judges (Detector.ask fs) (s.verdict fs) (.ofSearch s) := by
  have kept (d : Detector) (q : Inquiry) (searching : Searching s fs d) := (searching_ask searching q).2
  have told (d : Detector) (q : Inquiry) (searching : Searching s fs d) := (searching_ask searching q).1
  exact judges_of_kept kept told ⟨_, rfl, s.remembers_empty fs⟩

/-- The answer of a search, or that by likeness where there is nothing to search. -/
def Search.verdictOrLikeness (q : Inquiry) : Except Failure Verdict :=
  match s.verdict fs q with
  | .ok .unavailable => .ok (likeness q)
  | answer => answer

theorem Search.verdictOrLikeness_eq_ok_iff (q : Inquiry) :
    (∃ v, s.verdictOrLikeness fs q = .ok v) ↔ ∃ v, s.verdict fs q = .ok v := by
  unfold verdictOrLikeness
  cases s.verdict fs q with
  | error f => exact Iff.rfl
  | ok v => cases v <;> simp

theorem fallback_judges {first : Detector} (judges : Judges (Detector.ask fs) (s.verdict fs) first) :
    Judges (Detector.ask fs) (s.verdictOrLikeness fs) (.fallback first .structural) := by
  -- The second detector has no memory, so the first one alone decides what is remembered.
  have step (d : Detector) (q : Inquiry)
      (falling : ∃ first, Judges (Detector.ask fs) (s.verdict fs) first ∧ d = .fallback first .structural) :
      (d.ask fs q).verdict = s.verdictOrLikeness fs q ∧
        ∃ first, Judges (Detector.ask fs) (s.verdict fs) first ∧
          (d.ask fs q).next = .fallback first .structural := by
    obtain ⟨first, judges, rfl⟩ := falling
    have answer := judges.answer q
    have next := judges.next q
    cases told : (Detector.ask fs first q).verdict with
    | error f =>
      simp only [Detector.ask, Search.verdictOrLikeness, ← answer, told]
      exact ⟨told, _, next, rfl⟩
    | ok v =>
      cases v <;> simp only [Detector.ask, Search.verdictOrLikeness, ← answer, told] <;>
        first | exact ⟨told, _, next, rfl⟩ | exact ⟨rfl, _, next, rfl⟩
  have kept (d : Detector) (q : Inquiry) (falling) := (step d q falling).2
  have told (d : Detector) (q : Inquiry) (falling) := (step d q falling).1
  exact judges_of_kept kept told ⟨first, judges, rfl⟩

/-- The answer by the strategy of the settings. -/
def AnalysisSettings.verdict (settings : AnalysisSettings) (q : Inquiry) : Except Failure Verdict :=
  match settings.duplicateStrategy with
  | .structural => .ok (likeness q)
  | .crossFile => settings.search.verdict fs q
  | .auto => settings.search.verdictOrLikeness fs q

theorem AnalysisSettings.judges (settings : AnalysisSettings) :
    Judges (Detector.ask fs) (settings.verdict fs) settings.detector := by
  unfold verdict
  cases strategy : settings.duplicateStrategy with
  | structural =>
    rw [detector_structural strategy]
    exact structural_judges fs
  | crossFile =>
    rw [detector, strategy]
    exact search_judges settings.search fs
  | auto =>
    rw [detector, strategy]
    exact fallback_judges settings.search fs (search_judges settings.search fs)

/-- The detector of the settings answers a question just if its strategy does without a search or the
search has an answer. -/
theorem AnalysisSettings.exists_judges (settings : AnalysisSettings) :
    ∃ verdict, Judges (Detector.ask fs) verdict settings.detector ∧
      ∀ q, (∃ v, verdict q = .ok v) ↔
        settings.duplicateStrategy = .structural ∨ ∃ v, settings.search.verdict fs q = .ok v := by
  refine ⟨_, settings.judges fs, fun q => ?_⟩
  unfold verdict
  cases settings.duplicateStrategy with
  | structural => simp
  | crossFile => simp
  | auto => simpa using settings.search.verdictOrLikeness_eq_ok_iff fs q

end Detectors

theorem Report.entries_append (r : Report) (entries : List (String × Change)) :
    (r.append entries).entries = r.entries ++ entries := rfl

theorem Report.length_append (r : Report) (entries : List (String × Change)) :
    (r.append entries).length = r.length + entries.length := List.length_append

/-! ## One kind of file alone -/

namespace RegistryComparison

section Alone

variable (fs : FileSystem) (p : Presence) (settings : AnalysisSettings)

/-- The comparison of one kind of file alone, with a detector that was asked nothing before. -/
def alone (before after : Registry) (type : ReportType) : Trail Unit :=
  p.guard (compareType fs p.isFile settings before after type)

/-- The comparison of one kind of file has to look up a path that is refused: a class file to which the name
of a lost virtual type leads, or one that the search for an added node needs. -/
def Refused (before after : Registry) : ReportType → Prop
  | .di => ∃ path ∈ classFiles settings.classFileExtension before after, p.fault? path ≠ none
  | .system => settings.duplicateStrategy ≠ .structural ∧ ∃ m ∈ before.modules, m ∈ after.modules ∧
      ∃ n ∈ missingNodes after before m, IsAsked settings.formRules (after.fileOf m) n ∧
        settings.search.Stopped fs ⟨n, after.fileOf m, before.bucket m⟩

variable {before after : Registry}

theorem outcome_compareForms (before after : Registry) :
    (compareType fs p.isFile settings before after .system).outcome =
      (compareForms (Detector.ask fs) settings.formRules settings.detector before after).outcome.map
        fun _ => () := by
  show (compareForms _ _ _ _ _ >>= fun _ => pure ()).outcome = _
  rw [outcome_bind]
  cases (compareForms (Detector.ask fs) settings.formRules settings.detector before after).outcome <;> rfl

theorem every_compareType_system (before after : Registry) :
    Every IsOfForms (compareType fs p.isFile settings before after .system) :=
  (every_compareForms ..).bind fun _ => every_pure ()

theorem alone_system (before after : Registry) :
    alone fs p settings before after .system = compareType fs p.isFile settings before after .system := by
  refine Presence.guard_of_no_fault fun path member => ?_
  obtain ⟨s, here, probe⟩ := List.mem_filterMap.mp member
  have silent := ((every_compareType_system fs p settings before after).holds s here).1
  cases silent.symm.trans probe

variable {fs p settings}

theorem told_iff_not_stopped (q : Inquiry) (readable : settings.search.Readable fs q.schemaFile) :
    (∃ v, settings.search.verdict fs q = .ok v) ↔ ¬settings.search.Stopped fs q := by
  constructor
  · rintro ⟨v, answer⟩
    exact Search.not_stopped_of_ok answer
  · intro clear
    exact ⟨_, Search.verdict_of_not_stopped readable clear⟩

theorem alone_fails_iff (sourcedBefore : before.Sourced) (sourcedAfter : after.Sourced)
    {type : ReportType}
    (readable : type = .system → ∀ m ∈ after.modules, settings.search.Readable fs (after.fileOf m)) :
    (∃ f, (alone fs p settings before after type).outcome = .error f) ↔
      Refused fs p settings before after type := by
  cases type with
  | di =>
    rw [alone, p.guard_fails_iff, compareType, probes_compareVirtualTypes _ _ sourcedBefore sourcedAfter,
      or_iff_left]
    · exact Iff.rfl
    · rintro ⟨f, fails⟩
      have ends := (compareVirtualTypes_reports p.isFile settings.classFileExtension sourcedBefore
        sourcedAfter).outcome
      cases ends.symm.trans fails
  | system =>
    obtain ⟨verdict, judges, told⟩ := settings.exists_judges fs
    have ends : (∃ last, (compareForms (Detector.ask fs) settings.formRules settings.detector before
          after).outcome = .ok last) ↔ _ := ends_iff_told judges sourcedBefore sourcedAfter
    have fails : (∃ f, (alone fs p settings before after .system).outcome = .error f) ↔
        ¬∃ last, (compareForms (Detector.ask fs) settings.formRules settings.detector before
          after).outcome = .ok last := by
      rw [alone_system, outcome_compareForms]
      cases (compareForms (Detector.ask fs) settings.formRules settings.detector before after).outcome <;>
        simp [Except.map]
    have answered (m : String) (inAfter : m ∈ after.modules) (n : Node) :
        (∃ v, verdict ⟨n, after.fileOf m, before.bucket m⟩ = .ok v) ↔
          (settings.duplicateStrategy ≠ .structural →
            ¬settings.search.Stopped fs ⟨n, after.fileOf m, before.bucket m⟩) := by
      rw [told, told_iff_not_stopped ⟨n, after.fileOf m, before.bucket m⟩ (readable rfl m inAfter)]
      exact or_iff_not_imp_left
    rw [fails, ends]
    constructor
    · intro untold
      simp only [Told, not_forall] at untold
      obtain ⟨m, inBefore, inAfter, n, new, asked, silent⟩ := untold
      rw [answered m inAfter n, Classical.not_imp, not_not] at silent
      exact ⟨silent.1, m, inBefore, inAfter, n, new, asked, silent.2⟩
    · rintro ⟨strategy, m, inBefore, inAfter, n, new, asked, stopped⟩ told
      exact (answered m inAfter n).mp (told m inBefore inAfter n new asked) strategy stopped

theorem domain_of_mem_alone (sourcedBefore : before.Sourced) (sourcedAfter : after.Sourced)
    {type : ReportType} {c : String × Change} (member : c ∈ (alone fs p settings before after type).changes) :
    c.1 = type.name := by
  cases type with
  | di =>
    have part := (p.prefix_steps_guard (compareType fs p.isFile settings before after .di)).filterMap
      Step.change?
    exact VirtualTypeComparison.domain_of_mem p.isFile settings.classFileExtension sourcedBefore
      sourcedAfter (part.subset member)
  | system =>
    rw [alone_system] at member
    obtain ⟨s, here, change⟩ := List.mem_filterMap.mp member
    exact ((every_compareType_system fs p settings before after).holds s here).2 c change

end Alone

/-! ## All kinds of file -/

section Runs

variable (fs : FileSystem) (p : Presence) (settings : AnalysisSettings)
variable (before after : OrderedMap String Registry)

/-- The later snapshot has a name that is of no kind of file. -/
def Unknown (after : OrderedMap String Registry) (name : String) : Prop :=
  name ∈ after.keys ∧ ∀ type : ReportType, type.name ≠ name

/-- The kind of file of a name that both snapshots have cannot be compared to the end. -/
def MeetsRefusal (e : String × Registry) : Prop :=
  ∃ type registryAfter, type.name = e.1 ∧ after.get? e.1 = some registryAfter ∧
    Refused fs p settings e.2 registryAfter type

/-- What is reported of the kind of file of a name when it is compared alone. -/
def reportedAlone (e : String × Registry) : List (String × Change) :=
  match after.get? e.1, ReportType.ofName? e.1 with
  | some registryAfter, some type => (alone fs p settings e.2 registryAfter type).changes
  | _, _ => []

def unknownKind (name : String) : Failure :=
  .problem (.unexpected "no analyzer for report type" [("report_type", .text name)])

/-- The run over some names of the earlier snapshot, into a report. -/
def runInto (entries : List (String × Registry)) (report : Report) : Trail Nat :=
  p.guard (compareRegistries fs p.isFile settings report.length entries after.entries)

/-- Runs append to a report, and the kinds of file do not influence each other. -/
structure RunsApart (report : Report) : Prop where
  /-- Without refusals the run fails just if a name of both snapshots is of no kind. -/
  fails_iff : (∀ e ∈ before.entries, ¬MeetsRefusal fs p settings after e) →
    let run := runInto fs p settings after before.entries report
    ((∃ name, run.outcome = .error (unknownKind name)) ↔ ∃ name ∈ before.keys, Unknown after name) ∧
      ∀ f, run.outcome = .error f → ∃ name, f = unknownKind name
  ended : (∀ e ∈ before.entries, ¬MeetsRefusal fs p settings after e ∧ ¬Unknown after e.1) →
    let run := runInto fs p settings after before.entries report
    run.outcome = .ok (report.append run.changes).length ∧
      (report.append run.changes).entries =
        report.entries ++ before.entries.flatMap (reportedAlone fs p settings after)
  /-- The first name without a kind, or with a kind that meets a refusal, ends the run. -/
  stopped : ∀ first e rest, before.entries = first ++ e :: rest →
    (∀ x ∈ first, ¬MeetsRefusal fs p settings after x ∧ ¬Unknown after x.1) →
    let run := runInto fs p settings after before.entries report
    (Unknown after e.1 → run.outcome = .error (unknownKind e.1) ∧
      (report.append run.changes).entries =
        report.entries ++ first.flatMap (reportedAlone fs p settings after)) ∧
    ∀ type registryAfter, type.name = e.1 → after.get? e.1 = some registryAfter →
      Refused fs p settings e.2 registryAfter type →
      ∃ f, (alone fs p settings e.2 registryAfter type).outcome = .error f ∧ run.outcome = .error f ∧
        (report.append run.changes).entries =
          report.entries ++ (first.flatMap (reportedAlone fs p settings after) ++
            (alone fs p settings e.2 registryAfter type).changes)
  domain : ∀ e ∈ before.entries, ∀ c ∈ reportedAlone fs p settings after e, c.1 = e.1
  /-- A name that the later snapshot does not have adds one line to the log. -/
  missing : ∀ first e rest, before.entries = first ++ e :: rest → e.1 ∉ after.keys →
    let run := runInto fs p settings after before.entries report
    let without := runInto fs p settings after (first ++ rest) report
    run.outcome = without.outcome ∧ run.changes = without.changes ∧
      ((∃ f, without.outcome = .error f) ∧ run = without ∨
        ∃ earlier later, without.steps = earlier ++ later ∧
          run.steps = earlier ++ .event (missingLine e.1) :: later)
  again : let run := runInto fs p settings after before.entries report
    let second := runInto fs p settings after before.entries (report.append run.changes)
    ((report.append run.changes).append second.changes).entries =
        report.entries ++ run.changes ++ run.changes ∧
      ∀ f, run.outcome = .error f → second.outcome = .error f

variable {fs p settings before after}

theorem runInto_eq (entries : List (String × Registry)) (report : Report) :
    runInto fs p settings after entries report =
      compareRegistriesBy (alone fs p settings) report.length entries after := by
  rw [runInto, compareRegistries_eq_by, guard_compareRegistriesBy]
  rfl

theorem changes_part (e : String × Registry) :
    (part (alone fs p settings) after e).changes = reportedAlone fs p settings after e := by
  unfold part reportedAlone
  cases after.get? e.1 with
  | none => rfl
  | some registryAfter => cases ReportType.ofName? e.1 <;> rfl

theorem reportedOf_alone (entries : List (String × Registry)) :
    reportedOf (alone fs p settings) after entries =
      entries.flatMap (reportedAlone fs p settings after) :=
  List.flatMap_congr fun e _ => changes_part e

theorem mem_keys_of_get? {name : String} {registry : Registry} (shared : after.get? name = some registry) :
    name ∈ after.keys := OrderedMap.mem_keys_iff.mpr ⟨registry, shared⟩

theorem part_of_unknown_name {e : String × Registry} (unknown : Unknown after e.1) :
    part (alone fs p settings) after e = .fail (unknownKind e.1) := by
  obtain ⟨registryAfter, shared⟩ := OrderedMap.mem_keys_iff.mp unknown.1
  exact part_of_unknown shared (ofName?_eq_none_iff.mpr unknown.2)

section Sourced

variable (sourcedBefore : ∀ e ∈ before.entries, e.2.Sourced) (sourcedAfter : ∀ e ∈ after.entries, e.2.Sourced)
variable (readable : ∀ registryAfter, after.get? ReportType.system.name = some registryAfter →
  ∀ m ∈ registryAfter.modules, settings.search.Readable fs (registryAfter.fileOf m))
include sourcedBefore sourcedAfter readable

theorem alone_fails_iff_of_shared {e : String × Registry} (member : e ∈ before.entries)
    {type : ReportType} (known : type.name = e.1) {registryAfter : Registry}
    (shared : after.get? e.1 = some registryAfter) :
    (∃ f, (alone fs p settings e.2 registryAfter type).outcome = .error f) ↔
      Refused fs p settings e.2 registryAfter type := by
  have sourced := sourcedAfter _ (OrderedMap.get?_eq_some_iff.mp shared)
  refine alone_fails_iff (sourcedBefore e member) sourced fun form => ?_
  subst form
  exact readable registryAfter (known ▸ shared)

theorem part_fails_iff {e : String × Registry} (member : e ∈ before.entries) :
    (∃ f, (part (alone fs p settings) after e).outcome = .error f) ↔
      MeetsRefusal fs p settings after e ∨ Unknown after e.1 := by
  cases shared : after.get? e.1 with
  | none =>
    have missing : e.1 ∉ after.keys := by
      rw [OrderedMap.mem_keys_iff, shared]
      simp
    rw [part_of_missing shared]
    refine iff_of_false nofun ?_
    rintro (⟨_, _, _, other, _⟩ | unknown)
    · cases shared.symm.trans other
    · exact missing unknown.1
  | some registryAfter =>
    cases known : ReportType.ofName? e.1 with
    | none =>
      have unknown : Unknown after e.1 := ⟨mem_keys_of_get? shared, ofName?_eq_none_iff.mp known⟩
      rw [part_of_unknown_name unknown]
      exact iff_of_true ⟨_, rfl⟩ (.inr unknown)
    | some type =>
      have named := ofName?_eq_some_iff.mp known
      rw [part_of_known shared known,
        alone_fails_iff_of_shared sourcedBefore sourcedAfter readable member named shared]
      constructor
      · intro refused
        exact .inl ⟨type, registryAfter, named, shared, refused⟩
      · rintro (⟨type', other, named', shared', refused⟩ | unknown)
        · obtain rfl := Option.some.inj (shared.symm.trans shared')
          obtain rfl := ReportType.name_injective (named.trans named'.symm)
          exact refused
        · exact absurd named (unknown.2 type)

theorem part_ends_iff {e : String × Registry} (member : e ∈ before.entries) :
    (part (alone fs p settings) after e).outcome = .ok () ↔
      ¬MeetsRefusal fs p settings after e ∧ ¬Unknown after e.1 := by
  rw [← not_or, ← part_fails_iff sourcedBefore sourcedAfter readable member]
  cases (part (alone fs p settings) after e).outcome <;> simp

omit readable in
theorem domain_of_mem_reportedAlone {e : String × Registry} (member : e ∈ before.entries)
    {c : String × Change} (reported : c ∈ reportedAlone fs p settings after e) : c.1 = e.1 := by
  unfold reportedAlone at reported
  split at reported
  · next registryAfter type shared known =>
    have sourced := sourcedAfter _ (OrderedMap.get?_eq_some_iff.mp shared)
    rw [domain_of_mem_alone (sourcedBefore e member) sourced reported]
    exact ofName?_eq_some_iff.mp known
  · cases reported

theorem runInto_of_fails {first rest : List (String × Registry)} {e : String × Registry}
    (split : before.entries = first ++ e :: rest)
    (passed : ∀ x ∈ first, ¬MeetsRefusal fs p settings after x ∧ ¬Unknown after x.1) {f : Failure}
    (fails : (part (alone fs p settings) after e).outcome = .error f) (report : Report) :
    (runInto fs p settings after before.entries report).outcome = .error f ∧
      (runInto fs p settings after before.entries report).changes =
        first.flatMap (reportedAlone fs p settings after) ++ reportedAlone fs p settings after e := by
  have ends (x : String × Registry) (member : x ∈ first) :
      (part (alone fs p settings) after x).outcome = .ok () := by
    have inside : x ∈ before.entries := by simp [split, member]
    exact (part_ends_iff sourcedBefore sourcedAfter readable inside).mpr (passed x member)
  rw [runInto_eq, split, ← reportedOf_alone, ← changes_part]
  exact compareRegistriesBy_of_fails ends fails rest report.length

theorem runInto_of_unknown {first rest : List (String × Registry)} {e : String × Registry}
    (split : before.entries = first ++ e :: rest)
    (passed : ∀ x ∈ first, ¬MeetsRefusal fs p settings after x ∧ ¬Unknown after x.1)
    (unknown : Unknown after e.1) (report : Report) :
    (runInto fs p settings after before.entries report).outcome = .error (unknownKind e.1) ∧
      (runInto fs p settings after before.entries report).changes =
        first.flatMap (reportedAlone fs p settings after) := by
  have here : part (alone fs p settings) after e = .fail (unknownKind e.1) := part_of_unknown_name unknown
  have silent : reportedAlone fs p settings after e = [] := by
    rw [← changes_part, here]
    rfl
  have fails : (part (alone fs p settings) after e).outcome = .error (unknownKind e.1) := by
    rw [here]
    rfl
  obtain ⟨outcome, changes⟩ :=
    runInto_of_fails sourcedBefore sourcedAfter readable split passed fails report
  rw [silent, List.append_nil] at changes
  exact ⟨outcome, changes⟩

theorem runInto_ends
    (passed : ∀ e ∈ before.entries, ¬MeetsRefusal fs p settings after e ∧ ¬Unknown after e.1)
    (report : Report) :
    (runInto fs p settings after before.entries report).outcome =
        .ok (report.length + (runInto fs p settings after before.entries report).changes.length) ∧
      (runInto fs p settings after before.entries report).changes =
        before.entries.flatMap (reportedAlone fs p settings after) := by
  have ends (e : String × Registry) (member : e ∈ before.entries) :=
    (part_ends_iff sourcedBefore sourcedAfter readable member).mpr (passed e member)
  obtain ⟨outcome, changes⟩ := reports_compareRegistriesBy ends report.length
  rw [runInto_eq, changes, outcome, reportedOf_alone]
  exact ⟨rfl, rfl⟩

/-- Runs over registries whose modules have source files append to any report, kind by kind, up to a name
of no kind or a look-up that is refused. -/
theorem registries_run_apart (report : Report) : RunsApart fs p settings before after report where
  fails_iff clear := by
    intro run
    rcases exists_first_fails (alone fs p settings) after before.entries with
      ends | ⟨first, e, rest, f, split, ends, fails⟩
    · have passed (e : String × Registry) (member : e ∈ before.entries) :=
        (part_ends_iff sourcedBefore sourcedAfter readable member).mp (ends e member)
      obtain ⟨outcome, -⟩ := runInto_ends sourcedBefore sourcedAfter readable passed report
      refine ⟨iff_of_false ?_ ?_, fun f fails => ?_⟩
      · rintro ⟨name, fails⟩
        cases outcome.symm.trans fails
      · rintro ⟨name, member, unknown⟩
        obtain ⟨e, inside, rfl⟩ := List.mem_map.mp member
        exact (passed e inside).2 unknown
      · cases outcome.symm.trans fails
    · have passed (x : String × Registry) (member : x ∈ first) := by
        have inside : x ∈ before.entries := by simp [split, member]
        exact (part_ends_iff sourcedBefore sourcedAfter readable inside).mp (ends x member)
      have inside : e ∈ before.entries := by simp [split]
      have unknown : Unknown after e.1 :=
        ((part_fails_iff sourcedBefore sourcedAfter readable inside).mp ⟨f, fails⟩).resolve_left
          (clear e inside)
      obtain ⟨outcome, -⟩ :=
        runInto_of_unknown sourcedBefore sourcedAfter readable split passed unknown report
      refine ⟨iff_of_true ⟨e.1, outcome⟩ ⟨e.1, List.mem_map_of_mem inside, unknown⟩, fun f fails => ?_⟩
      exact ⟨e.1, Except.error.inj (fails.symm.trans outcome)⟩
  ended passed := by
    intro run
    obtain ⟨outcome, changes⟩ := runInto_ends sourcedBefore sourcedAfter readable passed report
    constructor
    · rw [outcome, Report.length_append]
    · exact congrArg (report.entries ++ ·) changes
  stopped first e rest split passed := by
    intro run
    constructor
    · intro unknown
      obtain ⟨outcome, changes⟩ :=
        runInto_of_unknown sourcedBefore sourcedAfter readable split passed unknown report
      exact ⟨outcome, congrArg (report.entries ++ ·) changes⟩
    · intro type registryAfter named shared refused
      have inside : e ∈ before.entries := by simp [split]
      obtain ⟨f, here⟩ := (alone_fails_iff_of_shared sourcedBefore sourcedAfter readable inside named
        shared).mpr refused
      have known : part (alone fs p settings) after e = _ :=
        part_of_known shared (ofName?_eq_some_iff.mpr named)
      obtain ⟨outcome, changes⟩ :=
        runInto_of_fails sourcedBefore sourcedAfter readable split passed (known ▸ here) report
      refine ⟨f, here, outcome, ?_⟩
      rw [← changes_part, known] at changes
      exact congrArg (report.entries ++ ·) changes
  domain e member c reported := domain_of_mem_reportedAlone sourcedBefore sourcedAfter member reported
  missing first e rest split missing := by
    intro run without
    have absent : after.get? e.1 = none := OrderedMap.lookup_eq_none_iff.mpr missing
    have law := compareRegistriesBy_of_missing (alone fs p settings) absent report.length first rest
    rw [← split, ← runInto_eq, ← runInto_eq] at law
    exact law
  again := by
    intro run second
    have law := compareRegistriesBy_found (alone fs p settings) after before.entries report.length
      (report.append run.changes).length
    rw [← runInto_eq, ← runInto_eq] at law
    refine ⟨?_, law.2⟩
    rw [Report.append, law.1]
    rfl

end Sourced

end Runs

/-! ## In a release -/

theorem readable_of_no_root {s : Search} {fs : FileSystem} {schemaFile : String}
    (unmarked : s.nearestRoot? fs schemaFile = none) : s.Readable fs schemaFile := by
  intro root file nearest
  rw [unmarked] at nearest
  cases nearest

def typeFile (types : List VirtualType) : Registry :=
  .ofModules [("Acme_Shop", "/Acme/Shop/etc/di.xml", types.map .virtualType)]

def formFile (forms : List Node) : Registry := .ofModules [("Acme_Shop", "/system.xml", forms)]

def kindsBefore : OrderedMap String Registry where
  entries := [("di", typeFile [⟨"Gone", "T", "global", none⟩]), ("extra", typeFile []),
    ("system", formFile []), ("layout", formFile [])]
  nodup_keys := by decide

def kindsAfter : OrderedMap String Registry where
  entries := [("layout", formFile []), ("system", formFile [.configSection ⟨"shop", none⟩]),
    ("di", typeFile [])]
  nodup_keys := by decide

theorem registries_run_apart_shop :
    (∀ e ∈ kindsBefore.entries, e.2.Sourced) ∧ (∀ e ∈ kindsAfter.entries, e.2.Sourced) ∧
      (∀ registryAfter, kindsAfter.get? ReportType.system.name = some registryAfter →
        ∀ m ∈ registryAfter.modules,
          AnalysisSettings.initial.search.Readable lone (registryAfter.fileOf m)) ∧
      (runInto lone (.ofNames []) .initial kindsAfter kindsBefore.entries .empty).outcome =
        .error (unknownKind "layout") ∧
      (Report.empty.append
        (runInto lone (.ofNames []) .initial kindsAfter kindsBefore.entries .empty).changes).entries =
        [("di", ⟨.virtualTypeRemoved, "/Acme/Shop/etc/di.xml", "Gone"⟩)] := by
  have sourcedBefore : ∀ e ∈ kindsBefore.entries, e.2.Sourced := by decide +kernel
  have sourcedAfter : ∀ e ∈ kindsAfter.entries, e.2.Sourced := by decide +kernel
  have unmarked : AnalysisSettings.initial.search.nearestRoot? lone "/system.xml" = none := by cbv
  have readable : ∀ registryAfter, kindsAfter.get? ReportType.system.name = some registryAfter →
      ∀ m ∈ registryAfter.modules,
        AnalysisSettings.initial.search.Readable lone (registryAfter.fileOf m) := by
    intro registryAfter shared
    cases shared
    intro m member
    have named : m = "Acme_Shop" := by simpa using (show m ∈ ["Acme_Shop"] from member)
    subst named
    exact readable_of_no_root unmarked
  have passed : ∀ e ∈ kindsBefore.entries.take 3,
      ¬MeetsRefusal lone (.ofNames []) .initial kindsAfter e ∧ ¬Unknown kindsAfter e.1 := by
    intro e member
    refine (part_ends_iff sourcedBefore sourcedAfter readable (List.mem_of_mem_take member)).mp ?_
    have named : e ∈ [("di", typeFile [⟨"Gone", "T", "global", none⟩]), ("extra", typeFile []),
      ("system", formFile [])] := member
    simp only [List.mem_cons, List.not_mem_nil, or_false] at named
    rcases named with rfl | rfl | rfl <;> cbv
  have unknown : Unknown kindsAfter "layout" := by
    refine ⟨by decide, fun type => ?_⟩
    cases type <;> decide
  obtain ⟨outcome, entries⟩ := ((registries_run_apart sourcedBefore sourcedAfter readable .empty).stopped
    (kindsBefore.entries.take 3) ("layout", formFile []) [] rfl passed).1 unknown
  have reported : (kindsBefore.entries.take 3).flatMap
      (reportedAlone lone (.ofNames []) .initial kindsAfter) =
        [("di", ⟨.virtualTypeRemoved, "/Acme/Shop/etc/di.xml", "Gone"⟩)] := by cbv
  exact ⟨sourcedBefore, sourcedAfter, readable, outcome, entries.trans (congrArg ([] ++ ·) reported)⟩

/-! ## A marker with too long a name -/

def longSettings : AnalysisSettings :=
  { AnalysisSettings.initial with duplicateStrategy := .crossFile, projectRootMarker := longName }

def swappedBefore : OrderedMap String Registry where
  entries := [("system", formFile []), ("di", typeFile [⟨"Gone", "T", "global", none⟩])]
  nodup_keys := by decide

def swappedAfter : OrderedMap String Registry where
  entries := [("system", formFile [ownField]), ("di", typeFile [])]
  nodup_keys := by decide

/-- Both kinds of file are known, and yet the run fails and reports nothing of the second kind. -/
theorem runInto_longMarker :
    (∀ e ∈ swappedBefore.entries, e.2.Sourced) ∧ (∀ e ∈ swappedAfter.entries, e.2.Sourced) ∧
      (∀ registryAfter, swappedAfter.get? ReportType.system.name = some registryAfter →
        ∀ m ∈ registryAfter.modules, longSettings.search.Readable lone (registryAfter.fileOf m)) ∧
      (∀ name ∈ swappedBefore.keys, ¬Unknown swappedAfter name) ∧
      (∃ f, (runInto lone (.ofNames []) longSettings swappedAfter swappedBefore.entries .empty).outcome =
        .error f) ∧
      (Report.empty.append
          (runInto lone (.ofNames []) longSettings swappedAfter swappedBefore.entries .empty).changes).entries ≠
        Report.empty.entries ++
          swappedBefore.entries.flatMap (reportedAlone lone (.ofNames []) longSettings swappedAfter) := by
  have sourcedBefore : ∀ e ∈ swappedBefore.entries, e.2.Sourced := by decide +kernel
  have sourcedAfter : ∀ e ∈ swappedAfter.entries, e.2.Sourced := by decide +kernel
  have above : directoriesAbove "/system.xml" = [⟨.root, []⟩] := by decide +kernel
  have refused : lone.hasFile ((⟨.root, []⟩ : Path).join (.ofText longName)).text =
      .error .nameTooLong := by
    rw [text_longName, FileSystem.hasFile, FileSystem.probe, locate_longName]
  have unmarked : longSettings.search.nearestRoot? lone "/system.xml" = none := by
    rw [Search.nearestRoot?, above, List.find?_singleton]
    show (if lone.isFile ((⟨.root, []⟩ : Path).join (.ofText longName)).text then _ else _) = none
    rw [text_longName, FileSystem.isFile, locate_longName]
    rfl
  have readable : ∀ registryAfter, swappedAfter.get? ReportType.system.name = some registryAfter →
      ∀ m ∈ registryAfter.modules, longSettings.search.Readable lone (registryAfter.fileOf m) := by
    intro registryAfter shared
    cases shared
    intro m member
    have named : m = "Acme_Shop" := by simpa using (show m ∈ ["Acme_Shop"] from member)
    subst named
    exact readable_of_no_root unmarked
  have known : ∀ name ∈ swappedBefore.keys, ¬Unknown swappedAfter name := by
    have both : ∀ name ∈ ["system", "di"], ∃ type : ReportType, type.name = name := by
      simp only [List.forall_mem_cons]
      exact ⟨⟨.system, rfl⟩, ⟨.di, rfl⟩, List.forall_mem_nil _⟩
    intro name member unknown
    obtain ⟨type, named⟩ := both name member
    exact unknown.2 type named
  have stopped : longSettings.search.Refused lone "/system.xml" := by
    have split : directoriesAbove "/system.xml" = [] ++ ⟨.root, []⟩ :: [] := above
    exact .marker split (List.forall_mem_nil _) refused
  have meets : Refused lone (.ofNames []) longSettings (formFile []) (formFile [ownField]) .system := by
    refine ⟨by decide, "Acme_Shop", by decide, by decide, ownField, by decide +kernel, ?_, ?_⟩
    · exact ⟨by decide, by decide +kernel, by decide +kernel⟩
    · exact ⟨by decide +kernel, stopped⟩
  have split : swappedBefore.entries =
      [] ++ ("system", formFile []) :: [("di", typeFile [⟨"Gone", "T", "global", none⟩])] := rfl
  have system : ("system", formFile []) ∈ swappedBefore.entries := List.mem_cons_self
  have di : ("di", typeFile [⟨"Gone", "T", "global", none⟩]) ∈ swappedBefore.entries :=
    List.mem_cons_of_mem _ List.mem_cons_self
  obtain ⟨f, fails⟩ := (part_fails_iff sourcedBefore sourcedAfter readable system).mpr
    (.inl ⟨.system, formFile [ownField], rfl, rfl, meets⟩)
  obtain ⟨outcome, changes⟩ := runInto_of_fails sourcedBefore sourcedAfter readable split
    (List.forall_mem_nil _) fails .empty
  refine ⟨sourcedBefore, sourcedAfter, readable, known, ⟨f, outcome⟩, fun same => ?_⟩
  -- Only forms were compared, but of the virtual types there is something to report.
  have gone : reportedAlone lone (.ofNames []) longSettings swappedAfter
      ("di", typeFile [⟨"Gone", "T", "global", none⟩]) =
        [("di", ⟨.virtualTypeRemoved, "/Acme/Shop/etc/di.xml", "Gone"⟩)] := by
    have unsearched : reportedAlone lone (.ofNames []) longSettings swappedAfter
        ("di", typeFile [⟨"Gone", "T", "global", none⟩]) =
          reportedAlone lone (.ofNames []) .initial swappedAfter
            ("di", typeFile [⟨"Gone", "T", "global", none⟩]) := rfl
    rw [unsearched]
    cbv
  have listed : ("di", ⟨.virtualTypeRemoved, "/Acme/Shop/etc/di.xml", "Gone"⟩) ∈
      swappedBefore.entries.flatMap (reportedAlone lone (.ofNames []) longSettings swappedAfter) := by
    refine List.mem_flatMap.mpr ⟨_, di, ?_⟩
    rw [gone]
    exact List.mem_singleton.mpr rfl
  have entries : swappedBefore.entries.flatMap (reportedAlone lone (.ofNames []) longSettings swappedAfter) =
      reportedAlone lone (.ofNames []) longSettings swappedAfter ("system", formFile []) := by
    rw [Report.entries_append, changes, List.flatMap_nil, List.nil_append] at same
    exact (List.append_cancel_left same).symm
  rw [entries] at listed
  have domain := domain_of_mem_reportedAlone sourcedBefore sourcedAfter system listed
  exact absurd domain (by decide)

end RegistryComparison

end ReleaseImpact
