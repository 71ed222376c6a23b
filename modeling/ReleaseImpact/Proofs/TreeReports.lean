import ReleaseImpact.Proofs.Answers
import ReleaseImpact.Proofs.Copies
import ReleaseImpact.Proofs.TreeRegistry
import ReleaseImpact.Proofs.VirtualTypes

/-!
The report on two trees, told from the files of both. Main statements:

- `compareRegistries_reports_iff`: registries are compared one kind of file after the other.
- `entries_of_compareTrees` and `compareTrees_ends`: a report on two trees holds what is reported of each
  kind of file, and there is one just if each of these comparisons comes to its end.
- `mem_system_entries_iff`: what is in the report under the domain of forms was found among the forms.
-/

namespace ReleaseImpact

open Trail Survey RegistryComparison

theorem Presence.guard_of_ok {α : Type} {p : Presence} {t : Trail α} {a : α}
    (ends : (p.guard t).outcome = .ok a) : p.guard t = t := by
  unfold guard at ends ⊢
  split at ends
  · cases ends
  · rfl

variable {fs : FileSystem} {isFile : String → Bool} {settings : AnalysisSettings}
variable {types : List ReportType} {read read' : ReportType → Registry}

/-! ## Registries -/

theorem named_map (types : List ReportType) (read : ReportType → Registry) :
    TreeComparison.named (types.map fun t => (t, read t)) = types.map fun t => (t.name, read t) :=
  List.map_map

theorem find?_named_map {type : ReportType} (member : type ∈ types) (read : ReportType → Registry) :
    ((types.map fun t => (t.name, read t)).find? (·.1 = type.name)).map Prod.snd = some (read type) := by
  induction types with
  | nil => cases member
  | cons t rest ih =>
    rw [List.map_cons, List.find?_cons]
    by_cases same : t.name = type.name
    · cases ReportType.name_injective same
      simp
    · have later : type ∈ rest := (List.mem_cons.1 member).resolve_left fun here => same (here ▸ rfl)
      simp only [same, decide_false]
      exact ih later

theorem compareNamed_of_known {afters : List (String × Registry)} {type : ReportType}
    {before after : Registry} (known : (afters.find? (·.1 = type.name)).map Prod.snd = some after)
    (found : Nat) :
    ∃ rest : Trail Nat, (∃ n, rest.Reports n []) ∧
      compareNamed fs isFile settings afters found (type.name, before) =
        compareType fs isFile settings before after type >>= fun _ => rest := by
  simp only [compareNamed, known, ReportType.ofName?_name]
  exact ⟨_, ⟨_, (reports_log ..).bind_return _⟩, rfl⟩

theorem compareRegistries_reports_iff {found : Nat} {reported : List (String × Change)} :
    (∃ n, (compareRegistries fs isFile settings found (types.map fun t => (t.name, read t))
        (types.map fun t => (t.name, read' t))).Reports n reported) ↔
      (∀ t ∈ types, (compareType fs isFile settings (read t) (read' t) t).outcome = .ok ()) ∧
        reported = types.flatMap fun t => (compareType fs isFile settings (read t) (read' t) t).changes := by
  rw [compareRegistries, fold_map]
  constructor
  · rintro ⟨n, run⟩
    refine Reports.of_fold (fun t member found found' reported run => ?_) run
    obtain ⟨rest, ⟨_, logged⟩, spelt⟩ := compareNamed_of_known (find?_named_map member read') found
    rw [spelt] at run
    obtain ⟨_, first, others, compared, more, rfl⟩ := run.exists_of_bind
    obtain ⟨-, rfl⟩ := more.unique logged
    exact ⟨compared.outcome, by rw [List.append_nil, compared.changes]⟩
  · rintro ⟨ends, rfl⟩
    refine reports_fold (fun found t member => ?_) found
    obtain ⟨rest, ⟨n, logged⟩, spelt⟩ := compareNamed_of_known (find?_named_map member read') found
    have compared : (compareType fs isFile settings (read t) (read' t) t).Reports () _ := ⟨ends t member, rfl⟩
    have whole : (compareType fs isFile settings (read t) (read' t) t >>= fun _ => rest).Reports n _ :=
      compared.bind logged
    rw [List.append_nil, ← spelt] at whole
    exact ⟨n, whole⟩

/-! ## Trees -/

/-- What is read of one kind of file below a directory. -/
def readBelow (fs : FileSystem) (settings : ScanSettings) (root : Path) (type : ReportType) : Registry :=
  gathered fs type (fs.filesBelow settings.excludedDirs root)

theorem sourced_readBelow (fs : FileSystem) (settings : ScanSettings) (root : Path) (type : ReportType) :
    (readBelow fs settings root type).Sourced := sourced_gathered _ _ _

theorem named_scan {settings : ScanSettings} {root : Path} {registries : List (ReportType × Registry)}
    (scan : (scanTree fs settings root).outcome = .ok registries) :
    TreeComparison.named registries =
      (ReportType.all.filter (· ∈ settings.reportTypes)).map fun t =>
        (t.name, readBelow fs settings root t) := by
  rw [scanTree_registries scan]
  exact named_map _ (readBelow fs settings root)

theorem entries_of_compareTrees {presence : Presence} {settings : Settings} {before after : Path}
    {report : Report} (run : (compareTrees fs presence settings before after).outcome = .ok report) :
    (∃ as, (scanTree fs settings.scan before).outcome = .ok as) ∧
      (∃ bs, (scanTree fs settings.scan after).outcome = .ok bs) ∧
      (∀ t ∈ ReportType.all.filter (· ∈ settings.scan.reportTypes),
        (compareType fs presence.isFile settings.analysis (readBelow fs settings.scan before t)
          (readBelow fs settings.scan after t) t).outcome = .ok ()) ∧
      report.entries = (ReportType.all.filter (· ∈ settings.scan.reportTypes)).flatMap fun t =>
        (compareType fs presence.isFile settings.analysis (readBelow fs settings.scan before t)
          (readBelow fs settings.scan after t) t).changes := by
  have body : (TreeComparison.body fs presence settings before after).outcome = .ok report := run
  unfold TreeComparison.body at body
  rw [outcome_bind_of_ok _ rfl] at body
  rw [outcome_bind] at body
  obtain ⟨as, scanBefore, body⟩ := bind_eq_ok_iff.1 body
  rw [outcome_bind] at body
  obtain ⟨bs, scanAfter, body⟩ := bind_eq_ok_iff.1 body
  rw [outcome_bind] at body
  obtain ⟨n, guarded, body⟩ := bind_eq_ok_iff.1 body
  have plain := Presence.guard_of_ok guarded
  rw [plain] at guarded body
  rw [named_scan scanBefore, named_scan scanAfter] at guarded body
  obtain ⟨ends, changes⟩ := compareRegistries_reports_iff.1 ⟨n, guarded, rfl⟩
  cases body
  exact ⟨⟨as, scanBefore⟩, ⟨bs, scanAfter⟩, ends, changes⟩

theorem compareTrees_ends {presence : Presence} (told : ∀ path, presence.fault? path = none)
    {settings : Settings} {before after : Path} {as bs : List (ReportType × Registry)}
    (scanBefore : (scanTree fs settings.scan before).outcome = .ok as)
    (scanAfter : (scanTree fs settings.scan after).outcome = .ok bs)
    (ends : ∀ t ∈ ReportType.all.filter (· ∈ settings.scan.reportTypes),
      (compareType fs presence.isFile settings.analysis (readBelow fs settings.scan before t)
        (readBelow fs settings.scan after t) t).outcome = .ok ()) :
    ∃ report, (compareTrees fs presence settings before after).outcome = .ok report := by
  obtain ⟨n, run⟩ := compareRegistries_reports_iff.2 ⟨ends, rfl⟩
  rw [← named_scan scanBefore, ← named_scan scanAfter] at run
  have guarded := Presence.guard_of_no_fault (t := compareRegistries fs presence.isFile settings.analysis 0
    (TreeComparison.named as) (TreeComparison.named bs)) fun path _ => told path
  show ∃ report, (TreeComparison.body fs presence settings before after).outcome = _
  unfold TreeComparison.body
  rw [outcome_bind_of_ok _ rfl, outcome_bind_of_ok _ scanBefore, outcome_bind_of_ok _ scanAfter, guarded,
    outcome_bind_of_ok _ run.outcome]
  exact ⟨_, rfl⟩

/-! ## Forms -/

theorem VirtualTypeComparison.domain_of_mem (isFile : String → Bool) (extension : String)
    {before after : Registry} (sourcedBefore : before.Sourced) (sourcedAfter : after.Sourced)
    {domain : String} {c : Change}
    (member : (domain, c) ∈ (compareVirtualTypes isFile extension before after).changes) :
    domain = diDomain := by
  rw [(compareVirtualTypes_reports isFile extension sourcedBefore sourcedAfter).changes] at member
  obtain ⟨moduleName, -, member⟩ := List.mem_flatMap.1 member
  obtain ⟨v, -, member⟩ := List.mem_flatMap.1 member
  obtain ⟨kind, -, same⟩ := List.mem_map.1 member
  cases same
  rfl

theorem compareType_system {before after : Registry}
    (ends : (compareType fs isFile settings before after .system).outcome = .ok ()) :
    (∃ d, (compareForms (Detector.ask fs) settings.formRules settings.detector before after).outcome =
        .ok d) ∧
      (compareType fs isFile settings before after .system).changes =
        (compareForms (Detector.ask fs) settings.formRules settings.detector before after).changes := by
  have run : (compareType fs isFile settings before after .system).Reports () _ := ⟨ends, rfl⟩
  obtain ⟨d, found, others, compared, rest, same⟩ := run.exists_of_bind
  obtain ⟨-, rfl⟩ := rest.unique (reports_pure ())
  rw [List.append_nil] at same
  exact ⟨⟨d, compared.outcome⟩, same.trans compared.changes.symm⟩

theorem mem_system_entries_iff {presence : Presence} {settings : Settings} {before after : Path}
    {report : Report} (run : (compareTrees fs presence settings before after).outcome = .ok report)
    (wanted : .system ∈ settings.scan.reportTypes) :
    (∃ d, (compareForms (Detector.ask fs) settings.analysis.formRules settings.analysis.detector
        (readBelow fs settings.scan before .system) (readBelow fs settings.scan after .system)).outcome =
          .ok d) ∧
      ∀ c, (systemDomain, c) ∈ report.entries ↔
        (systemDomain, c) ∈
          (compareForms (Detector.ask fs) settings.analysis.formRules settings.analysis.detector
            (readBelow fs settings.scan before .system)
            (readBelow fs settings.scan after .system)).changes := by
  obtain ⟨-, -, ends, entries⟩ := entries_of_compareTrees run
  have listed : ReportType.system ∈ ReportType.all.filter (· ∈ settings.scan.reportTypes) :=
    List.mem_filter.2 ⟨by decide, decide_eq_true wanted⟩
  obtain ⟨ended, changes⟩ := compareType_system (ends .system listed)
  refine ⟨ended, fun c => ?_⟩
  rw [entries, ← changes, List.mem_flatMap]
  constructor
  · rintro ⟨t, -, member⟩
    cases t with
    | system => exact member
    | di =>
      have domain := VirtualTypeComparison.domain_of_mem _ _
        (sourced_readBelow fs settings.scan before .di) (sourced_readBelow fs settings.scan after .di) member
      exact absurd domain (by decide)
  · intro member
    exact ⟨.system, listed, member⟩

end ReleaseImpact
