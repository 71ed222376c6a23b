import ReleaseImpact.Proofs.MissingFiles
import ReleaseImpact.Proofs.TreeReports

/-!
Comparisons of registries, one kind of file after the other, where each kind may be compared in whatever
way and may fail. Main statements:

- `Presence.guard_bind` and `Presence.guard_fold`: a run that may ask in vain is guarded part by part.
- `guard_compareRegistriesBy`: so a guarded comparison compares each kind under the guard.
- `reports_compareRegistriesBy`: kinds that are compared to their end report one after the other.
- `compareRegistriesBy_of_fails`: the first kind that fails ends the run.
- `compareRegistriesBy_of_missing`: a kind that the later snapshot does not have is one line in the log.
-/

namespace ReleaseImpact

open Trail

namespace Trail

variable {α β : Type}

theorem fold_append (body : β → α → Trail β) (b : β) (items others : List α) :
    fold body b (items ++ others) = fold body b items >>= fun b => fold body b others := by
  induction items generalizing b with
  | nil => exact (pure_bind b fun b => fold body b others).symm
  | cons a rest ih =>
    rw [List.cons_append, fold, fold, funext ih]
    exact (bind_assoc (body b a) (fun b => fold body b rest) fun b => fold body b others).symm

end Trail

/-! ## Guarded runs -/

namespace Presence

variable {α β : Type} (p : Presence)

theorem upToFault_append (steps others : List Step) :
    p.upToFault (steps ++ others) =
      match p.upToFault steps with
      | (told, some f) => (told, some f)
      | (told, none) => (told ++ (p.upToFault others).1, (p.upToFault others).2) := by
  induction steps with
  | nil => rfl
  | cons s rest ih =>
    rw [List.cons_append, upToFault, upToFault, ih]
    cases s.probe?.bind p.fault? with
    | some f => rfl
    | none =>
      rcases p.upToFault rest with ⟨told, _ | f⟩ <;> rfl

theorem upToFault_cases (steps : List Step) :
    (p.upToFault steps = (steps, none) ∧ ∀ path ∈ steps.filterMap Step.probe?, p.fault? path = none) ∨
      ∃ told f, p.upToFault steps = (told, some f) ∧ told <+: steps ∧
        ∃ path ∈ steps.filterMap Step.probe?, p.fault? path = some f := by
  induction steps with
  | nil => exact .inl ⟨rfl, List.forall_mem_nil _⟩
  | cons s rest ih =>
    cases asked : s.probe?.bind p.fault? with
    | some f =>
      obtain ⟨path, probe, refused⟩ := Option.bind_eq_some_iff.mp asked
      refine .inr ⟨[s], f, by simp only [upToFault, asked], ?_, path, ?_, refused⟩
      · exact (List.prefix_cons_inj s).mpr List.nil_prefix
      · exact List.mem_filterMap.mpr ⟨s, List.mem_cons_self, probe⟩
    | none =>
      rcases ih with ⟨whole, told⟩ | ⟨told, f, cut, part, path, member, refused⟩
      · refine .inl ⟨by simp only [upToFault, asked, whole], fun path member => ?_⟩
        obtain ⟨s', inside, probe⟩ := List.mem_filterMap.mp member
        rcases List.mem_cons.mp inside with rfl | later
        · rwa [probe] at asked
        · exact told path (List.mem_filterMap.mpr ⟨s', later, probe⟩)
      · refine .inr ⟨s :: told, f, by simp only [upToFault, asked, cut], ?_, path, ?_, refused⟩
        · exact (List.prefix_cons_inj s).mpr part
        · rw [List.filterMap_cons]
          split
          · exact member
          · exact List.mem_cons_of_mem _ member

/-- A guarded run is the run itself, or its steps up to a question in vain. -/
theorem guard_cases (t : Trail α) :
    (p.upToFault t.steps = (t.steps, none) ∧ p.guard t = t ∧ ∀ path ∈ t.probes, p.fault? path = none) ∨
      ∃ told f, p.upToFault t.steps = (told, some f) ∧ p.guard t = ⟨told, .error f⟩ ∧ told <+: t.steps ∧
        ∃ path ∈ t.probes, p.fault? path = some f := by
  rcases p.upToFault_cases t.steps with ⟨whole, told⟩ | ⟨told, f, cut, part, asked⟩
  · exact .inl ⟨whole, by simp only [guard, whole], told⟩
  · exact .inr ⟨told, f, cut, by simp only [guard, cut], part, asked⟩

theorem prefix_steps_guard (t : Trail α) : (p.guard t).steps <+: t.steps := by
  rcases p.guard_cases t with ⟨-, same, -⟩ | ⟨told, f, -, same, part, -⟩
  · rw [same]
  · rw [same]
    exact part

theorem guard_fails_iff {t : Trail α} :
    (∃ f, (p.guard t).outcome = .error f) ↔
      (∃ path ∈ t.probes, p.fault? path ≠ none) ∨ ∃ f, t.outcome = .error f := by
  rcases p.guard_cases t with ⟨-, same, told⟩ | ⟨told, f, -, same, -, path, member, refused⟩
  · rw [same, or_iff_right]
    rintro ⟨path, member, refused⟩
    exact refused (told path member)
  · rw [same]
    refine iff_of_true ⟨f, rfl⟩ (.inl ⟨path, member, ?_⟩)
    rw [refused]
    exact Option.some_ne_none f

theorem guard_bind (t : Trail α) (next : α → Trail β) :
    p.guard (t >>= next) = p.guard t >>= fun a => p.guard (next a) := by
  cases ended : t.outcome with
  | error f =>
    rw [bind_eq_of_error ended]
    rcases p.guard_cases t with ⟨whole, same, -⟩ | ⟨told, fault, cut, same, -⟩
    · rw [same, bind_eq_of_error ended, guard, whole]
    · rw [same, bind_eq_of_error rfl, guard, cut]
  | ok a =>
    rw [bind_eq_of_ok ended]
    rcases p.guard_cases t with ⟨whole, same, -⟩ | ⟨told, fault, cut, same, -⟩
    · rw [same, bind_eq_of_ok ended, guard, upToFault_append, whole]
      rcases p.guard_cases (next a) with ⟨whole, same, -⟩ | ⟨told, fault, cut, same, -⟩
      · rw [same, whole]
      · rw [same, cut]
    · rw [same, bind_eq_of_error rfl, guard, upToFault_append, cut]

theorem guard_fold (body : β → α → Trail β) (b : β) (items : List α) :
    p.guard (fold body b items) = fold (fun b a => p.guard (body b a)) b items := by
  induction items generalizing b with
  | nil => exact guard_of_no_fault (List.forall_mem_nil _)
  | cons a rest ih =>
    rw [fold, fold, ← funext ih]
    exact p.guard_bind (body b a) fun b => fold body b rest

end Presence

/-! ## Kinds of file in turn -/

theorem OrderedMap.find?_entries {κ α : Type} [DecidableEq κ] (m : OrderedMap κ α) (key : κ) :
    (m.entries.find? (·.1 = key)).map Prod.snd = m.get? key := by
  obtain ⟨entries, _⟩ := m
  simp only [get?]
  induction entries with
  | nil => rfl
  | cons e rest ih =>
    rw [List.find?_cons, lookup]
    by_cases same : e.1 = key
    · simp [same]
    · simpa [same] using ih (List.nodup_cons.mp ‹_›).2

namespace RegistryComparison

variable {compare : Registry → Registry → ReportType → Trail Unit} {found : Nat}
variable {before after : OrderedMap String Registry} {e : String × Registry}

/-- Compares what both snapshots have under one name, each kind of file in its own way. -/
def compareNamedBy (compare : Registry → Registry → ReportType → Trail Unit)
    (after : OrderedMap String Registry) (found : Nat) (e : String × Registry) : Trail Nat :=
  match after.get? e.1 with
  | none => do
    .log .warning logger "report_type_missing_in_after" [("report_type", .text e.1)]
    return found
  | some registryAfter =>
    match ReportType.ofName? e.1 with
    | none =>
      .fail (.problem (.unexpected "no analyzer for report type" [("report_type", .text e.1)]))
    | some type => do
      let run := compare e.2 registryAfter type
      run
      let found := found + run.changes.length
      .log .debug logger "analyzer_done"
        [("report_type", .text e.1), ("analyzer", .text (analyzerName type)),
         ("operations", .nat found)]
      return found

/-- The comparison of registries, each kind of file in its own way. -/
def compareRegistriesBy (compare : Registry → Registry → ReportType → Trail Unit) (found : Nat)
    (before : List (String × Registry)) (after : OrderedMap String Registry) : Trail Nat :=
  Trail.fold (compareNamedBy compare after) found before

/-- What is done of one name: its kind of file is compared, unless the later snapshot has nothing under the
name or the name is of no kind. -/
def part (compare : Registry → Registry → ReportType → Trail Unit) (after : OrderedMap String Registry)
    (e : String × Registry) : Trail Unit :=
  match after.get? e.1 with
  | none => .log .warning logger "report_type_missing_in_after" [("report_type", .text e.1)]
  | some registryAfter =>
    match ReportType.ofName? e.1 with
    | none => .fail (.problem (.unexpected "no analyzer for report type" [("report_type", .text e.1)]))
    | some type => compare e.2 registryAfter type

/-- What is reported of the names in a list. -/
def reportedOf (compare : Registry → Registry → ReportType → Trail Unit)
    (after : OrderedMap String Registry) (entries : List (String × Registry)) : List (String × Change) :=
  entries.flatMap fun e => (part compare after e).changes

theorem compareRegistries_eq_by (fs : FileSystem) (isFile : String → Bool) (settings : AnalysisSettings)
    (found : Nat) (before : List (String × Registry)) (after : OrderedMap String Registry) :
    compareRegistries fs isFile settings found before after.entries =
      compareRegistriesBy (compareType fs isFile settings) found before after := by
  have named : compareNamed fs isFile settings after.entries =
      compareNamedBy (compareType fs isFile settings) after := by
    funext found e
    have looked := OrderedMap.find?_entries after e.1
    cases shared : after.get? e.1 with
    | none => simp only [compareNamed, compareNamedBy, looked, shared]
    | some registryAfter =>
      cases known : ReportType.ofName? e.1 <;>
        simp only [compareNamed, compareNamedBy, looked, shared, known]
  rw [compareRegistries, named, compareRegistriesBy]

theorem guard_compareRegistriesBy (p : Presence)
    (compare : Registry → Registry → ReportType → Trail Unit) (found : Nat)
    (before : List (String × Registry)) (after : OrderedMap String Registry) :
    p.guard (compareRegistriesBy compare found before after) =
      compareRegistriesBy (fun b a t => p.guard (compare b a t)) found before after := by
  have named (found : Nat) (e : String × Registry) :
      p.guard (compareNamedBy compare after found e) =
        compareNamedBy (fun b a t => p.guard (compare b a t)) after found e := by
    unfold compareNamedBy
    cases after.get? e.1 with
    | none => exact Presence.guard_of_no_fault (List.forall_mem_nil _)
    | some registryAfter =>
      cases ReportType.ofName? e.1 with
      | none => exact Presence.guard_of_no_fault (List.forall_mem_nil _)
      | some type =>
        dsimp only
        rw [p.guard_bind]
        cases ends : (p.guard (compare e.2 registryAfter type)).outcome with
        | error f => rw [bind_eq_of_error ends, bind_eq_of_error ends]
        | ok u =>
          rw [Presence.guard_of_ok ends]
          refine congrArg (_ >>= ·) (funext fun _ => ?_)
          exact Presence.guard_of_no_fault (List.forall_mem_nil _)
  rw [compareRegistriesBy, p.guard_fold, compareRegistriesBy]
  simp only [named]

/-! ## One name -/

theorem ofName?_eq_some_iff {name : String} {type : ReportType} :
    ReportType.ofName? name = some type ↔ type.name = name := by
  constructor
  · intro known
    rw [ReportType.ofName?] at known
    simpa using List.find?_some known
  · rintro rfl
    exact ReportType.ofName?_name type

theorem ofName?_eq_none_iff {name : String} :
    ReportType.ofName? name = none ↔ ∀ type : ReportType, type.name ≠ name := by
  constructor
  · intro unknown type known
    rw [ofName?_eq_some_iff.mpr known] at unknown
    cases unknown
  · intro unknown
    cases known : ReportType.ofName? name with
    | none => rfl
    | some type => exact absurd (ofName?_eq_some_iff.mp known) (unknown type)

theorem part_of_missing (missing : after.get? e.1 = none) :
    part compare after e =
      .log .warning logger "report_type_missing_in_after" [("report_type", .text e.1)] := by
  simp only [part, missing]

theorem part_of_unknown {registryAfter : Registry} (shared : after.get? e.1 = some registryAfter)
    (unknown : ReportType.ofName? e.1 = none) :
    part compare after e =
      .fail (.problem (.unexpected "no analyzer for report type" [("report_type", .text e.1)])) := by
  simp only [part, shared, unknown]

theorem part_of_known {registryAfter : Registry} {type : ReportType}
    (shared : after.get? e.1 = some registryAfter) (known : ReportType.ofName? e.1 = some type) :
    part compare after e = compare e.2 registryAfter type := by
  simp only [part, shared, known]

/-- After its part, a name adds no more than a line in the log. -/
theorem exists_compareNamedBy_eq (compare : Registry → Registry → ReportType → Trail Unit)
    (after : OrderedMap String Registry) (found : Nat) (e : String × Registry) :
    ∃ rest : Trail Nat, compareNamedBy compare after found e = (part compare after e >>= fun _ => rest) ∧
      rest.Reports (found + (part compare after e).changes.length) [] := by
  cases shared : after.get? e.1 with
  | none =>
    simp only [part_of_missing shared, compareNamedBy, shared]
    exact ⟨_, rfl, reports_pure _⟩
  | some registryAfter =>
    cases kind : ReportType.ofName? e.1 with
    | none =>
      simp only [part_of_unknown shared kind, compareNamedBy, shared, kind]
      exact ⟨_, rfl, reports_pure _⟩
    | some type =>
      simp only [part_of_known shared kind, compareNamedBy, shared, kind]
      exact ⟨_, rfl, (reports_log ..).bind_return _⟩

theorem compareNamedBy_reports (ends : (part compare after e).outcome = .ok ()) (found : Nat) :
    (compareNamedBy compare after found e).Reports (found + (part compare after e).changes.length)
      (part compare after e).changes := by
  obtain ⟨rest, spelt, logged⟩ := exists_compareNamedBy_eq compare after found e
  have compared : (part compare after e).Reports () (part compare after e).changes := ⟨ends, rfl⟩
  have whole : (part compare after e >>= fun _ => rest).Reports _ _ := compared.bind logged
  rwa [List.append_nil, ← spelt] at whole

theorem compareNamedBy_of_fails {f : Failure} (fails : (part compare after e).outcome = .error f)
    (found : Nat) :
    compareNamedBy compare after found e = ⟨(part compare after e).steps, .error f⟩ := by
  obtain ⟨rest, spelt, -⟩ := exists_compareNamedBy_eq compare after found e
  rw [spelt, bind_eq_of_error fails]

/-! ## All names -/

theorem reports_compareRegistriesBy {first : List (String × Registry)}
    (ends : ∀ e ∈ first, (part compare after e).outcome = .ok ()) (found : Nat) :
    (compareRegistriesBy compare found first after).Reports
      (found + (reportedOf compare after first).length) (reportedOf compare after first) := by
  induction first generalizing found with
  | nil => exact reports_pure found
  | cons e rest ih =>
    obtain ⟨here, later⟩ := List.forall_mem_cons.mp ends
    rw [reportedOf, List.flatMap_cons, List.length_append, ← Nat.add_assoc]
    exact (compareNamedBy_reports here found).bind (ih later _)

theorem compareRegistriesBy_of_fails {first : List (String × Registry)}
    (ends : ∀ e ∈ first, (part compare after e).outcome = .ok ()) {f : Failure}
    (fails : (part compare after e).outcome = .error f) (rest : List (String × Registry)) (found : Nat) :
    (compareRegistriesBy compare found (first ++ e :: rest) after).outcome = .error f ∧
      (compareRegistriesBy compare found (first ++ e :: rest) after).changes =
        reportedOf compare after first ++ (part compare after e).changes := by
  have earlier := reports_compareRegistriesBy ends found
  have stopped (found : Nat) : compareRegistriesBy compare found (e :: rest) after =
      ⟨(part compare after e).steps, .error f⟩ := by
    show compareNamedBy compare after found e >>= _ = _
    rw [compareNamedBy_of_fails fails, bind_eq_of_error rfl]
  have whole : compareRegistriesBy compare found (first ++ e :: rest) after = _ :=
    (fold_append _ found first (e :: rest)).trans (bind_eq_of_ok earlier.outcome _)
  rw [whole]
  refine ⟨congrArg Trail.outcome (stopped _), ?_⟩
  show List.filterMap _ (_ ++ (compareRegistriesBy compare _ (e :: rest) after).steps) = _
  rw [stopped, List.filterMap_append]
  exact congrArg (· ++ _) earlier.changes

theorem exists_first_fails (compare : Registry → Registry → ReportType → Trail Unit)
    (after : OrderedMap String Registry) (entries : List (String × Registry)) :
    (∀ e ∈ entries, (part compare after e).outcome = .ok ()) ∨
      ∃ first e rest f, entries = first ++ e :: rest ∧
        (∀ x ∈ first, (part compare after x).outcome = .ok ()) ∧
        (part compare after e).outcome = .error f := by
  induction entries with
  | nil => exact .inl (List.forall_mem_nil _)
  | cons e rest ih =>
    cases here : (part compare after e).outcome with
    | error f => exact .inr ⟨[], e, rest, f, rfl, List.forall_mem_nil _, here⟩
    | ok u =>
      rcases ih with all | ⟨first, x, rest, f, rfl, ends, fails⟩
      · exact .inl (List.forall_mem_cons.mpr ⟨here, all⟩)
      · exact .inr ⟨e :: first, x, rest, f, rfl, List.forall_mem_cons.mpr ⟨here, ends⟩, fails⟩

/-- What is reported, and whether the run ends, does not depend on how much was found before. -/
theorem compareRegistriesBy_found (compare : Registry → Registry → ReportType → Trail Unit)
    (after : OrderedMap String Registry) (entries : List (String × Registry)) (found found' : Nat) :
    (compareRegistriesBy compare found entries after).changes =
        (compareRegistriesBy compare found' entries after).changes ∧
      ∀ f, (compareRegistriesBy compare found entries after).outcome = .error f →
        (compareRegistriesBy compare found' entries after).outcome = .error f := by
  rcases exists_first_fails compare after entries with ends | ⟨first, e, rest, f, rfl, ends, fails⟩
  · have one := reports_compareRegistriesBy ends found
    have two := reports_compareRegistriesBy ends found'
    refine ⟨one.changes.trans two.changes.symm, fun f fails => ?_⟩
    cases one.outcome.symm.trans fails
  · obtain ⟨outcome, changes⟩ := compareRegistriesBy_of_fails ends fails rest found
    obtain ⟨outcome', changes'⟩ := compareRegistriesBy_of_fails ends fails rest found'
    refine ⟨changes.trans changes'.symm, fun f fails => ?_⟩
    rw [outcome] at fails
    rw [outcome', fails]

theorem compareRegistriesBy_append (compare : Registry → Registry → ReportType → Trail Unit)
    (after : OrderedMap String Registry) (found : Nat) (first rest : List (String × Registry)) :
    compareRegistriesBy compare found (first ++ rest) after =
      compareRegistriesBy compare found first after >>= fun found =>
        compareRegistriesBy compare found rest after := fold_append _ found first rest

/-- The line in the log on a kind of file that the later snapshot does not have. -/
def missingLine (name : String) : Event :=
  ⟨.warning, logger, "report_type_missing_in_after", [("report_type", .text name)]⟩

theorem compareRegistriesBy_of_missing (compare : Registry → Registry → ReportType → Trail Unit)
    (missing : after.get? e.1 = none) (found : Nat) (first rest : List (String × Registry)) :
    let whole := compareRegistriesBy compare found (first ++ e :: rest) after
    let without := compareRegistriesBy compare found (first ++ rest) after
    whole.outcome = without.outcome ∧ whole.changes = without.changes ∧
      ((∃ f, without.outcome = .error f) ∧ whole = without ∨
        ∃ earlier later, without.steps = earlier ++ later ∧
          whole.steps = earlier ++ .event (missingLine e.1) :: later) := by
  intro whole without
  have named (found : Nat) : compareRegistriesBy compare found (e :: rest) after =
      ⟨.event (missingLine e.1) :: (compareRegistriesBy compare found rest after).steps,
        (compareRegistriesBy compare found rest after).outcome⟩ := by
    have line : compareNamedBy compare after found e = ⟨[.event (missingLine e.1)], .ok found⟩ := by
      simp only [compareNamedBy, missing]
      rfl
    show compareNamedBy compare after found e >>= _ = _
    rw [line, bind_eq_of_ok rfl]
    rfl
  cases earlier : (compareRegistriesBy compare found first after).outcome with
  | error f =>
    have same : whole = without := by
      rw [show whole = _ from compareRegistriesBy_append .., bind_eq_of_error earlier,
        show without = _ from compareRegistriesBy_append .., bind_eq_of_error earlier]
    rw [same]
    refine ⟨rfl, rfl, .inl ⟨⟨f, ?_⟩, rfl⟩⟩
    rw [show without = _ from compareRegistriesBy_append .., bind_eq_of_error earlier]
  | ok n =>
    rw [show whole = _ from compareRegistriesBy_append .., bind_eq_of_ok earlier,
      show without = _ from compareRegistriesBy_append .., bind_eq_of_ok earlier, named]
    refine ⟨rfl, ?_, .inr ⟨_, _, rfl, rfl⟩⟩
    show List.filterMap _ (_ ++ _) = List.filterMap _ (_ ++ _)
    rw [List.filterMap_append, List.filterMap_append, List.filterMap_cons_none rfl]

end RegistryComparison

end ReleaseImpact
