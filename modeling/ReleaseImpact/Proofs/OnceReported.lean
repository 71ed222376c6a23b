import ReleaseImpact.Proofs.RegistryRuns

/-!
No change is reported twice. Each part of a comparison has changes of its own: those of a file, of a module,
of a node, of a property. Detectors and tests for class files may be any and may fail. Main statements:

- `Owns.bind` and `owns_fold`: runs whose parts have changes of their own report each of them once.
- `owns_compareForms` and `owns_compareVirtualTypesBy`: what the comparisons report, once each.
- `changes_reported_once`: a run over all kinds of file reports no change twice.
-/

namespace ReleaseImpact

namespace Trail

variable {α β : Type} {own other : String × Change → Prop}

/-- The run reports no change twice, and none but its own. -/
structure Owns (own : String × Change → Prop) (t : Trail α) : Prop where
  nodup : t.changes.Nodup
  owned : ∀ c ∈ t.changes, own c

theorem owns_of_silent {t : Trail α} (silent : t.changes = []) : Owns own t where
  nodup := by simp [silent]
  owned := by simp [silent]

theorem owns_pure (a : α) : Owns own (pure a : Trail α) := owns_of_silent rfl

theorem owns_log (level : Level) (logger message : String) (fields : List (String × Value)) :
    Owns own (log level logger message fields) := owns_of_silent rfl

theorem owns_report {domain : String} {c : Change} (mine : own (domain, c)) :
    Owns own (report domain c) where
  nodup := List.nodup_singleton _
  owned := List.forall_mem_singleton.mpr mine

theorem Owns.imp {t : Trail α} (owns : Owns own t) (wider : ∀ c, own c → other c) : Owns other t where
  nodup := owns.nodup
  owned c member := wider c (owns.owned c member)

theorem changes_bind_of_ok {t : Trail α} {a : α} (next : α → Trail β) (ends : t.outcome = .ok a) :
    (t >>= next).changes = t.changes ++ (next a).changes := by
  rw [changes, steps_bind_of_ok next ends, List.filterMap_append]
  rfl

theorem Owns.bind {t : Trail α} {next : α → Trail β} (first : Owns own t)
    (rest : ∀ a, t.outcome = .ok a → Owns other (next a)) (apart : ∀ c, own c → ¬other c) :
    Owns (fun c => own c ∨ other c) (t >>= next) := by
  cases outcome : t.outcome with
  | error f =>
    rw [bind_eq_of_error outcome]
    exact ⟨first.nodup, fun c member => .inl (first.owned c member)⟩
  | ok a =>
    have later := rest a outcome
    constructor
    · rw [changes_bind_of_ok next outcome]
      refine List.nodup_append'.mpr ⟨first.nodup, later.nodup, fun c here there => ?_⟩
      exact apart c (first.owned c here) (later.owned c there)
    · intro c member
      rw [changes_bind_of_ok next outcome] at member
      exact (List.mem_append.mp member).imp (first.owned c) (later.owned c)

theorem Owns.bind_silent {t : Trail α} {next : α → Trail β} (silent : t.changes = [])
    (rest : ∀ a, t.outcome = .ok a → Owns own (next a)) : Owns own (t >>= next) := by
  have first : Owns (fun _ => False) t := owns_of_silent silent
  exact (first.bind rest fun _ => False.elim).imp fun _ => (·.resolve_left id)

theorem Owns.bind_return {t : Trail α} (first : Owns own t) (next : α → β) :
    Owns own (t >>= fun a => pure (next a)) := by
  have rest : ∀ a, t.outcome = .ok a → Owns (fun _ => False) (pure (next a)) := fun _ _ => owns_pure _
  exact (first.bind rest fun _ _ => id).imp fun _ => (·.resolve_right id)

theorem owns_fold {items : List α} {body : β → α → Trail β} (own : α → String × Change → Prop)
    (each : ∀ a ∈ items, ∀ b, Owns (own a) (body b a))
    (apart : items.Pairwise fun a a' => ∀ c, own a c → ¬own a' c) (b : β) :
    Owns (fun c => ∃ a ∈ items, own a c) (fold body b items) := by
  induction items generalizing b with
  | nil => exact owns_pure b
  | cons a rest ih =>
    obtain ⟨here, later⟩ := List.forall_mem_cons.mp each
    obtain ⟨others, apart⟩ := List.pairwise_cons.mp apart
    have whole := (here b).bind (fun b _ => ih later apart b) fun c mine => by
      rintro ⟨a', member, its⟩
      exact others a' member c mine its
    refine whole.imp fun c => ?_
    rintro (mine | ⟨a', member, its⟩)
    · exact ⟨a, List.mem_cons_self, mine⟩
    · exact ⟨a', List.mem_cons_of_mem a member, its⟩

theorem owns_each {items : List α} {body : α → Trail Unit} (own : α → String × Change → Prop)
    (each : ∀ a ∈ items, Owns (own a) (body a))
    (apart : items.Pairwise fun a a' => ∀ c, own a c → ¬own a' c) :
    Owns (fun c => ∃ a ∈ items, own a c) (Trail.each items body) := by
  rw [← fold_unit body items ()]
  exact owns_fold own (fun a member _ => each a member) apart ()

end Trail

open Trail Registry

namespace Registry

/-- No two modules have one source file. -/
def OwnFiles (r : Registry) : Prop :=
  ∀ m ∈ r.modules, ∀ m' ∈ r.modules, r.files.get? m ≠ none → r.files.get? m = r.files.get? m' → m = m'

instance (r : Registry) : Decidable r.OwnFiles :=
  inferInstanceAs (Decidable (∀ m ∈ r.modules, ∀ m' ∈ r.modules, _))

theorem OwnFiles.module_eq {r : Registry} (ownFiles : r.OwnFiles) {m m' file : String}
    (member : m ∈ r.modules) (member' : m' ∈ r.modules) (here : r.files.get? m = some file)
    (there : r.files.get? m' = some file) : m = m' := by
  refine ownFiles m member m' member' ?_ (here.trans there.symm)
  rw [here]
  exact Option.some_ne_none file

theorem get?_files_of_sourceFile {r : Registry} {m file : String} (found : r.sourceFile m = .ok file) :
    r.files.get? m = some file := by
  unfold sourceFile at found
  split at found
  · next file' known =>
    cases found
    exact known
  · cases found

end Registry

/-! ## Forms -/

namespace FormComparison

variable {δ : Type} (ask : δ → Inquiry → Reply δ) (rules : FormRules) {before after : Registry}

/-- The kind of node that a change is about. -/
def nodeKind? : ChangeKind → Option Kind
  | .sectionAdded => some .configSection
  | .sectionRemoved => some .configSection
  | .groupAdded => some .configGroup
  | .groupRemoved => some .configGroup
  | .fieldAdded => some .configField
  | .fieldRemoved => some .configField
  | .duplicateFieldAdded => some .configField
  | _ => none

/-- A change of a node in a file. -/
structure IsOfNode (file : String) (n : Node) (c : String × Change) : Prop where
  domain : c.1 = systemDomain
  kind : nodeKind? c.2.kind = some n.kind
  location : c.2.location = file
  target : c.2.target = n.path

theorem key_eq_of_isOfNode {file : String} {n n' : Node} {c : String × Change} (one : IsOfNode file n c)
    (two : IsOfNode file n' c) : n.key = n'.key := by
  have kinds : n.kind = n'.kind := Option.some.inj (one.kind.symm.trans two.kind)
  have form : n.kind ≠ .virtualType := by
    intro virtual
    have kind := one.kind
    rw [virtual] at kind
    cases same : c.2.kind <;> simp [same, nodeKind?] at kind
  exact (Node.key_eq_iff_path_eq kinds form).mpr (one.target.symm.trans two.target)

theorem apart_missingNodes (r other : Registry) (m file : String) :
    (missingNodes r other m).Pairwise fun n n' => ∀ c, IsOfNode file n c → ¬IsOfNode file n' c := by
  have keys : ((r.nodesOf m).map Node.key).Nodup := by
    rw [← keys_bucket]
    exact (r.bucket m).nodup_keys
  refine ((List.pairwise_map.mp keys).filter _).imp fun other c one two => ?_
  exact other (key_eq_of_isOfNode one two)

theorem removed?_tells {k : Kind} {kind : ChangeKind} (h : ChangeKind.removed? k = some kind) :
    IsRemoval kind ∧ nodeKind? kind = some k := by
  cases k <;> cases h <;> simp [IsRemoval, nodeKind?]

theorem added?_tells {k : Kind} {kind : ChangeKind} (h : ChangeKind.added? k = some kind) :
    IsAddition kind ∧ nodeKind? kind = some k := by
  cases k <;> cases h <;> simp [IsAddition, nodeKind?]

theorem duplicated?_tells {k : Kind} {kind : ChangeKind} (h : ChangeKind.duplicated? k = some kind) :
    IsAddition kind ∧ nodeKind? kind = some k := by
  cases k <;> cases h
  simp [IsAddition, nodeKind?]

theorem owns_reportNode {kind? : Kind → Option ChangeKind} {P : ChangeKind → Prop}
    (tells : ∀ k kind, kind? k = some kind → P kind ∧ nodeKind? kind = some k) (n : Node) (file : String) :
    Owns (fun c => P c.2.kind ∧ IsOfNode file n c) (reportNode kind? n file) := by
  unfold reportNode
  cases known : kind? n.kind with
  | none => exact owns_pure ()
  | some kind =>
    obtain ⟨holds, node⟩ := tells n.kind kind known
    exact owns_report ⟨holds, rfl, node, rfl, rfl⟩

theorem owns_added (n : Node) (file : String) :
    Owns (fun c => IsAddition c.2.kind ∧ IsOfNode file n c) (reportNode ChangeKind.added? n file) :=
  owns_reportNode (fun _ _ => added?_tells) n file

theorem owns_judge (n : Node) (file : String) (v : Verdict) :
    Owns (fun c => IsAddition c.2.kind ∧ IsOfNode file n c) (judge n file v) := by
  unfold judge
  split
  · exact owns_log ..
  · split
    · next kind duplicated =>
      obtain ⟨addition, node⟩ := duplicated?_tells duplicated
      exact owns_report ⟨addition, rfl, node, rfl, rfl⟩
    · exact owns_log ..
  · exact owns_added n file

theorem changes_events (events : List Event) :
    (Trail.each events fun e => step (.event e)).changes = [] := by
  have silent := (reports_each fun e (_ : e ∈ events) => reports_step (s := .event e) rfl).changes
  rwa [List.flatMap_eq_nil_iff.mpr fun _ _ => rfl] at silent

theorem owns_compareAdded (lookUp : Bool) (existing : Nodes) (file : String) (d : δ) (n : Node) :
    Owns (fun c => IsAddition c.2.kind ∧ IsOfNode file n c)
      (compareAdded ask lookUp existing file d n) := by
  unfold compareAdded
  split
  · exact owns_pure d
  split
  · exact (owns_added n file).bind_return fun _ => d
  split
  · exact Owns.bind_silent rfl fun _ _ => owns_pure d
  · refine Owns.bind_silent rfl fun _ _ => Owns.bind_silent (changes_events _) fun _ _ => ?_
    exact Owns.bind_silent rfl fun v _ => (owns_judge n file v).bind_return fun _ => _

theorem owns_reportLost (before after : Registry) (m : String) :
    Owns (fun c => c.1 = systemDomain ∧ IsRemoval c.2.kind ∧ before.files.get? m = some c.2.location)
      (reportLost before m (KeyMatch.ofKeys (before.bucket m).keys (after.bucket m).keys).removed) := by
  unfold reportLost
  split
  · exact owns_pure ()
  · refine Owns.bind_silent rfl fun file found => ?_
    have removed := missing_keys before after m
    simp only [KeyMatch.ofKeys]
    rw [removed]
    have whole := owns_each (fun n c => IsRemoval c.2.kind ∧ IsOfNode file n c)
      (fun n (_ : n ∈ missingNodes before after m) => owns_reportNode (fun _ _ => removed?_tells) n file)
      ((apart_missingNodes before after m file).imp fun apart c one two => apart c one.2 two.2)
    refine whole.imp ?_
    rintro c ⟨n, -, removal, node⟩
    exact ⟨node.domain, removal, node.location ▸ get?_files_of_sourceFile found⟩

theorem owns_compareGained (before after : Registry) (d : δ) (m : String) :
    Owns (fun c => c.1 = systemDomain ∧ IsAddition c.2.kind ∧ after.files.get? m = some c.2.location)
      (compareGained ask rules before after d m
        (KeyMatch.ofKeys (before.bucket m).keys (after.bucket m).keys).added) := by
  unfold compareGained
  split
  · exact owns_pure d
  · refine Owns.bind_silent rfl fun file found => ?_
    have added := missing_keys after before m
    simp only [KeyMatch.ofKeys]
    rw [added]
    have whole := owns_fold (fun n c => IsAddition c.2.kind ∧ IsOfNode file n c)
      (fun n (_ : n ∈ missingNodes after before m) d =>
        owns_compareAdded ask (looksUp rules file) (before.bucket m) file d n)
      ((apart_missingNodes after before m file).imp fun apart c one two => apart c one.2 two.2) d
    refine whole.imp ?_
    rintro c ⟨n, -, addition, node⟩
    exact ⟨node.domain, addition, node.location ▸ get?_files_of_sourceFile found⟩

/-- The changes of the nodes of a module that both snapshots have. -/
def IsOfModule (before after : Registry) (m : String) (c : String × Change) : Prop :=
  c.1 = systemDomain ∧ IsRemoval c.2.kind ∧ before.files.get? m = some c.2.location ∨
    c.1 = systemDomain ∧ IsAddition c.2.kind ∧ after.files.get? m = some c.2.location

theorem owns_compareModule (before after : Registry) (d : δ) (m : String) :
    Owns (IsOfModule before after m)
      (compareModule ask rules before after d
        (m, .ofKeys (before.bucket m).keys (after.bucket m).keys)) := by
  rw [compareModule_eq_parts]
  refine (owns_reportLost before after m).bind (fun _ _ => owns_compareGained ask rules before after d m) ?_
  rintro c ⟨-, removal, -⟩ ⟨-, addition, -⟩
  exact not_isAddition_of_isRemoval removal addition

theorem apart_modules (ownBefore : before.OwnFiles) (ownAfter : after.OwnFiles) :
    (changedModules before after).Pairwise fun m m' =>
      ∀ c, IsOfModule before after m c → ¬IsOfModule before after m' c := by
  have distinct : (changedModules before after).Nodup := (before.nodes.nodup_keys.filter _).filter _
  refine distinct.pairwise_of_forall_ne fun m member m' member' other c => ?_
  obtain ⟨inBefore, inAfter⟩ := mem_of_mem_changed member
  obtain ⟨inBefore', inAfter'⟩ := mem_of_mem_changed member'
  rintro (⟨-, removal, here⟩ | ⟨-, addition, here⟩) (⟨-, removal', there⟩ | ⟨-, addition', there⟩)
  · exact other (ownBefore.module_eq inBefore inBefore' here there)
  · exact not_isAddition_of_isRemoval removal addition'
  · exact not_isAddition_of_isRemoval removal' addition
  · exact other (ownAfter.module_eq inAfter inAfter' here there)

theorem owns_reportFiles (kind : ChangeKind) {r : Registry} (ownFiles : r.OwnFiles)
    (dropped : String → Bool) :
    Owns (fun c => c.1 = systemDomain ∧ c.2.kind = kind)
      (reportFiles kind rules r (r.modules.filter dropped)) := by
  have distinct : (r.modules.filter dropped).Nodup := r.nodes.nodup_keys.filter _
  let own (m : String) (c : String × Change) : Prop :=
    r.files.get? m = some c.2.location ∧ c.1 = systemDomain ∧ c.2.kind = kind
  have apart : (r.modules.filter dropped).Pairwise fun m m' => ∀ c, own m c → ¬own m' c := by
    refine distinct.pairwise_of_forall_ne fun m member m' member' other c here there => other ?_
    have inside := (List.mem_filter.mp member).1
    have inside' := (List.mem_filter.mp member').1
    exact ownFiles.module_eq inside inside' here.1 there.1
  refine (owns_each own (fun m _ => Owns.bind_silent rfl fun file found => ?_) apart).imp ?_
  · exact owns_report ⟨get?_files_of_sourceFile found, rfl, rfl⟩
  · rintro c ⟨m, -, -, changed⟩
    exact changed

theorem IsOfModule.domain {m : String} {c : String × Change} (changed : IsOfModule before after m c) :
    c.1 = systemDomain := changed.elim And.left And.left

theorem IsOfModule.not_file {m : String} {c : String × Change} (changed : IsOfModule before after m c) :
    c.2.kind ≠ .fileAdded ∧ c.2.kind ≠ .fileRemoved := by
  rcases changed with ⟨-, kind | kind | kind, -⟩ | ⟨-, kind | kind | kind | kind, -⟩ <;> simp [kind]

theorem owns_compareForms (d : δ) (ownBefore : before.OwnFiles) (ownAfter : after.OwnFiles) :
    Owns (fun c => c.1 = systemDomain) (compareForms ask rules d before after) := by
  rw [compareForms_eq]
  split
  · exact owns_pure d
  have added := owns_reportFiles rules .fileAdded ownAfter (· ∉ before.modules)
  have removed := owns_reportFiles rules .fileRemoved ownBefore (· ∉ after.modules)
  have nodes := owns_fold (IsOfModule before after)
    (fun m _ d => owns_compareModule ask rules before after d m) (apart_modules ownBefore ownAfter) d
  have later := removed.bind (fun _ _ => nodes) fun c => by
    rintro ⟨-, kind⟩ ⟨m, -, changed⟩
    exact changed.not_file.2 kind
  have whole := added.bind (fun _ _ => later) fun c => by
    rintro ⟨-, kind⟩ (⟨-, kind'⟩ | ⟨m, -, changed⟩)
    · cases kind.symm.trans kind'
    · exact changed.not_file.1 kind
  refine whole.imp ?_
  rintro c (⟨domain, -⟩ | ⟨domain, -⟩ | ⟨m, -, changed⟩)
  · exact domain
  · exact domain
  · exact changed.domain

end FormComparison

/-! ## Virtual types -/

namespace VirtualTypeComparison

variable {σ : Type} (test : FileTest σ) (extension : String) {before after : Registry}

/-- A change of a virtual type in a file. -/
def IsOfType (file name : String) (c : String × Change) : Prop :=
  c.1 = diDomain ∧ c.2.location = file ∧ c.2.target = name

theorem owns_reportChanged (v w : VirtualType) (file : String) :
    Owns (IsOfType file v.name) (reportChanged v w file) := by
  have distinct : (changedProperties v w).Nodup := (changedProperties_sublist v w).nodup (by decide)
  let own (property : String) (c : String × Change) : Prop :=
    c = (diDomain, ⟨.virtualTypeChanged property, file, v.name⟩)
  have apart : (changedProperties v w).Pairwise fun p p' => ∀ c, own p c → ¬own p' c := by
    refine distinct.imp fun other c one two => ?_
    cases one.symm.trans two
    exact other rfl
  refine (owns_each own (fun property _ => Owns.bind_silent rfl fun _ _ => owns_report rfl) apart).imp ?_
  rintro c ⟨property, -, rfl⟩
  exact ⟨rfl, rfl, rfl⟩

theorem owns_reportGone (isFile : String → Bool) (v : VirtualType) (fileBefore fileAfter : String) :
    Owns (IsOfType fileBefore v.name) (reportGone isFile extension v fileBefore fileAfter) := by
  unfold reportGone
  dsimp only
  split
  · exact Owns.bind_silent rfl fun _ _ => owns_report ⟨rfl, rfl, rfl⟩
  · refine Owns.bind_silent rfl fun _ _ => owns_report ?_
    split <;> exact ⟨rfl, rfl, rfl⟩

theorem owns_compareType (isFile : String → Bool) (index : Index) (moduleName : String)
    (typesAfter : OrderedMap String VirtualType) (fileBefore fileAfter : String) (v : VirtualType) :
    Owns (IsOfType fileBefore v.name)
      (compareType isFile extension index moduleName typesAfter fileBefore fileAfter v) := by
  unfold compareType
  split
  · split
    · exact owns_pure ()
    · exact owns_reportChanged ..
  · split
    · exact Owns.bind_silent rfl fun _ _ => owns_reportChanged ..
    · exact owns_reportGone ..

theorem apart_types (r : Registry) (moduleName file : String) :
    (r.typesOf moduleName).Pairwise fun v w => ∀ c, IsOfType file v.name c → ¬IsOfType file w.name c := by
  have names : (r.types moduleName).keys = (r.typesOf moduleName).map VirtualType.name := by
    rw [← values_types]
    exact OrderedMap.keys_eq_map_values (r.named_types moduleName)
  have distinct : ((r.typesOf moduleName).map VirtualType.name).Nodup := by
    rw [← names]
    exact (r.types moduleName).nodup_keys
  refine (List.pairwise_map.mp distinct).imp fun other c one two => ?_
  exact other (one.2.2.symm.trans two.2.2)

theorem owns_compareModuleBy (index : Index) (s : σ) (m : String) :
    Owns (fun c => c.1 = diDomain ∧ before.files.get? m = some c.2.location)
      (compareModuleBy test extension before after index s (m, before.types m)) := by
  unfold compareModuleBy
  split
  · exact owns_pure s
  · refine Owns.bind_silent rfl fun file found => Owns.bind_silent rfl fun fileAfter _ => ?_
    dsimp only
    rw [values_types]
    refine (owns_fold (fun v => IsOfType file v.name) (fun v _ s => ?_) (apart_types before m file) s).imp ?_
    · exact (owns_compareType ..).bind_return _
    · rintro c ⟨v, -, changed⟩
      exact ⟨changed.1, changed.2.1 ▸ get?_files_of_sourceFile found⟩

theorem owns_compareVirtualTypesBy (s : σ) (after : Registry) (ownFiles : before.OwnFiles) :
    Owns (fun c => c.1 = diDomain) (compareVirtualTypesBy test extension s before after) := by
  unfold compareVirtualTypesBy
  dsimp only
  split
  · exact owns_pure s
  rw [entries_index, fold_map]
  let own (m : String) (c : String × Change) : Prop :=
    c.1 = diDomain ∧ before.files.get? m = some c.2.location
  have apart : before.modules.Pairwise fun m m' => ∀ c, own m c → ¬own m' c :=
    before.nodes.nodup_keys.pairwise_of_forall_ne fun m member m' member' other c here there =>
      other (ownFiles.module_eq member member' here.2 there.2)
  refine (owns_fold own (fun m _ s => owns_compareModuleBy test extension _ s m) apart s).imp ?_
  rintro c ⟨m, -, changed⟩
  exact changed.1

end VirtualTypeComparison

/-! ## All kinds of file -/

open FormComparison VirtualTypeComparison RegistryComparison

/-- How kinds of file are compared: forms with a detector, virtual types with a test for class files. Both
may remember what they were asked. -/
structure Means (δ σ : Type) where
  ask : δ → Inquiry → Reply δ
  rules : FormRules
  detector : δ
  test : FileTest σ
  extension : String
  memory : σ

namespace Means

variable {δ σ : Type}

def compareType (means : Means δ σ) (before after : Registry) : ReportType → Trail Unit
  | .di => do
    let _ ← compareVirtualTypesBy means.test means.extension means.memory before after
  | .system => do
    let _ ← compareForms means.ask means.rules means.detector before after

def ofSettings (fs : FileSystem) (settings : AnalysisSettings) (isFile : String → Bool) :
    Means Detector Unit :=
  ⟨Detector.ask fs, settings.formRules, settings.detector, .ofFunction isFile,
    settings.classFileExtension, ()⟩

theorem compareType_ofSettings (fs : FileSystem) (settings : AnalysisSettings) (isFile : String → Bool)
    (before after : Registry) (type : ReportType) :
    (ofSettings fs settings isFile).compareType before after type =
      RegistryComparison.compareType fs isFile settings before after type := by
  cases type with
  | di =>
    simp only [compareType, ofSettings, compareVirtualTypesBy_of_function, RegistryComparison.compareType]
    exact bind_pure _
  | system => rfl

theorem owns_compareType (means : Means δ σ) {before after : Registry} (ownBefore : before.OwnFiles)
    (ownAfter : after.OwnFiles) (type : ReportType) :
    Owns (fun c => c.1 = type.name) (means.compareType before after type) := by
  cases type with
  | di => exact (owns_compareVirtualTypesBy _ _ _ after ownBefore).bind_return _
  | system => exact (owns_compareForms _ _ _ ownBefore ownAfter).bind_return _

end Means

namespace RegistryComparison

variable {compare : Registry → Registry → ReportType → Trail Unit}
variable {before after : OrderedMap String Registry}

theorem owns_part {e : String × Registry}
    (each : ∀ registryAfter type, after.get? e.1 = some registryAfter →
      Owns (fun c => c.1 = type.name) (compare e.2 registryAfter type)) :
    Owns (fun c => c.1 = e.1) (part compare after e) := by
  cases shared : after.get? e.1 with
  | none =>
    rw [part_of_missing shared]
    exact owns_log ..
  | some registryAfter =>
    cases known : ReportType.ofName? e.1 with
    | none =>
      rw [part_of_unknown shared known]
      exact owns_of_silent rfl
    | some type =>
      rw [part_of_known shared known, ← ofName?_eq_some_iff.mp known]
      exact each registryAfter type shared

theorem owns_compareRegistriesBy
    (each : ∀ e ∈ before.entries, ∀ registryAfter type, after.get? e.1 = some registryAfter →
      Owns (fun c => c.1 = type.name) (compare e.2 registryAfter type)) (found : Nat) :
    Owns (fun c => ∃ e ∈ before.entries, c.1 = e.1)
      (compareRegistriesBy compare found before.entries after) := by
  have apart : before.entries.Pairwise fun e e' => ∀ c : String × Change, c.1 = e.1 → ¬c.1 = e'.1 :=
    (List.pairwise_map.mp before.nodup_keys).imp fun other c one two => other (one.symm.trans two)
  let own (e : String × Registry) (c : String × Change) : Prop := c.1 = e.1
  refine owns_fold own (fun e member found => ?_) apart found
  obtain ⟨rest, spelt, logged⟩ := exists_compareNamedBy_eq compare after found e
  rw [spelt]
  have silent : Owns (fun _ => False) rest := owns_of_silent logged.changes
  refine ((owns_part (each e member)).bind (fun _ _ => silent) fun _ _ => id).imp ?_
  exact fun c => (·.resolve_right id)

/-- At no moment of a run over all kinds of file has a change been reported twice, whatever the detector and
the test for class files. -/
theorem changes_reported_once (ownBefore : ∀ e ∈ before.entries, e.2.OwnFiles)
    (ownAfter : ∀ e ∈ after.entries, e.2.OwnFiles) :
    (∀ {δ σ : Type} (means : Means δ σ) (found : Nat) (steps : List Step),
      steps <+: (compareRegistriesBy means.compareType found before.entries after).steps →
        (steps.filterMap Step.change?).Nodup) ∧
    ∀ (fs : FileSystem) (settings : AnalysisSettings) (p : Presence),
      (Report.empty.append
        (p.guard (compareRegistries fs p.isFile settings 0 before.entries after.entries)).changes).entries.Nodup := by
  have once {δ σ : Type} (means : Means δ σ) (found : Nat) (steps : List Step)
      (part : steps <+: (compareRegistriesBy means.compareType found before.entries after).steps) :
      (steps.filterMap Step.change?).Nodup := by
    have whole := owns_compareRegistriesBy (fun e member registryAfter type shared => by
      have ownAfter := ownAfter _ (OrderedMap.get?_eq_some_iff.mp shared)
      exact means.owns_compareType (ownBefore e member) ownAfter type) found
    exact (part.filterMap Step.change?).sublist.nodup whole.nodup
  refine ⟨once, fun fs settings p => ?_⟩
  have same : (Means.ofSettings fs settings p.isFile).compareType = compareType fs p.isFile settings := by
    funext b a type
    exact Means.compareType_ofSettings ..
  refine once (Means.ofSettings fs settings p.isFile) 0 _ ?_
  rw [same, ← compareRegistries_eq_by]
  exact p.prefix_steps_guard _

/-! ## One name in several modules -/

def pool : Node := .virtualType ⟨"Pool", "T", "global", none⟩

def splitBefore : OrderedMap String Registry where
  entries :=
    [("di", .ofModules [("Acme_Shop", "shop/etc/di.xml", [pool]), ("Acme_Cart", "cart/etc/di.xml", [pool])]),
     ("system", .ofModules [("Acme_Shop", "shop/etc/system.xml", [.configSection ⟨"shop", none⟩])])]
  nodup_keys := by decide

def splitAfter : OrderedMap String Registry where
  entries :=
    [("di", .ofModules
      [("Acme_Shop", "shop/etc/di.xml", []), ("Acme_Cart", "cart/etc/di.xml", []),
       ("Acme_Pool", "pool/etc/di.xml", [.virtualType ⟨"Pool", "U", "frontend", none⟩])]),
     ("system", .ofModules [("Acme_Shop", "shop/etc/system.xml", [.configSection ⟨"cart", none⟩])])]
  nodup_keys := by decide

theorem changes_reported_once_split :
    (∀ e ∈ splitBefore.entries, e.2.OwnFiles) ∧ (∀ e ∈ splitAfter.entries, e.2.OwnFiles) ∧
      (Report.empty.append ((Presence.ofNames []).guard (compareRegistries ⟨.directory [], []⟩
        (Presence.ofNames []).isFile { AnalysisSettings.initial with fixtureMarkers := ["shop"] } 0
        splitBefore.entries splitAfter.entries)).changes).entries.Nodup ∧
      (compareRegistries ⟨.directory [], []⟩ (Presence.ofNames []).isFile
        { AnalysisSettings.initial with fixtureMarkers := ["shop"] } 0 splitBefore.entries
        splitAfter.entries).changes.map (fun e => (e.1, e.2.code, e.2.location, e.2.target)) =
        [("di", "M201", "shop/etc/di.xml", "Pool"), ("di", "M201", "shop/etc/di.xml", "Pool"),
          ("di", "M201", "cart/etc/di.xml", "Pool"), ("di", "M201", "cart/etc/di.xml", "Pool"),
          ("system", "M303", "shop/etc/system.xml", "shop"),
          ("system", "M302", "shop/etc/system.xml", "cart")] := by
  have ownBefore : ∀ e ∈ splitBefore.entries, e.2.OwnFiles := by decide +kernel
  have ownAfter : ∀ e ∈ splitAfter.entries, e.2.OwnFiles := by decide +kernel
  refine ⟨ownBefore, ownAfter, (changes_reported_once ownBefore ownAfter).2 _ _ _, ?_⟩
  cbv

end RegistryComparison

end ReleaseImpact
