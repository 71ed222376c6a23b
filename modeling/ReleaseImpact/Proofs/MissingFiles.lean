import ReleaseImpact.Proofs.AddedNodes

/-!
Modules that lost their source file. A comparison fails just if it needs such a file, and up to there it
goes as it would if every module had one. Main statements:

- `CutAt.bind` and `cutAt_fold`: a run of parts that may lack a file stops at the first one that does.
- `compareForms_cutAt` and `compareVirtualTypesBy_cutAt`: the comparisons against those of the registries
  with all files.
- `missing_files_stop_comparisons`: when the comparisons fail, for which module, and what is reported.
-/

namespace ReleaseImpact

/-! ## Files that are filled in -/

namespace Registry

/-- The module has no source file. -/
def lacksFile (r : Registry) (moduleName : String) : Bool := (r.files.get? moduleName).isNone

/-- The registry with a source file for each module that has none. -/
def filled (r : Registry) (file : String → String) : Registry :=
  (r.modules.filter r.lacksFile).foldl (fun r m => r.register m (file m)) r

theorem nodes_register_of_mem {r : Registry} {m : String} (member : m ∈ r.modules) (file : String) :
    (r.register m file).nodes = r.nodes := if_pos (OrderedMap.contains_iff.mpr member)

theorem register_all {r : Registry} {modules : List String} (known : modules ⊆ r.modules)
    (file : String → String) :
    (modules.foldl (fun r m => r.register m (file m)) r).nodes = r.nodes ∧
      ∀ m, (modules.foldl (fun r m => r.register m (file m)) r).files.get? m =
        if m ∈ modules then some (file m) else r.files.get? m := by
  induction modules generalizing r with
  | nil => exact ⟨rfl, fun _ => rfl⟩
  | cons m rest ih =>
    obtain ⟨here, later⟩ := List.cons_subset.mp known
    have same := nodes_register_of_mem here (file m)
    have modules : (r.register m (file m)).modules = r.modules := congrArg OrderedMap.keys same
    obtain ⟨nodes, files⟩ := ih (modules ▸ later)
    refine ⟨nodes.trans same, fun other => ?_⟩
    rw [List.foldl_cons, files, register, OrderedMap.get?_insert]
    grind

variable (r : Registry) (file : String → String)

@[simp] theorem nodes_filled : (r.filled file).nodes = r.nodes :=
  (register_all (List.filter_subset_self _) file).1

@[simp] theorem modules_filled : (r.filled file).modules = r.modules :=
  congrArg OrderedMap.keys (r.nodes_filled file)

@[simp] theorem bucket_filled (m : String) : (r.filled file).bucket m = r.bucket m := by simp [bucket]

@[simp] theorem index_filled {α : Type} (pick : Node → Option α) :
    (r.filled file).index pick = r.index pick := by simp [index]

theorem get?_files_filled (m : String) :
    (r.filled file).files.get? m =
      if m ∈ r.modules ∧ r.lacksFile m then some (file m) else r.files.get? m := by
  rw [filled, (register_all (List.filter_subset_self _) file).2]
  simp only [List.mem_filter]

theorem sourced_filled : (r.filled file).Sourced := by
  intro m member
  rw [modules_filled] at member
  rw [get?_files_filled]
  cases found : r.files.get? m <;> simp [member, lacksFile, found]

theorem sourceFile_filled {m : String} (present : r.lacksFile m = false) :
    (r.filled file).sourceFile m = r.sourceFile m := by
  rw [sourceFile, sourceFile, get?_files_filled, if_neg (by simp [present])]

theorem sourceFile_of_lacksFile {m : String} (lacks : r.lacksFile m = true) :
    r.sourceFile m = .error (.problem (.missingSourceFile m)) := by
  rw [sourceFile, Option.isNone_iff_eq_none.mp lacks]

end Registry

/-! ## Runs that stop for want of a file -/

namespace Trail

variable {α β : Type}

/-- The run stops where the file of a module is missing, and is like another one up to there. If none is
missing, or if the other run fails before, they are the same. -/
inductive CutAt : Option String → Trail α → Trail α → Prop
  | whole (t : Trail α) : CutAt none t t
  | cut {m : String} {t t' : Trail α} (fails : t.outcome = .error (.problem (.missingSourceFile m)))
      (part : t.steps <+: t'.steps) : CutAt (some m) t t'
  | failed {m : String} {t : Trail α} {f : Failure} (fails : t.outcome = .error f) : CutAt (some m) t t

theorem bind_eq_of_error {t : Trail α} {f : Failure} (fails : t.outcome = .error f) (next : α → Trail β) :
    t >>= next = ⟨t.steps, .error f⟩ := by
  show andThen t next = _
  simp only [andThen, fails]

theorem bind_eq_of_ok {t : Trail α} {a : α} (ends : t.outcome = .ok a) (next : α → Trail β) :
    t >>= next = ⟨t.steps ++ (next a).steps, (next a).outcome⟩ := by
  show andThen t next = _
  simp only [andThen, ends]

theorem prefix_steps_bind (t : Trail α) (next : α → Trail β) : t.steps <+: (t >>= next).steps := by
  cases outcome : t.outcome with
  | error f => rw [steps_bind_of_error next outcome]
  | ok a =>
    rw [steps_bind_of_ok next outcome]
    exact List.prefix_append _ _

theorem cutAt_of_error {x : Option String} {t : Trail α} {f : Failure} (fails : t.outcome = .error f) :
    CutAt x t t := by
  cases x with
  | none => exact .whole t
  | some m => exact .failed fails

theorem cutAt_bind_of_error {x : Option String} {t : Trail α} {f : Failure} (fails : t.outcome = .error f)
    (next next' : α → Trail β) : CutAt x (t >>= next) (t >>= next') := by
  rw [bind_eq_of_error fails, bind_eq_of_error fails]
  exact cutAt_of_error rfl

theorem CutAt.after {y : Option String} {t t' : Trail α} (cut : CutAt y t t') (steps : List Step) :
    CutAt y ⟨steps ++ t.steps, t.outcome⟩ ⟨steps ++ t'.steps, t'.outcome⟩ := by
  cases cut with
  | whole => exact .whole _
  | cut fails part => exact .cut fails ((List.prefix_append_right_inj steps).mpr part)
  | failed fails => exact .failed fails

theorem CutAt.bind {x y : Option String} {t t' : Trail α} {next next' : α → Trail β} (first : CutAt x t t')
    (rest : ∀ a, CutAt y (next a) (next' a)) : CutAt (x.or y) (t >>= next) (t' >>= next') := by
  cases first with
  | whole =>
    rw [Option.none_or]
    cases outcome : t.outcome with
    | error f => exact cutAt_bind_of_error outcome next next'
    | ok a =>
      rw [bind_eq_of_ok outcome, bind_eq_of_ok outcome]
      exact (rest a).after t.steps
  | cut fails part =>
    rw [bind_eq_of_error fails]
    exact .cut rfl (part.trans (prefix_steps_bind t' next'))
  | failed fails => exact cutAt_bind_of_error fails next next'

theorem cutAt_fold {x : α → Option String} {body body' : β → α → Trail β} {items : List α}
    (each : ∀ a ∈ items, ∀ b, CutAt (x a) (body b a) (body' b a)) (b : β) :
    CutAt (items.findSome? x) (fold body b items) (fold body' b items) := by
  induction items generalizing b with
  | nil => exact .whole _
  | cons a rest ih =>
    obtain ⟨here, later⟩ := List.forall_mem_cons.mp each
    have first : (a :: rest).findSome? x = (x a).or (rest.findSome? x) := by
      rw [List.findSome?_cons]
      cases x a <;> rfl
    rw [first]
    exact (here b).bind fun b => ih later b

theorem cutAt_each {x : α → Option String} {body body' : α → Trail Unit} {items : List α}
    (each : ∀ a ∈ items, CutAt (x a) (body a) (body' a)) :
    CutAt (items.findSome? x) (Trail.each items body) (Trail.each items body') := by
  rw [← fold_unit body items (), ← fold_unit body' items ()]
  exact cutAt_fold (fun a member _ => each a member) ()

theorem CutAt.prefix_steps {x : Option String} {t t' : Trail α} (cut : CutAt x t t') :
    t.steps <+: t'.steps := by
  cases cut with
  | whole => exact List.prefix_rfl
  | cut fails part => exact part
  | failed fails => exact List.prefix_rfl

theorem CutAt.prefix_changes {x : Option String} {t t' : Trail α} (cut : CutAt x t t') :
    t.changes <+: t'.changes := cut.prefix_steps.filterMap Step.change?

theorem CutAt.fails_iff {x : Option String} {t t' : Trail α} (cut : CutAt x t t') :
    (∃ f, t.outcome = .error f) ↔ (∃ m, x = some m) ∨ ∃ f, t'.outcome = .error f := by
  cases cut with
  | whole => simp
  | cut fails part => simp [fails]
  | failed fails => simp [fails]

theorem CutAt.failure {x : Option String} {t t' : Trail α} {f : Failure} (cut : CutAt x t t')
    (fails : t.outcome = .error f) :
    (∃ m, x = some m ∧ f = .problem (.missingSourceFile m)) ∨ t'.outcome = .error f ∧ t = t' := by
  cases cut with
  | whole => exact .inr ⟨fails, rfl⟩
  | cut missing part => exact .inl ⟨_, rfl, Except.error.inj (fails.symm.trans missing)⟩
  | failed _ => exact .inr ⟨fails, rfl⟩

/-- Where the other run comes to its end, nothing but a missing file makes this one fail. -/
theorem CutAt.of_ends {x : Option String} {t t' : Trail α} (cut : CutAt x t t')
    (ends : ∃ last, t'.outcome = .ok last) :
    ((∃ f, t.outcome = .error f) ↔ ∃ m, x = some m) ∧
      ∀ f, t.outcome = .error f → ∃ m, x = some m ∧ f = .problem (.missingSourceFile m) := by
  obtain ⟨last, ends⟩ := ends
  constructor
  · rw [cut.fails_iff, or_iff_left]
    rintro ⟨f, fails⟩
    cases ends.symm.trans fails
  · intro f fails
    rcases cut.failure fails with named | ⟨fails, -⟩
    · exact named
    · cases ends.symm.trans fails

theorem cutAt_sourceFile (r : Registry) (file : String → String) (m : String) :
    CutAt (Option.guard r.lacksFile m) (ofExcept (r.sourceFile m))
      (ofExcept ((r.filled file).sourceFile m)) := by
  cases lacks : r.lacksFile m with
  | false =>
    rw [Option.guard_eq_none_iff.mpr lacks, r.sourceFile_filled file lacks]
    exact .whole _
  | true =>
    rw [Option.guard_pos lacks]
    exact .cut (r.sourceFile_of_lacksFile lacks) List.nil_prefix

theorem cutAt_of_file (r : Registry) (file : String → String) (m : String) (body : String → Trail α) :
    CutAt (Option.guard r.lacksFile m) (ofExcept (r.sourceFile m) >>= body)
      (ofExcept ((r.filled file).sourceFile m) >>= body) := by
  have both := (cutAt_sourceFile r file m).bind fun found => .whole (body found)
  rwa [Option.or_none] at both

end Trail

open Registry Trail

theorem exists_head?_iff {α : Type} {list : List α} : (∃ a, list.head? = some a) ↔ ∃ a, a ∈ list := by
  cases list <;> simp

/-! ## Forms -/

namespace FormComparison

/-- A module of both snapshots that lost a key and has no earlier file, or that got a key and has no later
one. -/
def lacksNeeded (before after : Registry) (m : String) : Bool :=
  let keys := KeyMatch.ofKeys (before.bucket m).keys (after.bucket m).keys
  before.lacksFile m && !keys.removed.isEmpty || after.lacksFile m && !keys.added.isEmpty

/-- The modules without a file that is needed, in the order in which a comparison comes to them. -/
def lackingModules (before after : Registry) : List String :=
  (after.modules.filter (· ∉ before.modules)).filter after.lacksFile ++
    ((before.modules.filter (· ∉ after.modules)).filter before.lacksFile ++
      (before.modules.filter (· ∈ after.modules)).filter (lacksNeeded before after))

/-- A file is missing that a comparison needs: the one of a module that was added or removed, the earlier
one of a module that lost a key, or the later one of a module that got a key. -/
def NeedsMissingFile (before after : Registry) : Prop :=
  ∃ m, (m ∈ after.modules ∧ m ∉ before.modules ∧ after.files.get? m = none) ∨
    (m ∈ before.modules ∧ m ∉ after.modules ∧ before.files.get? m = none) ∨
    m ∈ before.modules ∧ m ∈ after.modules ∧
      ((before.files.get? m = none ∧ ∃ key ∈ (before.bucket m).keys, key ∉ (after.bucket m).keys) ∨
        after.files.get? m = none ∧ ∃ key ∈ (after.bucket m).keys, key ∉ (before.bucket m).keys)

theorem exists_head?_lackingModules_iff {before after : Registry} :
    (∃ m, (lackingModules before after).head? = some m) ↔ NeedsMissingFile before after := by
  rw [exists_head?_iff]
  refine exists_congr fun m => ?_
  have needed : lacksNeeded before after m = true ↔
      (before.files.get? m = none ∧ ∃ key ∈ (before.bucket m).keys, key ∉ (after.bucket m).keys) ∨
        after.files.get? m = none ∧ ∃ key ∈ (after.bucket m).keys, key ∉ (before.bucket m).keys := by
    simp [lacksNeeded, lacksFile, KeyMatch.ofKeys]
  simp only [lackingModules, List.mem_append, List.mem_filter, decide_eq_true_eq, needed, lacksFile,
    Option.isNone_iff_eq_none, and_assoc]

variable {δ : Type} {ask : δ → Inquiry → Reply δ} {rules : FormRules} {before after : Registry}
variable (file fileAfter : String → String)

theorem reportFiles_cutAt (kind : ChangeKind) (rules : FormRules) (r : Registry) (modules : List String) :
    CutAt (modules.filter r.lacksFile).head? (reportFiles kind rules r modules)
      (reportFiles kind rules (r.filled file) modules) := by
  rw [List.head?_filter, ← List.findSome?_guard]
  exact cutAt_each fun m _ => cutAt_of_file r file m _

/-- The removed nodes of a module, for which its earlier file is needed if there are any. -/
def reportLost (before : Registry) (m : String) (keys : List String) : Trail Unit :=
  if keys.isEmpty then pure ()
  else do
    let file ← .ofExcept (before.sourceFile m)
    Trail.each (keys.filterMap (before.bucket m).get?) (reportNode ChangeKind.removed? · file)

/-- The added nodes of a module, for which its later file is needed if there are any. -/
def compareGained (ask : δ → Inquiry → Reply δ) (rules : FormRules) (before after : Registry) (d : δ)
    (m : String) (keys : List String) : Trail δ :=
  if keys.isEmpty then pure d
  else do
    let file ← .ofExcept (after.sourceFile m)
    Trail.fold (compareAdded ask (looksUp rules file) (before.bucket m) file) d
      (keys.filterMap (after.bucket m).get?)

theorem compareModule_eq_parts (ask : δ → Inquiry → Reply δ) (rules : FormRules) (before after : Registry)
    (d : δ) (m : String) (keys : KeyMatch) :
    compareModule ask rules before after d (m, keys) = (do
      reportLost before m keys.removed
      compareGained ask rules before after d m keys.added) := by
  simp only [compareModule, reportLost, compareGained]
  split
  · rw [pure_bind]
  · simp only [bind_assoc]

theorem reportLost_cutAt (before : Registry) (m : String) (keys : List String) :
    CutAt (if keys.isEmpty then none else Option.guard before.lacksFile m) (reportLost before m keys)
      (reportLost (before.filled file) m keys) := by
  unfold reportLost
  split
  · exact .whole _
  · rw [bucket_filled]
    exact cutAt_of_file before file m _

theorem compareGained_cutAt (before after : Registry) (d : δ) (m : String) (keys : List String) :
    CutAt (if keys.isEmpty then none else Option.guard after.lacksFile m)
      (compareGained ask rules before after d m keys)
      (compareGained ask rules (before.filled file) (after.filled fileAfter) d m keys) := by
  unfold compareGained
  split
  · exact .whole _
  · rw [bucket_filled, bucket_filled]
    exact cutAt_of_file after fileAfter m _

theorem guard_lacksNeeded (before after : Registry) (m : String) {keys : KeyMatch}
    (paired : keys = .ofKeys (before.bucket m).keys (after.bucket m).keys) :
    Option.guard (lacksNeeded before after) m =
      (if keys.removed.isEmpty then none else Option.guard before.lacksFile m).or
        (if keys.added.isEmpty then none else Option.guard after.lacksFile m) := by
  simp only [lacksNeeded, ← paired, Option.guard_eq_ite]
  cases before.lacksFile m <;> cases after.lacksFile m <;> cases keys.removed.isEmpty <;>
    cases keys.added.isEmpty <;> rfl

theorem compareForms_cutAt (ask : δ → Inquiry → Reply δ) (rules : FormRules) (d : δ)
    (before after : Registry) :
    CutAt (lackingModules before after).head? (compareForms ask rules d before after)
      (compareForms ask rules d (before.filled file) (after.filled fileAfter)) := by
  simp only [compareForms_eq_fold, modules_filled, bucket_filled, lackingModules, List.head?_append]
  refine (reportFiles_cutAt fileAfter .fileAdded rules after _).bind fun _ => ?_
  refine (reportFiles_cutAt file .fileRemoved rules before _).bind fun _ => ?_
  rw [List.head?_filter, ← List.findSome?_guard]
  refine cutAt_fold (fun m _ d => ?_) d
  rw [compareModule_eq_parts, compareModule_eq_parts, guard_lacksNeeded before after m rfl]
  exact (reportLost_cutAt file before m _).bind fun _ =>
    compareGained_cutAt file fileAfter before after d m _

end FormComparison

/-! ## Virtual types -/

namespace VirtualTypeComparison

variable {σ : Type} (file fileAfter : String → String)

/-- The modules without a file that is needed: both files are, of every module of both snapshots, unless
the virtual types are the same as a whole. -/
def lackingModules (before after : Registry) : List String :=
  if sameIndex (before.index Node.virtualType?) (after.index Node.virtualType?) then []
  else before.modules.filter fun m => m ∈ after.modules && (before.lacksFile m || after.lacksFile m)

theorem compareModuleBy_cutAt (test : FileTest σ) (extension : String) (before after : Registry)
    (index : Index) (s : σ) (e : String × OrderedMap String VirtualType) :
    CutAt
      (Option.guard (fun m => (index.get? m).isSome && (before.lacksFile m || after.lacksFile m)) e.1)
      (compareModuleBy test extension before after index s e)
      (compareModuleBy test extension (before.filled file) (after.filled fileAfter) index s e) := by
  unfold compareModuleBy
  cases found : index.get? e.1 with
  | none => simpa [Option.guard_eq_ite, found] using CutAt.whole (pure s)
  | some types =>
    -- The earlier file is asked for first, so it is the one whose lack ends the run.
    have split : Option.guard
          (fun m => (index.get? m).isSome && (before.lacksFile m || after.lacksFile m)) e.1 =
        (Option.guard before.lacksFile e.1).or (Option.guard after.lacksFile e.1) := by
      simp only [Option.guard_eq_ite, found]
      cases before.lacksFile e.1 <;> cases after.lacksFile e.1 <;> rfl
    rw [split]
    refine (cutAt_sourceFile before file e.1).bind fun fileBefore => ?_
    exact cutAt_of_file after fileAfter e.1 _

theorem compareVirtualTypesBy_cutAt (test : FileTest σ) (extension : String) (s : σ)
    (before after : Registry) :
    CutAt (lackingModules before after).head? (compareVirtualTypesBy test extension s before after)
      (compareVirtualTypesBy test extension s (before.filled file) (after.filled fileAfter)) := by
  simp only [compareVirtualTypesBy, lackingModules, index_filled]
  split
  · exact .whole _
  · rw [entries_index, fold_map, fold_map, List.head?_filter, ← List.findSome?_guard]
    refine cutAt_fold (fun m _ s => ?_) s
    have known : ((after.index Node.virtualType?).get? m).isSome = decide (m ∈ after.modules) := by
      rw [← keys_index after Node.virtualType?, Bool.eq_iff_iff, decide_eq_true_iff,
        Option.isSome_iff_exists]
      exact OrderedMap.mem_keys_iff.symm
    have part := compareModuleBy_cutAt file fileAfter test extension before after
      (after.index Node.virtualType?) s (m, before.types m)
    simp only [Option.guard_eq_ite, known] at part ⊢
    exact part

theorem exists_head?_lackingModules_iff {before after : Registry} :
    (∃ m, (lackingModules before after).head? = some m) ↔
      sameIndex (before.index Node.virtualType?) (after.index Node.virtualType?) = false ∧
        ∃ m ∈ before.modules, m ∈ after.modules ∧
          (before.files.get? m = none ∨ after.files.get? m = none) := by
  rw [exists_head?_iff, lackingModules]
  cases sameIndex (before.index Node.virtualType?) (after.index Node.virtualType?) <;> simp [lacksFile]

end VirtualTypeComparison

/-! ## Both comparisons -/

open FormComparison VirtualTypeComparison

/-- A comparison fails just if it needs a file that is missing. The failure names the first module it needs
one of, and what is reported until then is what the same comparison reports first if no file is missing. -/
theorem missing_files_stop_comparisons (before after : Registry) (file fileAfter : String → String) :
    (∀ {σ : Type} (test : FileTest σ) (extension : String) (s : σ),
      let run := compareVirtualTypesBy test extension s before after
      let whole := compareVirtualTypesBy test extension s (before.filled file) (after.filled fileAfter)
      ((∃ f, run.outcome = .error f) ↔
        sameIndex (before.index Node.virtualType?) (after.index Node.virtualType?) = false ∧
          ∃ m ∈ before.modules, m ∈ after.modules ∧
            (before.files.get? m = none ∨ after.files.get? m = none)) ∧
      (∀ f, run.outcome = .error f → ∃ m,
        (VirtualTypeComparison.lackingModules before after).head? = some m ∧
          f = .problem (.missingSourceFile m)) ∧
      (∃ last, whole.outcome = .ok last) ∧
      ∀ report : Report, ∃ part, part <+: whole.changes ∧
        (report.append run.changes).entries = report.entries ++ part) ∧
    ∀ {δ : Type} (ask : δ → Inquiry → Reply δ) (rules : FormRules) (d : δ),
      let run := compareForms ask rules d before after
      let whole := compareForms ask rules d (before.filled file) (after.filled fileAfter)
      ((∀ earlier q, ∃ v, (ask (afterAsking ask d earlier) q).verdict = .ok v) →
        ((∃ f, run.outcome = .error f) ↔ NeedsMissingFile before after) ∧
        (∀ f, run.outcome = .error f → ∃ m,
          (FormComparison.lackingModules before after).head? = some m ∧
            f = .problem (.missingSourceFile m)) ∧
        ∃ last, whole.outcome = .ok last) ∧
      ((∃ f, run.outcome = .error f) ↔ NeedsMissingFile before after ∨ ∃ f, whole.outcome = .error f) ∧
      (∀ f, run.outcome = .error f →
        (∃ m, (FormComparison.lackingModules before after).head? = some m ∧
          f = .problem (.missingSourceFile m)) ∨ FailsWith ask d f ∧ run = whole) ∧
      ∀ report : Report, ∃ part, part <+: whole.changes ∧
        (report.append run.changes).entries = report.entries ++ part := by
  constructor
  · intro σ test extension s run whole
    have cut : CutAt _ run whole := compareVirtualTypesBy_cutAt file fileAfter test extension s before after
    have ends : ∃ last, whole.outcome = .ok last := compareVirtualTypesBy_ends test extension
      (sourced_filled before file) (sourced_filled after fileAfter) s
    obtain ⟨fails_iff, named⟩ := cut.of_ends ends
    rw [VirtualTypeComparison.exists_head?_lackingModules_iff] at fails_iff
    exact ⟨fails_iff, named, ends, fun report => ⟨_, cut.prefix_changes, rfl⟩⟩
  · intro δ ask rules d run whole
    have cut : CutAt _ run whole := compareForms_cutAt file fileAfter ask rules d before after
    have sourcedBefore := sourced_filled before file
    have sourcedAfter := sourced_filled after fileAfter
    refine ⟨fun answers => ?_, ?_, fun f fails => ?_, fun report => ⟨_, cut.prefix_changes, rfl⟩⟩
    · have ends : ∃ last, whole.outcome = .ok last := ends_of_answers answers sourcedBefore sourcedAfter
      obtain ⟨fails_iff, named⟩ := cut.of_ends ends
      rw [FormComparison.exists_head?_lackingModules_iff] at fails_iff
      exact ⟨fails_iff, named, ends⟩
    · rw [cut.fails_iff, FormComparison.exists_head?_lackingModules_iff]
    · rcases cut.failure fails with named | ⟨fails, same⟩
      · exact .inl named
      · exact .inr ⟨failsWith_of_sourced sourcedBefore sourcedAfter fails, same⟩

/-- A detector for the forms of a shop. -/
def askForms (d : Unit) (q : Inquiry) : Reply Unit := .plain (formVerdict q) d

theorem missing_files_stop_comparisons_shop :
    (∀ earlier q, ∃ v, (askForms (afterAsking askForms () earlier) q).verdict = .ok v) ∧
      (compareForms askForms ⟨"system.xml", ["_files"]⟩ () formsBefore
        (formsAfter.forgetFile "Acme_Test")).outcome =
          .error (.problem (.missingSourceFile "Acme_Test")) ∧
      (compareForms askForms ⟨"system.xml", ["_files"]⟩ () formsBefore
        (formsAfter.forgetFile "Acme_Test")).changes.map (·.2.code) =
          ["M300", "M301", "M303", "M307", "M306", "M308"] ∧
      (compareVirtualTypesBy (.ofFunction fun _ => false) ".php" ()
        (shopBefore.forgetFile "Acme_Shop") shopAfter).outcome =
          .error (.problem (.missingSourceFile "Acme_Shop")) := by
  have answers : ∀ earlier q, ∃ v, (askForms (afterAsking askForms () earlier) q).verdict = .ok v :=
    fun _ _ => ⟨_, rfl⟩
  obtain ⟨-, forms⟩ := missing_files_stop_comparisons formsBefore (formsAfter.forgetFile "Acme_Test")
    (fun m => m) (fun m => m)
  obtain ⟨types, -⟩ := missing_files_stop_comparisons (shopBefore.forgetFile "Acme_Shop") shopAfter
    (fun m => m) (fun m => m)
  obtain ⟨formsFail, formsName, -⟩ := (forms askForms ⟨"system.xml", ["_files"]⟩ ()).1 answers
  obtain ⟨typesFail, typesName, -⟩ := types (.ofFunction fun _ => false) ".php" ()
  refine ⟨answers, ?_, by decide +kernel, ?_⟩
  · obtain ⟨f, fails⟩ := formsFail.mpr ⟨"Acme_Test", by decide⟩
    obtain ⟨m, first, rfl⟩ := formsName f fails
    cases first.symm.trans (by decide : _ = some "Acme_Test")
    exact fails
  · obtain ⟨f, fails⟩ := typesFail.mpr ⟨by decide, "Acme_Shop", by decide⟩
    obtain ⟨m, first, rfl⟩ := typesName f fails
    cases first.symm.trans (by decide : _ = some "Acme_Shop")
    exact fails

end ReleaseImpact
