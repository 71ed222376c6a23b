import ReleaseImpact.Proofs.Reordering
import ReleaseImpact.Proofs.Shortcuts

/-!
Comparisons taken apart into comparisons of single modules. Main statements:

- `compareVirtualTypesBy_eq_fold_only`: the comparison of virtual types is one run for each earlier
  module, against all of the later snapshot, also with a test for files that remembers.
- `ends_iff_told` and `changes_of_judges`: a comparison of forms by a detector that judges each question
  for itself.
- `expectedFormChanges_perm`: the expected changes of forms, gathered module by module.
- `comparisons_by_module`: both comparisons, whole and module by module.
-/

namespace ReleaseImpact

/-! ## Registries of one module -/

namespace OrderedMap

variable {κ α : Type} [DecidableEq κ]

/-- The pair of one key, if there is one. -/
def only (m : OrderedMap κ α) (key : κ) : OrderedMap κ α :=
  ⟨m.entries.filter (·.1 = key), (List.Sublist.map Prod.fst List.filter_sublist).nodup m.nodup_keys⟩

theorem keys_only (m : OrderedMap κ α) (key : κ) : (m.only key).keys = m.keys.filter (· = key) := by
  rw [keys, keys, List.filter_map]
  rfl

theorem get?_only (m : OrderedMap κ α) (key : κ) : (m.only key).get? key = m.get? key := by
  ext value
  rw [get?_eq_some_iff, get?_eq_some_iff, only, List.mem_filter]
  simp

end OrderedMap

namespace Registry

variable {r : Registry} {m : String}

/-- The registry without its other modules. -/
def only (r : Registry) (moduleName : String) : Registry where
  reportType := r.reportType
  nodes := r.nodes.only moduleName
  files := r.files.only moduleName
  keyed e member := r.keyed e (List.mem_filter.mp member).1

theorem mem_modules_only_iff {other : String} : other ∈ (r.only m).modules ↔ other ∈ r.modules ∧ other = m := by
  rw [modules, only, OrderedMap.keys_only, List.mem_filter, decide_eq_true_iff]
  rfl

theorem modules_only_of_mem (member : m ∈ r.modules) : (r.only m).modules = [m] := by
  have distinct : (r.only m).modules.Nodup := (r.only m).nodes.nodup_keys
  refine List.perm_singleton.mp ((List.perm_ext_iff_of_nodup distinct (List.nodup_singleton m)).mpr ?_)
  intro other
  rw [mem_modules_only_iff, List.mem_singleton, and_iff_right_iff_imp]
  rintro rfl
  exact member

theorem modules_only_of_not_mem (missing : m ∉ r.modules) : (r.only m).modules = [] := by
  apply List.eq_nil_iff_forall_not_mem.mpr
  intro other member
  obtain ⟨inside, rfl⟩ := mem_modules_only_iff.mp member
  exact missing inside

@[simp] theorem bucket_only (r : Registry) (m : String) : (r.only m).bucket m = r.bucket m :=
  congrArg (·.getD .empty) (r.nodes.get?_only m)

@[simp] theorem nodesOf_only (r : Registry) (m : String) : (r.only m).nodesOf m = r.nodesOf m :=
  congrArg OrderedMap.values (r.bucket_only m)

@[simp] theorem types_only (r : Registry) (m : String) : (r.only m).types m = r.types m :=
  congrArg (OrderedMap.filterMap Node.virtualType?) (r.bucket_only m)

@[simp] theorem fileOf_only (r : Registry) (m : String) : (r.only m).fileOf m = r.fileOf m :=
  congrArg (·.getD "") (r.files.get?_only m)

@[simp] theorem sourceFile_only (r : Registry) (m : String) :
    (r.only m).sourceFile m = r.sourceFile m := by
  rw [sourceFile, sourceFile, only, r.files.get?_only m]

theorem Sourced.only (sourced : r.Sourced) (m : String) : (r.only m).Sourced := by
  intro other member
  obtain ⟨inside, rfl⟩ := mem_modules_only_iff.mp member
  rw [Registry.only, r.files.get?_only other]
  exact sourced other inside

end Registry

open Registry Trail

/-! ## Virtual types -/

namespace Trail

variable {α β : Type}

theorem fold_singleton (body : β → α → Trail β) (b : β) (a : α) : fold body b [a] = body b a :=
  bind_pure (body b a)

end Trail

namespace VirtualTypeComparison

variable {σ : Type} {before after : Registry}

theorem compareVirtualTypesBy_only (test : FileTest σ) (extension : String)
    (sourcedBefore : before.Sourced) (sourcedAfter : after.Sourced) (s : σ) {m : String}
    (member : m ∈ before.modules) :
    compareVirtualTypesBy test extension s (before.only m) after =
      compareModuleBy test extension before after (after.index Node.virtualType?) s
        (m, before.types m) := by
  rw [compareVirtualTypesBy_eq_fold test extension (sourcedBefore.only m) sourcedAfter,
    modules_only_of_mem member, fold_singleton, types_only]
  simp only [compareModuleBy, sourceFile_only]

theorem compareVirtualTypesBy_eq_fold_only (test : FileTest σ) (extension : String)
    (sourcedBefore : before.Sourced) (sourcedAfter : after.Sourced) (s : σ) :
    compareVirtualTypesBy test extension s before after =
      fold (fun s m => compareVirtualTypesBy test extension s (before.only m) after) s before.modules := by
  rw [compareVirtualTypesBy_eq_fold test extension sourcedBefore sourcedAfter]
  refine fold_congr (fun m member s => ?_) s
  exact (compareVirtualTypesBy_only test extension sourcedBefore sourcedAfter s member).symm

theorem compareVirtualTypes_eq_each_only (isFile : String → Bool) (extension : String)
    (sourcedBefore : before.Sourced) (sourcedAfter : after.Sourced) :
    compareVirtualTypes isFile extension before after =
      .each before.modules fun m => compareVirtualTypes isFile extension (before.only m) after := by
  have function (r : Registry) :
      compareVirtualTypesBy (.ofFunction isFile) extension () r after =
        compareVirtualTypes isFile extension r after :=
    compareVirtualTypesBy_of_function isFile extension r after
  calc compareVirtualTypes isFile extension before after
    _ = compareVirtualTypesBy (.ofFunction isFile) extension () before after := (function before).symm
    _ = fold (fun s m => compareVirtualTypesBy (.ofFunction isFile) extension s (before.only m) after) ()
          before.modules := compareVirtualTypesBy_eq_fold_only _ extension sourcedBefore sourcedAfter ()
    _ = fold (fun _ m => compareVirtualTypes isFile extension (before.only m) after) ()
          before.modules := fold_congr (fun m _ _ => function (before.only m)) ()
    _ = _ := fold_unit _ _ ()

theorem changes_eq_flatMap_only (isFile : String → Bool) (extension : String)
    (sourcedBefore : before.Sourced) (sourcedAfter : after.Sourced) :
    (compareVirtualTypes isFile extension before after).changes =
      before.modules.flatMap fun m =>
        (compareVirtualTypes isFile extension (before.only m) after).changes := by
  have single (m : String) (_ : m ∈ before.modules) :
      (compareVirtualTypes isFile extension (before.only m) after).Reports ()
        (compareVirtualTypes isFile extension (before.only m) after).changes :=
    ⟨(compareVirtualTypes_reports isFile extension (sourcedBefore.only m) sourcedAfter).outcome, rfl⟩
  conv_lhs => rw [compareVirtualTypes_eq_each_only isFile extension sourcedBefore sourcedAfter]
  exact (reports_each single).changes

end VirtualTypeComparison

/-! ## Forms -/

namespace FormComparison

variable {δ : Type} {ask : δ → Inquiry → Reply δ} {verdict : Inquiry → Except Failure Verdict} {d : δ}
variable {rules : FormRules} {before after : Registry}

/-- There is a verdict on each added node of a module that a detector is asked about. -/
def Told (verdict : Inquiry → Except Failure Verdict) (rules : FormRules) (before after : Registry)
    (m : String) : Prop :=
  ∀ n ∈ missingNodes after before m, IsAsked rules (after.fileOf m) n →
    ∃ v, verdict ⟨n, after.fileOf m, before.bucket m⟩ = .ok v

/-- The verdicts where there are some. -/
def verdictOf (verdict : Inquiry → Except Failure Verdict) (q : Inquiry) : Verdict :=
  (verdict q).toOption.getD .unique

theorem told_of_given {m : String} {answer : Node → Verdict}
    (given : Given ask (Judges ask verdict) rules before after m answer) {n : Node}
    (new : n ∈ missingNodes after before m) (asked : IsAsked rules (after.fileOf m) n) :
    verdict ⟨n, after.fileOf m, before.bucket m⟩ = .ok (answer n) := by
  obtain ⟨d, judges, answer⟩ := given n new asked
  rw [← judges.answer]
  exact answer

theorem ends_iff_told (judges : Judges ask verdict d) (sourcedBefore : before.Sourced)
    (sourcedAfter : after.Sourced) :
    (∃ last, (compareForms ask rules d before after).outcome = .ok last) ↔
      ∀ m ∈ before.modules, m ∈ after.modules → Told verdict rules before after m := by
  constructor
  · rintro ⟨last, ends⟩ m inBefore inAfter n new asked
    obtain ⟨-, answers, given, -⟩ := compareForms_answered (Judges ask verdict)
      (fun _ q judges => judges.next q) sourcedBefore sourcedAfter judges ends
    exact ⟨answers m n, told_of_given (given m inBefore inAfter) new asked⟩
  · intro told
    have answering (m : String) (inBefore : m ∈ before.modules) (inAfter : m ∈ after.modules) :
        Answering ask (Judges ask verdict) rules before after m := by
      intro n new asked d judges
      rw [judges.answer]
      exact told m inBefore inAfter n new asked
    obtain ⟨last, ends, -⟩ := compareForms_ends (Judges ask verdict) (fun _ q judges => judges.next q)
      sourcedBefore sourcedAfter judges answering
    exact ⟨last, ends⟩

theorem changes_of_judges (judges : Judges ask verdict d) (sourcedBefore : before.Sourced)
    (sourcedAfter : after.Sourced)
    (ends : ∃ last, (compareForms ask rules d before after).outcome = .ok last) :
    (compareForms ask rules d before after).changes =
      expectedFormChanges (verdictOf verdict) rules before after := by
  obtain ⟨last, ends⟩ := ends
  obtain ⟨-, answers, given, reported⟩ := compareForms_answered (Judges ask verdict)
    (fun _ q judges => judges.next q) sourcedBefore sourcedAfter judges ends
  rw [reported, answeredChanges, expectedFormChanges, List.append_assoc]
  congr 2
  refine List.flatMap_congr fun m member => ?_
  obtain ⟨inBefore, inAfter⟩ := List.mem_filter.mp member
  rw [expectedModuleChanges, expectedModuleChanges]
  congr 1
  refine nodeChanges_congr fun n new => expectedAddedKind?_congr fun asked => ?_
  have told := told_of_given (given m inBefore (of_decide_eq_true inAfter)) new asked
  simp [verdictOf, told, Except.toOption]

theorem told_only_iff {m : String} :
    Told verdict rules (before.only m) (after.only m) m ↔ Told verdict rules before after m := by
  simp [Told, missingNodes]

theorem fileChanges_only (kind : ChangeKind) (rules : FormRules) (r other : Registry) (m : String) :
    fileChanges kind rules (r.only m) (other.only m) =
      if m ∈ r.modules ∧ m ∉ other.modules then
        [(systemDomain, ⟨kind, r.fileOf m, rules.schemaFileName⟩)]
      else [] := by
  by_cases inside : m ∈ r.modules
  · by_cases shared : m ∈ other.modules <;>
      simp [fileChanges, modules_only_of_mem inside, mem_modules_only_iff, inside, shared]
  · simp [fileChanges, modules_only_of_not_mem inside, inside]

theorem commonChanges_only (verdict : Inquiry → Verdict) (rules : FormRules) (before after : Registry)
    (m : String) :
    ((before.only m).modules.filter (· ∈ (after.only m).modules)).flatMap
        (expectedModuleChanges verdict rules (before.only m) (after.only m)) =
      if m ∈ before.modules ∧ m ∈ after.modules then expectedModuleChanges verdict rules before after m
      else [] := by
  by_cases inside : m ∈ before.modules
  · by_cases shared : m ∈ after.modules <;>
      simp [modules_only_of_mem inside, mem_modules_only_iff, inside, shared, expectedModuleChanges,
        missingNodes]
  · simp [modules_only_of_not_mem inside, inside]

/-- Parts that are kept in one list may be gathered over any other one that goes through all of them. -/
theorem flatMap_perm_of_nodup {β : Type} {items all : List String} (nodup : items.Nodup)
    (distinct : all.Nodup) {kept : String → Prop} [DecidablePred kept]
    (listed : ∀ m, m ∈ items ↔ m ∈ all ∧ kept m) (part : String → List β) :
    (items.flatMap part).Perm (all.flatMap fun m => if kept m then part m else []) := by
  have same : items.Perm (all.filter kept) := by
    rw [List.perm_ext_iff_of_nodup nodup (distinct.filter _)]
    simpa using listed
  have gathered := flatMap_filter all (fun m => decide (kept m)) part
  simp only [decide_eq_true_eq] at gathered
  rw [← gathered]
  exact List.Perm.flatMap_right part same

section Gathered

variable {before after : Registry} {all : List String}

theorem fileChanges_only_perm (kind : ChangeKind) (rules : FormRules) {r : Registry} (other : Registry)
    (distinct : all.Nodup) (within : ∀ m ∈ r.modules, m ∈ all) :
    (fileChanges kind rules r other).Perm
      (all.flatMap fun m => fileChanges kind rules (r.only m) (other.only m)) := by
  have nodup : r.modules.Nodup := r.nodes.nodup_keys
  simp only [fileChanges_only]
  rw [fileChanges, List.map_eq_flatMap]
  refine flatMap_perm_of_nodup (nodup.filter _) distinct (fun m => ?_) _
  have inside := within m
  simp only [List.mem_filter, decide_eq_true_eq]
  tauto

theorem commonChanges_only_perm (verdict : Inquiry → Verdict) (rules : FormRules) (after : Registry)
    (distinct : all.Nodup) (within : ∀ m ∈ before.modules, m ∈ all) :
    ((before.modules.filter (· ∈ after.modules)).flatMap
        (expectedModuleChanges verdict rules before after)).Perm
      (all.flatMap fun m => ((before.only m).modules.filter (· ∈ (after.only m).modules)).flatMap
        (expectedModuleChanges verdict rules (before.only m) (after.only m))) := by
  have nodup : before.modules.Nodup := before.nodes.nodup_keys
  simp only [commonChanges_only]
  refine flatMap_perm_of_nodup (nodup.filter _) distinct (fun m => ?_) _
  have inside := within m
  simp only [List.mem_filter, decide_eq_true_eq]
  tauto

theorem expectedFormChanges_perm (verdict : Inquiry → Verdict) (rules : FormRules) (distinct : all.Nodup)
    (covers : ∀ m, m ∈ all ↔ m ∈ before.modules ∨ m ∈ after.modules) :
    (expectedFormChanges verdict rules before after).Perm
      (all.flatMap fun m => expectedFormChanges verdict rules (before.only m) (after.only m)) := by
  have withinBefore (m : String) (member : m ∈ before.modules) : m ∈ all := (covers m).mpr (.inl member)
  have withinAfter (m : String) (member : m ∈ after.modules) : m ∈ all := (covers m).mpr (.inr member)
  have added := fileChanges_only_perm .fileAdded rules before distinct withinAfter
  have removed := fileChanges_only_perm .fileRemoved rules after distinct withinBefore
  have common := commonChanges_only_perm verdict rules after distinct withinBefore
  -- Files are reported before nodes, so the parts of a module have to be brought together.
  have files := (added.append removed).trans (List.flatMap_append_perm all _ _)
  exact (files.append common).trans (List.flatMap_append_perm all _ _)

end Gathered

end FormComparison

/-! ## Both comparisons -/

open FormComparison VirtualTypeComparison

/-- The modules may be compared one by one: virtual types against the whole later snapshot, in the order
of the modules, and forms against the same module of it, in any order and each by a detector of its own. -/
theorem comparisons_by_module {before after : Registry} (sourcedBefore : before.Sourced)
    (sourcedAfter : after.Sourced) :
    (∀ (isFile : String → Bool) (extension : String),
      compareVirtualTypes isFile extension before after =
          .each before.modules (fun m => compareVirtualTypes isFile extension (before.only m) after) ∧
        (compareVirtualTypes isFile extension before after).outcome = .ok () ∧
        (compareVirtualTypes isFile extension before after).changes =
          before.modules.flatMap fun m =>
            (compareVirtualTypes isFile extension (before.only m) after).changes) ∧
      ∀ {δ : Type} (ask : δ → Inquiry → Reply δ) (rules : FormRules) (whole : δ) (single : String → δ)
        (verdict : Inquiry → Except Failure Verdict), Judges ask verdict whole →
        (∀ m, Judges ask verdict (single m)) →
        ((∀ q, ∃ v, verdict q = .ok v) →
          ∃ last, (compareForms ask rules whole before after).outcome = .ok last) ∧
        ∀ all : List String, all.Nodup → (∀ m, m ∈ all ↔ m ∈ before.modules ∨ m ∈ after.modules) →
          ((∃ last, (compareForms ask rules whole before after).outcome = .ok last) ↔
            ∀ m ∈ all, ∃ last,
              (compareForms ask rules (single m) (before.only m) (after.only m)).outcome = .ok last) ∧
          ((∃ last, (compareForms ask rules whole before after).outcome = .ok last) →
            (compareForms ask rules whole before after).changes.Perm
              (all.flatMap fun m =>
                (compareForms ask rules (single m) (before.only m) (after.only m)).changes)) := by
  constructor
  · intro isFile extension
    refine ⟨?_, ?_, ?_⟩
    · exact compareVirtualTypes_eq_each_only isFile extension sourcedBefore sourcedAfter
    · exact (compareVirtualTypes_reports isFile extension sourcedBefore sourcedAfter).outcome
    · exact changes_eq_flatMap_only isFile extension sourcedBefore sourcedAfter
  · intro δ ask rules whole single verdict judges judge
    refine ⟨fun told => compareForms_ends_of_judges judges told sourcedBefore sourcedAfter rules, ?_⟩
    intro all distinct covers
    have ends : (∃ last, (compareForms ask rules whole before after).outcome = .ok last) ↔
        ∀ m ∈ all, ∃ last,
          (compareForms ask rules (single m) (before.only m) (after.only m)).outcome = .ok last := by
      simp only [ends_iff_told judges sourcedBefore sourcedAfter,
        ends_iff_told (judge _) (sourcedBefore.only _) (sourcedAfter.only _), mem_modules_only_iff]
      constructor
      · rintro told m - m' ⟨inBefore, rfl⟩ ⟨inAfter, -⟩
        exact told_only_iff.mpr (told m' inBefore inAfter)
      · intro told m inBefore inAfter
        have here := told m ((covers m).mpr (.inl inBefore)) m ⟨inBefore, rfl⟩ ⟨inAfter, rfl⟩
        exact told_only_iff.mp here
    refine ⟨ends, fun ended => ?_⟩
    have parts : (all.flatMap fun m =>
          (compareForms ask rules (single m) (before.only m) (after.only m)).changes) =
        all.flatMap fun m =>
          expectedFormChanges (verdictOf verdict) rules (before.only m) (after.only m) :=
      List.flatMap_congr fun m member =>
        changes_of_judges (judge m) (sourcedBefore.only m) (sourcedAfter.only m) (ends.mp ended m member)
    rw [parts, changes_of_judges judges sourcedBefore sourcedAfter ended]
    exact expectedFormChanges_perm (verdictOf verdict) rules distinct covers

def releaseBefore : Registry := .ofModules
  [("Acme_Shop", "shop/etc/system.xml",
    [.configSection ⟨"shop", none⟩, .configField ⟨"name", "shop/main", none, none⟩,
      .virtualType ⟨"Kept", "T", "global", none⟩, .virtualType ⟨"Moved", "T", "global", none⟩]),
   ("Acme_Old", "old/etc/system.xml", [.virtualType ⟨"Gone", "T", "global", none⟩])]

def releaseAfter : Registry := .ofModules
  [("Acme_New", "new/etc/system.xml", [.virtualType ⟨"Moved", "T", "global", none⟩]),
   ("Acme_Shop", "shop/etc/system.xml",
    [.configSection ⟨"shop", none⟩, .configField ⟨"title", "shop/main", none, none⟩,
      .virtualType ⟨"Kept", "U", "global", none⟩])]

theorem comparisons_by_module_shop :
    releaseBefore.Sourced ∧ releaseAfter.Sourced ∧
      (compareVirtualTypes (fun _ => false) ".php" releaseBefore releaseAfter).changes =
        releaseBefore.modules.flatMap (fun m =>
          (compareVirtualTypes (fun _ => false) ".php" (releaseBefore.only m) releaseAfter).changes) ∧
      (compareForms (fun (_ : Unit) q => .plain (likeness q) ()) ⟨"system.xml", []⟩ () releaseBefore
          releaseAfter).changes.Perm
        (["Acme_Old", "Acme_Shop", "Acme_New"].flatMap fun m =>
          (compareForms (fun (_ : Unit) q => .plain (likeness q) ()) ⟨"system.xml", []⟩ ()
            (releaseBefore.only m) (releaseAfter.only m)).changes) ∧
      (compareVirtualTypes (fun _ => false) ".php" releaseBefore releaseAfter).changes.map
          (fun e => (e.2.code, e.2.target)) = [("M201", "Kept")] ∧
      (compareForms (fun (_ : Unit) q => .plain (likeness q) ()) ⟨"system.xml", []⟩ () releaseBefore
          releaseAfter).changes.map (fun e => (e.2.code, e.2.target)) =
        [("M300", "system.xml"), ("M301", "system.xml"), ("M307", "shop/main/name"),
          ("M308", "shop/main/title")] := by
  have sourcedBefore : releaseBefore.Sourced := by decide
  have sourcedAfter : releaseAfter.Sourced := by decide
  have judges : Judges (fun (_ : Unit) q => .plain (likeness q) ()) (fun q => .ok (likeness q)) () :=
    fun _ _ => rfl
  obtain ⟨types, forms⟩ := comparisons_by_module sourcedBefore sourcedAfter
  obtain ⟨ends, parts⟩ := forms (fun (_ : Unit) q => .plain (likeness q) ()) ⟨"system.xml", []⟩ ()
    (fun _ => ()) _ judges fun _ => judges
  have covers : ∀ m, m ∈ ["Acme_Old", "Acme_Shop", "Acme_New"] ↔
      m ∈ releaseBefore.modules ∨ m ∈ releaseAfter.modules := by
    have listed : releaseBefore.modules = ["Acme_Shop", "Acme_Old"] ∧
        releaseAfter.modules = ["Acme_New", "Acme_Shop"] := by decide
    simp [listed]
    tauto
  refine ⟨sourcedBefore, sourcedAfter, (types (fun _ => false) ".php").2.2, ?_, ?_, ?_⟩
  · exact (parts _ (by decide) covers).2 (ends fun _ => ⟨_, rfl⟩)
  · decide +kernel
  · decide +kernel

end ReleaseImpact
