import ReleaseImpact.Proofs.Heuristics

/-!
The shortcuts of the comparisons. Indexes that are equal as a whole and modules with unchanged keys are
passed over, and the runs are the same as if they were not. Main statements:

- `fold_filter`: items of which a run does nothing may be left out.
- `compareForms_eq_fold`: the comparison of forms goes through all modules that both snapshots have.
- `compareVirtualTypesBy_eq_fold`: the comparison of virtual types goes through all modules, if each of
  them has a source file.
-/

namespace ReleaseImpact

namespace Trail

variable {α β : Type}

theorem fold_congr {items : List α} {body body' : β → α → Trail β}
    (same : ∀ a ∈ items, ∀ b, body b a = body' b a) (b : β) : fold body b items = fold body' b items := by
  induction items generalizing b with
  | nil => rfl
  | cons a rest ih =>
    obtain ⟨here, later⟩ := List.forall_mem_cons.mp same
    rw [fold, fold, here b]
    exact congrArg (andThen (body' b a)) (funext fun b => ih later b)

theorem fold_filter {items : List α} {body : β → α → Trail β} {kept : α → Bool}
    (idle : ∀ a ∈ items, kept a = false → ∀ b, body b a = pure b) (b : β) :
    fold body b (items.filter kept) = fold body b items := by
  induction items generalizing b with
  | nil => rfl
  | cons a rest ih =>
    obtain ⟨here, later⟩ := List.forall_mem_cons.mp idle
    cases pick : kept a with
    | true =>
      rw [List.filter_cons_of_pos pick]
      exact congrArg (andThen (body b a)) (funext fun b => ih later b)
    | false =>
      rw [List.filter_cons_of_neg (by simp [pick]), ih later, fold, here pick]
      exact (pure_bind b fun b => fold body b rest).symm

theorem fold_of_idle {items : List α} {body : β → α → Trail β}
    (idle : ∀ a ∈ items, ∀ b, body b a = pure b) (b : β) : fold body b items = pure b := by
  rw [← fold_filter fun a member _ => idle a member, List.filter_false]
  rfl

end Trail

open Trail Registry

/-! ## Forms -/

namespace FormComparison

variable {δ : Type} {before after : Registry}

theorem compareModule_of_unchanged (ask : δ → Inquiry → Reply δ) (rules : FormRules)
    (before after : Registry) (d : δ) (moduleName : String) {keys : KeyMatch}
    (unchanged : keys.unchanged = true) :
    compareModule ask rules before after d (moduleName, keys) = pure d := by
  obtain ⟨noneAdded, noneRemoved⟩ := Bool.and_eq_true_iff.mp unchanged
  simp only [compareModule, noneAdded, noneRemoved, if_true]

theorem filter_eq_nil_of_sameIndex (same : sameIndex (before.index some) (after.index some) = true) :
    after.modules.filter (· ∉ before.modules) = [] ∧ before.modules.filter (· ∉ after.modules) = [] := by
  have modules (m : String) : m ∈ before.modules ↔ m ∈ after.modules := by
    rw [← keys_index before some, ← keys_index after some]
    exact OrderedMap.mem_keys_iff_of_agreesBy same m
  simp [modules]

theorem compareForms_eq_fold (ask : δ → Inquiry → Reply δ) (rules : FormRules) (d : δ)
    (before after : Registry) :
    compareForms ask rules d before after = (do
      reportFiles .fileAdded rules after (after.modules.filter (· ∉ before.modules))
      reportFiles .fileRemoved rules before (before.modules.filter (· ∉ after.modules))
      fold (fun d m => compareModule ask rules before after d
          (m, .ofKeys (before.bucket m).keys (after.bucket m).keys)) d
        (before.modules.filter (· ∈ after.modules))) := by
  rw [compareForms_eq]
  split
  · next same =>
    obtain ⟨noneAdded, noneRemoved⟩ := filter_eq_nil_of_sameIndex same
    rw [noneAdded, noneRemoved, fold_of_idle]
    · rfl
    · intro m member d
      obtain ⟨inBefore, inAfter⟩ := List.mem_filter.mp member
      apply compareModule_of_unchanged
      have keys := mem_keys_iff_of_sameIndex same inBefore (of_decide_eq_true inAfter)
      simp [KeyMatch.unchanged, KeyMatch.ofKeys, List.filter_eq_nil_iff, keys]
  · rw [changedModules, fold_filter]
    intro m _ unchanged d
    apply compareModule_of_unchanged
    simpa using unchanged

end FormComparison

/-! ## Virtual types -/

namespace VirtualTypeComparison

variable {σ : Type} {before after : Registry}

theorem compareTypeBy_of_kept (test : FileTest σ) (extension : String) (index : Index)
    (moduleName fileBefore fileAfter : String) (s : σ) {types : OrderedMap String VirtualType}
    {v : VirtualType} (kept : types.get? v.name = some v) :
    compareTypeBy test extension index moduleName types fileBefore fileAfter s v = pure s := by
  simp only [compareTypeBy, compareType, kept, if_true, pure_bind]
  rfl

/-- A module whose virtual types are the same on both sides leaves no trace. -/
theorem compareModuleBy_of_agrees (test : FileTest σ) (extension : String)
    (sourcedBefore : before.Sourced) (sourcedAfter : after.Sourced) (s : σ) {moduleName : String}
    (inBefore : moduleName ∈ before.modules) (inAfter : moduleName ∈ after.modules)
    (agree : (before.types moduleName).agrees (after.types moduleName) = true) :
    compareModuleBy test extension before after (after.index Node.virtualType?) s
      (moduleName, before.types moduleName) = pure s := by
  have fileBefore := sourceFile_of_sourced sourcedBefore inBefore
  have fileAfter := sourceFile_of_sourced sourcedAfter inAfter
  have found : (after.index Node.virtualType?).get? moduleName = some (after.types moduleName) :=
    get?_index inAfter Node.virtualType?
  simp only [compareModuleBy, found, fileBefore, fileAfter]
  refine fold_of_idle (fun v member s => compareTypeBy_of_kept _ _ _ _ _ _ s ?_) s
  have here := OrderedMap.get?_keyOf (before.named_types moduleName) member
  exact OrderedMap.get?_of_agrees agree here

theorem compareVirtualTypesBy_eq_fold (test : FileTest σ) (extension : String)
    (sourcedBefore : before.Sourced) (sourcedAfter : after.Sourced) (s : σ) :
    compareVirtualTypesBy test extension s before after =
      fold (fun s m => compareModuleBy test extension before after (after.index Node.virtualType?) s
        (m, before.types m)) s before.modules := by
  rw [compareVirtualTypesBy]
  split
  · next same =>
    rw [fold_of_idle]
    intro m inBefore s
    obtain ⟨types, found, agree⟩ :=
      OrderedMap.get?_of_agreesBy same (get?_index inBefore Node.virtualType?)
    have inAfter : m ∈ after.modules := by
      rw [← keys_index after Node.virtualType?]
      exact OrderedMap.mem_keys_iff.mpr ⟨types, found⟩
    rw [get?_index inAfter] at found
    cases found
    exact compareModuleBy_of_agrees test extension sourcedBefore sourcedAfter s inBefore inAfter agree
  · rw [entries_index, fold_map]
    rfl

theorem compareVirtualTypesBy_ends (test : FileTest σ) (extension : String) (sourcedBefore : before.Sourced)
    (sourcedAfter : after.Sourced) (s : σ) :
    ∃ last, (compareVirtualTypesBy test extension s before after).outcome = .ok last := by
  obtain ⟨last, _, _, _, run, -⟩ :=
    forall₂_compareVirtualTypesBy test test extension extension sourcedBefore sourcedAfter s s
  exact ⟨last, run.outcome⟩

end VirtualTypeComparison

end ReleaseImpact
