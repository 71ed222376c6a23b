import ReleaseImpact.Proofs.Survey

/-!
Registries that are filled through their interface: modules are registered and nodes are added, in any
order, and nodes of unknown modules are refused. Main statements:

- `addNode_cases`: the two ways in which adding a node can end.
- `mem_files_after` and `Aligned.after`: what one call does to the modules and to the files.
- `aligned_built` and `mem_modules_built_iff`: after any calls, the modules with nodes and those with a file
  are the registered ones.
- `addNode_built_fails`: after any calls, only nodes of modules that were never registered are refused.
-/

namespace ReleaseImpact.Registry

/-! ## Calls -/

inductive Call
  | register (moduleName file : String)
  | add (moduleName : String) (node : Node)

def perform (r : Registry) : Call → Trail Registry
  | .register moduleName file => pure (r.register moduleName file)
  | .add moduleName node => r.addNode moduleName node

/-- The registry after a call. A call that fails leaves it as it is. -/
def after (r : Registry) (call : Call) : Registry := (r.perform call).outcome.toOption.getD r

/-- The registry after some calls, from an empty one. -/
def built (reportType : Option String) (calls : List Call) : Registry := calls.foldl after (empty reportType)

/-- The modules with nodes and those with a file are the same. -/
def Aligned (r : Registry) : Prop := ∀ moduleName, moduleName ∈ r.modules ↔ moduleName ∈ r.files.keys

variable {r : Registry} {m : String} {n : Node} {calls : List Call} {reportType : Option String}

/-! ## One call -/

theorem addNode_cases (r : Registry) (m : String) (n : Node) :
    (r.files.get? m = none ∧ r.addNode m n = .fail (.problem (.missingSourceFile m))) ∨
      ∃ file, r.files.get? m = some file ∧ (r.addNode m n).outcome = .ok (r.put m n) := by
  cases found : r.files.get? m with
  | none =>
    refine .inl ⟨rfl, ?_⟩
    rw [addNode, found]
  | some file => exact .inr ⟨file, rfl, (Survey.addNode_reports n found).outcome⟩

theorem after_register (r : Registry) (m file : String) : r.after (.register m file) = r.register m file :=
  rfl

theorem after_add_of_fails {f : Failure} (fails : (r.addNode m n).outcome = .error f) :
    r.after (.add m n) = r := by
  rw [after, perform, fails]
  rfl

/-- What a list holds to which something is added that it may have. -/
theorem mem_ite_append {α : Type} [DecidableEq α] {list : List α} {a b : α} :
    b ∈ (if a ∈ list then list else list ++ [a]) ↔ b ∈ list ∨ b = a := by
  split
  · next known =>
    refine ⟨.inl, ?_⟩
    rintro (member | rfl)
    · exact member
    · exact known
  · rw [List.mem_append, List.mem_singleton]

theorem mem_modules_register {file other : String} :
    other ∈ (r.register m file).modules ↔ other ∈ r.modules ∨ other = m := by
  rw [modules_register, mem_ite_append]

theorem mem_files_register {file other : String} :
    other ∈ (r.register m file).files.keys ↔ other ∈ r.files.keys ∨ other = m := by
  rw [register, OrderedMap.keys_insert, mem_ite_append]

theorem modules_put (known : m ∈ r.modules) : (r.put m n).modules = r.modules := by
  rw [modules, put, OrderedMap.keys_insert]
  exact if_pos known

theorem mem_files_after {call : Call} :
    m ∈ (r.after call).files.keys ↔ m ∈ r.files.keys ∨ ∃ file, call = .register m file := by
  cases call with
  | register other file =>
    rw [after_register, mem_files_register]
    simp [eq_comm]
  | add other node =>
    have files : (r.after (.add other node)).files = r.files := by
      rcases addNode_cases r other node with ⟨-, fails⟩ | ⟨file, -, ends⟩
      · rw [after_add_of_fails (congrArg Trail.outcome fails)]
      · rw [after, perform, ends]
        rfl
    simp [files]

theorem Aligned.after (aligned : r.Aligned) (call : Call) : (r.after call).Aligned := by
  intro m
  cases call with
  | register other file => rw [after_register, mem_modules_register, mem_files_register, aligned m]
  | add other node =>
    rcases addNode_cases r other node with ⟨-, fails⟩ | ⟨file, found, ends⟩
    · rw [after_add_of_fails (congrArg Trail.outcome fails)]
      exact aligned m
    · have known : other ∈ r.modules := (aligned other).mpr (OrderedMap.mem_keys_iff.mpr ⟨file, found⟩)
      have put : r.after (.add other node) = r.put other node := by
        rw [Registry.after, perform, ends]
        rfl
      rw [put, modules_put known]
      exact aligned m

/-! ## Sequences of calls -/

theorem aligned_foldl_after (aligned : r.Aligned) (calls : List Call) : (calls.foldl after r).Aligned := by
  induction calls generalizing r with
  | nil => exact aligned
  | cons call rest ih => exact ih (aligned.after call)

theorem mem_files_foldl_after :
    m ∈ (calls.foldl after r).files.keys ↔ m ∈ r.files.keys ∨ ∃ file, .register m file ∈ calls := by
  induction calls generalizing r with
  | nil => simp
  | cons call rest ih =>
    rw [List.foldl_cons, ih, mem_files_after, or_assoc, ← exists_or]
    simp only [List.mem_cons, eq_comm]

theorem aligned_built (reportType : Option String) (calls : List Call) : (built reportType calls).Aligned :=
  aligned_foldl_after (fun _ => Iff.rfl) calls

theorem mem_modules_built_iff :
    m ∈ (built reportType calls).modules ↔ ∃ file, .register m file ∈ calls := by
  rw [aligned_built, built, mem_files_foldl_after]
  exact or_iff_right List.not_mem_nil

theorem Aligned.sourced (aligned : r.Aligned) : r.Sourced := by
  intro m member
  exact Option.isSome_iff_exists.mpr (OrderedMap.mem_keys_iff.mp ((aligned m).mp member))

theorem key_eq_of_get? {key : String} (found : (r.bucket m).get? key = some n) : n.key = key :=
  r.keyed_bucket m _ (OrderedMap.get?_eq_some_iff.mp found)

theorem addNode_built_fails {f : Failure}
    (fails : ((built reportType calls).addNode m n).outcome = .error f) :
    f = .problem (.missingSourceFile m) ∧ (∀ file, .register m file ∉ calls) ∧
      ((built reportType calls).addNode m n).steps = [] ∧
      (built reportType calls).after (.add m n) = built reportType calls := by
  rcases addNode_cases (built reportType calls) m n with ⟨missing, refused⟩ | ⟨file, -, ends⟩
  · refine ⟨?_, ?_, congrArg Trail.steps refused, after_add_of_fails fails⟩
    · rw [refused] at fails
      exact (Except.error.inj fails).symm
    · intro file registered
      have known : m ∈ (built reportType calls).modules := mem_modules_built_iff.mpr ⟨file, registered⟩
      obtain ⟨_, found⟩ := OrderedMap.mem_keys_iff.mp ((aligned_built reportType calls m).mp known)
      cases missing.symm.trans found
  · cases ends.symm.trans fails

end ReleaseImpact.Registry
