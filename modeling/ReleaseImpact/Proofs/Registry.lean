import ReleaseImpact.Proofs.OrderedMap
import ReleaseImpact.Snapshot

/-!
What a registry holds, module by module, and what its indexes show of that. Main statements:

- `entries_index`: an index lists the modules of a registry in their order.
- `filterMap_get?_bucket`: some keys of a module lead to its nodes that have them.
- `get?_types`: a name leads to the virtual type of a module that has it.
- `get?_index`: an index shows of a module the nodes that are picked from it.
-/

namespace ReleaseImpact.Registry

/-- The nodes of a module, in the order in which their keys were first added. -/
def nodesOf (r : Registry) (moduleName : String) : List Node := (r.bucket moduleName).values

def typesOf (r : Registry) (moduleName : String) : List VirtualType :=
  (r.nodesOf moduleName).filterMap Node.virtualType?

/-- The source file of a module that has one. -/
def fileOf (r : Registry) (moduleName : String) : String := (r.files.get? moduleName).getD ""

/-- Every module has a source file. -/
def Sourced (r : Registry) : Prop := ∀ moduleName ∈ r.modules, (r.files.get? moduleName).isSome = true

instance (r : Registry) : Decidable r.Sourced :=
  inferInstanceAs (Decidable (∀ moduleName ∈ r.modules, _))

theorem sourceFile_of_sourced {r : Registry} (sourced : r.Sourced) {moduleName : String}
    (member : moduleName ∈ r.modules) : r.sourceFile moduleName = .ok (r.fileOf moduleName) := by
  obtain ⟨file, found⟩ := Option.isSome_iff_exists.1 (sourced moduleName member)
  simp [sourceFile, fileOf, found]

/-- A registry filled module by module, each with its file and its nodes. -/
def ofModules (modules : List (String × String × List Node)) : Registry :=
  modules.foldl (fun r m => m.2.2.foldl (fun r n => r.put m.1 n) (r.register m.1 m.2.1)) (empty none)

theorem bucket_of_mem {r : Registry} {e : String × Nodes} (member : e ∈ r.nodes.entries) :
    r.bucket e.1 = e.2 := by
  rw [bucket, OrderedMap.get?_eq_some_iff.2 member]
  rfl

/-! ## Keys -/

theorem keys_bucket (r : Registry) (moduleName : String) :
    (r.bucket moduleName).keys = (r.nodesOf moduleName).map Node.key :=
  OrderedMap.keys_eq_map_values (r.keyed_bucket moduleName)

theorem filterMap_get?_bucket (r : Registry) (moduleName : String) (wanted : String → Bool) :
    ((r.bucket moduleName).keys.filter wanted).filterMap (r.bucket moduleName).get? =
      (r.nodesOf moduleName).filter fun n => wanted n.key :=
  OrderedMap.filterMap_get?_filter_keys (r.keyed_bucket moduleName) wanted

/-- The virtual types of a module, under their names. -/
def types (r : Registry) (moduleName : String) : OrderedMap String VirtualType :=
  (r.bucket moduleName).filterMap Node.virtualType?

theorem values_types (r : Registry) (moduleName : String) :
    (r.types moduleName).values = r.typesOf moduleName := OrderedMap.values_filterMap _ _

theorem named_types (r : Registry) (moduleName : String) :
    ∀ e ∈ (r.types moduleName).entries, e.2.name = e.1 := by
  intro e member
  obtain ⟨⟨key, n⟩, here, image⟩ := List.mem_filterMap.1 member
  have keyed := r.keyed_bucket moduleName _ here
  cases n <;> simp [Node.virtualType?] at image
  rw [← image]
  exact keyed

theorem get?_types (r : Registry) (moduleName name : String) :
    (r.types moduleName).get? name = (r.typesOf moduleName).find? (·.name = name) := by
  rw [OrderedMap.get?_eq_find? (r.named_types moduleName), values_types]

/-! ## Indexes -/

variable {α : Type}

theorem entries_index (r : Registry) (pick : Node → Option α) :
    (r.index pick).entries = r.modules.map fun m => (m, (r.bucket m).filterMap pick) := by
  rw [modules, OrderedMap.keys, List.map_map]
  apply List.map_congr_left
  intro e member
  simp only [Function.comp_apply, bucket_of_mem member]

theorem keys_index (r : Registry) (pick : Node → Option α) : (r.index pick).keys = r.modules :=
  OrderedMap.keys_mapValues _ _

theorem get?_index {r : Registry} {moduleName : String} (member : moduleName ∈ r.modules)
    (pick : Node → Option α) :
    (r.index pick).get? moduleName = some ((r.bucket moduleName).filterMap pick) := by
  obtain ⟨nodes, found⟩ := OrderedMap.mem_keys_iff.1 member
  rw [index, OrderedMap.get?_mapValues, bucket, found]
  rfl

end ReleaseImpact.Registry
