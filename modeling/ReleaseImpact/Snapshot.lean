import ReleaseImpact.Registry

/-!
Two snapshots side by side: which modules and which keys are in both of them or in one only. Main
statements:

- `mem_added_iff`, `mem_removed_iff` and `mem_common_iff`: what each list holds.
- `ofKeys_swap`: exchanging the sides exchanges the added and the removed keys.
- `unchanged_ofKeys_self`: a side compared with itself is unchanged.
-/

namespace ReleaseImpact

variable {α : Type}

/-- For each module the nodes that have an image, with the images. Every module is kept. -/
def Registry.index (r : Registry) (pick : Node → Option α) : OrderedMap String (OrderedMap String α) :=
  r.nodes.mapValues (·.filterMap pick)

def ofKinds (kinds : List Kind) (n : Node) : Option Node := if n.kind ∈ kinds then some n else none

/-- Whether two indexes have the same modules with the same keys and nodes, in whatever order. -/
def sameIndex [DecidableEq α] (before after : OrderedMap String (OrderedMap String α)) : Bool :=
  before.agreesBy OrderedMap.agrees after

structure KeyMatch where
  added : List String
  removed : List String
  common : List String
  deriving DecidableEq, Repr

namespace KeyMatch

/-- Added keys stand in the order of the later side, the others in the order of the earlier one. -/
def ofKeys (before after : List String) : KeyMatch where
  added := after.filter (· ∉ before)
  removed := before.filter (· ∉ after)
  common := before.filter (· ∈ after)

def unchanged (m : KeyMatch) : Bool := m.added.isEmpty && m.removed.isEmpty

theorem mem_added_iff {before after : List String} {key : String} :
    key ∈ (ofKeys before after).added ↔ key ∈ after ∧ key ∉ before := by simp [ofKeys]

theorem mem_removed_iff {before after : List String} {key : String} :
    key ∈ (ofKeys before after).removed ↔ key ∈ before ∧ key ∉ after := by simp [ofKeys]

theorem mem_common_iff {before after : List String} {key : String} :
    key ∈ (ofKeys before after).common ↔ key ∈ before ∧ key ∈ after := by simp [ofKeys]

theorem ofKeys_swap (before after : List String) :
    (ofKeys after before).added = (ofKeys before after).removed ∧
      (ofKeys after before).removed = (ofKeys before after).added := ⟨rfl, rfl⟩

theorem unchanged_ofKeys_self (keys : List String) : (ofKeys keys keys).unchanged = true := by
  simp [ofKeys, unchanged, List.filter_eq_nil_iff]

end KeyMatch

structure SnapshotMatch where
  modules : KeyMatch
  common : List (String × KeyMatch)
  deriving DecidableEq, Repr

namespace SnapshotMatch

def keysOf (moduleName : String) (index : OrderedMap String (OrderedMap String α)) : List String :=
  ((index.get? moduleName).map OrderedMap.keys).getD []

def ofIndexes (before after : OrderedMap String (OrderedMap String α)) : SnapshotMatch :=
  let modules := KeyMatch.ofKeys before.keys after.keys
  ⟨modules, modules.common.map fun m => (m, .ofKeys (keysOf m before) (keysOf m after))⟩

end SnapshotMatch

end ReleaseImpact
