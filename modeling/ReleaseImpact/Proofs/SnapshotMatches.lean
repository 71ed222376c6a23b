import ReleaseImpact.Proofs.OrderedMap
import ReleaseImpact.Snapshot
import Mathlib.Data.List.Nodup

/-!
How the modules and the keys of two snapshots are sorted into those of one side and those of both. Main statements:

- `KeyMatch.partition_ofKeys`: a match takes the keys of the two sides apart, each list in the order of a side.
- `KeyMatch.swapped_ofKeys`: exchanging the sides exchanges added with removed keys and permutes common ones.
- `KeyMatch.unchanged_ofKeys_iff`: a match is unchanged just if both sides have the same keys.
- `SnapshotMatch.ofIndexes_partition`: all of that holds for modules and for the keys of each common module.
-/

namespace ReleaseImpact

variable {α β : Type}

namespace KeyMatch

/-- Each key of either side is in one of the lists, once. The lists keep the order of the sides. -/
structure Partition (m : KeyMatch) (before after : List String) : Prop where
  added : m.added.Sublist after
  removed : m.removed.Sublist before
  common : m.common.Sublist before
  distinct : (m.added ++ m.removed ++ m.common).Nodup
  complete : ∀ key, key ∈ m.added ++ m.removed ++ m.common ↔ key ∈ before ∨ key ∈ after
  mem_added : ∀ key, key ∈ m.added ↔ key ∈ after ∧ key ∉ before
  mem_removed : ∀ key, key ∈ m.removed ↔ key ∈ before ∧ key ∉ after
  mem_common : ∀ key, key ∈ m.common ↔ key ∈ before ∧ key ∈ after

/-- What becomes of a match when its sides are exchanged. -/
structure Swapped (m m' : KeyMatch) : Prop where
  added : m'.added = m.removed
  removed : m'.removed = m.added
  common : m'.common.Perm m.common

variable {before after : List String}

theorem partition_ofKeys (distinct : before.Nodup) (distinct' : after.Nodup) :
    (ofKeys before after).Partition before after where
  added := List.filter_sublist
  removed := List.filter_sublist
  common := List.filter_sublist
  distinct := by
    refine List.Nodup.append (List.Nodup.append (distinct'.filter _) (distinct.filter _) ?_) (distinct.filter _) ?_
    · intro key added removed
      exact (mem_added_iff.mp added).2 (mem_removed_iff.mp removed).1
    · intro key single common
      obtain ⟨inBefore, inAfter⟩ := mem_common_iff.mp common
      rcases List.mem_append.mp single with added | removed
      · exact (mem_added_iff.mp added).2 inBefore
      · exact (mem_removed_iff.mp removed).2 inAfter
  complete key := by
    rw [List.mem_append, List.mem_append, mem_added_iff, mem_removed_iff, mem_common_iff]
    by_cases inBefore : key ∈ before <;> by_cases inAfter : key ∈ after <;> simp [inBefore, inAfter]
  mem_added _ := mem_added_iff
  mem_removed _ := mem_removed_iff
  mem_common _ := mem_common_iff

theorem swapped_ofKeys (distinct : before.Nodup) (distinct' : after.Nodup) :
    (ofKeys before after).Swapped (ofKeys after before) where
  added := (ofKeys_swap before after).1
  removed := (ofKeys_swap before after).2
  common := by
    refine (List.perm_ext_iff_of_nodup (distinct'.filter _) (distinct.filter _)).mpr fun key => ?_
    exact mem_common_iff.trans (and_comm.trans mem_common_iff.symm)

theorem unchanged_iff {m : KeyMatch} : m.unchanged = true ↔ m.added = [] ∧ m.removed = [] := by
  rw [unchanged, Bool.and_eq_true, List.isEmpty_iff, List.isEmpty_iff]

theorem unchanged_ofKeys_iff : (ofKeys before after).unchanged = true ↔ ∀ key, key ∈ before ↔ key ∈ after := by
  simp only [unchanged_iff, List.eq_nil_iff_forall_not_mem, mem_added_iff, mem_removed_iff, not_and, not_not]
  exact ⟨fun ⟨added, removed⟩ key => ⟨removed key, added key⟩,
    fun same => ⟨fun key => (same key).mpr, fun key => (same key).mp⟩⟩

end KeyMatch

/-- The nodes of each module by their keys. -/
abbrev KeyedNodes (α : Type) := OrderedMap String (OrderedMap String α)

namespace SnapshotMatch

structure Pairs (m : SnapshotMatch) (before after : KeyedNodes α) : Prop where
  modules : m.modules.Partition before.keys after.keys
  names : m.common.map Prod.fst = m.modules.common
  inside : ∀ name inner, (name, inner) ∈ m.common → ∃ nodes nodes',
    before.get? name = some nodes ∧ after.get? name = some nodes' ∧ inner.Partition nodes.keys nodes'.keys

structure Swapped (m m' : SnapshotMatch) : Prop where
  modules : m.modules.Swapped m'.modules
  names : (m'.common.map Prod.fst).Perm (m.common.map Prod.fst)
  inside : ∀ name inner inner', (name, inner) ∈ m.common → (name, inner') ∈ m'.common → inner.Swapped inner'

/-- Both sides have the same modules, and each of them the same keys. -/
structure SameKeys (before after : KeyedNodes α) : Prop where
  modules : ∀ name, name ∈ before.keys ↔ name ∈ after.keys
  keys : ∀ name nodes nodes', before.get? name = some nodes → after.get? name = some nodes' →
    ∀ key, key ∈ nodes.keys ↔ key ∈ nodes'.keys

variable {before after : KeyedNodes α}

theorem mem_common_iff {name : String} {inner : KeyMatch} :
    (name, inner) ∈ (ofIndexes before after).common ↔ ∃ nodes nodes',
      before.get? name = some nodes ∧ after.get? name = some nodes' ∧ inner = .ofKeys nodes.keys nodes'.keys := by
  have keys {index : KeyedNodes α} {nodes : OrderedMap String α} (found : index.get? name = some nodes) :
      keysOf name index = nodes.keys := by rw [keysOf, found, Option.map_some, Option.getD_some]
  constructor
  · intro member
    obtain ⟨_, common, same⟩ := List.mem_map.mp member
    cases same
    obtain ⟨inBefore, inAfter⟩ := KeyMatch.mem_common_iff.mp common
    obtain ⟨nodes, found⟩ := OrderedMap.mem_keys_iff.mp inBefore
    obtain ⟨nodes', found'⟩ := OrderedMap.mem_keys_iff.mp inAfter
    exact ⟨nodes, nodes', found, found', congrArg₂ _ (keys found) (keys found')⟩
  · rintro ⟨nodes, nodes', found, found', rfl⟩
    refine List.mem_map.mpr ⟨name, KeyMatch.mem_common_iff.mpr ?_, ?_⟩
    · exact ⟨OrderedMap.mem_keys_iff.mpr ⟨nodes, found⟩, OrderedMap.mem_keys_iff.mpr ⟨nodes', found'⟩⟩
    · rw [keys found, keys found']

theorem names_common (before after : KeyedNodes α) :
    (ofIndexes before after).common.map Prod.fst = (ofIndexes before after).modules.common := by
  rw [ofIndexes, List.map_map]
  exact List.map_id _

theorem ofIndexes_congr {before' after' : KeyedNodes β}
    (same : before'.mapValues OrderedMap.keys = before.mapValues OrderedMap.keys)
    (same' : after'.mapValues OrderedMap.keys = after.mapValues OrderedMap.keys) :
    ofIndexes before' after' = ofIndexes before after := by
  have keys {index : KeyedNodes α} {index' : KeyedNodes β}
      (same : index'.mapValues OrderedMap.keys = index.mapValues OrderedMap.keys) : index'.keys = index.keys := by
    rw [← OrderedMap.keys_mapValues OrderedMap.keys index', same, OrderedMap.keys_mapValues]
  have inside {index : KeyedNodes α} {index' : KeyedNodes β}
      (same : index'.mapValues OrderedMap.keys = index.mapValues OrderedMap.keys) (name : String) :
      keysOf name index' = keysOf name index := by
    rw [keysOf, keysOf, ← OrderedMap.get?_mapValues, ← OrderedMap.get?_mapValues, same]
  simp only [ofIndexes, keys same, keys same', inside same, inside same']

theorem pairs_ofIndexes (before after : KeyedNodes α) : (ofIndexes before after).Pairs before after where
  modules := KeyMatch.partition_ofKeys before.nodup_keys after.nodup_keys
  names := names_common before after
  inside := by
    intro name inner member
    obtain ⟨nodes, nodes', found, found', rfl⟩ := mem_common_iff.mp member
    exact ⟨nodes, nodes', found, found', KeyMatch.partition_ofKeys nodes.nodup_keys nodes'.nodup_keys⟩

theorem swapped_ofIndexes (before after : KeyedNodes α) :
    (ofIndexes before after).Swapped (ofIndexes after before) where
  modules := KeyMatch.swapped_ofKeys before.nodup_keys after.nodup_keys
  names := by
    rw [names_common, names_common]
    exact (KeyMatch.swapped_ofKeys before.nodup_keys after.nodup_keys).common
  inside := by
    intro name inner inner' member member'
    obtain ⟨nodes, nodes', found, found', rfl⟩ := mem_common_iff.mp member
    obtain ⟨_, _, again', again, rfl⟩ := mem_common_iff.mp member'
    cases found.symm.trans again
    cases found'.symm.trans again'
    exact KeyMatch.swapped_ofKeys nodes.nodup_keys nodes'.nodup_keys

theorem unchanged_iff : ((ofIndexes before after).modules.unchanged = true ∧
    ∀ name inner, (name, inner) ∈ (ofIndexes before after).common → inner.unchanged = true) ↔
      SameKeys before after := by
  constructor
  · rintro ⟨modules, inside⟩
    refine ⟨KeyMatch.unchanged_ofKeys_iff.mp modules, fun name nodes nodes' found found' => ?_⟩
    exact KeyMatch.unchanged_ofKeys_iff.mp (inside name _ (mem_common_iff.mpr ⟨nodes, nodes', found, found', rfl⟩))
  · rintro ⟨modules, keys⟩
    refine ⟨KeyMatch.unchanged_ofKeys_iff.mpr modules, fun name inner member => ?_⟩
    obtain ⟨nodes, nodes', found, found', rfl⟩ := mem_common_iff.mp member
    exact KeyMatch.unchanged_ofKeys_iff.mpr (keys name nodes nodes' found found')

/-- The modules of two snapshots are sorted into added, removed and common ones, and so are the keys of each
common module. Only the keys matter for this, and exchanging the snapshots exchanges the lists. A module counts as
unchanged just if it has the same keys in both, and nothing is added, removed or changed just if both snapshots
have the same modules with the same keys. -/
theorem ofIndexes_partition (before after : KeyedNodes α) :
    (ofIndexes before after).Pairs before after ∧
      (∀ {β : Type} (before' after' : KeyedNodes β),
        before'.mapValues OrderedMap.keys = before.mapValues OrderedMap.keys →
        after'.mapValues OrderedMap.keys = after.mapValues OrderedMap.keys →
        ofIndexes before' after' = ofIndexes before after) ∧
      (ofIndexes before after).Swapped (ofIndexes after before) ∧
      (∀ name nodes nodes' inner, before.get? name = some nodes → after.get? name = some nodes' →
        (name, inner) ∈ (ofIndexes before after).common →
        (inner.unchanged = true ↔ ∀ key, key ∈ nodes.keys ↔ key ∈ nodes'.keys)) ∧
      (((ofIndexes before after).modules.added = [] ∧ (ofIndexes before after).modules.removed = [] ∧
        ∀ name inner, (name, inner) ∈ (ofIndexes before after).common → inner.unchanged = true) ↔
          SameKeys before after) := by
  refine ⟨pairs_ofIndexes before after, fun _ _ => ofIndexes_congr, swapped_ofIndexes before after, ?_, ?_⟩
  · intro name nodes nodes' inner found found' member
    obtain ⟨_, _, again, again', rfl⟩ := mem_common_iff.mp member
    cases found.symm.trans again
    cases found'.symm.trans again'
    exact KeyMatch.unchanged_ofKeys_iff
  · rw [← and_assoc, ← KeyMatch.unchanged_iff]
    exact unchanged_iff

end SnapshotMatch

end ReleaseImpact
