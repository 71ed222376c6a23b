import ReleaseImpact.CommandLine.Wording
import ReleaseImpact.Proofs.NextVersion
import ReleaseImpact.Proofs.OrderedMap
import Mathlib

/-!
A report by its domains. Main statements:

- `Report.pairwise_domains`: the domains stand in the order in which they appear first.
- `Report.entries_byDomain`: the groups are the changes of the domains, each in the order in which they were added.
- `Report.perm_entries`: the groups together hold each change once.
- `Report.level?_eq_some_iff_domains`: the level of a report is the highest one of its domains.
- `Report.views_addAll`: whatever has been added to a report, its views agree.
-/

namespace ReleaseImpact

open scoped List

theorem heaviest?_eq_none_iff {severities : List Severity} : heaviest? severities = none ↔ severities = [] := by
  cases severities with
  | nil => exact iff_of_true rfl rfl
  | cons => exact iff_of_false (Option.some_ne_none _) (List.cons_ne_nil _ _)

theorem heaviest?_eq_some_iff {severities : List Severity} {s : Severity} :
    heaviest? severities = some s ↔ s ∈ severities ∧ ∀ t ∈ severities, t.rank ≤ s.rank := by
  refine ⟨fun heaviest => ⟨heaviest?_mem heaviest, fun _ => rank_le_of_heaviest? heaviest⟩, ?_⟩
  rintro ⟨member, bounds⟩
  cases heaviest : heaviest? severities with
  | none => exact absurd (heaviest?_eq_none_iff.mp heaviest ▸ member) List.not_mem_nil
  | some t =>
    have same := Nat.le_antisymm (rank_le_of_heaviest? heaviest member) (bounds t (heaviest?_mem heaviest))
    rw [Severity.rank_injective same]

theorem pairwise_idxOf_eraseDups (tags : List String) :
    tags.eraseDups.Pairwise fun tag other => tags.idxOf tag < tags.idxOf other := by
  induction tags using List.reverseRecOn with
  | nil => exact .nil
  | append_singleton tags tag ih =>
    have earlier : tags.eraseDups.Pairwise fun a b => (tags ++ [tag]).idxOf a < (tags ++ [tag]).idxOf b := by
      refine ih.imp_of_mem fun member member' less => ?_
      rwa [List.idxOf_append_of_mem (List.mem_eraseDups.mp member),
        List.idxOf_append_of_mem (List.mem_eraseDups.mp member')]
    rw [OrderedMap.eraseDups_concat]
    split
    case isTrue known => exact earlier
    case isFalse new =>
      refine List.pairwise_append.mpr ⟨earlier, List.pairwise_singleton _ _, fun other member last isLast => ?_⟩
      have before : other ∈ tags := List.mem_eraseDups.mp member
      rw [List.mem_singleton.mp isLast, List.idxOf_append_of_mem before, List.idxOf_append_of_notMem new]
      exact Nat.lt_of_lt_of_le (List.idxOf_lt_length_of_mem before) (Nat.le_add_right _ _)

/-- What is sorted by different tags is still there, each item once. -/
theorem perm_flatMap_filter {α : Type} {tags : List String} (distinct : tags.Nodup) (items : List (String × α)) :
    (tags.flatMap fun tag => items.filter (·.1 = tag)).Perm (items.filter (·.1 ∈ tags)) := by
  induction tags with
  | nil => simp
  | cons tag rest ih =>
    obtain ⟨apart, distinct⟩ := List.nodup_cons.mp distinct
    let all := items.filter (·.1 ∈ tag :: rest)
    have tagged : all.filter (·.1 = tag) = items.filter (·.1 = tag) := by
      rw [List.filter_filter]
      exact List.filter_congr fun e _ => by by_cases here : e.1 = tag <;> simp [here]
    have others : all.filter (fun e => !decide (e.1 = tag)) = items.filter (·.1 ∈ rest) := by
      rw [List.filter_filter]
      refine List.filter_congr fun e _ => ?_
      by_cases here : e.1 = tag
      · simp [here, apart]
      · simp [here]
    calc (tag :: rest).flatMap (fun tag => items.filter (·.1 = tag))
      _ = items.filter (·.1 = tag) ++ rest.flatMap fun tag => items.filter (·.1 = tag) := List.flatMap_cons
      _ ~ items.filter (·.1 = tag) ++ items.filter (·.1 ∈ rest) := (ih distinct).append_left _
      _ = all.filter (·.1 = tag) ++ all.filter fun e => !decide (e.1 = tag) := by rw [tagged, others]
      _ ~ all := List.filter_append_perm _ all

namespace Report

variable {r : Report} {domain : String}

theorem entries_addAll (r : Report) (more : List (String × Change)) :
    (r.addAll more).entries = r.entries ++ more := by
  induction more generalizing r with
  | nil => exact (List.append_nil _).symm
  | cons e rest ih => exact (ih _).trans (List.append_assoc _ _ _)

@[elab_as_elim]
theorem add_induction {motive : Report → Prop} (empty : motive .empty)
    (add : ∀ r domain c, motive r → motive (r.add domain c)) (r : Report) : motive r := by
  obtain ⟨entries⟩ := r
  induction entries using List.reverseRecOn with
  | nil => exact empty
  | append_singleton entries e ih => exact add ⟨entries⟩ e.1 e.2 ih

theorem mem_domains_iff : domain ∈ r.domains ↔ ∃ c, (domain, c) ∈ r.entries := by
  rw [domains, List.mem_eraseDups, List.mem_map]
  constructor
  · rintro ⟨⟨_, c⟩, member, rfl⟩
    exact ⟨c, member⟩
  · rintro ⟨c, member⟩
    exact ⟨_, member, rfl⟩

theorem map_changes (r : Report) (domain : String) :
    (r.changes (some domain)).map (domain, ·) = r.entries.filter (·.1 = domain) := by
  have kept : (r.entries.filter fun e => (some domain).all (· = e.1)) = r.entries.filter (·.1 = domain) :=
    List.filter_congr fun e _ => decide_eq_decide.mpr eq_comm
  rw [changes, kept, List.map_map]
  refine (List.map_congr_left fun e member => ?_).trans (List.map_id _)
  exact Prod.ext (of_decide_eq_true (List.mem_filter.mp member).2).symm rfl

theorem mem_changes_iff {c : Change} : c ∈ r.changes (some domain) ↔ (domain, c) ∈ r.entries := by
  have tagged : (domain, c) ∈ (r.changes (some domain)).map (domain, ·) ↔ (domain, c) ∈ r.entries := by
    rw [map_changes, List.mem_filter]
    exact and_iff_left (decide_eq_true rfl)
  rw [← tagged, List.mem_map_of_injective (fun _ _ same => (Prod.mk.inj same).2)]

theorem changes_of_not_mem_domains (new : domain ∉ r.domains) : r.changes (some domain) = [] := by
  refine List.eq_nil_iff_forall_not_mem.mpr fun c member => new ?_
  exact mem_domains_iff.mpr ⟨c, mem_changes_iff.mp member⟩

theorem changes_add (r : Report) (domain other : String) (c : Change) :
    (r.add other c).changes (some domain) = r.changes (some domain) ++ if domain = other then [c] else [] := by
  by_cases same : domain = other <;> simp [changes, add, same]

theorem byDomain_add (r : Report) (domain : String) (c : Change) :
    (r.add domain c).byDomain = r.byDomain.insert domain ((r.byDomain.get? domain).getD [] ++ [c]) := by
  simp only [byDomain, add, List.foldl_append, List.foldl_cons, List.foldl_nil]

theorem keys_byDomain (r : Report) : r.byDomain.keys = r.domains := by
  induction r using add_induction with
  | empty => rfl
  | add r domain c ih => rw [byDomain_add, OrderedMap.keys_insert, ih, domains_add]

theorem nodup_domains (r : Report) : r.domains.Nodup := r.keys_byDomain ▸ r.byDomain.nodup_keys

theorem get?_byDomain (r : Report) (domain : String) :
    r.byDomain.get? domain = if domain ∈ r.domains then some (r.changes (some domain)) else none := by
  induction r using add_induction with
  | empty => rfl
  | add r other c ih =>
    rw [byDomain_add, OrderedMap.get?_insert, changes_add]
    by_cases same : other = domain
    · subst same
      have known : other ∈ (r.add other c).domains :=
        mem_domains_iff.mpr ⟨c, List.mem_append_right _ (List.mem_singleton_self _)⟩
      have before : (r.byDomain.get? other).getD [] = r.changes (some other) := by
        rw [ih]
        split
        case isTrue => rfl
        case isFalse new => exact (changes_of_not_mem_domains new).symm
      rw [if_pos rfl, if_pos known, if_pos rfl, before]
    · have known : domain ∈ (r.add other c).domains ↔ domain ∈ r.domains := by
        simp [mem_domains_iff, add, Ne.symm same]
      rw [if_neg same, if_neg (Ne.symm same), List.append_nil, ih]
      simp only [known]

theorem entries_byDomain (r : Report) :
    r.byDomain.entries = r.domains.map fun domain => (domain, r.changes (some domain)) := by
  rw [OrderedMap.entries_eq_filterMap, keys_byDomain, ← List.filterMap_eq_map]
  refine List.filterMap_congr fun domain member => ?_
  rw [get?_byDomain, if_pos member]
  rfl

theorem pairwise_domains (r : Report) :
    r.domains.Pairwise fun domain other =>
      (r.entries.map Prod.fst).idxOf domain < (r.entries.map Prod.fst).idxOf other :=
  pairwise_idxOf_eraseDups _

theorem perm_entries (r : Report) :
    (r.domains.flatMap fun domain => (r.changes (some domain)).map (domain, ·)).Perm r.entries := by
  simp only [map_changes]
  refine (perm_flatMap_filter r.nodup_domains r.entries).trans (.of_eq ?_)
  exact List.filter_eq_self.mpr fun e member => decide_eq_true (mem_domains_iff.mpr ⟨e.2, member⟩)

theorem sum_lengths (r : Report) :
    (r.domains.map fun domain => (r.changes (some domain)).length).sum = r.length := by
  rw [length, ← r.perm_entries.length_eq, List.length_flatMap]
  simp only [List.length_map]

/-! ## Levels -/

theorem level?_domain_eq_some_iff {s : Severity} : r.level? (some domain) = some s ↔
    (∃ c, (domain, c) ∈ r.entries ∧ c.severity = s) ∧ ∀ c, (domain, c) ∈ r.entries → c.severity.rank ≤ s.rank := by
  rw [level?, heaviest?_eq_some_iff]
  simp only [List.mem_map, mem_changes_iff, forall_exists_index, and_imp, forall_apply_eq_imp_iff₂]

theorem exists_level_of_mem {c : Change} (member : (domain, c) ∈ r.entries) :
    ∃ s, r.level? (some domain) = some s ∧ c.severity.rank ≤ s.rank := by
  have found : c.severity ∈ (r.changes (some domain)).map Change.severity :=
    List.mem_map_of_mem (mem_changes_iff.mpr member)
  cases level : r.level? (some domain) with
  | none => exact absurd found (by rw [heaviest?_eq_none_iff.mp level]; exact List.not_mem_nil)
  | some s => exact ⟨s, rfl, rank_le_of_heaviest? level found⟩

theorem level?_eq_some_iff_domains {s : Severity} : r.level? none = some s ↔
    (∃ domain ∈ r.domains, r.level? (some domain) = some s) ∧
      ∀ domain t, r.level? (some domain) = some t → t.rank ≤ s.rank := by
  rw [level?_eq_some_iff]
  constructor
  · rintro ⟨⟨⟨domain, c⟩, member, rfl⟩, bounds⟩
    -- Nothing weighs more than this change, so that the level of its domain is just its severity.
    have below {domain : String} {t : Severity} (level : r.level? (some domain) = some t) :
        t.rank ≤ c.severity.rank := by
      obtain ⟨⟨c', member', rfl⟩, -⟩ := level?_domain_eq_some_iff.mp level
      exact bounds _ member'
    obtain ⟨t, level, heavier⟩ := exists_level_of_mem member
    have same : t = c.severity := Severity.rank_injective (Nat.le_antisymm (below level) heavier)
    exact ⟨⟨domain, mem_domains_iff.mpr ⟨c, member⟩, same ▸ level⟩, fun _ _ => below⟩
  · rintro ⟨⟨domain, -, level⟩, bounds⟩
    obtain ⟨⟨c, member, severity⟩, -⟩ := level?_domain_eq_some_iff.mp level
    refine ⟨⟨_, member, severity⟩, fun e member' => ?_⟩
    obtain ⟨t, level', heavier⟩ := exists_level_of_mem member'
    exact Nat.le_trans heavier (bounds _ t level')

/-! ## Views -/

/-- What is known of a report from one side agrees with what is known of it from the others. -/
structure Views (r : Report) (added : List (String × Change)) : Prop where
  entries : r.entries = added
  distinct : r.domains.Nodup
  mem_domains : ∀ domain, domain ∈ r.domains ↔ ∃ c, (domain, c) ∈ added
  appearance : r.domains.Pairwise fun domain other =>
    (added.map Prod.fst).idxOf domain < (added.map Prod.fst).idxOf other
  keys : r.byDomain.keys = r.domains
  groups : ∀ domain ∈ r.domains, r.byDomain.get? domain = some (r.changes (some domain))
  tagged : ∀ domain, (r.changes (some domain)).map (domain, ·) = added.filter (·.1 = domain)
  once : (r.domains.flatMap fun domain => (r.changes (some domain)).map (domain, ·)).Perm added
  lengths : (r.domains.map fun domain => (r.changes (some domain)).length).sum = r.length
  noLevel : r.level? none = none ↔ added = []
  someLevel : ∀ domain ∈ r.domains, ∃ s, r.level? (some domain) = some s
  highest : ∀ s, r.level? none = some s ↔ (∃ domain ∈ r.domains, r.level? (some domain) = some s) ∧
    ∀ domain t, r.level? (some domain) = some t → t.rank ≤ s.rank
  value : r.toValue = .record
    [("level", levelValue (r.level? none)),
      ("domains", .record (r.domains.map fun domain => (domain, .record
        [("level", levelValue (r.level? (some domain))),
          ("operations", .list ((r.changes (some domain)).map Change.toValue))])))]

theorem views (r : Report) : r.Views r.entries where
  entries := rfl
  distinct := r.nodup_domains
  mem_domains _ := mem_domains_iff
  appearance := r.pairwise_domains
  keys := r.keys_byDomain
  groups domain member := by rw [get?_byDomain, if_pos member]
  tagged := r.map_changes
  once := r.perm_entries
  lengths := r.sum_lengths
  noLevel := level?_eq_none_iff
  someLevel domain member := by
    obtain ⟨c, member⟩ := mem_domains_iff.mp member
    obtain ⟨s, level, -⟩ := exists_level_of_mem member
    exact ⟨s, level⟩
  highest _ := level?_eq_some_iff_domains
  value := by
    rw [toValue, entries_byDomain, List.map_map]
    rfl

/-- Whatever has been added to a report, its views agree. -/
theorem views_addAll (added : List (String × Change)) : (empty.addAll added).Views added := by
  have views := (empty.addAll added).views
  rwa [entries_addAll] at views

end Report

theorem CommandLine.changeLines_eq (r : Report) : changeLines r =
    r.domains.flatMap fun domain => ("[" ++ domain ++ "]") :: (r.changes (some domain)).map changeLine := by
  rw [changeLines, r.entries_byDomain, List.flatMap_map]

end ReleaseImpact
