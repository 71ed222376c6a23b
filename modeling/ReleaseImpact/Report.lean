import ReleaseImpact.Change
import ReleaseImpact.OrderedMap
import ReleaseImpact.Value.Basic

/-!
The changes found by a comparison, in the order in which they were found, each under a domain. Main
statements:

- `changes_none`: without a domain all changes are given.
- `level?_eq_none_iff`: a report has no level just if it is empty.
- `heaviest?_mem` and `rank_le_of_heaviest?`: the level of a report is that of a change in it, and no
  change weighs more.
- `domains_add`: a new domain comes last, a known one keeps its place.
-/

namespace ReleaseImpact

def diDomain : String := "di"

def systemDomain : String := "system"

structure Report where
  entries : List (String × Change)

def heaviest? : List Severity → Option Severity
  | [] => none
  | s :: rest => some (rest.foldl Severity.max s)

theorem foldl_max_mem (s : Severity) (rest : List Severity) : rest.foldl Severity.max s ∈ s :: rest := by
  induction rest generalizing s with
  | nil => simp
  | cons t rest ih =>
    have hs := ih (s.max t)
    rcases Severity.max_eq_or s t with h | h <;> rw [h] at hs <;> grind

theorem rank_le_foldl_max {s t : Severity} {rest : List Severity} (h : t ∈ s :: rest) :
    t.rank ≤ (rest.foldl Severity.max s).rank := by
  induction rest generalizing s t with
  | nil => simp_all
  | cons u rest ih =>
    have hs : s.rank ≤ (s.max u).rank := by rw [Severity.rank_max]; omega
    have hu : u.rank ≤ (s.max u).rank := by rw [Severity.rank_max]; omega
    have hm := @ih (s.max u) _ List.mem_cons_self
    rcases List.mem_cons.1 h with rfl | h
    · exact Nat.le_trans hs hm
    · rcases List.mem_cons.1 h with rfl | h
      · exact Nat.le_trans hu hm
      · exact ih (List.mem_cons_of_mem _ h)

theorem heaviest?_mem {severities : List Severity} {s : Severity} (h : heaviest? severities = some s) :
    s ∈ severities := by
  cases severities with
  | nil => cases h
  | cons t rest => cases h; exact foldl_max_mem t rest

theorem rank_le_of_heaviest? {severities : List Severity} {s t : Severity}
    (h : heaviest? severities = some s) (ht : t ∈ severities) : t.rank ≤ s.rank := by
  cases severities with
  | nil => cases h
  | cons u rest => cases h; exact rank_le_foldl_max ht

namespace Report

def empty : Report := ⟨[]⟩

def add (r : Report) (domain : String) (c : Change) : Report := ⟨r.entries ++ [(domain, c)]⟩

def append (r : Report) (entries : List (String × Change)) : Report := ⟨r.entries ++ entries⟩

def length (r : Report) : Nat := r.entries.length

/-- The domains in order of first appearance. -/
def domains (r : Report) : List String := (r.entries.map Prod.fst).eraseDups

/-- The changes of a domain, or all of them. -/
def changes (r : Report) (domain : Option String) : List Change :=
  (r.entries.filter fun e => domain.all (· = e.1)).map Prod.snd

def byDomain (r : Report) : OrderedMap String (List Change) :=
  r.entries.foldl (fun m e => m.insert e.1 ((m.get? e.1).getD [] ++ [e.2])) .empty

/-- The heaviest severity in a domain, or in all of them. -/
def level? (r : Report) (domain : Option String) : Option Severity :=
  heaviest? ((r.changes domain).map Change.severity)

end Report

/-! ## As values -/

def levelValue (level : Option Severity) : Value := .optionText (level.map Severity.name)

def Change.toValue (c : Change) : Value :=
  .record
    ([("code", .text c.code), ("severity", .text c.severity.name), ("location", .text c.location),
      ("target", .text c.target), ("reason", .text c.reason), ("detail", .text c.detail)] ++
     (c.kind.property?.map fun p => ("field", Value.text p)).toList)

def domainValue (changes : List Change) : Value :=
  .record
    [("level", levelValue (heaviest? (changes.map Change.severity))),
     ("operations", .list (changes.map Change.toValue))]

def Report.toValue (r : Report) : Value :=
  .record
    [("level", levelValue (r.level? none)),
     ("domains", .record (r.byDomain.entries.map fun e => (e.1, domainValue e.2)))]

namespace Report

theorem changes_none (r : Report) : r.changes none = r.entries.map Prod.snd := by
  simp [changes, List.filter_eq_self.2]

theorem level?_eq_none_iff {r : Report} : r.level? none = none ↔ r.entries = [] := by
  cases r with
  | mk entries => cases entries <;> simp [level?, changes_none, heaviest?]

theorem domains_add (r : Report) (domain : String) (c : Change) :
    (r.add domain c).domains =
      if domain ∈ r.domains then r.domains else r.domains ++ [domain] := by
  unfold domains add
  simp only [List.map_append, List.map_cons, List.map_nil, List.eraseDups_append]
  by_cases h : domain ∈ r.entries.map Prod.fst
  · simp [h, List.removeAll, List.mem_eraseDups]
  · simp [h, List.removeAll, List.mem_eraseDups, List.eraseDups_cons]

end Report

end ReleaseImpact
