import ReleaseImpact.Text.Split

/-!
Detected changes and how much they weigh. Main statements:

- `Severity.rank_injective`: severities of one rank are equal.
- `Severity.rank_max`: the heavier of two has the greater rank.
- `Severity.max_assoc` and `Severity.max_comm`: the heaviest of several does not depend on order.
- `ChangeKind.code_ne`: kinds without a property name are told apart by their codes.
-/

namespace ReleaseImpact

/-- How much a change weighs, which is the part of the version number it raises. -/
inductive Severity
  | patch
  | minor
  | major
  deriving DecidableEq, Repr

namespace Severity

def rank : Severity → Nat
  | patch => 1
  | minor => 2
  | major => 3

def name : Severity → String
  | patch => "PATCH"
  | minor => "MINOR"
  | major => "MAJOR"

/-- The part of a version number that is raised. -/
def part : Severity → String
  | patch => "patch"
  | minor => "minor"
  | major => "major"

protected def max (a b : Severity) : Severity := if a.rank < b.rank then b else a

theorem rank_injective {a b : Severity} (h : a.rank = b.rank) : a = b := by
  cases a <;> cases b <;> first | rfl | simp [rank] at h

theorem rank_max (a b : Severity) : (a.max b).rank = max a.rank b.rank := by
  cases a <;> cases b <;> rfl

theorem max_eq_or (a b : Severity) : a.max b = a ∨ a.max b = b := by
  cases a <;> cases b <;> simp [Severity.max, rank]

theorem max_assoc (a b c : Severity) : (a.max b).max c = a.max (b.max c) := by
  cases a <;> cases b <;> cases c <;> rfl

theorem max_comm (a b : Severity) : a.max b = b.max a := by cases a <;> cases b <;> rfl

end Severity

inductive ChangeKind
  | unclassified
  | virtualTypeRemoved
  | virtualTypeChanged (property : String)
  | virtualTypeToType
  | fileAdded
  | fileRemoved
  | sectionAdded
  | sectionRemoved
  | groupAdded
  | groupRemoved
  | fieldAdded
  | fieldRemoved
  | duplicateFieldAdded
  deriving DecidableEq, Repr

namespace ChangeKind

def code : ChangeKind → String
  | unclassified => "M000"
  | virtualTypeRemoved => "M200"
  | virtualTypeChanged _ => "M201"
  | virtualTypeToType => "M202"
  | fileAdded => "M300"
  | fileRemoved => "M301"
  | sectionAdded => "M302"
  | sectionRemoved => "M303"
  | groupAdded => "M304"
  | groupRemoved => "M305"
  | fieldAdded => "M306"
  | fieldRemoved => "M307"
  | duplicateFieldAdded => "M308"

def severity : ChangeKind → Severity
  | virtualTypeToType => .patch
  | fileAdded => .minor
  | sectionAdded => .minor
  | groupAdded => .minor
  | fieldAdded => .minor
  | duplicateFieldAdded => .minor
  | _ => .major

def reason : ChangeKind → String
  | unclassified => "Unclassified change"
  | virtualTypeRemoved => "Virtual Type was removed"
  | virtualTypeChanged _ => "Virtual Type was changed"
  | virtualTypeToType => "Virtual Type was changed to type"
  | fileAdded => "System configuration file was added"
  | fileRemoved => "System configuration file was removed"
  | sectionAdded => "A section node was added"
  | sectionRemoved => "A section node was removed"
  | groupAdded => "A group node was added"
  | groupRemoved => "A group node was removed"
  | fieldAdded => "A field node was added"
  | fieldRemoved => "A field node was removed"
  | duplicateFieldAdded => "A field duplicating an existing declaration was added"

def property? : ChangeKind → Option String
  | virtualTypeChanged property => some property
  | _ => none

theorem code_ne {a b : ChangeKind} (ha : a.property? = none) (hb : b.property? = none)
    (h : a.code = b.code) : a = b := by
  cases a <;> cases b <;> first | rfl | simp_all [code, property?]

end ChangeKind

/-- One detected change: of what kind, in which file, of what. -/
structure Change where
  kind : ChangeKind
  location : String
  target : String
  deriving DecidableEq, Repr

namespace Change

def code (c : Change) : String := c.kind.code

def severity (c : Change) : Severity := c.kind.severity

def reason (c : Change) : String := c.kind.reason

def detail (c : Change) : String :=
  match c.kind.property? with
  | some property => c.target ++ "/" ++ property ++ ": " ++ c.reason
  | none => c.target ++ ": " ++ c.reason

end Change

end ReleaseImpact
