import ReleaseImpact.Registry

/-!
Questions about added nodes, and the answers to them. Main statement:

- `ofName?_name`: a verdict is found by its name.
-/

namespace ReleaseImpact

inductive Verdict
  | unique
  | duplicate
  /-- The node has no address that can be looked for. -/
  | unresolved
  /-- There is nothing to look into. -/
  | unavailable
  deriving DecidableEq, Repr

namespace Verdict

def all : List Verdict := [unique, duplicate, unresolved, unavailable]

def name : Verdict → String
  | unique => "unique"
  | duplicate => "duplicate"
  | unresolved => "unresolved"
  | unavailable => "unavailable"

def ofName? (name : String) : Option Verdict := all.find? (·.name = name)

theorem ofName?_name (v : Verdict) : ofName? v.name = some v := by cases v <;> decide

end Verdict

/-- Is an added node a duplicate? -/
structure Inquiry where
  node : Node
  schemaFile : String
  /-- The nodes that its module had before. -/
  existing : Nodes

/-- An answer, with the one who can be asked next and what the log is told on the way. -/
structure Reply (δ : Type) where
  verdict : Except Failure Verdict
  next : δ
  events : List Event

namespace Reply

variable {δ ε : Type}

def plain (verdict : Verdict) (next : δ) : Reply δ := ⟨.ok verdict, next, []⟩

def map (f : δ → ε) (r : Reply δ) : Reply ε := ⟨r.verdict, f r.next, r.events⟩

/-- The reply after other events. -/
def after (events : List Event) (r : Reply δ) : Reply δ := { r with events := events ++ r.events }

end Reply

end ReleaseImpact
