import ReleaseImpact.Change
import ReleaseImpact.Failure

/-!
What a run leaves behind: its log events, the changes it reports and the questions it asks, in order,
and how it ends. Main statements:

- `Trail.steps_bind_of_ok`: the steps of a run are those of its parts, one after the other.
- `Trail.outcome_bind_of_error`: a part that fails ends the run.
- the law instances `pure_bind`, `bind_pure` and `bind_assoc`.
-/

namespace ReleaseImpact

inductive Level
  | debug
  | info
  | warning
  | error
  | critical
  deriving DecidableEq, Repr

namespace Level

def all : List Level := [debug, info, warning, error, critical]

def rank : Level → Nat
  | debug => 10
  | info => 20
  | warning => 30
  | error => 40
  | critical => 50

/-- The name of a level in the log. -/
def label : Level → String
  | debug => "debug"
  | info => "info"
  | warning => "warning"
  | error => "error"
  | critical => "critical"

/-- The name of a level in the settings. -/
def name (l : Level) : String := Text.upper l.label

def ofName? (name : String) : Option Level := all.find? (·.name = name)

def ofLabel? (label : String) : Option Level := all.find? (·.label = label)

end Level

/-- What the log is told: how grave, by which part of the program, in which words. -/
structure Event where
  level : Level
  logger : String
  message : String
  fields : List (String × Value)
  deriving Repr

inductive Step
  | event (e : Event)
  | change (domain : String) (c : Change)
  /-- A file whose presence was asked for. -/
  | probe (path : String)
  /-- A node of which it was asked whether it is a duplicate. -/
  | question (path : String)
  /-- The start (with a mark) and the end of a comparison, whose events carry the mark. -/
  | mark (on : Bool)
  deriving Repr

namespace Step

def event? : Step → Option Event
  | .event e => some e
  | _ => none

def change? : Step → Option (String × Change)
  | .change domain c => some (domain, c)
  | _ => none

def probe? : Step → Option String
  | .probe path => some path
  | _ => none

def question? : Step → Option String
  | .question path => some path
  | _ => none

end Step

structure Trail (α : Type) where
  steps : List Step
  outcome : Except Failure α

namespace Trail

variable {α β γ : Type}

def done (a : α) : Trail α := ⟨[], .ok a⟩

def fail (f : Failure) : Trail α := ⟨[], .error f⟩

def ofExcept (outcome : Except Failure α) : Trail α := ⟨[], outcome⟩

/-- Goes on with another run if the first one comes to its end. -/
def andThen (t : Trail α) (next : α → Trail β) : Trail β :=
  match t.outcome with
  | .ok a => ⟨t.steps ++ (next a).steps, (next a).outcome⟩
  | .error f => ⟨t.steps, .error f⟩

instance : Monad Trail where
  pure := done
  bind := andThen

def step (s : Step) : Trail Unit := ⟨[s], .ok ()⟩

def log (level : Level) (logger message : String) (fields : List (String × Value)) : Trail Unit :=
  step (.event ⟨level, logger, message, fields⟩)

def report (domain : String) (c : Change) : Trail Unit := step (.change domain c)

/-- The same run, with the failure as a value. -/
def attempt (t : Trail α) : Trail (Except Failure α) := ⟨t.steps, .ok t.outcome⟩

/-- The run with a step at its end, however it ends. -/
def closing (t : Trail α) (last : Step) : Trail α := ⟨t.steps ++ [last], t.outcome⟩

/-- Runs one part for each item. -/
def each : List α → (α → Trail Unit) → Trail Unit
  | [], _ => done ()
  | a :: rest, body => andThen (body a) fun _ => each rest body

/-- Runs one part for each item, handing a value on. -/
def fold (body : β → α → Trail β) : β → List α → Trail β
  | b, [] => done b
  | b, a :: rest => andThen (body b a) fun b => fold body b rest

def events (t : Trail α) : List Event := t.steps.filterMap Step.event?

def changes (t : Trail α) : List (String × Change) := t.steps.filterMap Step.change?

def probes (t : Trail α) : List String := t.steps.filterMap Step.probe?

def questions (t : Trail α) : List String := t.steps.filterMap Step.question?

/-! ## Laws -/

theorem steps_bind_of_ok {t : Trail α} {a : α} (next : α → Trail β) (h : t.outcome = .ok a) :
    (t >>= next).steps = t.steps ++ (next a).steps := by
  show (andThen t next).steps = _
  simp [andThen, h]

theorem outcome_bind_of_ok {t : Trail α} {a : α} (next : α → Trail β) (h : t.outcome = .ok a) :
    (t >>= next).outcome = (next a).outcome := by
  show (andThen t next).outcome = _
  simp [andThen, h]

theorem steps_bind_of_error {t : Trail α} {f : Failure} (next : α → Trail β)
    (h : t.outcome = .error f) : (t >>= next).steps = t.steps := by
  show (andThen t next).steps = _
  simp [andThen, h]

theorem outcome_bind_of_error {t : Trail α} {f : Failure} (next : α → Trail β)
    (h : t.outcome = .error f) : (t >>= next).outcome = .error f := by
  show (andThen t next).outcome = _
  simp [andThen, h]

theorem andThen_assoc (t : Trail α) (f : α → Trail β) (g : β → Trail γ) :
    (t.andThen f).andThen g = t.andThen fun a => (f a).andThen g := by
  cases ht : t.outcome with
  | error e => simp [andThen, ht]
  | ok a =>
    cases hf : (f a).outcome <;> simp [andThen, ht, hf]

instance : LawfulMonad Trail := LawfulMonad.mk' Trail
  (by
    intro α t
    show andThen t (fun a => done a) = t
    cases h : t.outcome <;> cases t <;> simp_all [andThen, done])
  (by
    intro α β a f
    show andThen (done a) f = f a
    simp [andThen, done])
  (by
    intro α β γ t f g
    exact andThen_assoc t f g)

end Trail

end ReleaseImpact
