import ReleaseImpact.Failure

/-!
Checking a value and gathering all its faults. Main statements:

- `pair_valid`: two valid parts make a valid whole.
- `pair_faulty`: the faults of two parts are reported together, in order.
- `atPlace_valid`: what is valid is valid at every place.
-/

namespace ReleaseImpact

/-- The outcome of a check. A failure ends it at once, whatever faults there are. -/
inductive Checked (α : Type)
  | valid (a : α)
  | faulty (faults : List FieldFault)
  | failed (f : Failure)

namespace Checked

variable {α β : Type}

def map (f : α → β) : Checked α → Checked β
  | valid a => valid (f a)
  | faulty faults => faulty faults
  | failed failure => failed failure

def pair : Checked α → Checked β → Checked (α × β)
  | valid a, valid b => valid (a, b)
  | valid _, faulty faults => faulty faults
  | faulty faults, valid _ => faulty faults
  | faulty faults, faulty more => faulty (faults ++ more)
  | failed f, _ => failed f
  | _, failed f => failed f

instance : Applicative Checked where
  pure := valid
  map := map
  seq f a := (f.pair (a ())).map fun p => p.1 p.2

/-- The outcome of a check further inside. -/
def atPlace (place : Place) : Checked α → Checked α
  | faulty faults => faulty (faults.map fun f => { f with path := place :: f.path })
  | other => other

/-- Checks items one after the other, each at its place in the list. -/
def items (check : Value → Checked α) : (first : Nat) → List Value → Checked (List α)
  | _, [] => valid []
  | n, v :: rest =>
    (((check v).atPlace (.item n)).pair (items check (n + 1) rest)).map fun p => p.1 :: p.2

/-- The value, or why there is none. -/
def toExcept : Checked α → Except Failure α
  | valid a => .ok a
  | faulty faults => .error (.invalidSettings faults)
  | failed f => .error f

theorem pair_valid (a : α) (b : β) : (valid a).pair (valid b) = valid (a, b) := rfl

theorem pair_faulty (faults more : List FieldFault) :
    (faulty faults : Checked α).pair (faulty more : Checked β) = faulty (faults ++ more) := rfl

theorem atPlace_valid (place : Place) (a : α) : (valid a).atPlace place = valid a := rfl

end Checked

end ReleaseImpact
