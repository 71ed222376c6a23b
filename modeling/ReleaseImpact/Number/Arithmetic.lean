import ReleaseImpact.Number.Binary64

/-!
Sums and products of floating-point numbers, each rounded to the nearest number. Main statements:

- `add_comm` and `mul_comm`: the order of the operands does not matter.
-/

namespace ReleaseImpact.Binary64

/-- A mantissa with its sign. -/
def signed (negative : Bool) (mantissa : Nat) : Int := if negative then -(mantissa : Int) else mantissa

/-- The number nearest to a multiple of a power of two. Zero has a sign of its own. -/
def ofScaled (zeroNegative : Bool) (value exponent : Int) : Binary64 :=
  let scale := Nat.pow 2 exponent.natAbs
  if value = 0 then zero zeroNegative
  else if exponent < 0 then ofRatio (value < 0) value.natAbs scale
  else ofRatio (value < 0) (value.natAbs * scale) 1

def ofNat (n : Nat) : Binary64 := ofScaled false n 0

/-- A zero times an infinity is no number. -/
def mul : Binary64 → Binary64 → Binary64
  | .finite a m e, .finite b n f => ofScaled (a != b) (signed (a != b) (m * n)) (e + f)
  | .infinite a, .infinite b => .infinite (a != b)
  | .infinite a, .finite b n _ => if n = 0 then .nan else .infinite (a != b)
  | .finite a m _, .infinite b => if m = 0 then .nan else .infinite (a != b)
  | _, _ => .nan

/-- Infinities of different signs have no sum. -/
def add : Binary64 → Binary64 → Binary64
  | .finite a m e, .finite b n f =>
    let exponent := min e f
    let value := signed a m * (Nat.pow 2 (e - exponent).natAbs : Nat) +
      signed b n * (Nat.pow 2 (f - exponent).natAbs : Nat)
    ofScaled (a && b) value exponent
  | .infinite a, .infinite b => if a = b then .infinite a else .nan
  | .infinite a, .finite _ _ _ => .infinite a
  | .finite _ _ _, .infinite b => .infinite b
  | _, _ => .nan

def negate : Binary64 → Binary64
  | .nan => .nan
  | .infinite negative => .infinite !negative
  | .finite negative m e => .finite (!negative) m e

theorem mul_comm (x y : Binary64) : x.mul y = y.mul x := by
  have hb (a b : Bool) : (a != b) = (b != a) := by cases a <;> cases b <;> rfl
  cases x <;> cases y <;> simp only [mul, Nat.mul_comm, Int.add_comm] <;> simp only [hb]

theorem add_comm (x y : Binary64) : x.add y = y.add x := by
  cases x <;> cases y <;> simp only [add, Bool.and_comm, Int.add_comm, Int.min_comm]
  next a b => cases a <;> cases b <;> rfl

end ReleaseImpact.Binary64
