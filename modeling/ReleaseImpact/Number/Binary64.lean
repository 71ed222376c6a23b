import ReleaseImpact.Text.Numeral

/-!
Floating-point numbers of 64 bits, in exact arithmetic: reading a decimal rounds to the nearest
number, and writing gives the fewest digits that read back. Main statements:

- `two_mul_roundEven_le` and `le_two_mul_roundEven`: rounding a quotient is off by at most a half.
- `nearestGridPoint?_within`: a point of the decimal grid is offered only if it reads back.
-/

namespace ReleaseImpact

/-- A finite number is `mantissa * 2 ^ exponent` with a mantissa below `2 ^ 53`. -/
inductive Binary64
  | nan
  | infinite (negative : Bool)
  | finite (negative : Bool) (mantissa : Nat) (exponent : Int)
  deriving DecidableEq, Repr

/-! ## Rounding -/

/-- The quotient rounded to the nearest whole number, a tie to the even neighbour. -/
def roundEven (num den : Nat) : Nat :=
  let q := num / den
  let r := num % den
  if 2 * r < den then q
  else if den < 2 * r then q + 1
  else if q % 2 = 0 then q else q + 1

theorem two_mul_roundEven_le {num den : Nat} (h : 0 < den) :
    2 * (den * roundEven num den) ≤ 2 * num + den := by
  have hd := Nat.div_add_mod num den
  have hm := Nat.mod_lt num h
  unfold roundEven
  simp only
  split
  · omega
  · split
    · rw [Nat.mul_add]; omega
    · split <;> (try rw [Nat.mul_add]) <;> omega

theorem le_two_mul_roundEven {num den : Nat} (h : 0 < den) :
    2 * num ≤ 2 * (den * roundEven num den) + den := by
  have hd := Nat.div_add_mod num den
  have hm := Nat.mod_lt num h
  unfold roundEven
  simp only
  split
  · omega
  · split
    · rw [Nat.mul_add]; omega
    · split <;> (try rw [Nat.mul_add]) <;> omega

/-- The quotient of two whole numbers, first scaled by a power of two. -/
def scaledBy (exponent : Int) (num den : Nat) : Nat × Nat :=
  if exponent < 0 then (num * Nat.pow 2 exponent.natAbs, den)
  else (num, den * Nat.pow 2 exponent.natAbs)

namespace Binary64

/-- The least number that is no mantissa. -/
def mantissaBound : Nat := Nat.pow 2 53

def leastExponent : Int := -1074
def greatestExponent : Int := 971

/-- The number nearest to a positive ratio. -/
def ofRatio (negative : Bool) (num den : Nat) : Binary64 :=
  let guess := max ((num.log2 : Int) - den.log2 - 53) leastExponent
  let (n, d) := scaledBy guess num den
  let exponent := if n / d < mantissaBound then guess else guess + 1
  let (n, d) := scaledBy exponent num den
  let mantissa := roundEven n d
  let (mantissa, exponent) :=
    if mantissa = mantissaBound then (mantissaBound / 2, exponent + 1) else (mantissa, exponent)
  if greatestExponent < exponent then .infinite negative else .finite negative mantissa exponent

def zero (negative : Bool) : Binary64 := .finite negative 0 leastExponent

/-- The number nearest to `digits * 10 ^ exponent`. -/
def ofDecimal (negative : Bool) (digits : Nat) (exponent : Int) : Binary64 :=
  let size := (Text.decimal digits).length + exponent
  if digits = 0 then zero negative
  else if 310 < size then .infinite negative
  else if size < -330 then zero negative
  else if exponent < 0 then ofRatio negative digits (Nat.pow 10 exponent.natAbs)
  else ofRatio negative (digits * Nat.pow 10 exponent.natAbs) 1

/-! ## Reading -/

/-- Digits, a point, digits and an exponent, each part but one run of digits optional. -/
def readDecimal? (text : List Char) : Option (Nat × Int) :=
  let whole := text.takeWhile Char.isDigit
  let rest := text.dropWhile Char.isDigit
  let (fraction, rest) := match rest with
    | '.' :: rest => (rest.takeWhile Char.isDigit, rest.dropWhile Char.isDigit)
    | rest => ([], rest)
  let exponent : Option Int := match rest with
    | [] => some 0
    | c :: rest =>
      if c = 'e' ∨ c = 'E' then
        match rest with
        | '-' :: ds => if ds.all Char.isDigit then (Text.readNat? ds).map fun n => -(n : Int) else none
        | '+' :: ds => if ds.all Char.isDigit then (Text.readNat? ds).map Int.ofNat else none
        | ds => if ds.all Char.isDigit then (Text.readNat? ds).map Int.ofNat else none
      else none
  match Text.readNat? (whole ++ fraction), exponent with
  | some digits, some e => some (digits, e - fraction.length)
  | _, _ => none

/-- The number that a numeral writes: a sign, then a decimal, an infinity or the undefined number.
Blanks may stand around it. -/
def read? (text : List Char) : Option Binary64 :=
  let (negative, body) := Text.cutSign (Text.trimPlain (Text.plainForm text))
  let name := String.ofList (body.map Char.toLower)
  if name = "inf" ∨ name = "infinity" then some (.infinite negative)
  else if name = "nan" then some .nan
  else (readDecimal? body).map fun (digits, e) => ofDecimal negative digits e

/-! ## Writing -/

/-- The ratios from the least to the greatest number that reads back as `mantissa * 2 ^ exponent`,
over one denominator: the lower end, the number itself, the upper end, the denominator. -/
structure Interval where
  low : Nat
  value : Nat
  high : Nat
  den : Nat
  closed : Bool

def interval (mantissa : Nat) (exponent : Int) : Interval :=
  let below := if 2 * mantissa = mantissaBound ∧ leastExponent < exponent then 1 else 2
  let scale := Nat.pow 2 (exponent - 2).natAbs
  let closed := mantissa % 2 = 0
  if exponent < 2 then ⟨4 * mantissa - below, 4 * mantissa, 4 * mantissa + 2, scale, closed⟩
  else ⟨(4 * mantissa - below) * scale, 4 * mantissa * scale, (4 * mantissa + 2) * scale, 1, closed⟩

/-- The place of the first digit: a number is below ten to that power, and not below the power
before. -/
def decimalPoint (num den : Nat) : Int :=
  if den ≤ num then (Text.decimal (num / den)).length
  else
    let size := (Text.decimal (den / num)).length
    if num * Nat.pow 10 (size - 1) = den then 2 - size else 1 - size

def Interval.inUnits (i : Interval) (power : Int) : Interval :=
  if power < 0 then
    let s := Nat.pow 10 power.natAbs
    ⟨i.low * s, i.value * s, i.high * s, i.den, i.closed⟩
  else { i with den := i.den * Nat.pow 10 power.natAbs }

def Interval.holds (i : Interval) (n : Nat) : Bool :=
  if i.closed then i.low ≤ n * i.den && n * i.den ≤ i.high
  else i.low < n * i.den && n * i.den < i.high

/-- Of the two neighbours of the value on the grid of whole units, the nearer one that lies in the
interval. -/
def nearestGridPoint? (i : Interval) : Option Nat :=
  let floor := i.value / i.den
  let nearest := roundEven i.value i.den
  if i.holds nearest then some nearest
  else if i.holds floor then some floor
  else if i.holds (floor + 1) then some (floor + 1)
  else none

theorem nearestGridPoint?_within {i : Interval} {n : Nat} (h : nearestGridPoint? i = some n) :
    i.holds n = true := by
  unfold nearestGridPoint? at h
  simp only at h
  split at h
  · simp_all
  · split at h
    · simp_all
    · split at h <;> simp_all

/-- The fewest digits that read back, with the power of ten of the last one. -/
def shortestDigits (i : Interval) (point : Int) : List Nat → Nat × Int
  | [] => (i.value / i.den, 0)
  | count :: more =>
    match nearestGridPoint? (i.inUnits (point - count)) with
    | some n => (n, point - count)
    | none => shortestDigits i point more

def dropLastZeros (digits : List Char) : List Char := (digits.reverse.dropWhile (· = '0')).reverse

/-- How far from the point a number is still written without an exponent. -/
def positionalPlaces : Int × Int := (-3, 16)

def exponentText (e : Int) : List Char :=
  'e' :: (if e < 0 then '-' else '+') :: (Text.paddedDecimal 2 e.natAbs).toList

/-- Digits with the decimal point after the given number of them. -/
def placePoint (digits : List Char) (point : Int) : List Char :=
  if point < positionalPlaces.1 ∨ positionalPlaces.2 < point then
    match digits with
    | [] => []
    | [d] => d :: exponentText (point - 1)
    | d :: rest => d :: '.' :: rest ++ exponentText (point - 1)
  else if point ≤ 0 then '0' :: '.' :: List.replicate point.natAbs '0' ++ digits
  else if point.natAbs < digits.length then
    digits.take point.natAbs ++ '.' :: digits.drop point.natAbs
  else digits ++ List.replicate (point.natAbs - digits.length) '0' ++ ['.', '0']

/-- The shortest numeral that reads back. -/
def text : Binary64 → String
  | .nan => "nan"
  | .infinite negative => if negative then "-inf" else "inf"
  | .finite negative mantissa exponent =>
    let sign := if negative then "-" else ""
    if mantissa = 0 then sign ++ "0.0"
    else
      let i := interval mantissa exponent
      let (n, power) := shortestDigits i (decimalPoint i.value i.den) (List.range' 1 17)
      let digits := Text.decimal n
      sign ++ String.ofList (placePoint (dropLastZeros digits) (digits.length + power))

/-- The whole number that a finite number is equal to, if there is one. -/
def toInt? : Binary64 → Option Int
  | .finite negative mantissa exponent =>
    let sign : Int := if negative then -1 else 1
    let scale := Nat.pow 2 exponent.natAbs
    if 0 ≤ exponent then some (sign * (mantissa * scale : Nat))
    else if mantissa % scale = 0 then some (sign * (mantissa / scale : Nat))
    else none
  | _ => none

end Binary64

end ReleaseImpact
