import ReleaseImpact.Failure
import ReleaseImpact.Report
import ReleaseImpact.Text.Blank

/-!
Version numbers of three parts and the next number after a release. Main statements:

- `le_raise`: raising never gives an earlier version.
- `raise_none`: without a severity a version stays as it is.
- `numerals?_some`: the three numerals of an accepted text are runs of digits.
-/

namespace ReleaseImpact

structure Version where
  major : Nat
  minor : Nat
  patch : Nat
  deriving DecidableEq, Repr

namespace Version

def isNumeral (run : List Char) : Bool := !run.isEmpty && run.all Text.isDecimalDigit

def withoutMark : List Char → List Char
  | 'v' :: rest => rest
  | text => text

def threeNumerals? : List (List Char) → Option (List Char × List Char × List Char)
  | [a, b, c] => if isNumeral a && isNumeral b && isNumeral c then some (a, b, c) else none
  | _ => none

/-- The numerals of a version text: after an optional `v`, three runs of digits with points between
them. -/
def numerals? (text : List Char) : Option (List Char × List Char × List Char) :=
  threeNumerals? (Text.splitOn '.' (withoutMark text))

def readPart (numeral : List Char) : Except Failure Nat :=
  if Text.maxNumeralLength < numeral.length then .error .longNumeral
  else .ok ((Text.readNat? numeral).getD 0)

def printPart (n : Nat) : Except Failure String :=
  if Text.maxNumeralLength < (Text.decimal n).length then .error .longNumeral
  else .ok (Text.decimalText n)

/-- The version that a text spells; blanks around it do not count. -/
def read (text : String) : Except Failure Version :=
  match numerals? (Text.trimmed text.toList) with
  | none => .error (.problem (.invalidValue "current_version" (.text text) "expected X.Y.Z"))
  | some (a, b, c) => do return ⟨← readPart a, ← readPart b, ← readPart c⟩

def print (v : Version) : Except Failure String := do
  return (← printPart v.major) ++ "." ++ (← printPart v.minor) ++ "." ++ (← printPart v.patch)

/-- Raises the part that a severity stands for; the parts after it start again at zero. -/
def raise (v : Version) : Option Severity → Version
  | some .major => ⟨v.major + 1, 0, 0⟩
  | some .minor => ⟨v.major, v.minor + 1, 0⟩
  | some .patch => ⟨v.major, v.minor, v.patch + 1⟩
  | none => v

/-- The order of versions: the first part that differs decides. -/
def le (v w : Version) : Prop :=
  v.major < w.major ∨ v.major = w.major ∧ (v.minor < w.minor ∨ v.minor = w.minor ∧ v.patch ≤ w.patch)

theorem le_raise (v : Version) (severity : Option Severity) : v.le (v.raise severity) := by
  cases severity with
  | none => simp [raise, le]
  | some s => cases s <;> simp [raise, le]

theorem raise_none (v : Version) : v.raise none = v := rfl

theorem numerals?_some {text a b c : List Char} (h : numerals? text = some (a, b, c)) :
    (a ++ b ++ c).all Text.isDecimalDigit = true := by
  unfold numerals? threeNumerals? at h
  split at h
  · next x y z _ =>
    simp only [Bool.and_eq_true, Option.ite_none_right_eq_some, Option.some.injEq, Prod.mk.injEq,
      isNumeral] at h
    obtain ⟨⟨⟨hx, hy⟩, hz⟩, rfl, rfl, rfl⟩ := h
    simp only [List.all_append, hx.2, hy.2, hz.2, Bool.and_self]
  · contradiction

end Version

/-- The severity that a part of a version number stands for. -/
def Severity.ofPart? : String → Option Severity
  | "major" => some .major
  | "minor" => some .minor
  | "patch" => some .patch
  | _ => none

/-- The text of a version with a part raised; an unknown part raises nothing. -/
def raiseVersion (text : String) (severity : Option Severity) : Except Failure String := do
  ((← Version.read text).raise severity).print

/-- The version to release after the changes of a report. -/
def nextVersion (current : String) (report : Report) : Except Failure String :=
  raiseVersion current (report.level? none)

end ReleaseImpact
