import ReleaseImpact.Text.Blank
import ReleaseImpact.Text.Digits

/-!
Integers as people write them: with a sign, blanks around, underscores between digits, and a mark for
the base. Main statements:

- `plainForm_of_ascii`: ASCII text is in plain form.
- `groupedDigits?_digits`: a run of digits is read as its values.
- `length_le_of_readInteger?`: a decimal numeral that is read is not longer than numerals may be.
-/

namespace ReleaseImpact.Text

/-- Decimal digits of all scripts become ASCII digits, and blanks beyond ASCII become spaces. -/
def plainForm (text : List Char) : List Char :=
  text.map fun c =>
    if c.toNat < 127 then c
    else if isBlank c then ' '
    else
      match digitValue? c with
      | some d => Char.ofNat (48 + d)
      | none => c

theorem plainForm_of_ascii {text : List Char} (h : ∀ c ∈ text, c.toNat < 127) :
    plainForm text = text := by
  induction text with
  | nil => rfl
  | cons c rest ih =>
    have hr := ih fun d hd => h d (by simp [hd])
    simp only [plainForm, List.map_cons, h c (by simp), if_true] at hr ⊢
    rw [hr]

/-- Tabs, line breaks of ASCII, and spaces. -/
def isPlainBlank (c : Char) : Bool := c = ' ' || (9 ≤ c.toNat && c.toNat ≤ 13)

/-- Trims the blanks of ASCII that a numeral may stand between. -/
def trimPlain (text : List Char) : List Char :=
  ((text.dropWhile isPlainBlank).reverse.dropWhile isPlainBlank).reverse

/-- The value of a digit or of a letter that stands for a digit. -/
def placeValue? (c : Char) : Option Nat :=
  if c.isDigit then some (c.toNat - 48)
  else if 'a' ≤ c ∧ c ≤ 'z' then some (c.toNat - 87)
  else if 'A' ≤ c ∧ c ≤ 'Z' then some (c.toNat - 55)
  else none

/-- The digits of a numeral in a base. A single underscore may stand between two digits; `due` tells
whether a digit has to come next. -/
def groupedDigits? (base : Nat) (due : Bool) : List Char → Option (List Nat)
  | [] => if due then none else some []
  | c :: rest =>
    if c = '_' then if due then none else groupedDigits? base true rest
    else do
      let d ← (placeValue? c).filter (· < base)
      return d :: (← groupedDigits? base false rest)

theorem groupedDigits?_digits {base : Nat} {text : List Char} {values : List Nat} (due : Bool)
    (hne : text ≠ [] ∨ due = false) (h : text.mapM (fun c => (placeValue? c).filter (· < base)) = some values)
    (hu : '_' ∉ text) : groupedDigits? base due text = some values := by
  induction text generalizing values due with
  | nil =>
    rcases hne with h' | h'
    · exact absurd rfl h'
    · subst h'
      simpa [groupedDigits?] using h
  | cons c rest ih =>
    simp only [List.mem_cons, not_or] at hu
    simp only [List.mapM_cons, Option.pure_def, Option.bind_eq_bind, Option.bind_eq_some_iff] at h
    obtain ⟨d, hd, ds, hds, e⟩ := h
    injection e with e
    subst e
    rw [groupedDigits?, if_neg (Ne.symm hu.1)]
    simp [hd, ih false (Or.inr rfl) hds hu.2]

/-- Drops the mark that numerals of a base may carry, together with an underscore behind it. -/
def dropBaseMark (base : Nat) (text : List Char) : List Char :=
  let marks := if base = 16 then ['x', 'X'] else if base = 8 then ['o', 'O'] else if base = 2 then ['b', 'B'] else []
  match text with
  | '0' :: mark :: rest =>
    if mark ∈ marks then
      match rest with
      | '_' :: rest => rest
      | rest => rest
    else text
  | _ => text

/-- The sign of a numeral, and the rest of it. -/
def cutSign : List Char → Bool × List Char
  | '-' :: rest => (true, rest)
  | '+' :: rest => (false, rest)
  | text => (false, text)

/-- Reads an integer in a base. Decimal numerals may not be longer than numerals may be. -/
def readInteger? (base : Nat) (text : List Char) : Option Int := do
  let (negative, digits) := cutSign (trimPlain (plainForm text))
  let values ← groupedDigits? base true (dropBaseMark base digits)
  let magnitude := values.foldl (fun n d => base * n + d) 0
  if base = 10 ∧ maxNumeralLength < values.length then none
  else some (if negative then -(magnitude : Int) else magnitude)

theorem length_le_of_readInteger? {text : List Char} {n : Int} (h : readInteger? 10 text = some n) :
    ∃ values, groupedDigits? 10 true (dropBaseMark 10 (cutSign (trimPlain (plainForm text))).2) = some values ∧
      values.length ≤ maxNumeralLength := by
  simp only [readInteger?, Option.bind_eq_bind, Option.bind_eq_some_iff] at h
  obtain ⟨values, hv, h⟩ := h
  refine ⟨values, hv, ?_⟩
  split at h
  · contradiction
  · next hl => simpa using hl

end ReleaseImpact.Text
