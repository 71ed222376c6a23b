/-!
Decimal digits of all scripts, and decimal numerals. Main statements:

- `digitValue_ascii`: the ASCII digits have the values that core gives them.
- `digitValue_lt`: a digit's value is below ten.
- `length_decimal_pos`: a numeral has at least one digit.
- `readNat?_decimal`: the numeral of a number is read as that number.
-/

namespace ReleaseImpact.Text

/-- The zero of each run of ten decimal digits, in code point order. -/
def digitZeros : List Nat :=
  [0x30, 0x660, 0x6f0, 0x7c0, 0x966, 0x9e6, 0xa66, 0xae6, 0xb66, 0xbe6, 0xc66, 0xce6, 0xd66, 0xde6,
   0xe50, 0xed0, 0xf20, 0x1040, 0x1090, 0x17e0, 0x1810, 0x1946, 0x19d0, 0x1a80, 0x1a90, 0x1b50,
   0x1bb0, 0x1c40, 0x1c50, 0xa620, 0xa8d0, 0xa900, 0xa9d0, 0xa9f0, 0xaa50, 0xabf0, 0xff10, 0x104a0,
   0x10d30, 0x11066, 0x110f0, 0x11136, 0x111d0, 0x112f0, 0x11450, 0x114d0, 0x11650, 0x116c0,
   0x11730, 0x118e0, 0x11950, 0x11c50, 0x11d50, 0x11da0, 0x16a60, 0x16ac0, 0x16b50, 0x1d7ce,
   0x1d7d8, 0x1d7e2, 0x1d7ec, 0x1d7f6, 0x1e140, 0x1e2f0, 0x1e950, 0x1fbf0]

/-- The value of a decimal digit of any script. -/
def digitValue? (c : Char) : Option Nat :=
  (digitZeros.find? fun z => z ≤ c.toNat && c.toNat < z + 10).map (c.toNat - ·)

def isDecimalDigit (c : Char) : Bool := (digitValue? c).isSome

theorem digitValue_lt {c : Char} {n : Nat} (h : digitValue? c = some n) : n < 10 := by
  simp only [digitValue?, Option.map_eq_some_iff] at h
  obtain ⟨z, hz, rfl⟩ := h
  have := List.find?_some hz
  simp only [Bool.and_eq_true, decide_eq_true_eq] at this
  omega

theorem digitValue_ascii {c : Char} (h : c.isDigit = true) :
    digitValue? c = some (c.toNat - 48) := by
  simp only [Char.isDigit, Bool.and_eq_true, decide_eq_true_eq] at h
  have h1 : 48 ≤ c.toNat := UInt32.le_iff_toNat_le.1 h.1
  have h2 : c.toNat ≤ 57 := UInt32.le_iff_toNat_le.1 h.2
  have h3 : c.toNat < 0x30 + 10 := by omega
  have h4 : 0x30 ≤ c.toNat := h1
  simp [digitValue?, digitZeros, h3, h4]

/-- The number that digits spell, the first digit weighing most. -/
def spelled (digits : List Nat) : Nat := digits.foldl (fun n d => 10 * n + d) 0

/-- The value of a non-empty run of decimal digits. -/
def readNat? (text : List Char) : Option Nat :=
  if text.isEmpty then none else (text.mapM digitValue?).map spelled

/-- The numeral of a number in ASCII digits, without superfluous zeros. -/
def decimal (n : Nat) : List Char := Nat.toDigits 10 n

def decimalText (n : Nat) : String := String.ofList (decimal n)

theorem length_decimal_pos (n : Nat) : 0 < (decimal n).length := by
  have : decimal n ≠ [] := Nat.toDigits_ne_nil
  exact List.length_pos_iff.2 this

theorem isDigit_of_mem_decimal {n : Nat} {c : Char} (member : c ∈ decimal n) : c.isDigit = true :=
  Nat.isDigit_of_mem_toDigits (by decide) (by decide) member

theorem isDecimalDigit_of_isDigit {c : Char} (digit : c.isDigit = true) : isDecimalDigit c = true := by
  rw [isDecimalDigit, digitValue_ascii digit]
  rfl

theorem mapM_digitValue? {run : List Char} (digits : ∀ c ∈ run, c.isDigit = true) :
    run.mapM digitValue? = some (run.map fun c => c.toNat - 48) := by
  induction run with
  | nil => rfl
  | cons c rest ih =>
    rw [List.mapM_cons, digitValue_ascii (digits c List.mem_cons_self),
      ih fun d member => digits d (List.mem_cons_of_mem c member)]
    rfl

theorem readNat?_decimal (n : Nat) : readNat? (decimal n) = some n := by
  have notEmpty : (decimal n).isEmpty = false :=
    List.isEmpty_eq_false_iff.mpr (List.length_pos_iff.mp (length_decimal_pos n))
  have value : spelled ((decimal n).map fun c => c.toNat - 48) = n := by
    rw [spelled, List.foldl_map]
    exact Nat.ofDigitChars_toDigits (by decide) (by decide)
  rw [readNat?, notEmpty, if_neg Bool.false_ne_true,
    mapM_digitValue? fun _ member => isDigit_of_mem_decimal member, Option.map_some, value]

/-- Numerals of more digits are neither read nor written. -/
def maxNumeralLength : Nat := 4300

/-- The signed numeral of an integer. -/
def intText (n : Int) : String :=
  if n < 0 then "-" ++ decimalText n.natAbs else decimalText n.natAbs

/-- The lower case hexadecimal numeral, with zeros on the left up to a width. -/
def hexText (width n : Nat) : String :=
  let digits := Nat.toDigits 16 n
  String.ofList (List.replicate (width - digits.length) '0' ++ digits)

/-- The numeral with zeros on the left up to a width. -/
def paddedDecimal (width n : Nat) : String :=
  let digits := decimal n
  String.ofList (List.replicate (width - digits.length) '0' ++ digits)

end ReleaseImpact.Text
