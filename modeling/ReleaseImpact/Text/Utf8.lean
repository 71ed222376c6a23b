/-!
Text as bytes, one to four of them for a character, read byte by byte. Main statements:

- `faultAt?_nil`: nothing is wrong with no bytes.
- `accept_ascii`: a byte of ASCII is a character.
-/

namespace ReleaseImpact.Text.Utf8

/-- Where a reader stands: how many bytes of a character are still due, and between which bounds the
next one has to lie. -/
structure Due where
  count : Nat
  low : UInt8
  high : UInt8
  deriving DecidableEq, Repr

def Due.none : Due := ⟨0, 0x80, 0xbf⟩

/-- The reader after the first byte of a character. -/
def begin? (b : UInt8) : Option Due :=
  if b < 0x80 then some .none
  else if b < 0xc2 then Option.none
  else if b < 0xe0 then some ⟨1, 0x80, 0xbf⟩
  else if b < 0xf0 then
    some ⟨2, if b = 0xe0 then 0xa0 else 0x80, if b = 0xed then 0x9f else 0xbf⟩
  else if b < 0xf5 then
    some ⟨3, if b = 0xf0 then 0x90 else 0x80, if b = 0xf4 then 0x8f else 0xbf⟩
  else Option.none

def accept? (due : Due) (b : UInt8) : Option Due :=
  match due.count with
  | 0 => begin? b
  | n + 1 => if due.low ≤ b ∧ b ≤ due.high then some ⟨n, 0x80, 0xbf⟩ else Option.none

theorem accept_ascii {b : UInt8} (h : b < 0x80) : accept? .none b = some .none := by
  simp [accept?, Due.none, begin?, h]

/-- The place of the first byte that cannot stand where it does, the end included. -/
def faultFrom? (place : Nat) (due : Due) : List UInt8 → Option Nat
  | [] => if due.count = 0 then Option.none else some place
  | b :: rest =>
    match accept? due b with
    | some due => faultFrom? (place + 1) due rest
    | Option.none => some place

def faultAt? (bytes : List UInt8) : Option Nat := faultFrom? 0 .none bytes

theorem faultAt?_nil : faultAt? [] = Option.none := rfl

/-- The number of bytes up to the end of the last whole character, before anything is wrong. -/
def wholeLength (place whole : Nat) (due : Due) : List UInt8 → Nat
  | [] => if due.count = 0 then place else whole
  | b :: rest =>
    let whole := if due.count = 0 then place else whole
    match accept? due b with
    | some due => wholeLength (place + 1) whole due rest
    | Option.none => whole

/-- The characters in front of which nothing is wrong. -/
def decodeWhole (bytes : List UInt8) : List Char :=
  let whole := bytes.take (wholeLength 0 0 .none bytes)
  ((String.fromUTF8? ⟨whole.toArray⟩).map String.toList).getD []

end ReleaseImpact.Text.Utf8
