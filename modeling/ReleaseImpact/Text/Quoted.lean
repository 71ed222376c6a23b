import ReleaseImpact.Text.Digits
import ReleaseImpact.Text.Printable

/-!
Quoted text: a text between quotes in which only printable characters stand for themselves. Single
quotes are used unless the text holds a single quote and no double quote. Main statements:

- `quoteMark_of_not_mem`: text without a single quote is put in single quotes.
- `escaped_of_plain`: a printable character other than the backslash and the mark stays.
- `escapedByte_of_high`: a byte that is no ASCII character is given by its number.
-/

namespace ReleaseImpact.Text

def quoteMark (text : List Char) : Char :=
  if '\'' ∈ text ∧ '"' ∉ text then '"' else '\''

/-- How one character is written between quotes. -/
def escaped (mark c : Char) : List Char :=
  if c = '\\' ∨ c = mark then ['\\', c]
  else if c = '\n' then ['\\', 'n']
  else if c = '\r' then ['\\', 'r']
  else if c = '\t' then ['\\', 't']
  else if isPrintable c then [c]
  else if c.toNat < 0x100 then "\\x".toList ++ (hexText 2 c.toNat).toList
  else if c.toNat < 0x10000 then "\\u".toList ++ (hexText 4 c.toNat).toList
  else "\\U".toList ++ (hexText 8 c.toNat).toList

def quoted (text : String) : String :=
  let mark := quoteMark text.toList
  String.ofList (mark :: (text.toList.flatMap (escaped mark) ++ [mark]))

/-- How one byte is written between quotes; only ASCII characters stand for themselves. -/
def escapedByte (mark : Char) (b : UInt8) : List Char :=
  if b.toNat < 0x7f then escaped mark (Char.ofNat b.toNat)
  else "\\x".toList ++ (hexText 2 b.toNat).toList

/-- Bytes between quotes, after a letter that tells them from text. -/
def quotedBytes (data : List UInt8) : String :=
  let mark := quoteMark (data.map fun b => Char.ofNat b.toNat)
  String.ofList ('b' :: mark :: (data.flatMap (escapedByte mark) ++ [mark]))

theorem escapedByte_of_high {mark : Char} {b : UInt8} (h : 0x7f ≤ b.toNat) :
    escapedByte mark b = "\\x".toList ++ (hexText 2 b.toNat).toList := by
  simp [escapedByte, Nat.not_lt.2 h]

theorem quoteMark_of_not_mem {text : List Char} (h : '\'' ∉ text) : quoteMark text = '\'' := by
  simp [quoteMark, h]

theorem escaped_of_plain {mark c : Char} (h : isPrintable c = true) (hs : c ≠ '\\') (hm : c ≠ mark)
    (hn : c ≠ '\n') (hr : c ≠ '\r') (ht : c ≠ '\t') : escaped mark c = [c] := by
  simp [escaped, h, hs, hm, hn, hr, ht]

end ReleaseImpact.Text
