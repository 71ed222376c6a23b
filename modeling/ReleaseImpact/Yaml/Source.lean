import ReleaseImpact.Text.Utf8
import ReleaseImpact.Yaml.Cursor

/-!
The text of a document, which is taken in portion by portion: a character that may not stand in a
document, or a byte that belongs to no character, is noticed when its portion is needed. Main
statements:

- `portionStart_le`: a portion starts at or before each of its characters.
- `ofText_of_printable`: text of characters that may stand in a document is taken in whole.
-/

namespace ReleaseImpact.Yaml

/-- The characters that are taken in at first. -/
def firstPortion : Nat := 8192

/-- The characters that are taken in whenever more are needed. -/
def laterPortion : Nat := 4096

/-- The bytes from which characters are made at a time. -/
def byteBlock : Nat := 8192

/-- Where the portion of a character starts. -/
def portionStart (place : Nat) : Nat :=
  if place < firstPortion then 0
  else firstPortion + laterPortion * ((place - firstPortion) / laterPortion)

theorem portionStart_le (place : Nat) : portionStart place ≤ place := by
  unfold portionStart
  split
  · omega
  · have := Nat.mul_div_le (place - firstPortion) laterPortion
    omega

/-- Whether a character may stand in a document. -/
def isPrintable (c : Char) : Bool :=
  let n := c.toNat
  n = 9 || n = 10 || n = 13 || (0x20 ≤ n && n ≤ 0x7E) || n = 0x85 || (0xA0 ≤ n && n ≤ 0xD7FF) ||
    (0xE000 ≤ n && n ≤ 0xFFFD) || 0x10000 ≤ n

/-- Line breaks of all systems become line feeds. -/
def normalizeBreaks : List Char → List Char
  | '\r' :: '\n' :: rest => '\n' :: normalizeBreaks rest
  | '\r' :: rest => '\n' :: normalizeBreaks rest
  | c :: rest => c :: normalizeBreaks rest
  | [] => []

/-- A text, and what is wrong behind it if it is not the whole one. -/
structure Source where
  text : List Char
  ending : Option Fault

namespace Source

def ofText (text : List Char) : Source :=
  match text.findIdx? (!isPrintable ·) with
  | some place => ⟨text.take (portionStart place), some .malformed⟩
  | none => ⟨text, none⟩

theorem ofText_of_printable {text : List Char} (h : ∀ c ∈ text, isPrintable c = true) :
    ofText text = ⟨text, none⟩ := by
  have : text.findIdx? (!isPrintable ·) = none := by
    rw [List.findIdx?_eq_none_iff]
    simpa using h
  simp [ofText, this]

/-- The number of bytes of which characters are made before a fault at a place is noticed. A character
that is cut off by the end is noticed there. -/
def bytesBefore (size place : Nat) : Nat :=
  if place = size then size else place / byteBlock * byteBlock

def ofBytes (bytes : List UInt8) : Source :=
  match Text.Utf8.faultAt? bytes with
  | none => ofText (normalizeBreaks (Text.Utf8.decodeWhole bytes))
  | some place =>
    let known := bytes.take (bytesBefore bytes.length place)
    let before := normalizeBreaks (Text.Utf8.decodeWhole known)
    let source := ofText (before.take (portionStart before.length))
    { source with ending := some (source.ending.getD .undecodable) }

end Source

end ReleaseImpact.Yaml
