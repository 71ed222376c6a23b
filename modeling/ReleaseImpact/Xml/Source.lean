import ReleaseImpact.Xml.Char
import ReleaseImpact.Xml.CodePage

/-!
From the bytes of a document to its characters: the byte order, the declaration at the start, and the
declared encoding. Main statements:

- `normalizeBreaks_of_no_return`: text without carriage returns stays as it is.
- `utf16_of_ascii`: two bytes of which one is zero are an ASCII character.
- `leadingDeclaration_of_plain`: text that does not begin with a declaration is left whole.
-/

namespace ReleaseImpact.Xml

inductive Fault
  | malformed
  | unknownEncoding (name : String)
  | multiByteEncoding (name : String)
  | unusableEncoding (name : String)
  | undecodable
  deriving DecidableEq, Repr

/-- The characters after the declaration, and whether it calls the document standalone. -/
structure Source where
  standalone : Bool
  body : List Char
  /-- The number of bytes in front of the body. -/
  before : Nat
  /-- The number of bytes that a character takes. -/
  width : Char → Nat

/-- Every line break becomes one line feed. -/
def normalizeBreaks : List Char → List Char
  | '\r' :: '\n' :: rest => '\n' :: normalizeBreaks rest
  | '\r' :: rest => '\n' :: normalizeBreaks rest
  | c :: rest => c :: normalizeBreaks rest
  | [] => []

theorem normalizeBreaks_of_no_return {text : List Char} (h : '\r' ∉ text) :
    normalizeBreaks text = text := by
  induction text with
  | nil => rfl
  | cons c rest ih =>
    simp only [List.mem_cons, not_or] at h
    rw [normalizeBreaks, ih h.2]
    · rintro rest' rfl; exact absurd rfl h.1
    · rintro rfl; exact absurd rfl h.1

/-! ## The declaration -/

structure Declaration where
  encoding : Option String
  standalone : Bool
  deriving Repr

def dropSpaces (text : List Char) : List Char := text.dropWhile isSpace

def isValueChar (c : Char) : Bool := isAsciiLetter c || c.isDigit || c = '.' || c = '-' || c = '_'

/-- The name of a pseudo attribute, with what follows its equals sign. -/
def pseudoName? (text : List Char) : Option (List Char × List Char) :=
  let name := text.takeWhile fun c => c ≠ '=' && !isSpace c
  match dropSpaces (text.drop name.length) with
  | '=' :: rest =>
    if name.isEmpty || name.any (fun c => 128 ≤ c.toNat) then none else some (name, rest)
  | _ => none

def pseudoValue? (text : List Char) : Option (List Char × List Char) :=
  match dropSpaces text with
  | quote :: rest =>
    if quote = '"' ∨ quote = '\'' then
      let value := rest.takeWhile isValueChar
      match rest.drop value.length with
      | close :: after => if close = quote then some (value, after) else none
      | [] => none
    else none
  | [] => none

/-- The next pseudo attribute, none at the end of the declaration. A fault is the outer `none`. -/
def pseudoAttribute? (text : List Char) : Option (Option (List Char × List Char) × List Char) :=
  match text with
  | [] => some (none, [])
  | c :: _ =>
    if isSpace c then
      match dropSpaces text with
      | [] => some (none, [])
      | more => do
        let (name, rest) ← pseudoName? more
        let (value, rest) ← pseudoValue? rest
        some (some (name, value), rest)
    else none

/-- The end of a declaration, which may say whether the document stands alone. -/
def standalone? : Option (List Char × List Char) × List Char → Option Bool
  | (none, _) => some false
  | (some (name, value), rest) =>
    if String.ofList name = "standalone" ∧ (dropSpaces rest).isEmpty then
      if String.ofList value = "yes" then some true
      else if String.ofList value = "no" then some false
      else none
    else none

/-- Reads what stands between the target and the end of a declaration. -/
def Declaration.ofText? (text : List Char) : Option Declaration := do
  match ← pseudoAttribute? text with
  | (some (version, _), rest) =>
    if String.ofList version ≠ "version" then none
    else
      match ← pseudoAttribute? rest with
      | (some (name, value), rest) =>
        if String.ofList name = "encoding" then
          if value.head?.any isAsciiLetter then
            some ⟨some (String.ofList value), ← standalone? (← pseudoAttribute? rest)⟩
          else none
        else some ⟨none, ← standalone? (some (name, value), rest)⟩
      | last => some ⟨none, ← standalone? last⟩
  | _ => none

/-- What stands before the first occurrence of a mark, and what after it. -/
def cutAt (mark : List Char) : List Char → Option (List Char × List Char)
  | [] => if mark.isEmpty then some ([], []) else none
  | c :: rest =>
    if mark.isPrefixOf (c :: rest) then some ([], (c :: rest).drop mark.length)
    else (cutAt mark rest).map fun found => (c :: found.1, found.2)

/-- Whether a document begins with a declaration. -/
def hasDeclaration (text : List Char) : Bool :=
  "<?xml".toList.isPrefixOf text && (text.drop 5).head?.any fun c => isSpace c || c = '?'

/-- The declaration at the start of a text, if there is one, and the number of its characters. -/
def leadingDeclaration (text : List Char) : Except Fault (Declaration × Nat) :=
  if hasDeclaration text then
    match cutAt "?>".toList (text.drop 5) with
    | none => .error .malformed
    | some (inner, _) =>
      match Declaration.ofText? inner with
      | none => .error .malformed
      | some d => .ok (d, inner.length + 7)
  else .ok (⟨none, false⟩, 0)

theorem leadingDeclaration_of_plain {text : List Char} (h : hasDeclaration text = false) :
    leadingDeclaration text = .ok (⟨none, false⟩, 0) := by
  simp [leadingDeclaration, h]

/-! ## Encodings -/

def utf8? (bytes : List UInt8) : Option (List Char) :=
  (String.fromUTF8? ⟨bytes.toArray⟩).map String.toList

def codeUnit (bigEndian : Bool) (a b : UInt8) : Nat :=
  if bigEndian then a.toNat * 256 + b.toNat else b.toNat * 256 + a.toNat

/-- The units of two bytes each. What is no unit, and so no text, is a noncharacter. -/
def codeUnits (bigEndian : Bool) : List UInt8 → List Nat
  | [] => []
  | a :: b :: rest => codeUnit bigEndian a b :: codeUnits bigEndian rest
  | [_] => [0xFFFF]

/-- A leading surrogate takes the unit after it, whatever that is; one that stands last, or a trailing
surrogate by itself, is no text. -/
def joinSurrogates : List Nat → List Char
  | [] => []
  | lead :: rest =>
    if 0xD800 ≤ lead ∧ lead < 0xDC00 then
      match rest with
      | unit :: rest => Char.ofNat (0x10000 + lead % 0x400 * 0x400 + unit % 0x400) :: joinSurrogates rest
      | [] => ['\uffff']
    else if 0xDC00 ≤ lead ∧ lead < 0xE000 then '\uffff' :: joinSurrogates rest
    else Char.ofNat lead :: joinSurrogates rest

def utf16 (bigEndian : Bool) (bytes : List UInt8) : List Char := joinSurrogates (codeUnits bigEndian bytes)

theorem utf16_of_ascii {a : UInt8} (h : a.toNat < 128) :
    utf16 false [a, 0] = [Char.ofNat a.toNat] ∧ utf16 true [0, a] = [Char.ofNat a.toNat] := by
  have h1 : ¬ 0xD800 ≤ a.toNat := by omega
  have h2 : ¬ 0xDC00 ≤ a.toNat := by omega
  simp [utf16, codeUnits, codeUnit, joinSurrogates, h1, h2]

/-- How the bytes of a document stand for characters. A code page has a character for each byte, some
ASCII characters excepted. -/
inductive Encoding
  | utf8
  | utf16
  | latin
  | ascii
  | codePage (page : CodePage) (without : List Char)

/-- The encoding of a name. The names of the encodings in units of two bytes are given as such. -/
def Encoding.ofName (name : String) : Except Fault Encoding :=
  let upper := String.ofList (name.toList.map Char.toUpper)
  if upper = "UTF-8" then .ok .utf8
  else if upper = "ISO-8859-1" then .ok .latin
  else if upper = "US-ASCII" then .ok .ascii
  else if upper ∈ ["UTF-16", "UTF-16LE", "UTF-16BE"] then .ok .utf16
  else
    let normal := String.ofList (CodePage.normalizeName name.toList)
    match CodePage.find? normal with
    | some page => .ok (.codePage page [])
    | none =>
      if CodePage.isNamed CodePage.tildeNames normal then .ok (.codePage CodePage.ascii ['~'])
      else if CodePage.isNamed CodePage.multiByteNames normal then .error (.multiByteEncoding name)
      else if CodePage.isNamed CodePage.foreignNames normal then .error .malformed
      else if CodePage.isNamed CodePage.unusableNames normal then .error (.unusableEncoding name)
      else if CodePage.isNamed CodePage.undecodableNames normal then .error .undecodable
      else .error (.unknownEncoding name)

/-- The code page in which each byte is the number of its character. -/
def latin : CodePage := ⟨[], String.ofList ((List.range 128).map fun n => Char.ofNat (n + 128))⟩

/-- The characters of bytes in an encoding of one byte for each character. -/
def CodePage.decode? (page : CodePage) (without : List Char) (bytes : List UInt8) : Option (List Char) :=
  (bytes.mapM page.decodeByte).filter fun chars => !chars.any without.contains

/-- Characters that a document may hold, with normal line breaks. -/
def legalText (text : Option (List Char)) : Except Fault (List Char) :=
  match text with
  | none => .error .malformed
  | some chars => if chars.all isXmlChar then .ok (normalizeBreaks chars) else .error .malformed

namespace Source

/-- A document in units of two bytes, whose declaration may not name another of the encodings that need
no table. After the name of a code page the bytes are read in that page. -/
def ofUtf16 (bigEndian : Bool) (mark : Nat) (bytes : List UInt8) : Except Fault Source := do
  let chars := utf16 bigEndian bytes
  let (declared, length) ← leadingDeclaration chars
  let before := mark + 2 * length
  let own := return ⟨declared.standalone, ← legalText (some (chars.drop length)), before,
    fun c => if c.toNat < 0x10000 then 2 else 4⟩
  match declared.encoding with
  | none => own
  | some name =>
    match ← Encoding.ofName name with
    | .utf16 =>
      let accepted := ["UTF-16", if bigEndian then "UTF-16BE" else "UTF-16LE"]
      if String.ofList (name.toList.map Char.toUpper) ∈ accepted then own else .error .malformed
    | .codePage page without =>
      return ⟨declared.standalone, ← legalText (page.decode? without (bytes.drop (2 * length))), before,
        fun _ => 1⟩
    | _ => .error .malformed

/-- A document in units of one byte. The declaration is ASCII; the rest is in the declared encoding. -/
def ofSingleBytes (mark : Nat) (bytes : List UInt8) : Except Fault Source := do
  let (declared, length) ← leadingDeclaration (bytes.map fun b => Char.ofNat b.toNat)
  let encoding ← (declared.encoding.map Encoding.ofName).getD (.ok .utf8)
  let rest := bytes.drop length
  let inPage (page : CodePage) (without : List Char) : Option (List Char) × (Char → Nat) :=
    (page.decode? without rest, fun _ => 1)
  let (text, width) := match encoding with
    | .utf8 => (utf8? rest, Char.utf8Size)
    | .utf16 => (none, fun _ => 2)
    | .latin => inPage latin []
    | .ascii => inPage CodePage.ascii []
    | .codePage page without => inPage page without
  return ⟨declared.standalone, ← legalText text, mark + length, width⟩

def ofBytes : List UInt8 → Except Fault Source
  | 0xFE :: 0xFF :: rest => ofUtf16 true 2 rest
  | 0xFF :: 0xFE :: rest => ofUtf16 false 2 rest
  | 0xEF :: 0xBB :: 0xBF :: rest => ofSingleBytes 3 rest
  | a :: b :: rest =>
    if a = 0 then ofUtf16 true 0 (a :: b :: rest)
    else if b = 0 then ofUtf16 false 0 (a :: b :: rest)
    else ofSingleBytes 0 (a :: b :: rest)
  | short => ofSingleBytes 0 short

/-- The characters of a document that is text already; a declared encoding has no influence. -/
def ofText (text : String) : Except Fault Source := do
  let (mark, plain) := match text.toList with
    | '\ufeff' :: rest => (3, rest)
    | chars => (0, chars)
  let chars ← legalText (some plain)
  let (declared, length) ← leadingDeclaration chars
  return ⟨declared.standalone, chars.drop length, mark + length, Char.utf8Size⟩

end Source

end ReleaseImpact.Xml
