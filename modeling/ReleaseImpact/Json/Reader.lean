import ReleaseImpact.Value.Basic

/-!
Reading JSON text. Beyond the standard, the three numbers that are not finite have the names `NaN`,
`Infinity` and `-Infinity`; of two members of one name the later counts. Main statements:

- `readValue_zero`: nothing is read without steps to take.
- `skipSpace_of_not_space`: text that starts with no space stays.
-/

namespace ReleaseImpact.Json

def isSpace (c : Char) : Bool := c = ' ' || c = '\t' || c = '\n' || c = '\r'

def skipSpace (text : List Char) : List Char := text.dropWhile isSpace

theorem skipSpace_of_not_space {c : Char} {rest : List Char} (h : isSpace c = false) :
    skipSpace (c :: rest) = c :: rest := by
  simp [skipSpace, h]

def hexValue? (c : Char) : Option Nat :=
  if '0' ≤ c ∧ c ≤ '9' then some (c.toNat - 48)
  else if 'a' ≤ c ∧ c ≤ 'f' then some (c.toNat - 87)
  else if 'A' ≤ c ∧ c ≤ 'F' then some (c.toNat - 55)
  else none

def readHex4? : List Char → Option (Nat × List Char)
  | a :: b :: c :: d :: rest => do
    let a ← hexValue? a
    let b ← hexValue? b
    let c ← hexValue? c
    let d ← hexValue? d
    some (((a * 16 + b) * 16 + c) * 16 + d, rest)
  | _ => none

/-- The character of a code unit; half of a pair that stands alone is the replacement character. -/
def unitChar (n : Nat) : Char := if 0xD800 ≤ n ∧ n ≤ 0xDFFF then '\ufffd' else Char.ofNat n

/-- The character that an escaped code unit starts, with its second half where it has one. -/
def readEscapedUnit? (text : List Char) : Option (Char × List Char) := do
  let (high, rest) ← readHex4? text
  if 0xD800 ≤ high ∧ high ≤ 0xDBFF then
    match rest with
    | '\\' :: 'u' :: more =>
      match readHex4? more with
      | some (low, after) =>
        if 0xDC00 ≤ low ∧ low ≤ 0xDFFF then
          some (Char.ofNat (0x10000 + (high - 0xD800) * 0x400 + (low - 0xDC00)), after)
        else some (unitChar high, rest)
      | none => some (unitChar high, rest)
    | _ => some (unitChar high, rest)
  else some (unitChar high, rest)

def simpleEscape? : Char → Option Char
  | '"' => some '"'
  | '\\' => some '\\'
  | '/' => some '/'
  | 'b' => some '\x08'
  | 'f' => some '\x0c'
  | 'n' => some '\n'
  | 'r' => some '\r'
  | 't' => some '\t'
  | _ => none

/-- The characters of a string up to its closing quote, and what follows. -/
def readString? : Nat → List Char → Option (List Char × List Char)
  | 0, _ => none
  | _ + 1, [] => none
  | _ + 1, '"' :: rest => some ([], rest)
  | fuel + 1, '\\' :: 'u' :: rest => do
    let (c, rest) ← readEscapedUnit? rest
    let (cs, rest) ← readString? fuel rest
    some (c :: cs, rest)
  | fuel + 1, '\\' :: e :: rest => do
    let c ← simpleEscape? e
    let (cs, rest) ← readString? fuel rest
    some (c :: cs, rest)
  | fuel + 1, c :: rest =>
    if c.toNat < 32 ∨ c = '\\' then none
    else do
      let (cs, rest) ← readString? fuel rest
      some (c :: cs, rest)

/-- The digits of a whole number: a single zero, or digits that start with another one. -/
def readWhole? : List Char → Option (List Char × List Char)
  | '0' :: rest => some (['0'], rest)
  | text =>
    let digits := text.takeWhile Char.isDigit
    if digits.isEmpty then none else some (digits, text.dropWhile Char.isDigit)

/-- A point with digits, if both are there. -/
def readFraction : List Char → List Char × List Char
  | '.' :: rest =>
    let digits := rest.takeWhile Char.isDigit
    if digits.isEmpty then ([], '.' :: rest) else ('.' :: digits, rest.dropWhile Char.isDigit)
  | text => ([], text)

/-- An exponent mark with digits, if both are there. -/
def readExponent (text : List Char) : List Char × List Char :=
  match text with
  | e :: rest =>
    if e = 'e' ∨ e = 'E' then
      let (sign, body) := match rest with
        | '-' :: body => (['-'], body)
        | '+' :: body => (['+'], body)
        | body => ([], body)
      let digits := body.takeWhile Char.isDigit
      if digits.isEmpty then ([], text)
      else ('e' :: sign ++ digits, body.dropWhile Char.isDigit)
    else ([], text)
  | [] => ([], [])

def readNumber? (text : List Char) : Option (Value × List Char) := do
  let (negative, body) := match text with
    | '-' :: rest => (true, rest)
    | rest => (false, rest)
  let (whole, rest) ← readWhole? body
  let (fraction, rest) := readFraction rest
  let (exponent, rest) := readExponent rest
  if fraction.isEmpty && exponent.isEmpty then
    if whole.length ≤ Text.maxNumeralLength then do
      let n ← Text.readNat? whole
      some (.int (if negative then -(n : Int) else n), rest)
    else none
  else do
    let (digits, e) ← Binary64.readDecimal? (whole ++ fraction ++ exponent)
    some (.float (Binary64.ofDecimal negative digits e), rest)

def words : List (String × Value) :=
  [("null", .null), ("true", .bool true), ("false", .bool false), ("NaN", .float .nan),
    ("Infinity", .float (.infinite false)), ("-Infinity", .float (.infinite true))]

def readWord? (text : List Char) : Option (Value × List Char) :=
  words.findSome? fun w =>
    if w.1.toList.isPrefixOf text then some (w.2, text.drop w.1.length) else none

mutual

def readValue? : Nat → List Char → Option (Value × List Char)
  | 0, _ => none
  | fuel + 1, '"' :: rest => do
    let (s, rest) ← readString? fuel rest
    some (.text (String.ofList s), rest)
  | fuel + 1, '[' :: rest =>
    match skipSpace rest with
    | ']' :: rest => some (.list [], rest)
    | rest => do
      let (items, rest) ← readItems? fuel rest
      some (.list items, rest)
  | fuel + 1, '\x7b' :: rest =>
    match skipSpace rest with
    | '\x7d' :: rest => some (.map [], rest)
    | rest => do
      let (entries, rest) ← readMembers? fuel [] rest
      some (.map entries, rest)
  | _ + 1, text => readWord? text <|> readNumber? text

/-- The items of a list that is not empty, and what follows its closing bracket. -/
def readItems? : Nat → List Char → Option (List Value × List Char)
  | 0, _ => none
  | fuel + 1, text => do
    let (v, rest) ← readValue? fuel (skipSpace text)
    match skipSpace rest with
    | ']' :: rest => some ([v], rest)
    | ',' :: rest => do
      let (vs, rest) ← readItems? fuel rest
      some (v :: vs, rest)
    | _ => none

/-- The members of an object that is not empty, put into those read so far. -/
def readMembers? : Nat → List (Scalar × Value) → List Char →
    Option (List (Scalar × Value) × List Char)
  | 0, _, _ => none
  | fuel + 1, entries, text =>
    match skipSpace text with
    | '"' :: rest => do
      let (name, rest) ← readString? fuel rest
      match skipSpace rest with
      | ':' :: rest => do
        let (v, rest) ← readValue? fuel (skipSpace rest)
        let entries := putKey (.text (String.ofList name)) v entries
        match skipSpace rest with
        | '\x7d' :: rest => some (entries, rest)
        | ',' :: rest => readMembers? fuel entries rest
        | _ => none
      | _ => none
    | _ => none

end

theorem readValue_zero (text : List Char) : readValue? 0 text = none := by simp [readValue?]

def parse? (text : String) : Option Value :=
  match readValue? (text.length + 1) (skipSpace text.toList) with
  | some (v, rest) => if (skipSpace rest).isEmpty then some v else none
  | none => none

end ReleaseImpact.Json
