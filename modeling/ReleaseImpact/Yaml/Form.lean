import ReleaseImpact.Text.Split
import ReleaseImpact.Yaml.Meaning

/-!
What a plain scalar is by its form: nothing, a truth value, a number, a date, a mark, or text. A line
break at the end does not count. Main statements:

- `isSpelling_self`: a word is a spelling of itself.
- `ofForm_truth`: the words for truth values stand for nothing else.
- `ofForm_lineFeed`: a line break alone is text.
-/

namespace ReleaseImpact.Yaml

def isOctal (c : Char) : Bool := '0' ≤ c && c ≤ '7'

def isHex (c : Char) : Bool := c.isDigit || ('a' ≤ c && c ≤ 'f') || ('A' ≤ c && c ≤ 'F')

/-- Digits among which lines may stand to part them. -/
def isParted (isOne : Char → Bool) (text : List Char) : Bool := text.all fun c => isOne c || c = '_'

def dropSign : List Char → List Char
  | '-' :: rest => rest
  | '+' :: rest => rest
  | rest => rest

/-- One or two digits of a number below sixty. -/
def isSixtieth : List Char → Bool
  | [d] => d.isDigit
  | [t, d] => '0' ≤ t && t ≤ '5' && d.isDigit
  | _ => false

/-! ## Numbers -/

/-- Whether text without its sign has the form of a whole number. -/
def isWhole (body : List Char) : Bool :=
  match body with
  | '0' :: 'b' :: rest => !rest.isEmpty && isParted (fun c => c = '0' || c = '1') rest
  | '0' :: 'x' :: rest => !rest.isEmpty && isParted isHex rest
  | ['0'] => true
  | '0' :: rest => isParted isOctal rest
  | d :: rest =>
    d.isDigit &&
      match Text.splitOn ':' rest with
      | [] => false
      | first :: more => isParted Char.isDigit first && more.all isSixtieth
  | [] => false

/-- An exponent with its sign, or nothing. -/
def isExponent : List Char → Bool
  | [] => true
  | e :: sign :: digits =>
    (e = 'e' || e = 'E') && (sign = '-' || sign = '+') && !digits.isEmpty && digits.all Char.isDigit
  | _ => false

def isInfinity (body : List Char) : Bool :=
  body ∈ [".inf".toList, ".Inf".toList, ".INF".toList]

def isUndefined (text : List Char) : Bool :=
  text ∈ [".nan".toList, ".NaN".toList, ".NAN".toList]

def isPointed (text : List Char) : Bool :=
  let body := dropSign text
  isInfinity body || isUndefined text ||
    match text with
    | '.' :: d :: rest =>
      d.isDigit && isExponent (rest.dropWhile fun c => c.isDigit || c = '_')
    | _ =>
      match body with
      | d :: _ =>
        let isPart (c : Char) : Bool := c.isDigit || c = '_'
        d.isDigit &&
          match Text.splitOn ':' (body.takeWhile (· ≠ '.')), body.dropWhile (· ≠ '.') with
          | [whole], '.' :: rest => whole.all isPart && isExponent (rest.dropWhile isPart)
          | first :: more, '.' :: rest => first.all isPart && more.all isSixtieth && rest.all isPart
          | _, _ => false
      | [] => false

/-! ## Dates -/

/-- The texts of the parts of a date and a time. Minutes of the distance of a local clock may be left
out, and that distance, and all after the day. -/
structure DateParts where
  year : List Char
  month : List Char
  day : List Char
  /-- The hour, the minute, the second, and what comes after its point. -/
  time : Option (List Char × List Char × List Char × List Char)
  /-- Whether the clock is behind, with hours and minutes. -/
  ahead : Option (Bool × List Char × List Char)
  deriving DecidableEq, Repr

/-- As many digits as are there, within bounds. -/
def digits? (least most : Nat) (text : List Char) : Option (List Char × List Char) :=
  let digits := (text.take most).takeWhile Char.isDigit
  if least ≤ digits.length then some (digits, text.drop digits.length) else none

def exactly? (c : Char) (text : List Char) : Option (List Char) :=
  match text with
  | d :: rest => if d = c then some rest else none
  | [] => none

def isTabOrSpace (c : Char) : Bool := c = ' ' || c = '\t'

/-- The distance of a local clock at the end of a text, nothing where none is given. -/
def clock? (text : List Char) : Option (Option (Bool × List Char × List Char)) :=
  match text.dropWhile isTabOrSpace with
  | [] => if text.isEmpty then some none else none
  | ['Z'] => some (some (false, [], []))
  | sign :: rest =>
    if sign = '-' ∨ sign = '+' then do
      let (hours, rest) ← digits? 1 2 rest
      let minutes ← match rest with
        | [] => some []
        | rest => do
          let (minutes, rest) ← digits? 2 2 (← exactly? ':' rest)
          if rest.isEmpty then some minutes else none
      return some (sign = '-', hours, minutes)
    else none

/-- The parts of the text of a date. -/
def dateParts? (text : List Char) : Option DateParts := do
  let (year, rest) ← digits? 4 4 text
  let (month, rest) ← digits? 1 2 (← exactly? '-' rest)
  let (day, rest) ← digits? 1 2 (← exactly? '-' rest)
  match rest with
  | [] => return ⟨year, month, day, none, none⟩
  | c :: after =>
    let rest ← if c = 'T' ∨ c = 't' then some after
      else if isTabOrSpace c then some (rest.dropWhile isTabOrSpace)
      else none
    let (hour, rest) ← digits? 1 2 rest
    let (minute, rest) ← digits? 2 2 (← exactly? ':' rest)
    let (second, rest) ← digits? 2 2 (← exactly? ':' rest)
    let (fraction, rest) := match rest with
      | '.' :: rest => (rest.takeWhile Char.isDigit, rest.dropWhile Char.isDigit)
      | rest => ([], rest)
    return ⟨year, month, day, some (hour, minute, second, fraction), ← clock? rest⟩

/-- Whether a text is a date by its form. A date without a time has two digits for month and day. -/
def isDate (text : List Char) : Bool :=
  (dateParts? text).any fun d => d.time.isSome || (d.month.length = 2 && d.day.length = 2)

/-! ## All forms -/

def truths : List (String × Bool) :=
  [("yes", true), ("no", false), ("true", true), ("false", false), ("on", true), ("off", false)]

/-- A word in lower case, in upper case, or with a capital. -/
def isSpelling (word text : String) : Bool :=
  text = word || text = Text.upper word ||
    text.toList = (word.toList.head?.map Char.toUpper).toList ++ word.toList.drop 1

def isTruth (text : String) : Bool := truths.any fun t => isSpelling t.1 text

def isNothing (text : String) : Bool := text = "" || text = "~" || isSpelling "null" text

/-- Drops a line break at the end. -/
def dropLastBreak (text : String) : String :=
  match text.toList.reverse with
  | '\n' :: rest => String.ofList rest.reverse
  | _ => text

/-- The signs of other tokens, which stand for no value. -/
def isSign (text : String) : Bool := text ∈ ["!", "&", "*"]

def Meaning.ofForm (text : String) : Meaning :=
  if isTruth text then .truth
  else if isPointed text.toList then .pointed
  else if isWhole (dropSign text.toList) then .whole
  else if text = "<<" then .merge
  else if isNothing text then .nothing
  else if isDate text.toList then .dated
  else if text = "=" then .default
  else if isSign text then .unknown
  else .text

def Meaning.ofPlain (text : String) : Meaning :=
  if text = "\n" then .text else ofForm (dropLastBreak text)

theorem isSpelling_self (word : String) : isSpelling word word = true := by simp [isSpelling]

theorem ofForm_truth {text : String} (h : isTruth text = true) : Meaning.ofForm text = .truth := by
  simp [Meaning.ofForm, h]

theorem ofForm_lineFeed : Meaning.ofPlain "\n" = .text := by simp [Meaning.ofPlain]

end ReleaseImpact.Yaml
