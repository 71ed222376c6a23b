import ReleaseImpact.Number.Arithmetic
import ReleaseImpact.Text.Base64
import ReleaseImpact.Value.Basic
import ReleaseImpact.Yaml.Cursor
import ReleaseImpact.Yaml.Form

/-!
The values of scalars. A text that is marked as a number, a truth value or a date need not have the
form of one, and there are faults of their own for that. Main statements:

- `readWhole_nil` and `readPointed_nil`: no number is spelled by an empty text.
- `ofText_text`: a scalar that is text stands for itself.
- `readTruth_of_not_mem`: only some words stand for truth values.
-/

namespace ReleaseImpact.Yaml

/-! ## Numbers -/

def integer (base : Nat) (text : List Char) : Except Fault Int :=
  match Text.readInteger? base text with
  | some n => .ok n
  | none => .error .notNumeral

/-- The number of minutes, seconds and so on that parts between colons stand for. -/
def inSixties (parts : List Int) : Int := parts.foldl (fun n p => 60 * n + p) 0

def readMagnitude : List Char → Except Fault Int
  | [] => .error .emptyNumeral
  | ['0'] => .ok 0
  | '0' :: 'b' :: digits => integer 2 digits
  | '0' :: 'x' :: digits => integer 16 digits
  | '0' :: digits => integer 8 ('0' :: digits)
  | body =>
    if ':' ∈ body then ((Text.splitOn ':' body).mapM (integer 10)).map inSixties
    else integer 10 body

def readWhole (text : List Char) : Except Fault Int :=
  match text.filter (· ≠ '_') with
  | [] => .error .emptyNumeral
  | '-' :: body => (readMagnitude body).map fun n => -n
  | '+' :: body => readMagnitude body
  | body => readMagnitude body

def pointed (text : List Char) : Except Fault Binary64 :=
  match Binary64.read? text with
  | some x => .ok x
  | none => .error .notNumeral

/-- Parts between colons, the last one first, each weighing sixty times the one before. -/
def addSixties (sum : Binary64) (weight : Nat) : List Binary64 → Except Fault Binary64
  | [] => .ok sum
  | part :: rest =>
    match Binary64.ofNat weight with
    | .finite negative m e =>
      addSixties (sum.add (part.mul (.finite negative m e))) (60 * weight) rest
    | _ => .error .numberTooLarge

def readPointedMagnitude (body : List Char) : Except Fault Binary64 :=
  if body = ".inf".toList then .ok (.infinite false)
  else if body = ".nan".toList then .ok .nan
  else if ':' ∈ body then do
    let parts ← (Text.splitOn ':' body).mapM pointed
    addSixties (.zero false) 1 parts.reverse
  else pointed body

def readPointed (text : List Char) : Except Fault Binary64 :=
  match (text.filter (· ≠ '_')).map Char.toLower with
  | [] => .error .emptyNumeral
  | '-' :: body => (readPointedMagnitude body).map Binary64.negate
  | '+' :: body => readPointedMagnitude body
  | body => readPointedMagnitude body

theorem readWhole_nil : readWhole [] = .error .emptyNumeral := rfl

theorem readPointed_nil : readPointed [] = .error .emptyNumeral := rfl

/-- Whether a number is the undefined one by its own sign, of which there is only one. -/
def isPlainUndefined (text : String) : Bool :=
  dropSign ((text.toList.filter (· ≠ '_')).map Char.toLower) = ".nan".toList

/-! ## Truth values, dates and bytes -/

def readTruth (text : String) : Except Fault Bool :=
  match truths.find? fun t => t.1 = Text.lower text with
  | some (_, b) => .ok b
  | none => .error .notTruth

theorem readTruth_of_not_mem {text : String} (h : Text.lower text ∉ truths.map Prod.fst) :
    readTruth text = .error .notTruth := by
  have : (truths.find? fun t => t.1 = Text.lower text) = none := by
    rw [List.find?_eq_none]
    intro t ht
    simp only [decide_eq_true_eq]
    exact fun e => h (e ▸ List.mem_map_of_mem ht)
  simp [readTruth, this]

def spelledNumber (digits : List Char) : Nat := Text.spelled (digits.map fun c => c.toNat - 48)

/-- The millionths that the digits after the point of a second give. -/
def millionths (digits : List Char) : Nat :=
  let six := digits.take 6
  spelledNumber six * Nat.pow 10 (6 - six.length)

def DateParts.scalar (d : DateParts) : Scalar :=
  let date : Date := ⟨spelledNumber d.year, spelledNumber d.month, spelledNumber d.day⟩
  match d.time with
  | none => .date date
  | some (hour, minute, second, fraction) =>
    let ahead := d.ahead.map fun (behind, hours, minutes) =>
      let total : Int := spelledNumber hours * 60 + spelledNumber minutes
      if behind then -total else total
    .moment ⟨date, spelledNumber hour, spelledNumber minute, spelledNumber second,
      millionths fraction, ahead⟩

def readDated (text : String) : Except Fault Scalar :=
  match (dateParts? (dropLastBreak text).toList).map DateParts.scalar with
  | some (.date d) => if d.isValid then .ok (.date d) else .error .noSuchDay
  | some (.moment m) => if m.isValid then .ok (.moment m) else .error .noSuchDay
  | _ => .error .notDate

/-- Bytes in sixty-four characters of ASCII. -/
def readBinary (text : String) : Except Fault Scalar :=
  if text.toList.all fun c => c.toNat < 128 then
    match Text.Base64.decodePadded? text with
    | some data => .ok (.bytes data)
    | none => .error .malformed
  else .error .malformed

/-- The value of a scalar, given whether its text was taken out of a mapping. -/
def Meaning.scalar (inMapping : Bool) (text : String) : Meaning → Except Fault Scalar
  | nothing => .ok .null
  | truth => (readTruth text).map .bool
  | whole => (readWhole text.toList).map .int
  | pointed => (readPointed text.toList).map .float
  | binary => readBinary text
  | dated => if inMapping then .error .dateInMapping else readDated text
  | .text => .ok (.text text)
  | _ => .error .malformed

theorem ofText_text (inMapping : Bool) (text : String) :
    Meaning.text.scalar inMapping text = .ok (.text text) := rfl

end ReleaseImpact.Yaml
