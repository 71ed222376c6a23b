import ReleaseImpact.Text.Quoted
import ReleaseImpact.Value.Basic

/-!
Values as text. The literal form tells values apart; the display form shows a single text without
quotes. A container that stands inside of itself is shown by dots there. Main statements:

- `display_text`: a text is shown as it is.
- `display_list` and `display_map`: lists and maps are shown in literal form.
-/

namespace ReleaseImpact

def commaList : List String → String
  | [] => ""
  | [s] => s
  | s :: rest => s ++ ", " ++ commaList rest

def Date.literal (d : Date) : String :=
  "datetime.date(" ++ commaList ([d.year, d.month, d.day].map Text.decimalText) ++ ")"

/-- The parts of a moment, without seconds and microseconds where they and all after are zero. -/
def Moment.parts (m : Moment) : List Nat :=
  [m.date.year, m.date.month, m.date.day, m.hour, m.minute] ++
    if m.microsecond ≠ 0 then [m.second, m.microsecond]
    else if m.second ≠ 0 then [m.second] else []

def offsetLiteral (offset : Int) : String :=
  if offset = 0 then "tzinfo=datetime.timezone.utc"
  else
    let days := if offset < 0 then "days=-1, " else ""
    let seconds := (if offset < 0 then offset + 1440 else offset) * 60
    "tzinfo=datetime.timezone(datetime.timedelta(" ++ days ++ "seconds=" ++ Text.intText seconds ++ "))"

def Moment.literal (m : Moment) : String :=
  "datetime.datetime(" ++
    commaList (m.parts.map Text.decimalText ++ (m.offset.map offsetLiteral).toList) ++ ")"

def Scalar.literal : Scalar → String
  | .null => "None"
  | .bool b => if b then "True" else "False"
  | .int n => Text.intText n
  | .float x => x.text
  | .text s => Text.quoted s
  | .date d => d.literal
  | .moment m => m.literal
  | .bytes data => Text.quotedBytes data

def Scalar.display : Scalar → String
  | .text s => s
  | .date d => d.text
  | .moment m => m.text
  | s => s.literal

/-- Whether a number has so few digits that it can be written. -/
def Scalar.canDisplay : Scalar → Bool
  | .int n => (Text.decimal n.natAbs).length ≤ Text.maxNumeralLength
  | _ => true

namespace Value

/-- What stands for a container inside of itself. -/
def dots : Value → String
  | .list _ => "[...]"
  | .tuple _ => "(...)"
  | _ => "\x7b...\x7d"

/-- A tuple with one item has a comma after it. -/
def tupleText : List String → String
  | [item] => "(" ++ item ++ ",)"
  | items => "(" ++ commaList items ++ ")"

/-- A set without items is shown by a name, as braces stand for a map. -/
def setText : List String → String
  | [] => "set()"
  | items => "\x7b" ++ commaList items ++ "\x7d"

def dotsOf (shown : List (Nat × String)) (name : Nat) : String :=
  ((shown.find? (·.1 = name)).map Prod.snd).getD (dots (.map []))

mutual

/-- The literal form inside of containers that are being shown, each with what stands for it. -/
def literalWithin (shown : List (Nat × String)) : Value → String
  | .scalar s => s.literal
  | .list items => "[" ++ commaList (itemLiterals shown items) ++ "]"
  | .map entries => "\x7b" ++ commaList (entryLiterals shown entries) ++ "\x7d"
  | .tuple items => tupleText (itemLiterals shown items)
  | .set items => setText (items.map Scalar.literal)
  | .loop name body =>
    if shown.any (·.1 = name) then dotsOf shown name
    else literalWithin ((name, body.dots) :: shown) body
  | .again name => dotsOf shown name

def itemLiterals (shown : List (Nat × String)) : List Value → List String
  | [] => []
  | v :: rest => literalWithin shown v :: itemLiterals shown rest

def entryLiterals (shown : List (Nat × String)) : List (Scalar × Value) → List String
  | [] => []
  | (k, v) :: rest =>
    (k.literal ++ ": " ++ literalWithin shown v) :: entryLiterals shown rest

end

def literal (v : Value) : String := v.literalWithin []

def display : Value → String
  | .scalar s => s.display
  | v => v.literal

/-! ## Numbers too long for text -/

mutual

/-- Whether all numbers in a value have so few digits that they can be written. -/
def canDisplay : Value → Bool
  | .scalar s => s.canDisplay
  | .list items => canDisplayItems items
  | .map entries => canDisplayEntries entries
  | .tuple items => canDisplayItems items
  | .set items => items.all Scalar.canDisplay
  | .loop _ body => body.canDisplay
  | .again _ => true

def canDisplayItems : List Value → Bool
  | [] => true
  | v :: rest => v.canDisplay && canDisplayItems rest

def canDisplayEntries : List (Scalar × Value) → Bool
  | [] => true
  | (k, v) :: rest => k.canDisplay && v.canDisplay && canDisplayEntries rest

end

theorem display_text (s : String) : (Value.text s).display = s := rfl

theorem display_list (items : List Value) : (Value.list items).display = (Value.list items).literal := rfl

theorem display_map (entries : List (Scalar × Value)) :
    (Value.map entries).display = (Value.map entries).literal := rfl

end Value

end ReleaseImpact
