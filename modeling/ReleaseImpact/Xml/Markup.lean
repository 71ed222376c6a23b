import ReleaseImpact.Text.Split
import ReleaseImpact.Xml.Source

/-!
The content of a document cut into items: tags, text, and references to entities. Comments and
processing instructions are left out. Main statements:

- `cutName?_some`: a name is not empty and together with the rest gives back the text.
- `plainText_of_no_mark`: text without markup is one run of text.
-/

namespace ReleaseImpact.Xml

/-- A part of an attribute value: a character as it is written, given by its number or by one of the
names that need no declaration, or a reference. -/
inductive ValuePart
  | written (c : Char)
  | numbered (c : Char)
  | named (c : Char)
  | entity (name : String)
  deriving Repr

inductive Markup
  | startTag (name : String) (attributes : List (String × List ValuePart)) (empty : Bool)
  | endTag (name : String)
  /-- Text as it is written. -/
  | text (chars : List Char)
  /-- Text that is protected from markup. -/
  | data (chars : List Char)
  | entity (name : String)
  deriving Repr

/-! ## Names and references -/

/-- A name without colons, and what follows it. -/
def cutName? (text : List Char) : Option (String × List Char) :=
  match text with
  | [] => none
  | c :: rest =>
    if isNameStart c then
      let more := rest.takeWhile isNameChar
      some (String.ofList (c :: more), rest.drop more.length)
    else none

/-- A name with at most one colon, which stands between two names. -/
def cutQualifiedName? (text : List Char) : Option (String × List Char) := do
  let (front, rest) ← cutName? text
  match rest with
  | ':' :: rest =>
    let (back, rest) ← cutName? rest
    if rest.head? = some ':' then none else some (front ++ ":" ++ back, rest)
  | rest => some (front, rest)

theorem cutName?_some {text rest : List Char} {name : String} (h : cutName? text = some (name, rest)) :
    name ≠ "" ∧ name.toList ++ rest = text := by
  unfold cutName? at h
  split at h
  · contradiction
  · next c more =>
    simp only [Option.ite_none_right_eq_some, Option.some.injEq, Prod.mk.injEq] at h
    obtain ⟨_, rfl, rfl⟩ := h
    refine ⟨fun e => ?_, ?_⟩
    · have := congrArg String.toList e
      simp at this
    · have hp := List.takeWhile_prefix isNameChar (l := more)
      simp [List.prefix_iff_eq_append.1 hp]

def hexValue? (c : Char) : Option Nat :=
  if c.isDigit then some (c.toNat - 48)
  else if 'a' ≤ c && c ≤ 'f' then some (c.toNat - 87)
  else if 'A' ≤ c && c ≤ 'F' then some (c.toNat - 55)
  else none

def numberOf (base : Nat) (digits : List Nat) : Nat := digits.foldl (fun n d => base * n + d) 0

/-- The character of a number, if a document may hold it. -/
def charOfNumber? (base : Nat) (digits : List Char) : Option Char :=
  if digits.isEmpty then none
  else
    match digits.mapM fun c => (hexValue? c).filter (· < base) with
    | none => none
    | some values =>
      let n := numberOf base values
      if n < 0x110000 ∧ ¬ (0xD800 ≤ n ∧ n < 0xE000) ∧ isXmlChar (Char.ofNat n) then some (Char.ofNat n)
      else none

def predefined? : String → Option Char
  | "lt" => some '<'
  | "gt" => some '>'
  | "amp" => some '&'
  | "quot" => some '"'
  | "apos" => some '\''
  | _ => none

/-- What a reference after its ampersand stands for, and what follows it. -/
def cutReference? : List Char → Option (ValuePart × List Char)
  | '#' :: 'x' :: rest => do
    let (digits, rest) ← cutAt [';'] rest
    some (.numbered (← charOfNumber? 16 digits), rest)
  | '#' :: rest => do
    let (digits, rest) ← cutAt [';'] rest
    some (.numbered (← charOfNumber? 10 digits), rest)
  | text => do
    let (name, rest) ← cutName? text
    match rest with
    | ';' :: rest =>
      match predefined? name with
      | some c => some (.named c, rest)
      | none => some (.entity name, rest)
    | _ => none

def valueParts? (budget : Nat) (text : List Char) : Option (List ValuePart) :=
  match budget, text with
  | _, [] => some []
  | 0, _ => none
  | _, '<' :: _ => none
  | budget + 1, '&' :: rest => do
    let (part, rest) ← cutReference? rest
    return part :: (← valueParts? budget rest)
  | budget + 1, c :: rest => do return .written c :: (← valueParts? budget rest)

/-- The parts of an attribute value; a value has at most as many parts as characters. -/
def ValuePart.ofText? (text : List Char) : Option (List ValuePart) := valueParts? text.length text

/-! ## Tags -/

/-- A quoted text, and what follows it. -/
def cutQuoted? : List Char → Option (List Char × List Char)
  | quote :: rest => if quote = '"' ∨ quote = '\'' then cutAt [quote] rest else none
  | [] => none

def cutAttribute? (text : List Char) : Option ((String × List ValuePart) × List Char) := do
  let (name, rest) ← cutQualifiedName? text
  match dropSpaces rest with
  | '=' :: rest =>
    let (value, rest) ← cutQuoted? (dropSpaces rest)
    some ((name, ← ValuePart.ofText? value), rest)
  | _ => none

/-- The attributes of a start tag, whether the tag ends its element too, and what follows the tag. -/
def cutAttributes? : Nat → List Char → Option (List (String × List ValuePart) × Bool × List Char)
  | _, '>' :: rest => some ([], false, rest)
  | _, '/' :: '>' :: rest => some ([], true, rest)
  | budget + 1, c :: rest =>
    if isSpace c then
      match dropSpaces rest with
      | '>' :: rest => some ([], false, rest)
      | '/' :: '>' :: rest => some ([], true, rest)
      | more => do
        let (first, rest) ← cutAttribute? more
        let (others, empty, rest) ← cutAttributes? budget rest
        some (first :: others, empty, rest)
    else none
  | _, _ => none

/-- The name of an end tag, which may hold any number of colons, and what follows the tag. -/
def cutEndTag? (text : List Char) : Option (String × List Char) :=
  match text with
  | [] => none
  | c :: rest =>
    if isNameStart c then
      let more := rest.takeWhile fun c => isNameChar c || c = ':'
      match dropSpaces (rest.drop more.length) with
      | '>' :: after => some (String.ofList (c :: more), after)
      | _ => none
    else none

/-- What follows a comment, given what follows its opening. -/
def afterComment? (text : List Char) : Option (List Char) :=
  match cutAt "--".toList text with
  | some (_, '>' :: rest) => some rest
  | _ => none

/-- What follows a processing instruction, given what follows its opening. The target `xml` is kept
for declarations. -/
def afterInstruction? (text : List Char) : Option (List Char) := do
  let (target, rest) ← cutName? text
  if Text.lower target = "xml" then none
  else
    match rest with
    | '?' :: '>' :: rest => some rest
    | c :: rest => if isSpace c then (cutAt "?>".toList rest).map Prod.snd else none
    | [] => none

/-! ## Content -/

/-- Whether the mark that ends protected text stands in a text. -/
def closesData : List Char → Bool := Text.occursIn "]]>".toList

/-- A run of text up to the next markup, which may not hold the end of protected text. -/
def cutText? (text : List Char) : Option (List Char × List Char) :=
  let run := text.takeWhile fun c => c ≠ '<' && c ≠ '&'
  if closesData run then none else some (run, text.drop run.length)

theorem plainText_of_no_mark {text : List Char} (h : ∀ c ∈ text, c ≠ '<' ∧ c ≠ '&')
    (hd : closesData text = false) : cutText? text = some (text, []) := by
  have hrun : text.takeWhile (fun c => c ≠ '<' && c ≠ '&') = text := by
    clear hd
    induction text with
    | nil => rfl
    | cons c rest ih =>
      have hc := h c (by simp)
      have hr := ih fun d hd => h d (by simp [hd])
      rw [List.takeWhile_cons_of_pos (by simp [hc.1, hc.2]), hr]
  simp only [cutText?]
  rw [hrun]
  simp [hd]

namespace Markup

/-- The next item, none for a comment or an instruction, and what follows it. -/
def cut? : List Char → Option (Option Markup × List Char)
  | '<' :: '!' :: '-' :: '-' :: rest => do some (none, ← afterComment? rest)
  | '<' :: '!' :: '[' :: 'C' :: 'D' :: 'A' :: 'T' :: 'A' :: '[' :: rest => do
    let (chars, rest) ← cutAt "]]>".toList rest
    some (some (.data chars), rest)
  | '<' :: '?' :: rest => do some (none, ← afterInstruction? rest)
  | '<' :: '/' :: rest => do
    let (name, rest) ← cutEndTag? rest
    some (some (.endTag name), rest)
  | '<' :: rest => do
    let (name, rest) ← cutQualifiedName? rest
    let (attributes, empty, rest) ← cutAttributes? rest.length rest
    some (some (.startTag name attributes empty), rest)
  | '&' :: rest => do
    match ← cutReference? rest with
    | (.entity name, rest) => some (some (.entity name), rest)
    | (.numbered c, rest) => some (some (.data [c]), rest)
    | (.named c, rest) => some (some (.data [c]), rest)
    | (.written c, rest) => some (some (.text [c]), rest)
  | run => do
    let (chars, rest) ← cutText? run
    some (some (.text chars), rest)

def itemsOf? : Nat → List Char → Option (List Markup)
  | _, [] => some []
  | 0, _ => none
  | budget + 1, chars => do
    let (item, rest) ← cut? chars
    return item.toList ++ (← itemsOf? budget rest)

/-- The items of a text, of which there are at most as many as characters. -/
def ofText? (chars : List Char) : Option (List Markup) := itemsOf? chars.length chars

end Markup

end ReleaseImpact.Xml
