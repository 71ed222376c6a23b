import ReleaseImpact.OrderedMap
import ReleaseImpact.Xml.Expansion

/-!
The document type declaration: internal entities and attribute defaults. Main statements:

- `defineEntity_known`: the first declaration of an entity holds.
- `isEntityValue_of_plain`: a value without markup is an entity value.
-/

namespace ReleaseImpact.Xml

inductive Token
  | name (text : String)
  /-- A name with a colon. -/
  | qualified (text : String)
  /-- A run of name characters that is no name. -/
  | nmtoken (text : String)
  /-- A name with an occurrence mark behind it. -/
  | repeated (text : String)
  | hashName (text : String)
  | literal (chars : List Char)
  | percent
  | openParen
  | closeParen
  | closeRepeated
  | closeStarred
  | bar
  | comma
  deriving DecidableEq, Repr

/-! ## Tokens -/

def isDelimiter (marks : List Char) (text : List Char) : Bool :=
  text.head?.any fun c => isSpace c || c ∈ marks

/-- The token of a run of name characters and colons. -/
def Token.ofRun (run : List Char) : Token :=
  let text := String.ofList run
  match Text.splitOn ':' run with
  | [front] => if front.head?.any isNameStart then .name text else .nmtoken text
  | [front, back] =>
    if front.head?.any isNameStart && back.head?.any isNameChar then .qualified text else .nmtoken text
  | _ => .nmtoken text

/-- The next token of a declaration, and what follows it. -/
def Token.cut? : List Char → Option (Token × List Char)
  | '%' :: rest => if isDelimiter [] rest then some (.percent, rest) else none
  | '(' :: rest => some (.openParen, rest)
  | ')' :: '*' :: rest => some (.closeStarred, rest)
  | ')' :: '?' :: rest => some (.closeRepeated, rest)
  | ')' :: '+' :: rest => some (.closeRepeated, rest)
  | ')' :: rest => if isDelimiter ['>', ',', '|', ')'] rest then some (.closeParen, rest) else none
  | '|' :: rest => some (.bar, rest)
  | ',' :: rest => some (.comma, rest)
  | '#' :: rest => do
    let (word, rest) ← cutName? rest
    if isDelimiter ['>', ')', '%', '|'] rest then some (.hashName word, rest) else none
  | c :: rest => do
    if c = '"' ∨ c = '\'' then
      let (chars, rest) ← cutAt [c] rest
      if isDelimiter ['>', '%', '['] rest then some (.literal chars, rest) else none
    else
      let run := (c :: rest).takeWhile fun c => isNameChar c || c = ':'
      let after := (c :: rest).drop run.length
      if run.isEmpty then none
      else
        let token := ofRun run
        match token, after with
        | .nmtoken _, mark :: _ =>
          if isDelimiter ['>', ')', ',', '|', '[', '%'] [mark] then some (token, after) else none
        | .name text, mark :: after' =>
          if mark = '?' ∨ mark = '*' ∨ mark = '+' then some (.repeated text, after')
          else if isDelimiter ['>', ')', ',', '|', '[', '%'] [mark] then some (token, after) else none
        | .qualified text, mark :: after' =>
          if mark = '?' ∨ mark = '*' ∨ mark = '+' then some (.repeated text, after')
          else if isDelimiter ['>', ')', ',', '|', '[', '%'] [mark] then some (token, after) else none
        | _, _ => none
  | [] => none

/-- The tokens up to the end of a declaration, and what follows it. -/
def Token.cutAll? : Nat → List Char → Option (List Token × List Char)
  | budget, text =>
    match budget, dropSpaces text with
    | _, '>' :: rest => some ([], rest)
    | budget + 1, more => do
      let (token, rest) ← cut? more
      let (tokens, rest) ← cutAll? budget rest
      some (token :: tokens, rest)
    | _, _ => none

/-! ## Declarations -/

/-- How attributes of a name are read on elements of a name. -/
structure AttributeRule where
  element : String
  name : String
  /-- Whether spaces count. -/
  isText : Bool
  initial : Option (List Char)
  deriving Repr

inductive Markdecl
  | entity (name : String) (value : List Char)
  | outerEntity (name : String)
  | parameterEntity (value : Option (List Char))
  | attributes (element : String) (rules : List (String × Bool × Option (List Char)))
  | other
  deriving Repr

def isPublicChar (c : Char) : Bool :=
  c = ' ' || c = '\n' || isAsciiLetter c || c.isDigit || c ∈ "-'()+,./:=?;!*#@$_%".toList

/-- A reference to something outside: a system identifier, with a public one in front or not. -/
def afterOuterId? : List Token → Option (List Token)
  | .name "SYSTEM" :: .literal _ :: rest => some rest
  | .name "PUBLIC" :: .literal key :: .literal _ :: rest => if key.all isPublicChar then some rest else none
  | _ => none

def Markdecl.ofEntity? : List Token → Option Markdecl
  | [.name name, .literal value] => some (.entity name value)
  | .name name :: rest =>
    match afterOuterId? rest with
    | some [] => some (.outerEntity name)
    | some [.name "NDATA", .name _] => some (.outerEntity name)
    | _ => none
  | [.percent, .name _, .literal value] => some (.parameterEntity (some value))
  | .percent :: .name _ :: rest =>
    match afterOuterId? rest with
    | some [] => some (.parameterEntity none)
    | _ => none
  | _ => none

def textTypes : List String :=
  ["ID", "IDREF", "IDREFS", "ENTITY", "ENTITIES", "NMTOKEN", "NMTOKENS"]

/-- What follows an enumeration, given what follows its opening. -/
def afterChoices? (isChoice : Token → Bool) : List Token → Option (List Token)
  | choice :: .bar :: rest => if isChoice choice then afterChoices? isChoice rest else none
  | choice :: .closeParen :: rest => if isChoice choice then some rest else none
  | _ => none

def isNmtoken : Token → Bool
  | .name _ => true
  | .qualified _ => true
  | .nmtoken _ => true
  | _ => false

def isPlainName : Token → Bool
  | .name _ => true
  | _ => false

/-- Whether an attribute type keeps spaces, and what follows the type. -/
def cutType? : List Token → Option (Bool × List Token)
  | .name "CDATA" :: rest => some (true, rest)
  | .name "NOTATION" :: .openParen :: rest => (afterChoices? isPlainName rest).map (false, ·)
  | .name type :: rest => if type ∈ textTypes then some (false, rest) else none
  | .openParen :: rest => (afterChoices? isNmtoken rest).map (false, ·)
  | _ => none

def cutInitial? : List Token → Option (Option (List Char) × List Token)
  | .hashName "IMPLIED" :: rest => some (none, rest)
  | .hashName "REQUIRED" :: rest => some (none, rest)
  | .hashName "FIXED" :: .literal value :: rest => some (some value, rest)
  | .literal value :: rest => some (some value, rest)
  | _ => none

def declaredName? : Token → Option String
  | .name text => some text
  | .qualified text => some text
  | _ => none

def attributeRules? : Nat → List Token → Option (List (String × Bool × Option (List Char)))
  | _, [] => some []
  | budget + 1, token :: rest => do
    let name ← declaredName? token
    let (isText, rest) ← cutType? rest
    let (initial, rest) ← cutInitial? rest
    return (name, isText, initial) :: (← attributeRules? budget rest)
  | 0, _ => none

def Markdecl.ofAttributes? : List Token → Option Markdecl
  | [] => none
  | token :: rest => do
    return .attributes (← declaredName? token) (← attributeRules? rest.length rest)

def isParticle : Token → Bool
  | .name _ => true
  | .qualified _ => true
  | .repeated _ => true
  | _ => false

/-- Whether tokens are a mixed content model, given what follows its first item. -/
def isMixed : List Token → Bool
  | [.closeParen] => true
  | [.closeStarred] => true
  | .bar :: rest => isChoiceList rest
  | _ => false
where
  isChoiceList : List Token → Bool
    | [choice, .closeStarred] => (declaredName? choice).isSome
    | choice :: .bar :: rest => (declaredName? choice).isSome && isChoiceList rest
    | _ => false

/-- Whether tokens are a content model of groups. Each open group has its connector once it is known;
`due` tells whether an item has to come next. -/
def isModel (groups : List (Option Token)) (due : Bool) : List Token → Bool
  | [] => groups.isEmpty && !due
  | token :: rest =>
    if due then
      match token with
      | .openParen => isModel (none :: groups) true rest
      | token => isParticle token && isModel groups false rest
    else
      match token, groups with
      | .closeParen, _ :: groups => isModel groups false rest
      | .closeStarred, _ :: groups => isModel groups false rest
      | .closeRepeated, _ :: groups => isModel groups false rest
      | .bar, known :: groups => known.all (· = .bar) && isModel (some .bar :: groups) true rest
      | .comma, known :: groups => known.all (· = .comma) && isModel (some .comma :: groups) true rest
      | _, _ => false

def isElementModel : List Token → Bool
  | [.name "EMPTY"] => true
  | [.name "ANY"] => true
  | .openParen :: .hashName "PCDATA" :: rest => isMixed rest
  | .openParen :: rest => isModel [none] true rest
  | _ => false

def Markdecl.ofElement? : List Token → Option Markdecl
  | token :: rest => if (declaredName? token).isSome && isElementModel rest then some .other else none
  | [] => none

def Markdecl.ofNotation? : List Token → Option Markdecl
  | [.name _, .name "PUBLIC", .literal key] => if key.all isPublicChar then some .other else none
  | .name _ :: rest => if afterOuterId? rest = some [] then some .other else none
  | _ => none

def Markdecl.ofTokens? (keyword : String) (tokens : List Token) : Option Markdecl :=
  if keyword = "ENTITY" then ofEntity? tokens
  else if keyword = "ATTLIST" then ofAttributes? tokens
  else if keyword = "ELEMENT" then ofElement? tokens
  else if keyword = "NOTATION" then ofNotation? tokens
  else none

/-! ## What the declarations say -/

/-- The entities and the attribute rules that hold in a document. -/
structure Doctype where
  /-- The replacement text of each entity, none for those outside of the document. -/
  entities : Entities
  rules : List AttributeRule
  /-- Whether there may be declarations that are not read. -/
  incomplete : Bool
  /-- Whether declarations still count. -/
  counting : Bool
  /-- The bytes that references in attribute defaults brought in. -/
  inserted : Nat
  deriving Repr

namespace Doctype

def none : Doctype := ⟨[], [], false, true, 0⟩

def entity? (d : Doctype) (name : String) : Option (Option (List Char)) :=
  (d.entities.find? (·.1 = name)).map Prod.snd

/-- Declares an entity unless it is declared already. -/
def defineEntity (d : Doctype) (name : String) (value : Option (List Char)) : Doctype :=
  if (predefined? name).isSome ∨ (d.entity? name).isSome then d
  else { d with entities := d.entities ++ [(name, value)] }

theorem defineEntity_known {d : Doctype} {name : String} {value : Option (List Char)}
    (h : (d.entity? name).isSome = true) : d.defineEntity name value = d := by
  simp [defineEntity, h]

/-- The replacement text of an entity value: characters given by number are put in, references to
entities stay. A percent sign may not stand in it. -/
def replacement? : Nat → List Char → Option (List Char)
  | _, [] => some []
  | 0, _ => Option.none
  | _, '%' :: _ => Option.none
  | budget + 1, '&' :: '#' :: rest => do
    match ← cutReference? ('#' :: rest) with
    | (.numbered c, rest) => return c :: (← replacement? budget rest)
    | _ => Option.none
  | budget + 1, '&' :: rest => do
    let (name, after) ← cutName? rest
    match after with
    | ';' :: after => return '&' :: name.toList ++ ';' :: (← replacement? budget after)
    | _ => Option.none
  | budget + 1, c :: rest => do return c :: (← replacement? budget rest)

def isEntityValue (value : List Char) : Bool := (replacement? value.length value).isSome

theorem replacement?_of_plain {value : List Char} (h : ∀ c ∈ value, c ≠ '&' ∧ c ≠ '%') :
    replacement? value.length value = some value := by
  induction value with
  | nil => rfl
  | cons c rest ih =>
    have hc := h c (by simp)
    have hr := ih fun d hd => h d (by simp [hd])
    rw [List.length_cons, replacement?]
    · simp [hr]
    all_goals first
      | (intro r e; simp_all)
      | simp_all

theorem isEntityValue_of_plain {value : List Char} (h : ∀ c ∈ value, c ≠ '&' ∧ c ≠ '%') :
    isEntityValue value = true := by
  simp [isEntityValue, replacement?_of_plain h]

/-- The characters of an attribute value. White space that is written becomes spaces. A reference to
an entity that is not declared counts as nothing where declarations may be unread. -/
def valueChars? (d : Doctype) (standalone : Bool) (depth : Nat) (opened : List String) :
    List ValuePart → Option (List Char)
  | [] => some []
  | .written c :: rest => do
    return (if isSpace c then ' ' else c) :: (← valueChars? d standalone depth opened rest)
  | .numbered c :: rest => do return c :: (← valueChars? d standalone depth opened rest)
  | .named c :: rest => do return c :: (← valueChars? d standalone depth opened rest)
  | .entity name :: rest => do
    match d.entity? name with
    | Option.none =>
      if d.incomplete && !standalone then valueChars? d standalone depth opened rest else Option.none
    | some Option.none => Option.none
    | some (some text) =>
      match depth with
      | 0 => Option.none
      | depth + 1 =>
        if name ∈ opened then Option.none
        else
          let inner ← valueChars? d standalone depth (name :: opened) (← ValuePart.ofText? text)
          return inner ++ (← valueChars? d standalone (depth + 1) opened rest)
termination_by parts => (depth, parts.length)

/-- The value of an attribute. References go at most as deep as there are entities. -/
def attributeValue? (d : Doctype) (standalone : Bool) (parts : List ValuePart) : Option (List Char) :=
  d.valueChars? standalone d.entities.length [] parts

/-- Adds the rules of an element; the first rule for an attribute holds. -/
def addRules (d : Doctype) (standalone : Bool) (element : String) :
    List (String × Bool × Option (List Char)) → Option Doctype
  | [] => some d
  | (name, isText, initial) :: rest => do
    let initial ← match initial with
      | some value => do pure (some (← d.attributeValue? standalone (← ValuePart.ofText? value)))
      | Option.none => pure Option.none
    let known := d.rules.any fun r => r.element = element && r.name = name
    addRules (if known then d else { d with rules := d.rules ++ [⟨element, name, isText, initial⟩] })
      standalone element rest

/-- What the attribute defaults of a declaration count for. -/
def defaultsWeight : Markdecl → Weight
  | .attributes _ rules => rules.foldr (fun r w =>
      (Weight.ofParts ((r.2.2.bind ValuePart.ofText?).getD [])).add w) .none
  | _ => .none

/-- Counts what attribute defaults bring in; `read` gives the bytes read so far. -/
def charge? (d : Doctype) (read : Unit → Nat) (w : Weight) : Option Doctype :=
  if d.counting then
    let inserted := d.inserted + w.fixed + d.entities.costs.ofNames w.names
    if w.names.isEmpty ∨ (Toll.mk (read ()) inserted).isTolerated then some { d with inserted }
    else Option.none
  else some d

/-- Takes a declaration in. Declarations that no longer count are not looked into. -/
def add (d : Doctype) (standalone : Bool) (declared : Markdecl) : Option Doctype :=
  if d.counting then
    match declared with
    | .entity name value => do
      return d.defineEntity name (some (normalizeBreaks (← replacement? value.length value)))
    | .outerEntity name => some (d.defineEntity name Option.none)
    | .parameterEntity value => if value.all isEntityValue then some d else Option.none
    | .attributes element rules => d.addRules standalone element rules
    | .other => some d
  else some d

/-- The declarations up to the closing bracket, and what follows it; `read` gives the bytes read when
a text is left. -/
def cutSubset? (standalone : Bool) (read : List Char → Nat) : Nat → Doctype → List Char → Option (Doctype × List Char)
  | 0, _, _ => Option.none
  | budget + 1, d, text =>
    match dropSpaces text with
    | ']' :: rest => some (d, rest)
    | '<' :: '!' :: '-' :: '-' :: rest => do cutSubset? standalone read budget d (← afterComment? rest)
    | '<' :: '?' :: rest => do cutSubset? standalone read budget d (← afterInstruction? rest)
    | '<' :: '!' :: rest => do
      let keyword := rest.takeWhile fun c => isAsciiLetter c || c = '_'
      let after := rest.drop keyword.length
      if isDelimiter [] after then
        let (tokens, after) ← Token.cutAll? after.length after
        let declared ← Markdecl.ofTokens? (String.ofList keyword) tokens
        let d ← d.charge? (fun _ => read after) (defaultsWeight declared)
        cutSubset? standalone read budget (← d.add standalone declared) after
      else Option.none
    | '%' :: rest => do
      let (_, after) ← cutName? rest
      match after with
      | ';' :: after =>
        cutSubset? standalone read budget { d with incomplete := true, counting := d.counting && standalone } after
      | _ => Option.none
    | _ => Option.none

/-- The tokens in front of the bracket or the end of a document type declaration. -/
def cutHead? : Nat → List Char → Option (List Token × List Char)
  | budget, text =>
    match budget, dropSpaces text with
    | _, '>' :: rest => some ([], '>' :: rest)
    | _, '[' :: rest => some ([], '[' :: rest)
    | budget + 1, more => do
      let (token, rest) ← Token.cut? more
      let (tokens, rest) ← cutHead? budget rest
      some (token :: tokens, rest)
    | _, _ => Option.none

/-- Reads a document type declaration, given what follows its keyword. -/
def cut? (standalone : Bool) (read : List Char → Nat) (text : List Char) : Option (Doctype × List Char) := do
  if isDelimiter [] text then
    let (head, rest) ← cutHead? text.length text
    let outside ← match head with
      | [name] => do let _ ← declaredName? name; pure false
      | name :: more => do
        let _ ← declaredName? name
        if afterOuterId? more = some [] then pure true else Option.none
      | [] => Option.none
    let (d, rest) ← match rest with
      | '[' :: rest => cutSubset? standalone read (rest.length + 1) { none with incomplete := outside } rest
      | rest => some ({ none with incomplete := outside }, rest)
    match dropSpaces rest with
    | '>' :: rest => some (d, rest)
    | _ => Option.none
  else Option.none

end Doctype

end ReleaseImpact.Xml
