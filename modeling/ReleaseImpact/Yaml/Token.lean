import ReleaseImpact.Text.Digits
import ReleaseImpact.Yaml.Source
import ReleaseImpact.Yaml.Text

/-!
The tokens of a document in a configuration language that marks structure by indentation. Blocks are
opened and closed by tokens of their own, and a key is marked in front although only the colon behind
it tells that it is one. Where no more tokens can be told apart a last one says why, behind those that
stand whatever follows. Main statements:

- `insertAt_zero`: a mark for the last token goes right in front of the end.
- `length_insertAt`: marking a key adds one token.
- `breakOff_ne_nil`: a text that cannot be read to its end has a token that says so.
-/

namespace ReleaseImpact.Yaml

/-- The tag of a node: a handle, if there is one, and the rest. -/
structure Tag where
  handle : Option String
  rest : String
  deriving DecidableEq, Repr

inductive Token
  | versionDirective (major : Nat)
  | tagDirective (handle front : String)
  | otherDirective
  | documentStart
  | documentEnd
  | openSequence
  | openMapping
  | closeBlock
  | openFlowSequence
  | closeFlowSequence
  | openFlowMapping
  | closeFlowMapping
  | entry
  | flowEntry
  | key
  | value
  | anchor (name : String)
  | alias (name : String)
  | tag (t : Tag)
  | scalar (text : String) (isPlain : Bool)
  | broken (fault : Fault)
  deriving DecidableEq, Repr

/-- Where a key may have begun, and the number of tokens before it. -/
structure PossibleKey where
  before : Nat
  required : Bool
  index : Nat
  line : Nat
  column : Nat
  deriving Repr

/-- Keys have to stand on one line and be no longer than this. -/
def maxKeyLength : Nat := 1024

structure Scanner where
  cursor : Cursor
  /-- The tokens so far, the last one first. -/
  tokens : List Token
  count : Nat
  /-- The column of the innermost block, and those around it. -/
  indent : Int
  outer : List Int
  flow : Nat
  keyAllowed : Bool
  /-- The possible keys by the flow level at which they stand. -/
  keys : List (Nat × PossibleKey)

/-- Puts a token in front of the last ones of a list that begins with the last one. -/
def insertAt (fromEnd : Nat) (t : Token) (tokens : List Token) : List Token :=
  tokens.take fromEnd ++ t :: tokens.drop fromEnd

theorem insertAt_zero (t : Token) (tokens : List Token) : insertAt 0 t tokens = t :: tokens := rfl

theorem length_insertAt (fromEnd : Nat) (t : Token) (tokens : List Token) :
    (insertAt fromEnd t tokens).length = tokens.length + 1 := by
  simp [insertAt]
  omega

namespace Scanner

def start (text : List Char) : Scanner := ⟨.start text, [], 0, -1, [], 0, true, []⟩

def push (s : Scanner) (t : Token) : Scanner := { s with tokens := t :: s.tokens, count := s.count + 1 }

def column (s : Scanner) : Int := s.cursor.column

/-! ## Possible keys -/

def keyHere? (s : Scanner) : Option PossibleKey := (s.keys.find? (·.1 = s.flow)).map Prod.snd

def forget (s : Scanner) : Scanner := { s with keys := s.keys.filter (·.1 ≠ s.flow) }

/-- Gives up the possible key of this flow level. -/
def dropKey (s : Scanner) : Except Fault Scanner :=
  if s.keyHere?.any PossibleKey.required then .error .malformed else .ok s.forget

/-- Notes that a key may begin here. -/
def noteKey (s : Scanner) : Except Fault Scanner :=
  if s.keyAllowed then do
    let s ← s.dropKey
    let required := s.flow = 0 && s.indent = s.column
    let key : PossibleKey := ⟨s.count, required, s.cursor.index, s.cursor.line, s.cursor.column⟩
    return { s with keys := (s.flow, key) :: s.keys }
  else .ok s

def isStale (s : Scanner) (k : PossibleKey) : Bool :=
  k.line ≠ s.cursor.line || maxKeyLength < s.cursor.index - k.index

def dropStaleKeys (s : Scanner) : Except Fault Scanner :=
  if s.keys.any fun e => s.isStale e.2 && e.2.required then .error .malformed
  else .ok { s with keys := s.keys.filter fun e => !s.isStale e.2 }

/-! ## Indentation -/

/-- Closes the blocks that are indented more than a column. -/
def closeBlocks (s : Scanner) (column : Int) : List Int → Scanner
  | [] => s
  | around :: rest =>
    if column < s.indent then
      closeBlocks { s.push .closeBlock with indent := around, outer := rest } column rest
    else s

def unwind (s : Scanner) (column : Int) : Scanner :=
  if s.flow = 0 then s.closeBlocks column s.outer else s

/-- Opens a block at a column, unless it is open already. -/
def openBlock (s : Scanner) (column : Int) : Scanner × Bool :=
  if s.indent < column then ({ s with indent := column, outer := s.indent :: s.outer }, true)
  else (s, false)

/-! ## Kinds of token -/

/-- Takes a mark between parts of the stream in, which ends all blocks. -/
def endBlocks (s : Scanner) : Except Fault Scanner := do
  let s ← (s.unwind (-1)).dropKey
  return { s with keyAllowed := false }

def moveTo (s : Scanner) (c : Cursor) : Scanner := { s with cursor := c }

def documentMark (s : Scanner) (t : Token) : Except Fault Scanner := do
  let s ← s.endBlocks
  return (s.moveTo (s.cursor.advance 3)).push t

def openFlow (s : Scanner) (t : Token) : Except Fault Scanner := do
  let s ← s.noteKey
  return ({ s with flow := s.flow + 1, keyAllowed := true }.moveTo s.cursor.next).push t

def closeFlow (s : Scanner) (t : Token) : Except Fault Scanner := do
  if s.flow = 0 then .error .malformed
  else
    let s ← s.dropKey
    return ({ s with flow := s.flow - 1, keyAllowed := false }.moveTo s.cursor.next).push t

def flowEntry (s : Scanner) : Except Fault Scanner := do
  let s ← s.dropKey
  return ({ s with keyAllowed := true }.moveTo s.cursor.next).push .flowEntry

/-- Opens a block for an entry or a key here, where such a thing may stand. -/
def openHere (s : Scanner) (opening : Token) : Except Fault Scanner :=
  if s.flow ≠ 0 then .ok s
  else if !s.keyAllowed then .error .malformed
  else
    let (s, opened) := s.openBlock s.column
    .ok (if opened then s.push opening else s)

def blockEntry (s : Scanner) : Except Fault Scanner := do
  let s ← (← s.openHere .openSequence).dropKey
  return ({ s with keyAllowed := true }.moveTo s.cursor.next).push .entry

def explicitKey (s : Scanner) : Except Fault Scanner := do
  let s ← (← s.openHere .openMapping).dropKey
  return ({ s with keyAllowed := s.flow = 0 }.moveTo s.cursor.next).push .key

/-- A colon: the possible key before it is one. -/
def valueMark (s : Scanner) : Except Fault Scanner := do
  match s.keyHere? with
  | some k =>
    let s := s.forget
    let fromEnd := s.count - k.before
    let s := { s with tokens := insertAt fromEnd .key s.tokens, count := s.count + 1 }
    let (s, opened) := if s.flow = 0 then s.openBlock k.column else (s, false)
    let s := if opened then
        { s with tokens := insertAt (fromEnd + 1) .openMapping s.tokens, count := s.count + 1 }
      else s
    return ({ s with keyAllowed := false }.moveTo s.cursor.next).push .value
  | none =>
    let s ← s.openHere .openMapping
    return ({ s with keyAllowed := s.flow = 0 }.moveTo s.cursor.next).push .value

/-- A token that may begin a key. -/
def nodeToken (s : Scanner) (read : Cursor → Except Fault (Token × Cursor)) : Except Fault Scanner := do
  let s ← s.noteKey
  let (t, c) ← read s.cursor
  return ({ s with keyAllowed := false }.moveTo c).push t

/-- The name after the sign of an anchor or alias. -/
def anchorName (c : Cursor) : Except Fault (String × Cursor) :=
  let name := c.next.run isWordChar
  let after := c.next.advance name.length
  let d := after.peek 0
  if name.isEmpty then .error .malformed
  else if isGap d ∨ d ∈ "?:,]\x7d%@`".toList then .ok (String.ofList name, after)
  else .error .malformed

def isUriChar (c : Char) : Bool := c.isAlphanum || c ∈ "-;/?:@&=+$,_.!~*'()[]".toList

/-- The bytes after percent signs, as characters. -/
def uriEscapes : (budget : Nat) → Cursor → Except Fault (List UInt8 × Cursor)
  | 0, c => .ok ([], c)
  | budget + 1, c =>
    if c.peek 0 = '%' then
      let digits := c.next.rest.take 2
      if digits.length = 2 ∧ digits.all isHexDigit then do
        let (others, c) ← uriEscapes budget (c.advance 3)
        return (UInt8.ofNat (hexNumber digits) :: others, c)
      else .error .malformed
    else .ok ([], c)

def uriRest : (budget : Nat) → Cursor → Except Fault (List Char × Cursor)
  | 0, c => .ok ([], c)
  | budget + 1, c =>
    if isUriChar (c.peek 0) then do
      let (others, after) ← uriRest budget c.next
      return (c.peek 0 :: others, after)
    else if c.peek 0 = '%' then do
      let (bytes, c) ← uriEscapes budget c
      match String.fromUTF8? ⟨bytes.toArray⟩ with
      | some text => do
        let (others, c) ← uriRest budget c
        return (text.toList ++ others, c)
      | none => .error .malformed
    else .ok ([], c)

def uri (c : Cursor) : Except Fault (String × Cursor) := do
  let (text, c) ← uriRest c.steps c
  if text.isEmpty then .error .malformed else return (String.ofList text, c)

/-- A handle: an exclamation mark, or a word between two. -/
def tagHandle (c : Cursor) : Except Fault (String × Cursor) :=
  if c.peek 0 ≠ '!' then .error .malformed
  else if c.peek 1 = ' ' then .ok ("!", c.next)
  else
    let word := c.next.run isWordChar
    let after := c.next.advance word.length
    if after.peek 0 = '!' then .ok (String.ofList ('!' :: word ++ ['!']), after.next)
    else .error .malformed

/-- Whether a tag has an exclamation mark after the first one. -/
def hasHandle (c : Cursor) : Bool := (c.next.run fun d => !isBreakOrEnd d && d ≠ ' ').contains '!'

def tagToken (c : Cursor) : Except Fault (Token × Cursor) := do
  let d := c.peek 1
  let (t, c) ←
    if d = '<' then do
      let (text, c) ← uri (c.advance 2)
      if c.peek 0 = '>' then pure ((⟨none, text⟩ : Tag), c.next) else .error .malformed
    else if isGap d then pure (⟨none, "!"⟩, c.next)
    else do
      let (handle, c) ← if hasHandle c then tagHandle c else pure ("!", c.next)
      let (rest, c) ← uri c
      pure (⟨some handle, rest⟩, c)
  if isBreakOrEnd (c.peek 0) ∨ c.peek 0 = ' ' then return (.tag t, c) else .error .malformed

def number (c : Cursor) : Except Fault (Nat × Cursor) :=
  let digits := c.run Char.isDigit
  if digits.isEmpty then .error .malformed
  else if Text.maxNumeralLength < digits.length then .error .notNumeral
  else .ok (digits.foldl (fun n d => 10 * n + (d.toNat - 48)) 0, c.advance digits.length)

def directiveToken (c : Cursor) : Except Fault (Token × Cursor) := do
  let name := c.next.run isWordChar
  let c := c.next.advance name.length
  if name.isEmpty ∨ !(isBreakOrEnd (c.peek 0) || c.peek 0 = ' ') then .error .malformed
  else
    let (t, c) ←
      if String.ofList name = "YAML" then do
        let (major, c) ← number c.skipSpaces
        if c.peek 0 ≠ '.' then .error .malformed
        else
          let (_, c) ← number c.next
          if isBreakOrEnd (c.peek 0) ∨ c.peek 0 = ' ' then pure (Token.versionDirective major, c)
          else .error .malformed
      else if String.ofList name = "TAG" then do
        let (handle, c) ← tagHandle c.skipSpaces
        if c.peek 0 ≠ ' ' then .error .malformed
        else
          let (front, c) ← uri c.skipSpaces
          if isBreakOrEnd (c.peek 0) ∨ c.peek 0 = ' ' then pure (Token.tagDirective handle front, c)
          else .error .malformed
      else pure (.otherDirective, c.skipWhile (!isBreak ·))
    return (t, ← c.finishLine)

def blockScalar (s : Scanner) (folded : Bool) : Except Fault Scanner := do
  let s ← s.dropKey
  let (text, c) ← block folded s.indent s.cursor.next
  return ({ s with keyAllowed := true }.moveTo c).push (.scalar (String.ofList text) false)

def plainScalar (s : Scanner) : Except Fault Scanner := do
  let s ← s.noteKey
  let (text, broken, c) :=
    plain (s.flow ≠ 0) (s.indent + 1).toNat s.cursor.steps [] false s.cursor
  return ({ s with keyAllowed := broken }.moveTo c).push (.scalar (String.ofList text) true)

def beginsPlain (inFlow : Bool) (d after : Char) : Bool :=
  (!isGap d && d ∉ "-?:,[]\x7b\x7d#&*!|>'\"%@`".toList) ||
    (!isGap after && (d = '-' || (!inFlow && (d = '?' || d = ':'))))

/-! ## The whole stream -/

/-- Skips blanks, comments and line breaks. -/
def skipGap (inFlow : Bool) : (budget : Nat) → Bool → Cursor → Bool × Cursor
  | 0, keyAllowed, c => (keyAllowed, c)
  | budget + 1, keyAllowed, c =>
    let c := c.skipSpaces.skipComment
    if isBreak (c.peek 0) then skipGap inFlow budget (keyAllowed || !inFlow) c.lineBreak.2
    else (keyAllowed, c)

/-- Goes on to where the next token begins. -/
def settle (s : Scanner) : Except Fault Scanner := do
  let c := if s.cursor.index = 0 ∧ s.cursor.peek 0 = '\ufeff' then s.cursor.next else s.cursor
  let (keyAllowed, c) := skipGap (s.flow ≠ 0) c.steps s.keyAllowed c
  let s ← ({ s with keyAllowed := keyAllowed }.moveTo c).dropStaleKeys
  return s.unwind s.column

def token (s : Scanner) : Except Fault Scanner :=
  let c := s.cursor
  let d := c.peek 0
  let after := c.peek 1
  let inFlow := s.flow ≠ 0
  if d = '%' ∧ c.column = 0 then do
    let s ← s.endBlocks
    let (t, c) ← directiveToken s.cursor
    return (s.moveTo c).push t
  else if c.column = 0 ∧ c.atDocumentMark then
    s.documentMark (if d = '-' then .documentStart else .documentEnd)
  else if d = '[' then s.openFlow .openFlowSequence
  else if d = '{' then s.openFlow .openFlowMapping
  else if d = ']' then s.closeFlow .closeFlowSequence
  else if d = '}' then s.closeFlow .closeFlowMapping
  else if d = ',' then s.flowEntry
  else if d = '-' ∧ isGap after then s.blockEntry
  else if d = '?' ∧ (inFlow ∨ isGap after) then s.explicitKey
  else if d = ':' ∧ (inFlow ∨ isGap after) then s.valueMark
  else if d = '*' then s.nodeToken fun c => do
    let (name, c) ← anchorName c
    return (.alias name, c)
  else if d = '&' then s.nodeToken fun c => do
    let (name, c) ← anchorName c
    return (.anchor name, c)
  else if d = '!' then s.nodeToken tagToken
  else if d = '|' ∧ !inFlow then s.blockScalar false
  else if d = '>' ∧ !inFlow then s.blockScalar true
  else if d = '\'' ∨ d = '"' then s.nodeToken fun c => do
    let (text, c) ← quoted (d = '"') c
    return (.scalar (String.ofList text) false, c)
  else if beginsPlain inFlow d after then s.plainScalar
  else .error .malformed

/-- The tokens so far that stand whatever follows, and then what is wrong. A possible key may still
get a mark in front, so it and what comes after it do not stand yet. -/
def breakOff (s : Scanner) (f : Fault) : List Token :=
  if s.keys.any fun e => s.isStale e.2 && e.2.required then [.broken .malformed]
  else
    let pending := (s.keys.filter fun e => !s.isStale e.2).map fun e => e.2.before
    s.tokens.reverse.take (pending.foldl min s.count) ++ [.broken f]

theorem breakOff_ne_nil (s : Scanner) (f : Fault) : s.breakOff f ≠ [] := by
  unfold breakOff
  split <;> simp

/-- What is wrong at the end of a text that ends early, or else with a token. -/
def faultAtEnd (ending : Option Fault) (f : Fault) : Fault :=
  if f = .unfinished then ending.getD .malformed else f

def tokensOf (ending : Option Fault) : (budget : Nat) → Scanner → List Token
  | 0, s => s.breakOff .malformed
  | budget + 1, s =>
    match s.settle with
    | .error f => s.breakOff f
    | .ok settled =>
      if settled.cursor.rest.isEmpty then
        match ending, settled.endBlocks with
        | some f, _ => s.breakOff f
        | none, .error f => s.breakOff f
        | none, .ok ended => ended.tokens.reverse
      else
        match settled.token, ending with
        | .error f, _ => s.breakOff (faultAtEnd ending f)
        | .ok next, none => tokensOf ending budget next
        | .ok next, some f =>
          if next.cursor.rest.isEmpty then s.breakOff f else tokensOf ending budget next

end Scanner

/-- The tokens of a text; there are fewer than characters, two at most apart. -/
def Token.ofSource (source : Source) : List Token :=
  Scanner.tokensOf source.ending (source.text.length + 2) (.start source.text)

end ReleaseImpact.Yaml
