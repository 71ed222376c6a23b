import ReleaseImpact.Yaml.Cursor

/-!
Scalars as they are written: plain, quoted, and in blocks. Main statements:

- `fold_single`: a single line break between words counts as a space.
- `hexCode_ok`: a character given by its number is one.
-/

namespace ReleaseImpact.Yaml

def isHexDigit (c : Char) : Bool := c.isDigit || ('a' ≤ c && c ≤ 'f') || ('A' ≤ c && c ≤ 'F')

def isWordChar (c : Char) : Bool := c.isAlphanum || c = '-' || c = '_'

/-- What a line break and the empty lines after it count as. -/
def fold (first : List Char) (breaks : List Char) : List Char :=
  if first ≠ ['\n'] then first ++ breaks
  else if breaks.isEmpty then [' ']
  else breaks

theorem fold_single : fold ['\n'] [] = [' '] := rfl

/-! ## Quoted scalars -/

/-- The character that a letter stands for after a backslash. -/
def escape? : Char → Option Char
  | '0' => some '\x00'
  | 'a' => some '\x07'
  | 'b' => some '\x08'
  | 't' => some '\t'
  | '\t' => some '\t'
  | 'n' => some '\n'
  | 'v' => some '\x0b'
  | 'f' => some '\x0c'
  | 'r' => some '\r'
  | 'e' => some '\x1b'
  | ' ' => some ' '
  | '"' => some '"'
  | '\\' => some '\\'
  | '/' => some '/'
  | 'N' => some '\x85'
  | '_' => some '\xa0'
  | 'L' => some '\u2028'
  | 'P' => some '\u2029'
  | _ => none

/-- The number of hexadecimal digits after a backslash and a letter. -/
def escapeLength? : Char → Option Nat
  | 'x' => some 2
  | 'u' => some 4
  | 'U' => some 8
  | _ => none

def hexNumber (digits : List Char) : Nat :=
  digits.foldl (fun n c =>
    16 * n + (if c.isDigit then c.toNat - 48 else if 'a' ≤ c then c.toNat - 87 else c.toNat - 55)) 0

/-- The least number that is too large for the number of a character, whether or not there is one. -/
def numberBound : Nat := 0x80000000

def hexCode (digits : List Char) : Except Fault Char :=
  if hexNumber digits < 0x110000 then .ok (Char.ofNat (hexNumber digits))
  else if hexNumber digits < numberBound then .error .unknownCharacter
  else .error .numberTooLarge

theorem hexCode_ok {digits : List Char} {c : Char} (h : hexCode digits = .ok c) :
    hexNumber digits < 0x110000 := by
  unfold hexCode at h
  split at h
  · assumption
  · split at h <;> contradiction

/-- Empty lines inside of a quoted scalar. -/
def quotedBreaks : (budget : Nat) → Cursor → Except Fault (List Char × Cursor)
  | 0, c => .ok ([], c)
  | budget + 1, c =>
    if c.atDocumentMark then .error .malformed
    else
      let c := c.skipWhile fun d => d = ' ' || d = '\t'
      if isBreak (c.peek 0) then do
        let (first, c) := c.lineBreak
        let (others, c) ← quotedBreaks budget c
        return (first ++ others, c)
      else .ok ([], c)

def quotedGap (budget : Nat) (c : Cursor) : Except Fault (List Char × Cursor) :=
  let blanks := c.run fun d => d = ' ' || d = '\t'
  let c := c.advance blanks.length
  if c.rest.isEmpty then .error .unfinished
  else if isBreak (c.peek 0) then do
    let (first, c) := c.lineBreak
    let (breaks, c) ← quotedBreaks budget c
    return (fold first breaks, c)
  else .ok (blanks, c)

def quotedEscape (budget : Nat) (c : Cursor) : Except Fault (List Char × Cursor) :=
  let d := c.peek 0
  match escape? d with
  | some e => .ok ([e], c.next)
  | none =>
    match escapeLength? d with
    | some length =>
      let digits := c.next.rest.take length
      if !digits.all isHexDigit then .error .malformed
      else if digits.length < length then .error .unfinished
      else do return ([← hexCode digits], c.next.advance length)
    | none =>
      if c.rest.isEmpty then .error .unfinished
      else if isBreak d then quotedBreaks budget c.lineBreak.2 else .error .malformed

/-- The rest of a quoted scalar, and the place after its closing quote. -/
def quotedRest (double : Bool) : (budget : Nat) → Cursor → Except Fault (List Char × Cursor)
  | 0, _ => .error .malformed
  | budget + 1, c =>
    let quote := if double then '"' else '\''
    let d := c.peek 0
    let go (found : List Char) (c : Cursor) : Except Fault (List Char × Cursor) := do
      let (others, c) ← quotedRest double budget c
      return (found ++ others, c)
    if c.rest.isEmpty then .error .unfinished
    else if !double ∧ d = '\'' ∧ c.peek 1 = '\'' then go ['\''] (c.advance 2)
    else if d = quote then .ok ([], c.next)
    else if double ∧ d = '\\' then do
      let (found, c) ← quotedEscape budget c.next
      go found c
    else if isGap d then do
      let (found, c) ← quotedGap budget c
      go found c
    else go [d] c.next

def quoted (double : Bool) (c : Cursor) : Except Fault (List Char × Cursor) :=
  quotedRest double c.steps c.next

/-! ## Plain scalars -/

/-- Whether a plain scalar ends before a character. -/
def endsPlain (inFlow : Bool) (d after : Char) : Bool :=
  isGap d || (d = ':' && (isGap after || (inFlow && after ∈ [',', '[', ']', '{', '}']))) ||
    (inFlow && d ∈ [',', '?', '[', ']', '{', '}'])

/-- The next words of a plain scalar up to a blank. -/
def plainWord (inFlow : Bool) : List Char → List Char
  | [] => []
  | d :: rest => if endsPlain inFlow d (rest.headD endMark) then [] else d :: plainWord inFlow rest

/-- Empty lines and indentation inside of a plain scalar; nothing where a document ends. -/
def plainBreaks : (budget : Nat) → Cursor → Option (List Char) × Cursor
  | 0, c => (some [], c)
  | budget + 1, c =>
    let c := c.skipSpaces
    if isBreak (c.peek 0) then
      let (first, c) := c.lineBreak
      if c.atDocumentMark then (none, c)
      else
        let (others, c) := plainBreaks budget c
        (others.map (first ++ ·), c)
    else (some [], c)

/-- What stands between the words of a plain scalar, and whether a line ended there. Nothing where
the scalar ends. -/
def plainGap (budget : Nat) (c : Cursor) : Option (List Char) × Bool × Cursor :=
  let blanks := c.run (· = ' ')
  let c := c.advance blanks.length
  if isBreak (c.peek 0) then
    let (first, c) := c.lineBreak
    if c.atDocumentMark then (none, true, c)
    else
      let (breaks, c) := plainBreaks budget c
      (breaks.map (fold first), true, c)
  else ((if blanks.isEmpty then none else some blanks), false, c)

/-- A plain scalar that has to keep to an indentation, and whether a line ended after it. -/
def plain (inFlow : Bool) (indent : Nat) : (budget : Nat) → (gap : List Char) → (broken : Bool) →
    Cursor → List Char × Bool × Cursor
  | 0, _, broken, c => ([], broken, c)
  | budget + 1, gap, broken, c =>
    let word := plainWord inFlow c.rest
    if c.peek 0 = '#' ∨ word.isEmpty then ([], broken, c)
    else
      let (next, ended, after) := plainGap budget (c.advance word.length)
      match next with
      | none => (gap ++ word, ended, after)
      | some next =>
        if after.peek 0 = '#' ∨ (!inFlow ∧ after.column < indent) then (gap ++ word, ended, after)
        else
          let (others, ended, after) := plain inFlow indent budget next ended after
          (gap ++ word ++ others, ended, after)

/-! ## Block scalars -/

/-- How the line breaks at the end of a block scalar are kept. -/
inductive Chomping
  | clip
  | strip
  | keep
  deriving DecidableEq, Repr

def chompingOf? : Char → Option Chomping
  | '+' => some .keep
  | '-' => some .strip
  | _ => none

/-- A digit that gives the indentation of a block scalar; zero does not. -/
def incrementOf? (d : Char) : Except Fault (Option Nat) :=
  if d.isDigit then (if d = '0' then .error .malformed else .ok (some (d.toNat - 48))) else .ok none

/-- The marks after the sign of a block scalar. -/
def blockMarks (c : Cursor) : Except Fault (Chomping × Option Nat × Cursor) := do
  let (chomping, increment, c) ← match chompingOf? (c.peek 0) with
    | some chomping => do
      match ← incrementOf? (c.peek 1) with
      | some n => pure (chomping, some n, c.advance 2)
      | none => pure (chomping, none, c.next)
    | none => do
      match ← incrementOf? (c.peek 0) with
      | some n =>
        match chompingOf? (c.peek 1) with
        | some chomping => pure (chomping, some n, c.advance 2)
        | none => pure (.clip, some n, c.next)
      | none => pure (.clip, none, c)
  if isBreakOrEnd (c.peek 0) ∨ c.peek 0 = ' ' then return (chomping, increment, c)
  else .error .malformed

/-- Empty lines in front of a block scalar and its greatest indentation so far. -/
def blockIndentation : (budget : Nat) → (widest : Nat) → Cursor → List Char × Nat × Cursor
  | 0, widest, c => ([], widest, c)
  | budget + 1, widest, c =>
    let c := c.skipSpaces
    let widest := max widest c.column
    if isBreak (c.peek 0) then
      let (first, c) := c.lineBreak
      let (others, widest, c) := blockIndentation budget widest c
      (first ++ others, widest, c)
    else ([], widest, c)

def skipIndent (indent : Nat) (c : Cursor) : Cursor :=
  c.advance (((c.run (· = ' ')).take (indent - c.column)).length)

/-- Empty lines of a block scalar. -/
def blockBreaks (indent : Nat) : (budget : Nat) → Cursor → List Char × Cursor
  | 0, c => ([], c)
  | budget + 1, c =>
    let c := skipIndent indent c
    if isBreak (c.peek 0) then
      let (first, c) := c.lineBreak
      let (others, c) := blockBreaks indent budget c
      (first ++ others, c)
    else ([], c)

/-- The lines of a block scalar, given the empty lines in front. -/
def blockLines (folded : Bool) (indent : Nat) (chomping : Chomping) :
    (budget : Nat) → (breaks : List Char) → Cursor → List Char × Cursor
  | 0, _, c => ([], c)
  | budget + 1, breaks, c =>
    let startsWide := c.peek 0 = ' ' || c.peek 0 = '\t'
    let line := c.run (!isBreak ·)
    let (last, c) := (c.advance line.length).lineBreak
    let (more, c) := blockBreaks indent budget c
    if c.column = indent ∧ !c.rest.isEmpty then
      let nextWide := c.peek 0 = ' ' || c.peek 0 = '\t'
      let between :=
        if folded && last = ['\n'] && !startsWide && !nextWide then (if more.isEmpty then [' '] else [])
        else last
      let (others, c) := blockLines folded indent chomping budget more c
      (breaks ++ line ++ between ++ others, c)
    else
      let tail := match chomping with
        | .clip => last
        | .strip => []
        | .keep => last ++ more
      (breaks ++ line ++ tail, c)

/-- A block scalar after its sign, inside of something indented. -/
def block (folded : Bool) (outer : Int) (c : Cursor) : Except Fault (List Char × Cursor) := do
  let budget := c.steps
  let (chomping, increment, c) ← blockMarks c
  let c ← c.finishLine
  let least := (max (outer + 1) 1).toNat
  let (breaks, indent, c) := match increment with
    | some n =>
      let indent := least + n - 1
      let (breaks, c) := blockBreaks indent budget c
      (breaks, indent, c)
    | none =>
      let (breaks, widest, c) := blockIndentation budget 0 c
      (breaks, max least widest, c)
  if c.column = indent ∧ !c.rest.isEmpty then
    return blockLines folded indent chomping budget breaks c
  else return (match chomping with
    | .keep => breaks
    | _ => [], c)

end ReleaseImpact.Yaml
