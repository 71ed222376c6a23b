/-!
A place in a text, with the number of its line and column. Main statements:

- `advance_zero` and `advance_succ`: going on character by character.
- `rest_skipWhile`: skipping drops the characters that are skipped.
-/

namespace ReleaseImpact.Yaml

/-- What is wrong with a document: its form, the bytes it is written in, or a scalar that spells no
value. -/
inductive Fault
  | malformed
  /-- The text ends within a token. -/
  | unfinished
  | undecodable
  | unknownCharacter
  | numberTooLarge
  | notNumeral
  | emptyNumeral
  | notTruth
  | notDate
  | noSuchDay
  | dateInMapping
  | tooDeep
  deriving DecidableEq, Repr

/-- The end of a text counts as this character. -/
def endMark : Char := '\x00'

def isBreak (c : Char) : Bool := c = '\n' || c = '\x85' || c = '\u2028' || c = '\u2029'

def isBreakOrEnd (c : Char) : Bool := isBreak c || c = endMark

/-- Whether a character ends a word: a blank, a line break or the end. -/
def isGap (c : Char) : Bool := isBreakOrEnd c || c = ' ' || c = '\t'

/-- A place in a text. The number of steps that leads from anywhere to the end is known. -/
structure Cursor where
  rest : List Char
  index : Nat
  line : Nat
  column : Nat
  steps : Nat
  deriving Repr

namespace Cursor

def start (text : List Char) : Cursor := ⟨text, 0, 0, 0, text.length + 1⟩

/-- The character some places on. -/
def peek (c : Cursor) (n : Nat) : Char := c.rest.getD n endMark

def next (c : Cursor) : Cursor :=
  match c.rest with
  | [] => c
  | d :: rest =>
    if isBreak d then ⟨rest, c.index + 1, c.line + 1, 0, c.steps⟩
    else if d = '\ufeff' then ⟨rest, c.index + 1, c.line, c.column, c.steps⟩
    else ⟨rest, c.index + 1, c.line, c.column + 1, c.steps⟩

def advance (c : Cursor) : Nat → Cursor
  | 0 => c
  | n + 1 => c.next.advance n

theorem advance_zero (c : Cursor) : c.advance 0 = c := rfl

theorem advance_succ (c : Cursor) (n : Nat) : c.advance (n + 1) = c.next.advance n := rfl

theorem rest_next (c : Cursor) : c.next.rest = c.rest.drop 1 := by
  unfold next
  split
  · next h => simp [h]
  · next d rest h => split <;> (try split) <;> simp [h]

theorem rest_advance (c : Cursor) (n : Nat) : (c.advance n).rest = c.rest.drop n := by
  induction n generalizing c with
  | zero => rfl
  | succ n ih => rw [advance_succ, ih, rest_next, List.drop_drop, Nat.add_comm]

/-- The characters that are alike from here on. -/
def run (c : Cursor) (p : Char → Bool) : List Char := c.rest.takeWhile p

def skipWhile (c : Cursor) (p : Char → Bool) : Cursor := c.advance (c.run p).length

theorem rest_skipWhile (c : Cursor) (p : Char → Bool) :
    (c.skipWhile p).rest = c.rest.dropWhile p := by
  rw [skipWhile, rest_advance, run]
  induction c.rest with
  | nil => rfl
  | cons d rest ih => by_cases h : p d <;> simp [h, ih]

def skipSpaces (c : Cursor) : Cursor := c.skipWhile (· = ' ')

def skipComment (c : Cursor) : Cursor :=
  if c.peek 0 = '#' then c.skipWhile (!isBreak ·) else c

/-- A line break, written as what it stands for, and the place after it; nothing elsewhere. -/
def lineBreak (c : Cursor) : List Char × Cursor :=
  let d := c.peek 0
  if d = '\n' ∨ d = '\x85' then (['\n'], c.next)
  else if d = '\u2028' ∨ d = '\u2029' then ([d], c.next)
  else ([], c)

/-- Skips blanks and a comment up to the end of the line, which is skipped too. -/
def finishLine (c : Cursor) : Except Fault Cursor :=
  let c := c.skipSpaces.skipComment
  if isBreakOrEnd (c.peek 0) then .ok c.lineBreak.2 else .error .malformed

/-- Whether a mark between documents stands here. -/
def atDocumentMark (c : Cursor) : Bool :=
  ("---".toList.isPrefixOf c.rest || "...".toList.isPrefixOf c.rest) && isGap (c.peek 3)

end Cursor

end ReleaseImpact.Yaml
