import ReleaseImpact.Value.Display

/-!
Writing JSON text in ASCII. Main statements:

- `escapedChar_of_plain`: printable ASCII other than quote and backslash stands for itself.
-/

namespace ReleaseImpact.Json

def unitEscape (n : Nat) : String := "\\u" ++ Text.hexText 4 n

/-- How one character is written between quotes. -/
def escapedChar (c : Char) : String :=
  if c = '"' then "\\\""
  else if c = '\\' then "\\\\"
  else if c = '\n' then "\\n"
  else if c = '\r' then "\\r"
  else if c = '\t' then "\\t"
  else if c = '\x08' then "\\b"
  else if c = '\x0c' then "\\f"
  else if 32 ≤ c.toNat ∧ c.toNat ≤ 126 then c.toString
  else if c.toNat < 0x10000 then unitEscape c.toNat
  else
    unitEscape (0xD800 + (c.toNat - 0x10000) / 0x400) ++
      unitEscape (0xDC00 + (c.toNat - 0x10000) % 0x400)

theorem escapedChar_of_plain {c : Char} (h : 32 ≤ c.toNat ∧ c.toNat ≤ 126) (hq : c ≠ '"')
    (hb : c ≠ '\\') : escapedChar c = c.toString := by
  have hn : c ≠ '\n' := by rintro rfl; exact absurd h.1 (by decide)
  have hr : c ≠ '\r' := by rintro rfl; exact absurd h.1 (by decide)
  have ht : c ≠ '\t' := by rintro rfl; exact absurd h.1 (by decide)
  have h8 : c ≠ '\x08' := by rintro rfl; exact absurd h.1 (by decide)
  have hc : c ≠ '\x0c' := by rintro rfl; exact absurd h.1 (by decide)
  simp [escapedChar, hq, hb, hn, hr, ht, h8, hc, h]

def quotedText (s : String) : String :=
  "\"" ++ String.join (s.toList.map escapedChar) ++ "\""

def scalarText : Scalar → String
  | .null => "null"
  | .bool b => if b then "true" else "false"
  | .int n => Text.intText n
  | .float .nan => "NaN"
  | .float (.infinite negative) => if negative then "-Infinity" else "Infinity"
  | .float x => x.text
  | .text s => quotedText s
  | s => quotedText s.literal

/-- The name of a member whose key is a scalar. -/
def memberName : Scalar → String
  | .text s => quotedText s
  | s => "\"" ++ scalarText s ++ "\""

/-- What stands between the items of a list or object at a depth: nothing but a blank, or a new line
with an indentation. -/
structure Layout where
  opening : Nat → String
  between : Nat → String
  close : Nat → String

def newLine (width depth : Nat) : String :=
  "\n" ++ String.ofList (List.replicate (width * depth) ' ')

def Layout.flat : Layout := ⟨fun _ => "", fun _ => ", ", fun _ => ""⟩

/-- One item on a line. -/
def Layout.indented (width : Nat) : Layout :=
  ⟨fun depth => newLine width (depth + 1), fun depth => "," ++ newLine width (depth + 1),
    fun depth => newLine width depth⟩

mutual

/-- Tuples are lists here, and what has no form of its own is a text. -/
def write (layout : Layout) (depth : Nat) : Value → String
  | .scalar s => scalarText s
  | .list [] => "[]"
  | .list (v :: vs) =>
    "[" ++ layout.opening depth ++ write layout (depth + 1) v ++ writeItems layout depth vs ++
      layout.close depth ++ "]"
  | .map [] => "\x7b\x7d"
  | .map ((k, v) :: es) =>
    "\x7b" ++ layout.opening depth ++ memberName k ++ ": " ++ write layout (depth + 1) v ++
      writeMembers layout depth es ++ layout.close depth ++ "\x7d"
  | .tuple [] => "[]"
  | .tuple (v :: vs) =>
    "[" ++ layout.opening depth ++ write layout (depth + 1) v ++ writeItems layout depth vs ++
      layout.close depth ++ "]"
  | v => quotedText v.literal

def writeItems (layout : Layout) (depth : Nat) : List Value → String
  | [] => ""
  | v :: vs => layout.between depth ++ write layout (depth + 1) v ++ writeItems layout depth vs

def writeMembers (layout : Layout) (depth : Nat) : List (Scalar × Value) → String
  | [] => ""
  | (k, v) :: es =>
    layout.between depth ++ memberName k ++ ": " ++ write layout (depth + 1) v ++
      writeMembers layout depth es

end

end ReleaseImpact.Json
