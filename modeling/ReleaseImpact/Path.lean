import ReleaseImpact.Text.Split

/-!
File paths in normal form: parts without empty and dot parts, below nothing, one slash or exactly
two slashes. Main statements:

- `join_of_absolute`: joining an absolute path gives that path.
- `parent_join`: the parent of a path extended by one part is that path.
- `length_ancestors`: a path has one ancestor for each of its parts.
-/

namespace ReleaseImpact

inductive Anchor
  | none
  | root
  | doubleRoot
  deriving DecidableEq, Repr

structure Path where
  anchor : Anchor
  parts : List String
  deriving DecidableEq, Repr

namespace Path

def anchorOf : List Char → Anchor
  | '/' :: '/' :: '/' :: _ => .root
  | '/' :: '/' :: _ => .doubleRoot
  | '/' :: _ => .root
  | _ => .none

/-- The parts that count: neither empty nor a single dot. -/
def significant (parts : List String) : List String := parts.filter fun p => p ≠ "" ∧ p ≠ "."

def ofText (text : String) : Path :=
  ⟨anchorOf text.toList, significant (Text.split '/' text)⟩

def anchorText : Anchor → String
  | .none => ""
  | .root => "/"
  | .doubleRoot => "//"

def text (p : Path) : String :=
  if p.anchor = .none ∧ p.parts = [] then "." else anchorText p.anchor ++ Text.join '/' p.parts

/-- The parts with the anchor in front, if there is one. -/
def components (p : Path) : List String :=
  if p.anchor = .none then p.parts else anchorText p.anchor :: p.parts

def isAbsolute (p : Path) : Bool := p.anchor ≠ .none

/-- The last part, empty if there is none. -/
def name (p : Path) : String := p.parts.getLast?.getD ""

def parent (p : Path) : Path := { p with parts := p.parts.dropLast }

/-- The paths of which a path is an extension, the longest first. -/
def ancestors (p : Path) : List Path :=
  (List.range p.parts.length).reverse.map fun n => { p with parts := p.parts.take n }

/-- A path below another one, unless it is absolute. -/
def join (p q : Path) : Path := if q.isAbsolute then q else { p with parts := p.parts ++ q.parts }

def below (p : Path) (parts : List String) : Path := { p with parts := p.parts ++ parts }

theorem join_of_absolute {p q : Path} (h : q.isAbsolute = true) : p.join q = q := by
  simp [join, h]

theorem parent_join (p : Path) (part : String) : (p.below [part]).parent = p := by
  simp [parent, below]

theorem length_ancestors (p : Path) : p.ancestors.length = p.parts.length := by
  simp [ancestors]

end Path

end ReleaseImpact
