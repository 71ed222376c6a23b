import ReleaseImpact.Text.Numeral
import ReleaseImpact.Text.Quoted
import ReleaseImpact.Text.Split
import ReleaseImpact.Xml.Element

/-!
Paths that select elements below an element: names, wildcards, steps up and down, and conditions.
Main statements:

- `select_of_plain`: a text without path marks selects the children of that name.
- `meets_exactly_iff`: an exact test accepts one name.
- `children_spot`: the elements one step down are the children.
-/

namespace ReleaseImpact.Xml

/-- A test on the name of an element. A name in a namespace begins with the namespace in braces. -/
inductive NameTest
  | any
  | exactly (tag : String)
  /-- Names in no namespace. -/
  | plain
  /-- A name in any namespace or in none. -/
  | inAnySpace (name : String)
  /-- Names that begin with a namespace in braces. -/
  | below (front : String)
  deriving DecidableEq, Repr

/-- A condition on a selected element. -/
inductive Condition
  | hasAttribute (name : String)
  | attributeIs (name value : String)
  | attributeIsNot (name value : String)
  | hasChild (test : NameTest)
  | childText (test : NameTest) (value : String) (negated : Bool)
  | ownText (value : String) (negated : Bool)
  /-- The place among the siblings of the same name, counted from the first. -/
  | place (index : Nat)
  /-- The same, counted from the last. -/
  | placeFromLast (index : Nat)
  deriving DecidableEq, Repr

inductive SelectionStep
  | self
  | parent
  | child (test : NameTest)
  | descendant (test : NameTest)
  | only (condition : Condition)
  deriving DecidableEq, Repr

/-- What is wrong with a path. -/
inductive PathFlaw
  | malformed
  /-- A mark that begins no step. -/
  | misplaced (mark : String)
  /-- The path ends within a step. -/
  | unfinished
  /-- The number of a place has too many digits. -/
  | longNumeral
  deriving DecidableEq, Repr

/-! ## Names -/

def NameTest.ofTag (tag : String) : NameTest :=
  let chars := tag.toList
  if tag = "\x7b*\x7d*" then .any
  else if tag = "\x7b\x7d*" then .plain
  else
    match chars with
    | '{' :: '*' :: '}' :: name => .inAnySpace (String.ofList name)
    | _ =>
      match chars.reverse with
      | '*' :: '}' :: front => .below (String.ofList ('}' :: front).reverse)
      | _ =>
        match chars with
        | '{' :: '}' :: name => .exactly (String.ofList name)
        | _ => .exactly tag

def NameTest.meets (tag : String) : NameTest → Bool
  | any => true
  | exactly name => tag = name
  | plain => tag.toList.head? ≠ some '{'
  | inAnySpace name => tag = name || ('}' :: name.toList).isSuffixOf tag.toList
  | below front => front.toList.isPrefixOf tag.toList

theorem NameTest.meets_exactly_iff {tag name : String} : (exactly name).meets tag = true ↔ tag = name := by
  simp [meets]

/-! ## Reading -/

inductive PathMark
  | mark (text : String)
  | quoted (value : String)
  | name (tag : String)
  | blank
  /-- A name with a colon outside of braces, for which no namespace is known. -/
  | unbound
  deriving DecidableEq, Repr

namespace PathMark

def isPathChar (c : Char) : Bool := c ∉ "/[]()@!=".toList && !Text.isBlank c

/-- The namespace in braces at the start of a text, if a name follows it. -/
def spaceLength (text : List Char) : Nat :=
  match text with
  | '{' :: rest =>
    let inside := rest.takeWhile (· ≠ '}')
    match rest.drop inside.length with
    | _ :: next :: _ => if !inside.isEmpty && isPathChar next then inside.length + 2 else 0
    | _ => 0
  | _ => 0

/-- The name at the start of a text. -/
def nameAt (text : List Char) : List Char :=
  let space := spaceLength text
  text.take space ++ (text.drop space).takeWhile isPathChar

def ofName (tag : List Char) : PathMark :=
  if tag.head? ≠ some '{' ∧ ':' ∈ tag then .unbound else .name (String.ofList tag)

/-- The next mark, and the number of its characters. A lone exclamation mark counts for nothing. -/
def next (text : List Char) : Option PathMark × Nat :=
  let named : Option PathMark × Nat :=
    match nameAt text with
    | [] =>
      let blanks := text.takeWhile Text.isBlank
      if blanks.isEmpty then (none, 1) else (some .blank, blanks.length)
    | tag => (some (ofName tag), tag.length)
  match text with
  | ':' :: ':' :: _ => (some (.mark "::"), 2)
  | '/' :: '/' :: _ => (some (.mark "//"), 2)
  | '.' :: '.' :: _ => (some (.mark ".."), 2)
  | '(' :: ')' :: _ => (some (.mark "()"), 2)
  | '!' :: '=' :: _ => (some (.mark "!="), 2)
  | c :: rest =>
    if c ∈ "/.*:[]()@=".toList then (some (.mark (String.singleton c)), 1)
    else if c = '\'' ∨ c = '"' then
      let value := rest.takeWhile (· ≠ c)
      if value.length < rest.length then (some (.quoted (String.ofList value)), value.length + 2)
      else named
    else named
  | [] => (none, 1)

def all : Nat → List Char → List PathMark
  | _, [] => []
  | 0, _ => []
  | budget + 1, text =>
    let (found, length) := next text
    found.toList ++ all budget (text.drop length)

/-- The marks of a path, of which there are at most as many as characters. -/
def ofText (text : List Char) : List PathMark := all text.length text

/-- What a mark contributes to the shape of a condition. -/
def shape : PathMark → String
  | mark text => text
  | quoted _ => "'"
  | _ => "-"

/-- What a mark contributes to the content of a condition. -/
def content : PathMark → String
  | quoted value => value
  | name tag => tag
  | _ => ""

end PathMark

/-- The next mark and those after it. Names without a namespace they need are refused. -/
def nextMark : List PathMark → Except PathFlaw (Option (PathMark × List PathMark))
  | [] => .ok none
  | .unbound :: _ => .error .malformed
  | mark :: rest => .ok (some (mark, rest))

/-- The marks of a condition up to its closing bracket, and what follows it. -/
def conditionMarks : List PathMark → Except PathFlaw (List PathMark × List PathMark)
  | [] => .error .unfinished
  | .unbound :: _ => .error .malformed
  | .mark "]" :: rest => .ok ([], rest)
  | .blank :: rest => conditionMarks rest
  | mark :: rest => (conditionMarks rest).map fun found => (mark :: found.1, found.2)

/-- Whether a text is an integer in digits of any script. -/
def isPlaceText (text : String) : Bool :=
  let digits := match text.toList with
    | '-' :: rest => rest
    | chars => chars
  !digits.isEmpty && digits.all Text.isDecimalDigit

def placeOf (text : String) : Except PathFlaw Condition :=
  match Text.readInteger? 10 text.toList with
  | none => .error .longNumeral
  | some n => if n < 1 then .error .malformed else .ok (.place (n.toNat - 1))

def Condition.ofMarks (marks : List PathMark) : Except PathFlaw Condition :=
  let shape := marks.foldl (fun s m => s ++ m.shape) ""
  let part (n : Nat) : String := (marks[n]?.map PathMark.content).getD ""
  let last := (marks.getLast?.map PathMark.content).getD ""
  let ofName (negated : Bool) : Except PathFlaw Condition :=
    if isPlaceText (part 0) then .error .malformed
    else .ok (.childText (.ofTag (part 0)) last negated)
  match shape with
  | "@-" => .ok (.hasAttribute (part 1))
  | "@-='" => .ok (.attributeIs (part 1) last)
  | "@-!='" => .ok (.attributeIsNot (part 1) last)
  | "-" => if isPlaceText (part 0) then placeOf (part 0) else .ok (.hasChild (.ofTag (part 0)))
  | ".='" => .ok (.ownText last false)
  | ".!='" => .ok (.ownText last true)
  | "-='" => ofName false
  | "-!='" => ofName true
  | "-()" => if part 0 = "last" then .ok (.placeFromLast 0) else .error .malformed
  | "-()-" =>
    if part 0 = "last" then
      match Text.readInteger? 10 (part 2).toList with
      | some n => if n < 0 then .ok (.placeFromLast n.natAbs) else .error .malformed
      | none => .error .malformed
    else .error .malformed
  | _ => .error .malformed

/-- The step that begins with a mark, and what follows it. -/
def SelectionStep.read (first : PathMark) (rest : List PathMark) :
    Except PathFlaw (SelectionStep × List PathMark) :=
  match first with
  | .name tag => .ok (.child (.ofTag tag), rest)
  | .blank => .ok (.child (.exactly ""), rest)
  | .mark "*" => .ok (.child .any, rest)
  | .mark "." => .ok (.self, rest)
  | .mark ".." => .ok (.parent, rest)
  | .mark "//" => do
    match ← nextMark rest with
    | none => .error .unfinished
    | some (.mark "*", rest) => .ok (.descendant .any, rest)
    | some (.name tag, rest) => .ok (.descendant (.ofTag tag), rest)
    | some (.blank, rest) => .ok (.descendant (.exactly ""), rest)
    | some _ => .error .malformed
  | .mark "[" => do
    let (marks, rest) ← conditionMarks rest
    return (.only (← Condition.ofMarks marks), rest)
  | .mark text => .error (.misplaced text)
  | .quoted value => .error (.misplaced value)
  | .unbound => .error .malformed

/-- The steps of a path from its marks. One slash may stand in front of each step but the first. -/
def selectionSteps : Nat → List PathMark → Except PathFlaw (List SelectionStep)
  | 0, _ => .ok []
  | budget + 1, marks => do
    match ← nextMark marks with
    | none => return []
    | some (first, rest) =>
      let (step, rest) ← SelectionStep.read first rest
      let rest := match rest with
        | .mark "/" :: rest => rest
        | rest => rest
      return step :: (← selectionSteps budget rest)

/-- The steps that a path spells. A slash at the end stands for all children. -/
def SelectionStep.ofText (path : String) : Except PathFlaw (List SelectionStep) :=
  let chars := path.toList
  if chars.head? = some '/' then .error .malformed
  else
    let marks := PathMark.ofText (if chars.getLast? = some '/' then chars ++ ['*'] else chars)
    selectionSteps (marks.length + 1) marks

/-! ## Selecting -/

/-- An element with the elements above it, the nearest first; each is given with the place of the
child that leads down. -/
structure Spot where
  element : Element
  above : List (Nat × Element)

namespace Spot

def children (s : Spot) : List Spot :=
  s.element.children.zipIdx.map fun c => ⟨c.1, (c.2, s.element) :: s.above⟩

theorem children_spot (s : Spot) : s.children.map Spot.element = s.element.children := by
  simp [children, Function.comp_def]

mutual

/-- All spots below an element. -/
def below (above : List (Nat × Element)) : Element → List Spot
  | .mk tag attributes text inner children =>
    belowAll (.mk tag attributes text inner children) above 0 children

def belowAll (parent : Element) (above : List (Nat × Element)) (place : Nat) : List Element → List Spot
  | [] => []
  | e :: rest =>
    ⟨e, (place, parent) :: above⟩ ::
      (below ((place, parent) :: above) e ++ belowAll parent above (place + 1) rest)

end

def descendants (s : Spot) : List Spot := below s.above s.element

def parent? (s : Spot) : Option Spot :=
  match s.above with
  | [] => none
  | (_, parent) :: above => some ⟨parent, above⟩

/-- The places that lead to a spot. -/
def route (s : Spot) : List Nat := s.above.map Prod.fst

/-- The places of the siblings that have the name of an element, itself included, and its own place.
The topmost element has no siblings. -/
def siblings? (s : Spot) : Option (List Nat × Nat) :=
  match s.above with
  | [] => none
  | (place, parent) :: _ =>
    some ((parent.children.zipIdx.filter fun c => c.1.tag = s.element.tag).map Prod.snd, place)

end Spot

def Condition.holds (s : Spot) : Condition → Bool
  | hasAttribute name => (s.element.attribute? name).isSome
  | attributeIs name value => s.element.attribute? name = some value
  | attributeIsNot name value => (s.element.attribute? name).any (· ≠ value)
  | hasChild test => s.element.children.any fun c => test.meets c.tag
  | childText test value negated =>
    s.element.children.any fun c => test.meets c.tag && ((c.inner = value) != negated)
  | ownText value negated => (s.element.inner = value) != negated
  | place index => s.siblings?.any fun p => p.1[index]? = some p.2
  | placeFromLast index => s.siblings?.any fun p => p.1.reverse[index]? = some p.2

/-- Keeps the first of the spots that are the same. -/
def distinctSpots (spots : List Spot) : List Spot :=
  (spots.foldl (fun (kept : List Spot × List (List Nat)) s =>
    if s.route ∈ kept.2 then kept else (s :: kept.1, s.route :: kept.2)) ([], [])).1.reverse

def SelectionStep.apply (spots : List Spot) : SelectionStep → List Spot
  | self => spots
  | parent => distinctSpots (spots.filterMap Spot.parent?)
  | child test => (spots.flatMap Spot.children).filter fun s => test.meets s.element.tag
  | descendant test => (spots.flatMap Spot.descendants).filter fun s => test.meets s.element.tag
  | only condition => spots.filter condition.holds

/-- Whether a text is more than a name: a mark of paths stands outside of braces, or it begins with
braces that allow for other namespaces. -/
def isSelection (text : String) : Bool :=
  let chars := text.toList
  let rec marked (outside : Bool) : List Char → Bool
    | [] => false
    | '{' :: rest => marked false rest
    | '}' :: rest => marked true rest
    | c :: rest => (outside && c ∈ "/*[@.".toList) || marked outside rest
  (("\x7b\x7d".toList.isPrefixOf chars || "\x7b*\x7d".toList.isPrefixOf chars) && 3 ≤ chars.length) ||
    marked true chars

namespace Element

/-- The elements to which a path leads from an element. -/
def select (path : String) (e : Element) : Except PathFlaw (List Element) :=
  if isSelection path then do
    let steps ← SelectionStep.ofText path
    return (steps.foldl SelectionStep.apply [⟨e, []⟩]).map Spot.element
  else .ok (e.childrenNamed path)

theorem select_of_plain {path : String} (h : isSelection path = false) (e : Element) :
    e.select path = .ok (e.childrenNamed path) := by
  simp [select, h]

end Element

end ReleaseImpact.Xml
