import ReleaseImpact.Yaml.Form
import ReleaseImpact.Yaml.Token

/-!
The nodes of a document in a table, in which each node is known by its place: scalars, sequences and
mappings. An alias is the place of a node further up, which may be one that it stands inside of.
Main statements:

- `cell_add`: a new node is found at the place it is given.
- `handle?_of_default`: without directives two handles are known.
- `singleDocument_nil`: an empty stream holds no node.
-/

namespace ReleaseImpact.Yaml

/-- A node, with the places of the nodes in it. -/
inductive Cell
  | scalar (meaning : Meaning) (text : String)
  | sequence (meaning : Meaning) (items : List Nat)
  | mapping (meaning : Meaning) (entries : List (Nat × Nat))
  deriving DecidableEq, Repr

instance : Inhabited Cell := ⟨.scalar .nothing ""⟩

def Cell.meaning : Cell → Meaning
  | .scalar m _ => m
  | .sequence m _ => m
  | .mapping m _ => m

structure Graph where
  cells : Array Cell
  deriving Repr

namespace Graph

def empty : Graph := ⟨#[]⟩

def cell (g : Graph) (place : Nat) : Cell := g.cells.getD place default

def add (g : Graph) (c : Cell) : Graph := ⟨g.cells.push c⟩

def put (g : Graph) (place : Nat) (c : Cell) : Graph := ⟨g.cells.setIfInBounds place c⟩

theorem cell_add (g : Graph) (c : Cell) : (g.add c).cell g.cells.size = c := by
  simp [cell, add]

end Graph

/-- What is known while the nodes of a document are read. -/
structure Reading where
  tokens : List Token
  graph : Graph
  /-- The places of the nodes by their anchors. -/
  anchors : List (String × Nat)
  handles : List (String × String)
  /-- The number of nodes around the one that is being read. -/
  depth : Nat

def Reading.start (tokens : List Token) (handles : List (String × String)) : Reading :=
  ⟨tokens, .empty, [], handles, 0⟩

/-- Handles that are known without being declared. -/
def defaultHandles : List (String × String) := [("!", "!"), ("!!", coreTags)]

abbrev Read := StateT Reading (Except Fault)

namespace Read

def fail {α : Type} : Read α := throw .malformed

def skip : Read Unit := modify fun r => { r with tokens := r.tokens.drop 1 }

/-- The next token, unless no more can be told apart. -/
def next? : Read (Option Token) := do
  match (← get).tokens.head? with
  | some (.broken f) => throw f
  | t => return t

def isNext (t : Token) : Read Bool := do return (← next?) = some t

def isOneOf (ts : List Token) : Read Bool := do
  match ← next? with
  | some t => return ts.contains t
  | none => return false

/-- Takes a token off that has to be next. -/
def expect (t : Token) : Read Unit := do if ← isNext t then skip else fail

def handle? (handles : List (String × String)) (handle : String) : Option String :=
  (handles.find? (·.1 = handle)).map Prod.snd

theorem handle?_of_default : handle? defaultHandles "!" = some "!" ∧
    handle? defaultHandles "!!" = some coreTags := by
  constructor <;> rfl

def fullTag (t : Tag) : Read String := do
  match t.handle with
  | none => return t.rest
  | some handle =>
    match handle? (← get).handles handle with
    | some front => return front ++ t.rest
    | none => fail

def anchor? : Read (Option String) := do
  match ← next? with
  | some (.anchor name) => do skip; return some name
  | _ => return none

def tag? : Read (Option Tag) := do
  match ← next? with
  | some (.tag t) => do skip; return some t
  | _ => return none

/-- The anchor and the tag in front of a node, in either order. -/
def properties : Read (Option String × Option String) := do
  let (name, t) ← match ← anchor? with
    | some name => pure (some name, ← tag?)
    | none => do
      let t ← tag?
      if t.isSome then pure (← anchor?, t) else pure (none, none)
  match t with
  | some t => return (name, some (← fullTag t))
  | none => return (name, none)

def add (c : Cell) : Read Nat := do
  let r ← get
  set { r with graph := r.graph.add c }
  return r.graph.cells.size

def put (place : Nat) (c : Cell) : Read Unit := modify fun r => { r with graph := r.graph.put place c }

/-- A place for a node that is about to be read. No anchor is used twice. -/
def reserve (name : Option String) : Read Nat := do
  let place ← add default
  match name with
  | none => return place
  | some name =>
    if (← get).anchors.any (·.1 = name) then fail
    else do
      modify fun r => { r with anchors := (name, place) :: r.anchors }
      return place

/-- How deep nodes may stand inside of one another. -/
def maxNesting : Nat := 488

/-- Reads what stands inside of a node. -/
def inside {α : Type} (read : Read α) : Read α := do
  if maxNesting ≤ (← get).depth then throw .tooDeep
  modify fun r => { r with depth := r.depth + 1 }
  let a ← read
  modify fun r => { r with depth := r.depth - 1 }
  return a

/-- A node that is left out. -/
def omitted : Read Nat := add (.scalar .nothing "")

/-- The meaning of a tag. None, or an exclamation mark alone, leaves it to the form of the node. -/
def meaningOf (initial : Meaning) : Option String → Meaning
  | none => initial
  | some tag => if tag = "!" then initial else .ofTag tag

def scalarCell (tag : Option String) (isPlain : Bool) (text : String) : Cell :=
  let initial := if isPlain ∨ tag = some "!" then Meaning.ofPlain text else .text
  .scalar (meaningOf initial tag) text

/-- The tokens after which an entry or a key of a block is empty. -/
def afterEntry : List Token := [.entry, .closeBlock]
def afterKey : List Token := [.key, .value, .closeBlock]

/-! ## Nodes -/

mutual

/-- A node. In blocks it may be a block; where a sequence needs no indentation of its own, it may
begin with an entry. -/
def node (inBlock indentless : Bool) : (budget : Nat) → Read Nat
  | 0 => fail
  | budget + 1 => do
    match ← next? with
    | some (.alias name) =>
      skip
      match (← get).anchors.find? (·.1 = name) with
      | some (_, place) => return place
      | none => fail
    | _ =>
      let (name, tag) ← properties
      let _ ← next?
      let place ← reserve name
      put place (← inside (content inBlock indentless (name.isSome || tag.isSome) tag budget))
      return place

/-- What follows the anchor and the tag of a node, which may be nothing if there are any. -/
def content (inBlock indentless hasProperties : Bool) (tag : Option String) : (budget : Nat) → Read Cell
  | 0 => fail
  | budget + 1 => do
    match ← next? with
    | some (.scalar text isPlain) =>
      skip
      return scalarCell tag isPlain text
    | some .openFlowSequence => do skip; return .sequence (meaningOf .sequence tag) (← flowItems true budget)
    | some .openFlowMapping => do skip; return .mapping (meaningOf .mapping tag) (← flowEntries true budget)
    | some .openSequence =>
      if inBlock then do skip; return .sequence (meaningOf .sequence tag) (← blockItems budget)
      else orOmitted
    | some .openMapping =>
      if inBlock then do skip; return .mapping (meaningOf .mapping tag) (← blockEntries budget)
      else orOmitted
    | some .entry =>
      if indentless then return .sequence (meaningOf .sequence tag) (← indentlessItems budget)
      else orOmitted
    | _ => orOmitted
where
  orOmitted : Read Cell := if hasProperties then return scalarCell tag tag.isNone "" else fail

def blockItems : (budget : Nat) → Read (List Nat)
  | 0 => fail
  | budget + 1 => do
    if ← isNext .entry then
      skip
      let first ← if ← isOneOf afterEntry then omitted else node true false budget
      return first :: (← blockItems budget)
    else do
      expect .closeBlock
      return []

def indentlessItems : (budget : Nat) → Read (List Nat)
  | 0 => fail
  | budget + 1 => do
    if ← isNext .entry then
      skip
      let first ← if ← isOneOf (.entry :: afterKey) then omitted else node true false budget
      return first :: (← indentlessItems budget)
    else return []

def blockEntries : (budget : Nat) → Read (List (Nat × Nat))
  | 0 => fail
  | budget + 1 => do
    if ← isNext .key then
      skip
      let key ← if ← isOneOf afterKey then omitted else node true true budget
      let value ← if ← isNext .value then do
          skip
          if ← isOneOf afterKey then omitted else node true true budget
        else omitted
      return (key, value) :: (← blockEntries budget)
    else do
      expect .closeBlock
      return []

/-- A comma before every item but the first one. -/
def separator (first : Bool) : (budget : Nat) → Read Unit
  | _ => if first then pure () else expect .flowEntry

/-- The value after a key in a flow collection, which ends with a token. -/
def flowValue (closing : Token) : (budget : Nat) → Read Nat
  | 0 => fail
  | budget + 1 => do
    if ← isNext .value then
      skip
      if ← isOneOf [.flowEntry, closing] then omitted else node false false budget
    else omitted

def flowKey (closing : Token) : (budget : Nat) → Read Nat
  | 0 => fail
  | budget + 1 => do
    if ← isOneOf [.value, .flowEntry, closing] then omitted else node false false budget

def flowItems (first : Bool) : (budget : Nat) → Read (List Nat)
  | 0 => fail
  | budget + 1 => do
    if ← isNext .closeFlowSequence then do skip; return []
    else
      separator first budget
      if ← isNext .closeFlowSequence then do skip; return []
      else
        let item ← if ← isNext .key then do
            skip
            let place ← reserve none
            let key ← flowKey .closeFlowSequence budget
            put place (.mapping .mapping [(key, ← flowValue .closeFlowSequence budget)])
            pure place
          else node false false budget
        return item :: (← flowItems false budget)

def flowEntries (first : Bool) : (budget : Nat) → Read (List (Nat × Nat))
  | 0 => fail
  | budget + 1 => do
    if ← isNext .closeFlowMapping then do skip; return []
    else
      separator first budget
      if ← isNext .closeFlowMapping then do skip; return []
      else
        let entry ← if ← isNext .key then do
            skip
            let key ← flowKey .closeFlowMapping budget
            pure (key, ← flowValue .closeFlowMapping budget)
          else pure (← node false false budget, ← omitted)
        return entry :: (← flowEntries false budget)

end

/-! ## Documents -/

/-- The directives in front of a document. -/
def directives : (budget : Nat) → (versions : Nat) → List (String × String) → Read (List (String × String))
  | 0, _, _ => fail
  | budget + 1, versions, handles => do
    match ← next? with
    | some (.versionDirective major) =>
      skip
      if versions ≠ 0 ∨ major ≠ 1 then fail else directives budget (versions + 1) handles
    | some (.tagDirective handle front) =>
      skip
      if (handle? handles handle).isSome then fail
      else directives budget versions ((handle, front) :: handles)
    | some .otherDirective => do skip; directives budget versions handles
    | _ => return handles

def isDirective : Token → Bool
  | .versionDirective _ => true
  | .tagDirective _ _ => true
  | .otherDirective => true
  | _ => false

def isMark (t : Token) : Bool := isDirective t || t = .documentStart || t = .documentEnd

def skipEnds : (budget : Nat) → Read Unit
  | 0 => pure ()
  | budget + 1 => do
    if ← isNext .documentEnd then do skip; skipEnds budget else pure ()

/-- The directives and the mark in front of a document. -/
def opening (budget : Nat) : Read (List (String × String)) := do
  let handles ← directives budget 0 []
  expect .documentStart
  return handles

/-- Nothing may follow after a document. -/
def finish (budget : Nat) : Read Unit := do
  skipEnds budget
  match ← next? with
  | none => pure ()
  | some t => do
    if isDirective t then let _ ← opening budget
    fail

/-- The place of the root of a stream that holds at most one document. -/
def singleDocument (budget : Nat) : Read (Option Nat) := do
  match ← next? with
  | none => return none
  | some t =>
    let root ←
      if isMark t && t ≠ .documentEnd then do
        let handles ← opening budget
        modify fun r => { r with handles := handles ++ defaultHandles }
        match ← next? with
        | none => omitted
        | some t => if isMark t then omitted else node true false budget
      else node true false budget
    finish budget
    return some root

end Read

/-- The nodes of a text that holds at most one document, with the place of the root. -/
def Graph.ofSource (source : Source) : Except Fault (Option (Graph × Nat)) := do
  let tokens := Token.ofSource source
  let (root, reading) ←
    (Read.singleDocument (4 * tokens.length + 8)).run (.start tokens defaultHandles)
  return root.map fun place => (reading.graph, place)

theorem singleDocument_nil (budget : Nat) :
    (Read.singleDocument budget).run (.start [] defaultHandles) =
      .ok (none, .start [] defaultHandles) := rfl

end ReleaseImpact.Yaml
