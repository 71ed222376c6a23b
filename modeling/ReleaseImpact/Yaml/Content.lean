import ReleaseImpact.Yaml.Inheritance
import ReleaseImpact.Yaml.Scalar

/-!
What the nodes of a document hold. A container is there as soon as it is met, and what it holds is made
later, container by container in the order in which they were met; so of two faults the one that is
less deep comes first. Main statements:

- `putEntry_keys`: putting an entry for a key that is there changes no key.
- `make_of_made`: a node is made only once.
-/

namespace ReleaseImpact.Yaml

/-- A key and its value as they stand in a mapping, by the places of their nodes. -/
structure Entry where
  key : Scalar
  keyPlace : Nat
  value : Nat
  deriving DecidableEq, Repr

/-- What a node holds; nodes further inside are given by their places. -/
inductive Content
  | scalar (s : Scalar)
  | list (items : List Nat)
  | pairs (items : List (Nat × Nat))
  | map (entries : List Entry)
  | set (items : List Scalar)
  deriving DecidableEq, Repr

structure Making where
  graph : Graph
  made : Array (Option Content)
  /-- Containers whose content is still to be made, in the order in which they were met. -/
  waiting : List Nat
  /-- Steps enough for mappings to take over the entries of others. -/
  budget : Nat

abbrev Make := StateT Making (Except Fault)

namespace Make

def fail {α : Type} : Make α := throw .malformed

def content? (place : Nat) : Make (Option Content) := do return (← get).made.getD place none

def put (place : Nat) (c : Content) : Make Unit :=
  modify fun m => { m with made := m.made.setIfInBounds place (some c) }

def cell (place : Nat) : Make Cell := do return (← get).graph.cell place

/-- The text of a node as a scalar, and whether it was taken out of a mapping. A mapping may name one
of its values for that; one that names itself is too deep. -/
def text : (budget : Nat) → (inMapping : Bool) → Nat → Make (String × Bool)
  | 0, _, _ => throw .tooDeep
  | budget + 1, inMapping, place => do
    match ← cell place with
    | .scalar _ text => return (text, inMapping)
    | .sequence _ _ => fail
    | .mapping _ entries =>
      let g := (← get).graph
      match entries.find? fun e => g.hasMeaning .default e.1 with
      | some (_, value) => text budget true value
      | none => fail

def emptyContainer? : Meaning → Option Content
  | .sequence => some (.list [])
  | .mapping => some (.map [])
  | .orderedMap => some (.pairs [])
  | .pairs => some (.pairs [])
  | .set => some (.set [])
  | _ => none

/-- Makes a node, of a container only the container itself. -/
def make (place : Nat) : Make Unit := do
  match ← content? place with
  | some _ => pure ()
  | none =>
    let m := (← cell place).meaning
    match emptyContainer? m with
    | some c =>
      put place c
      modify fun s => { s with waiting := s.waiting ++ [place] }
    | none =>
      if m = .merge ∨ m = .default ∨ m = .unknown then fail
      else
        let (text, inMapping) ← text ((← get).graph.cells.size + 1) false place
        match m.scalar inMapping text with
        | .ok s => put place (.scalar s)
        | .error f => throw f

theorem make_of_made {place : Nat} {s : Making} {c : Content} (h : s.made.getD place none = some c) :
    (make place).run s = .ok ((), s) := by
  simp only [make, content?, bind_assoc, pure_bind, StateT.run_bind, StateT.run_get, h]
  rfl

/-- Whether two keys are the same one. An undefined number is no other one, unless both have the sign
for it. -/
def isSameKey (g : Graph) (a b : Entry) : Bool :=
  let isPlain (place : Nat) : Bool := match g.cell place with
    | .scalar _ text => isPlainUndefined text
    | _ => false
  if a.key = .float .nan ∧ b.key = .float .nan then
    a.keyPlace = b.keyPlace || (isPlain a.keyPlace && isPlain b.keyPlace)
  else a.key.sameKey b.key

/-- Sets the value of a key; a key that is already there stays. -/
def putEntry (g : Graph) (e : Entry) : List Entry → List Entry
  | [] => [e]
  | d :: rest => if isSameKey g d e then { d with value := e.value } :: rest else d :: putEntry g e rest

theorem putEntry_keys {g : Graph} {e : Entry} {entries : List Entry}
    (h : entries.any (isSameKey g · e) = true) :
    (putEntry g e entries).map Entry.key = entries.map Entry.key := by
  induction entries with
  | nil => simp at h
  | cons d rest ih =>
    rw [putEntry]
    split
    · rfl
    · next hd =>
      simp only [List.any_cons, hd, Bool.false_or] at h
      simp [ih h]

/-- The entries of a mapping, after it has taken over those of others. Keys are scalars. -/
def entries (place : Nat) : Make (List Entry) := do
  match ← cell place with
  | .mapping _ _ =>
    let m ← get
    match m.graph.inherit m.budget place 0 [] with
    | .error f => throw f
    | .ok g =>
      modify fun s => { s with graph := g }
      (g.entries place).foldlM (fun found e => do
        make e.1
        match ← content? e.1 with
        | some (.scalar s) =>
          make e.2
          return putEntry g ⟨s, e.1, e.2⟩ found
        | _ => fail) []
  | _ => fail

/-- The pairs of a list of mappings that have one entry each. -/
def pairs (place : Nat) : Make (List (Nat × Nat)) := do
  match ← cell place with
  | .sequence _ items =>
    items.mapM fun item => do
      match ← cell item with
      | .mapping _ [(key, value)] =>
        make key
        make value
        return (key, value)
      | _ => fail
  | _ => fail

/-- Makes what a container holds. -/
def fill (place : Nat) : Make Unit := do
  match (← cell place).meaning with
  | .sequence =>
    match ← cell place with
    | .sequence _ items =>
      items.forM make
      put place (.list items)
    | _ => fail
  | .mapping => do put place (.map (← entries place))
  | .set => do put place (.set ((← entries place).map Entry.key))
  | _ => do put place (.pairs (← pairs place))

/-- Fills the containers that are waiting. -/
def fillAll : (budget : Nat) → Make Unit
  | 0 => pure ()
  | budget + 1 => do
    match (← get).waiting with
    | [] => pure ()
    | place :: rest =>
      modify fun s => { s with waiting := rest }
      fill place
      fillAll budget

end Make

/-- What each node holds that the root leads to. -/
def Graph.contents (g : Graph) (root : Nat) : Except Fault (Array (Option Content)) := do
  let start : Making := ⟨g, Array.replicate g.cells.size none, [], g.inheritanceBudget⟩
  let (_, s) ← (do Make.make root; Make.fillAll (g.cells.size + 1) : Make Unit).run start
  return s.made

end ReleaseImpact.Yaml
