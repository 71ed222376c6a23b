import ReleaseImpact.Node
import ReleaseImpact.Xml.Selection

/-!
Addresses of groups and fields: the names and identifiers of the elements that lead to them. Main
statements:

- `ofParts?_eq_none_iff`: fewer than three parts spell no address.
- `minLength_le_length`: an address has at least three steps.
- `leadsTo_singleton`: one step leads to the elements of its name and identifier.
- `holds_nil`: nothing is found without steps.
- `search_of_children`: where the steps select children of one name, searching for paths finds the same.
-/

namespace ReleaseImpact

/-- One step of an address: the name of an element and its identifier. -/
structure AddressStep where
  tag : String
  id : String
  deriving DecidableEq, Repr

abbrev Address := List AddressStep

namespace Address

/-- Paths with fewer parts have no address. -/
def minLength : Nat := 3

/-- The address that parts of a path spell, with the name of the last element. -/
def ofParts? (lastTag : String) (parts : List String) : Option Address :=
  if parts.length < minLength then none
  else
    match parts with
    | first :: rest =>
      some (⟨"section", first⟩ :: rest.dropLast.map (⟨"group", ·⟩) ++
        (rest.getLast?.map (⟨lastTag, ·⟩)).toList)
    | [] => none

theorem ofParts?_eq_none_iff {lastTag : String} {parts : List String} :
    ofParts? lastTag parts = none ↔ parts.length < minLength := by
  unfold ofParts?
  split
  · next short => simp [short]
  · next long =>
    cases parts with
    | nil => exact absurd (by decide) long
    | cons first rest => simpa using long

def pathParts (path : String) : List String := (Text.split '/' path).filter (· ≠ "")

end Address

/-- The address of a group or field, unless its path is too short. -/
def Node.address? (n : Node) : Option Address :=
  match n with
  | .configGroup _ => Address.ofParts? "group" (Address.pathParts n.path)
  | .configField _ => Address.ofParts? "field" (Address.pathParts n.path)
  | _ => none

namespace Address

def isAt (s : AddressStep) (e : Xml.Element) : Bool := e.tag = s.tag && e.attribute? "id" = some s.id

/-- The elements to which further steps lead from some elements. -/
def leadsTo (starts : List Xml.Element) : Address → List Xml.Element
  | [] => starts
  | s :: rest => leadsTo (starts.flatMap fun e => e.children.filter (isAt s)) rest

/-- Whether an address leads anywhere in a document: the first step to any element of it, each
further step to a child. -/
def holds (root : Xml.Element) : Address → Bool
  | [] => false
  | s :: rest => !(leadsTo (root.preorder.filter (isAt s)) rest).isEmpty

/-! ## Steps that are paths -/

/-- The elements to which steps lead whose names may be paths. -/
def reach (starts : List Xml.Element) : Address → Except Xml.PathFlaw (List Xml.Element)
  | [] => .ok starts
  | s :: rest => do
    let found ← starts.mapM fun e => e.select s.tag
    reach (found.flatten.filter fun e => e.attribute? "id" = some s.id) rest

/-- Whether steps lead anywhere in a document. The first step may stand for any name, the others may
be paths. -/
def search (root : Xml.Element) : Address → Except Xml.PathFlaw Bool
  | [] => .ok false
  | s :: rest => do
    let starts := root.preorder.filter fun e =>
      (s.tag = "*" || e.tag = s.tag) && e.attribute? "id" = some s.id
    return !(← reach starts rest).isEmpty

theorem mapM_select_of_children {tag : String}
    (h : ∀ e : Xml.Element, e.select tag = .ok (e.childrenNamed tag)) (starts : List Xml.Element) :
    starts.mapM (fun e => e.select tag) = .ok (starts.map fun e => e.childrenNamed tag) := by
  simp only [h]
  induction starts with
  | nil => rfl
  | cons e rest ih => simp [List.mapM_cons, ih, pure, Except.pure, bind, Except.bind]

theorem reach_of_children {rest : Address}
    (h : ∀ s ∈ rest, ∀ e : Xml.Element, e.select s.tag = .ok (e.childrenNamed s.tag))
    (starts : List Xml.Element) : reach starts rest = .ok (leadsTo starts rest) := by
  induction rest generalizing starts with
  | nil => rfl
  | cons s rest ih =>
    have step : ((starts.map fun e => e.childrenNamed s.tag).flatten.filter fun e =>
        e.attribute? "id" = some s.id) = starts.flatMap fun e => e.children.filter (isAt s) := by
      rw [← List.flatMap_def, List.filter_flatMap]
      congr 1
      funext e
      simp only [Xml.Element.childrenNamed, List.filter_filter]
      congr 1
      funext c
      simp [isAt, Bool.and_comm]
    rw [reach, mapM_select_of_children (h s (by simp))]
    simp only [bind, Except.bind, step]
    exact ih (fun s hs => h s (by simp [hs])) _

theorem search_of_children {s : AddressStep} {rest : Address} (hs : s.tag ≠ "*")
    (h : ∀ s ∈ rest, ∀ e : Xml.Element, e.select s.tag = .ok (e.childrenNamed s.tag)) (root : Xml.Element) :
    search root (s :: rest) = .ok (holds root (s :: rest)) := by
  have first : (fun e : Xml.Element =>
      (decide (s.tag = "*") || decide (e.tag = s.tag)) && decide (e.attribute? "id" = some s.id)) = isAt s := by
    funext e
    simp [isAt, hs]
  simp only [search, first, reach_of_children h]
  rfl

theorem search_of_names {s : AddressStep} {rest : Address} (hs : s.tag ≠ "*")
    (h : ∀ s ∈ rest, Xml.isSelection s.tag = false) (root : Xml.Element) :
    search root (s :: rest) = .ok (holds root (s :: rest)) :=
  search_of_children hs (fun s hs => Xml.Element.select_of_plain (h s hs)) root

/-! ## Addresses that are too short -/

theorem minLength_le_length {n : Node} (h : n.address?.isSome = true) :
    ∃ steps, n.address? = some steps ∧ minLength ≤ steps.length := by
  obtain ⟨steps, hs⟩ := Option.isSome_iff_exists.1 h
  refine ⟨steps, hs, ?_⟩
  have key : ∀ tag parts, ofParts? tag parts = some steps → minLength ≤ steps.length := by
    intro tag parts hp
    unfold ofParts? at hp
    split at hp
    · contradiction
    · next hl =>
      split at hp
      · next first rest =>
        injection hp with hp
        subst hp
        cases hr : rest.getLast? with
        | none =>
          rw [List.getLast?_eq_none_iff] at hr
          subst hr
          simp [minLength] at hl
        | some last =>
          simp only [List.length_cons] at hl
          simp
          omega
      · contradiction
  cases n with
  | configGroup g => exact key _ _ hs
  | configField f => exact key _ _ hs
  | virtualType v => contradiction
  | configSection s => contradiction

theorem leadsTo_singleton (e : Xml.Element) (s : AddressStep) :
    leadsTo [e] [s] = e.children.filter (isAt s) := by simp [leadsTo]

theorem holds_nil (root : Xml.Element) : holds root [] = false := rfl

end Address

end ReleaseImpact
