import ReleaseImpact.Value.Loop
import ReleaseImpact.Yaml.Content

/-!
From a document to a value. A container that leads back to itself becomes a loop with a name of its
own. Main statements:

- `closed_of_no_names`: what refers to nothing outside is no loop.
- `load_empty`: a text without a document stands for no value.
-/

namespace ReleaseImpact.Yaml

/-- A container under its name, if that is needed: if something in it refers to it, or to what it
stands in. -/
def closed (name : Nat) (v : Value) : Value :=
  if v.openNames.isEmpty then v else .loop name v

theorem closed_of_no_names {name : Nat} {v : Value} (h : v.openNames = []) : closed name v = v := by
  simp [closed, h]

/-- Whole numbers stand in a set in order. -/
def inOrder (items : List Scalar) : List Scalar :=
  if items.all fun s => (Scalar.toInt? s).isSome then
    items.mergeSort fun a b => decide (a.toInt?.getD 0 ≤ b.toInt?.getD 0)
  else items

/-- The value of a node that stands inside of others. Containers are named by their places; a pair,
which has no place of its own, by the place of its list and its number there. -/
def valueAt (contents : Array (Option Content)) : (budget : Nat) → (outside : List Nat) → Nat → Value
  | 0, _, _ => .null
  | budget + 1, outside, place =>
    let inside := valueAt contents budget (place :: outside)
    if place ∈ outside then .again place
    else
      match contents.getD place none with
      | none => .null
      | some (.scalar s) => .scalar s
      | some (.list items) => closed place (.list (items.map inside))
      | some (.pairs items) =>
        closed place (.list (items.zipIdx.map fun (p, i) =>
          closed (place + contents.size * (i + 1)) (.tuple [inside p.1, inside p.2])))
      | some (.map entries) => closed place (.map (entries.map fun e => (e.key, inside e.value)))
      | some (.set items) => .set (inOrder items)

/-- The value of a document; a stream without one has none. -/
def load (source : Source) : Except Fault Value := do
  match ← Graph.ofSource source with
  | some (g, root) => return valueAt (← g.contents root) (g.cells.size + 1) [] root
  | none => return .null

theorem load_empty : load (.ofText []) = .ok .null := rfl

end ReleaseImpact.Yaml
