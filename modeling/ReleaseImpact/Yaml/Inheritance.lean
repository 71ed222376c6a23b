import ReleaseImpact.Yaml.Node

/-!
Mappings that take over the entries of others. A key that asks for that is replaced by the entries of
the mapping, or of the list of mappings, behind it, which come in front of the mapping's own entries.
The table of nodes is changed by that, for all who refer to the mapping. Main statements:

- `entries_setEntries`: the entries that a mapping is given are its entries.
- `takeOver_of_scalar`: only mappings, and lists of them, have entries to take over.
-/

namespace ReleaseImpact.Yaml.Graph

def entries (g : Graph) (place : Nat) : List (Nat × Nat) :=
  match g.cell place with
  | .mapping _ entries => entries
  | _ => []

def setEntries (g : Graph) (place : Nat) (entries : List (Nat × Nat)) : Graph :=
  match g.cell place with
  | .mapping m _ => g.put place (.mapping m entries)
  | _ => g

theorem entries_setEntries {g : Graph} {place : Nat} {m : Meaning} {old new : List (Nat × Nat)}
    (h : g.cell place = .mapping m old) (hp : place < g.cells.size) :
    (g.setEntries place new).entries place = new := by
  have : ((g.put place (.mapping m new)).cell place) = .mapping m new := by
    simp [cell, put, hp]
  simp [entries, setEntries, h, this]

def hasMeaning (g : Graph) (m : Meaning) (place : Nat) : Bool := (g.cell place).meaning = m

/-- A key for the value of a mapping as a scalar is a text once the mapping is used as such. -/
def nameDefaults (g : Graph) (keys : List Nat) : Graph :=
  keys.foldl (fun g key =>
    match g.cell key with
    | .scalar .default text => g.put key (.scalar .text text)
    | .sequence .default items => g.put key (.sequence .text items)
    | .mapping .default entries => g.put key (.mapping .text entries)
    | _ => g) g

mutual

/-- Replaces the keys of a mapping, from an entry on, that ask for the entries of others. -/
def inherit : (budget : Nat) → (place first : Nat) → (taken : List (Nat × Nat)) → Graph →
    Except Fault Graph
  | 0, _, _, _, _ => .error .malformed
  | budget + 1, place, first, taken, g => do
    let entries := g.entries place
    let own := (entries.drop first).takeWhile fun e => !g.hasMeaning .merge e.1
    let g := g.nameDefaults (own.map Prod.fst)
    let next := first + own.length
    match entries.drop next with
    | [] => return if taken.isEmpty then g else g.setEntries place (taken ++ entries)
    | (_, source) :: _ => do
      let (g, more) ← takeOver budget source (g.setEntries place (entries.eraseIdx next))
      inherit budget place next (taken ++ more) g

/-- The entries to take over from a mapping, or from the mappings of a list, the last one first. -/
def takeOver : (budget : Nat) → (source : Nat) → Graph → Except Fault (Graph × List (Nat × Nat))
  | 0, _, _ => .error .malformed
  | budget + 1, source, g =>
    match g.cell source with
    | .mapping _ _ => do
      let g ← inherit budget source 0 [] g
      return (g, g.entries source)
    | .sequence _ items => takeOverAll budget items [] g
    | .scalar _ _ => .error .malformed

def takeOverAll : (budget : Nat) → (sources : List Nat) → (taken : List (Nat × Nat)) → Graph →
    Except Fault (Graph × List (Nat × Nat))
  | 0, _, _, _ => .error .malformed
  | _ + 1, [], taken, g => .ok (g, taken)
  | budget + 1, source :: rest, taken, g =>
    match g.cell source with
    | .mapping _ _ => do
      let g ← inherit budget source 0 [] g
      takeOverAll budget rest (g.entries source ++ taken) g
    | _ => .error .malformed

end

theorem takeOver_of_scalar {budget : Nat} {source : Nat} {g : Graph} {m : Meaning} {text : String}
    (h : g.cell source = .scalar m text) : takeOver budget source g = .error .malformed := by
  cases budget <;> simp [takeOver, h]

/-- The number of nodes, items and entries. -/
def extent (g : Graph) : Nat :=
  let count (c : Cell) : Nat := match c with
    | .scalar _ _ => 1
    | .sequence _ items => items.length + 1
    | .mapping _ entries => entries.length + 1
  g.cells.foldl (fun n c => n + count c) 0

/-- Steps inside of one another: no key is replaced twice, and before the next key there is at most
the whole of a list. -/
def inheritanceBudget (g : Graph) : Nat := (g.extent + 3) * (g.extent + 3)

end ReleaseImpact.Yaml.Graph
