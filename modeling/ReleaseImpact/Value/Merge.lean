import ReleaseImpact.Value.Loop

/-!
Merging maps: what the second one says goes over what the first one says, key by key. Maps that hold
themselves are merged too, as far as that comes to an end. Main statements:

- `merge_nil_right`: nothing goes over a map without changing it.
- `mergeValue_of_not_map`: a value that is no map replaces what was there.
- `mergeOpened_nil_right`: the same for maps that may hold themselves.
-/

namespace ReleaseImpact

/-- The value of a key, whatever its spelling. -/
def valueAt? (key : Scalar) : List (Scalar × Value) → Option Value
  | [] => none
  | (k, v) :: rest => if k.sameKey key then some v else valueAt? key rest

mutual

/-- What a value becomes in place of an older one. -/
def mergeValue (old : Option Value) : Value → Value
  | .map entries =>
    match old with
    | some (.map base) => .map (merge base entries)
    | _ => .map entries
  | v => v

/-- Puts entries over those of a map. -/
def merge (base : List (Scalar × Value)) : List (Scalar × Value) → List (Scalar × Value)
  | [] => base
  | (key, v) :: rest => merge (putKey key (mergeValue (valueAt? key base) v) base) rest

end

/-- How deep maps may stand inside of one another where both sides have them. -/
def maxDepth : Nat := 1000

/-- Puts entries over those of a map, either of which may hold themselves; nothing if there is no end
to it. -/
def mergeOpened : (depth : Nat) → (base upper : List (Scalar × Value)) → Option (List (Scalar × Value))
  | 0, _, _ => none
  | depth + 1, base, upper =>
    upper.foldlM (fun merged e =>
      match (valueAt? e.1 base).map Value.opened, e.2.opened with
      | some (.map inner), .map entries => do
        return putKey e.1 (.map (← mergeOpened depth inner entries)) merged
      | _, _ => some (putKey e.1 e.2 merged)) base

theorem mergeOpened_nil_right (depth : Nat) (base : List (Scalar × Value)) :
    mergeOpened (depth + 1) base [] = some base := rfl

theorem merge_nil_right (base : List (Scalar × Value)) : merge base [] = base := by simp [merge]

theorem mergeValue_of_not_map {old : Option Value} {v : Value} (h : ∀ entries, v ≠ .map entries) :
    mergeValue old v = v := by
  cases v with
  | map entries => exact absurd rfl (h entries)
  | _ => simp [mergeValue]

end ReleaseImpact
