import ReleaseImpact.Value.Basic

/-!
Whether two values are the same. Main statement:

- `same_iff`: they are the same if nothing tells them apart.
-/

namespace ReleaseImpact

namespace Value

mutual

/-- Whether two values are the same, with the same names for what holds itself. -/
def same : Value → Value → Bool
  | .scalar s, .scalar s' => s = s'
  | .list items, .list items' => sameItems items items'
  | .map entries, .map entries' => sameEntries entries entries'
  | .tuple items, .tuple items' => sameItems items items'
  | .set items, .set items' => items = items'
  | .loop n body, .loop n' body' => n = n' && same body body'
  | .again n, .again n' => n = n'
  | _, _ => false

def sameItems : List Value → List Value → Bool
  | [], [] => true
  | v :: rest, v' :: rest' => same v v' && sameItems rest rest'
  | _, _ => false

def sameEntries : List (Scalar × Value) → List (Scalar × Value) → Bool
  | [], [] => true
  | (k, v) :: rest, (k', v') :: rest' => k = k' && same v v' && sameEntries rest rest'
  | _, _ => false

end

mutual

theorem same_iff : (v v' : Value) → (v.same v' = true ↔ v = v')
  | .scalar s, v' => by cases v' <;> simp [same]
  | .list items, v' => by cases v' <;> simp [same, sameItems_iff items]
  | .map entries, v' => by cases v' <;> simp [same, sameEntries_iff entries]
  | .tuple items, v' => by cases v' <;> simp [same, sameItems_iff items]
  | .set items, v' => by cases v' <;> simp [same]
  | .loop n body, v' => by cases v' <;> simp [same, same_iff body]
  | .again n, v' => by cases v' <;> simp [same]

theorem sameItems_iff : (items items' : List Value) → (sameItems items items' = true ↔ items = items')
  | [], items' => by cases items' <;> simp [sameItems]
  | v :: rest, items' => by cases items' <;> simp [sameItems, same_iff v, sameItems_iff rest]

theorem sameEntries_iff :
    (entries entries' : List (Scalar × Value)) → (sameEntries entries entries' = true ↔ entries = entries')
  | [], entries' => by cases entries' <;> simp [sameEntries]
  | (k, v) :: rest, [] => by simp [sameEntries]
  | (k, v) :: rest, (k', v') :: rest' => by
    simp [sameEntries, same_iff v, sameEntries_iff rest, and_assoc]

end

instance : DecidableEq Value := fun v v' => decidable_of_iff _ (same_iff v v')

end Value

end ReleaseImpact
