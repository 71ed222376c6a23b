import ReleaseImpact.Value.Basic

/-!
Values that hold themselves. Opening such a value lets one look inside of it: what referred to the
value by name becomes the value again. Main statements:

- `opened_of_ne_loop`: a value that does not hold itself is open already.
- `fill_scalar`: scalars refer to nothing.
- `opened_loop_list`: a list that holds itself shows its items.
- `endless_loop`: a value that holds itself goes on without an end.
-/

namespace ReleaseImpact.Value

mutual

/-- Puts a value in where its name stands. A loop of the same name inside is another one. -/
def fill (name : Nat) (whole : Value) : Value → Value
  | .scalar s => .scalar s
  | .list items => .list (fillItems name whole items)
  | .map entries => .map (fillEntries name whole entries)
  | .tuple items => .tuple (fillItems name whole items)
  | .set items => .set items
  | .loop n body => if n = name then .loop n body else .loop n (fill name whole body)
  | .again n => if n = name then whole else .again n

def fillItems (name : Nat) (whole : Value) : List Value → List Value
  | [] => []
  | v :: rest => fill name whole v :: fillItems name whole rest

def fillEntries (name : Nat) (whole : Value) : List (Scalar × Value) → List (Scalar × Value)
  | [] => []
  | (k, v) :: rest => (k, fill name whole v) :: fillEntries name whole rest

end

theorem fill_scalar (name : Nat) (whole : Value) (s : Scalar) :
    fill name whole (.scalar s) = .scalar s := by simp [fill]

/-- The value with its outermost container in sight. -/
def opened : Value → Value
  | .loop name body => fill name (.loop name body) body
  | v => v

theorem opened_of_ne_loop {v : Value} (h : ∀ name body, v ≠ .loop name body) : v.opened = v := by
  cases v with
  | loop name body => exact absurd rfl (h name body)
  | _ => rfl

theorem opened_loop_list (name : Nat) (items : List Value) :
    (loop name (list items)).opened = list (fillItems name (loop name (list items)) items) := by
  simp [opened, fill]

/-! ## What goes on without an end -/

mutual

def isEndless : Value → Bool
  | .scalar _ => false
  | .list items => isEndlessItems items
  | .map entries => isEndlessEntries entries
  | .tuple items => isEndlessItems items
  | .set _ => false
  | .loop _ _ => true
  | .again _ => true

def isEndlessItems : List Value → Bool
  | [] => false
  | v :: rest => v.isEndless || isEndlessItems rest

def isEndlessEntries : List (Scalar × Value) → Bool
  | [] => false
  | (_, v) :: rest => v.isEndless || isEndlessEntries rest

end

theorem endless_loop (name : Nat) (body : Value) : (Value.loop name body).isEndless = true := by
  simp [isEndless]

/-! ## Names -/

mutual

/-- The names that stand for containers further outside. -/
def openNames : Value → List Nat
  | .scalar _ => []
  | .list items => openItemNames items
  | .map entries => openEntryNames entries
  | .tuple items => openItemNames items
  | .set _ => []
  | .loop name body => body.openNames.filter (· ≠ name)
  | .again name => [name]

def openItemNames : List Value → List Nat
  | [] => []
  | v :: rest => v.openNames ++ openItemNames rest

def openEntryNames : List (Scalar × Value) → List Nat
  | [] => []
  | (_, v) :: rest => v.openNames ++ openEntryNames rest

end

end ReleaseImpact.Value
