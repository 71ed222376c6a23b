import ReleaseImpact.Number.Binary64
import ReleaseImpact.Value.Calendar

/-!
Values of settings, log fields and error details: scalars, lists, tuples, sets of scalars, and maps
whose keys are scalars. A container may hold itself; such a loop has a name, and what stands further
inside refers to the container by that name. Main statements:

- `sameKey_refl`: a scalar is the same key as itself.
- `mem_putKey`: an entry of an extended map is new or was there before.
-/

namespace ReleaseImpact

inductive Scalar
  | null
  | bool (b : Bool)
  | int (n : Int)
  | float (x : Binary64)
  | text (s : String)
  | date (d : Date)
  | moment (m : Moment)
  | bytes (data : List UInt8)
  deriving DecidableEq, Repr

inductive Value
  | scalar (s : Scalar)
  | list (items : List Value)
  | map (entries : List (Scalar × Value))
  | tuple (items : List Value)
  | set (items : List Scalar)
  | loop (name : Nat) (body : Value)
  | again (name : Nat)
  deriving Repr

instance : Inhabited Value := ⟨.scalar .null⟩

namespace Value

@[match_pattern] abbrev null : Value := .scalar .null
@[match_pattern] abbrev bool (b : Bool) : Value := .scalar (.bool b)
@[match_pattern] abbrev int (n : Int) : Value := .scalar (.int n)
@[match_pattern] abbrev float (x : Binary64) : Value := .scalar (.float x)
@[match_pattern] abbrev text (s : String) : Value := .scalar (.text s)

def nat (n : Nat) : Value := .int n

def optionText : Option String → Value
  | none => .null
  | some s => .text s

def texts (items : List String) : Value := .list (items.map .text)

/-- A map whose keys are texts. -/
def record (fields : List (String × Value)) : Value :=
  .map (fields.map fun f => (.text f.1, f.2))

/-- A value that counts as absent where a document may be empty. -/
def isEmpty : Value → Bool
  | .null => true
  | .bool b => !b
  | .int n => n == 0
  | .float (.finite _ m _) => m == 0
  | .text s => s.isEmpty
  | .scalar (.bytes data) => data.isEmpty
  | .list items => items.isEmpty
  | .map entries => entries.isEmpty
  | .tuple items => items.isEmpty
  | .set items => items.isEmpty
  | _ => false

end Value

/-! ## Keys -/

/-- The whole number that a scalar counts as. -/
def Scalar.toInt? : Scalar → Option Int
  | .bool b => some (if b then 1 else 0)
  | .int n => some n
  | .float x => x.toInt?
  | _ => none

/-- The instant of a moment whose clock is known. -/
def Scalar.instant? : Scalar → Option Int
  | .moment m => m.instant?
  | _ => none

/-- Equal scalars are one key, and so are truth values and numbers that are equal as numbers, and
moments at the same instant. -/
def Scalar.sameKey (a b : Scalar) : Bool :=
  a == b || match a.toInt?, b.toInt? with
    | some n, some m => n == m
    | _, _ =>
      match a.instant?, b.instant? with
      | some n, some m => n == m
      | _, _ => false

theorem sameKey_refl (a : Scalar) : a.sameKey a = true := by simp [Scalar.sameKey]

/-- Sets the value of a key; a key that is already there keeps its place and spelling. -/
def putKey (key : Scalar) (value : Value) : List (Scalar × Value) → List (Scalar × Value)
  | [] => [(key, value)]
  | (k, v) :: rest => if k.sameKey key then (k, value) :: rest else (k, v) :: putKey key value rest

theorem mem_putKey {key k : Scalar} {value v : Value} {entries : List (Scalar × Value)}
    (h : (k, v) ∈ putKey key value entries) : v = value ∨ (k, v) ∈ entries := by
  induction entries with
  | nil => simp_all [putKey]
  | cons e rest ih =>
    rw [putKey] at h
    split at h <;> rcases List.mem_cons.1 h with h | h
    · exact .inl (Prod.mk.inj h).2
    · exact .inr (List.mem_cons_of_mem _ h)
    · exact .inr (h ▸ List.mem_cons_self)
    · exact (ih h).imp id (List.mem_cons_of_mem _)

def field? (name : String) : List (Scalar × Value) → Option Value
  | [] => none
  | (k, v) :: rest => if k = .text name then some v else field? name rest

end ReleaseImpact
