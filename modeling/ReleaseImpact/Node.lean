import ReleaseImpact.Text.Split

/-!
The declarations that are compared: virtual types, and the sections, groups and fields of a settings
form. Main statements:

- `Node.key_virtualType`: a virtual type is known by its name.
- `Node.key_eq_iff_of_form`: two nodes of forms have one key just if they have one kind and one path.
- `Node.comparable_id`: the identifier of a form node is the first compared property.
-/

namespace ReleaseImpact

/-- The scope of declarations that hold in every area. -/
def globalScope : String := "global"

/-- A named alias of a concrete type, declared for an area. -/
structure VirtualType where
  name : String
  type : String
  scope : String
  shared : Option String
  deriving DecidableEq, Repr

structure ConfigSection where
  id : String
  label : Option String
  deriving DecidableEq, Repr

/-- A group, with the path of the section or group around it. -/
structure ConfigGroup where
  id : String
  parent : String
  label : Option String
  deriving DecidableEq, Repr

/-- A field, with the path of the group around it. -/
structure ConfigField where
  id : String
  parent : String
  type : Option String
  label : Option String
  deriving DecidableEq, Repr

inductive Node
  | virtualType (v : VirtualType)
  | configSection (s : ConfigSection)
  | configGroup (g : ConfigGroup)
  | configField (f : ConfigField)
  deriving DecidableEq, Repr

inductive Kind
  | virtualType
  | configSection
  | configGroup
  | configField
  deriving DecidableEq, Repr

def Kind.text : Kind → String
  | .virtualType => "virtual_type"
  | .configSection => "section"
  | .configGroup => "group"
  | .configField => "field"

namespace Node

def kind : Node → Kind
  | .virtualType _ => .virtualType
  | .configSection _ => .configSection
  | .configGroup _ => .configGroup
  | .configField _ => .configField

def name : Node → String
  | .virtualType v => v.name
  | .configSection s => s.id
  | .configGroup g => g.id
  | .configField f => f.id

/-- The path of what a node is declared in; virtual types and sections are declared at the top. -/
def parent? : Node → Option String
  | .configGroup g => some g.parent
  | .configField f => some f.parent
  | _ => none

def path : Node → String
  | .virtualType v => v.name
  | .configSection s => s.id
  | .configGroup g => g.parent ++ "/" ++ g.id
  | .configField f => f.parent ++ "/" ++ f.id

/-- What tells a node from the others of its module. -/
def key (n : Node) : String :=
  match n with
  | .virtualType v => v.name
  | n => n.kind.text ++ ":" ++ n.path

def scope? : Node → Option String
  | .virtualType v => some v.scope
  | _ => none

def declaredType? : Node → Option String
  | .virtualType v => some v.type
  | .configField f => f.type
  | _ => none

def comparable : Node → List (String × Option String)
  | .virtualType v => [("type", some v.type), ("scope", some v.scope)]
  | .configSection s => [("id", some s.id), ("label", s.label)]
  | .configGroup g => [("id", some g.id), ("parent", some g.parent), ("label", g.label)]
  | .configField f =>
    [("id", some f.id), ("parent", some f.parent), ("type", f.type), ("label", f.label)]

def virtualType? : Node → Option VirtualType
  | .virtualType v => some v
  | _ => none

/-! ## Keys -/

theorem key_virtualType (v : VirtualType) : (virtualType v).key = v.name := rfl

theorem key_of_form {n : Node} (h : n.kind ≠ .virtualType) : n.key = n.kind.text ++ ":" ++ n.path := by
  cases n <;> first | rfl | exact absurd rfl h

theorem key_eq_iff_path_eq {m n : Node} (hk : m.kind = n.kind) (h : m.kind ≠ .virtualType) :
    m.key = n.key ↔ m.path = n.path := by
  rw [key_of_form h, key_of_form (hk ▸ h), hk]
  constructor
  · intro e
    have := congrArg String.toList e
    simp only [String.toList_append] at this
    exact String.toList_inj.1 (List.append_cancel_left this)
  · intro e; rw [e]

/-- Nodes of forms have one key just if they are of one kind and have one path. -/
theorem key_eq_iff_of_form {m n : Node} (hm : m.kind ≠ .virtualType) (hn : n.kind ≠ .virtualType) :
    m.key = n.key ↔ m.kind = n.kind ∧ m.path = n.path := by
  constructor
  · intro e
    have kinds : m.kind = n.kind := by
      rw [key_of_form hm, key_of_form hn] at e
      -- the words for the kinds differ in their first letter
      have first := congrArg (fun s => s.toList.head?) e
      simp only [String.toList_append] at first
      cases hk : m.kind <;> cases hl : n.kind <;> simp [hk, hl, Kind.text] at hm hn first ⊢
    exact ⟨kinds, (key_eq_iff_path_eq kinds hm).1 e⟩
  · rintro ⟨kinds, paths⟩
    exact (key_eq_iff_path_eq kinds hm).2 paths

theorem comparable_id {n : Node} (h : n.kind ≠ .virtualType) :
    n.comparable.head? = some ("id", some n.name) := by
  cases n <;> first | rfl | exact absurd rfl h

end Node

end ReleaseImpact
