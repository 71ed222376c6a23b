import ReleaseImpact.Node
import ReleaseImpact.Text.Blank
import ReleaseImpact.Xml.Element

/-!
What a document declares. Main statements:

- `virtualTypeFinding_of_name`: an element with a name declares a virtual type.
- `groupFindings_first`: a group is found before everything in it.
-/

namespace ReleaseImpact

inductive Finding
  | node (n : Node)
  /-- An element without the name or identifier that it needs. -/
  | nameless (tag : String)
  deriving DecidableEq, Repr

namespace Survey

open Xml (Element)

/-- An attribute that is there and not empty. -/
def filled? (name : String) (e : Element) : Option String := (e.attribute? name).filter (· ≠ "")

def virtualTypeFinding (scope : String) (e : Element) : Finding :=
  match filled? "name" e with
  | none => .nameless e.tag
  | some name =>
    .node (.virtualType ⟨name, (e.attribute? "type").getD "", scope, e.attribute? "shared"⟩)

def virtualTypes (scope : String) (root : Element) : List Finding :=
  (root.named "virtualType").map (virtualTypeFinding scope)

theorem filled?_eq_some_iff {name value : String} {e : Element} :
    filled? name e = some value ↔ e.attribute? name = some value ∧ value ≠ "" := by
  simp [filled?, Option.filter_eq_some_iff]

theorem virtualTypeFinding_of_name {scope name : String} {e : Element}
    (h : e.attribute? "name" = some name) (hn : name ≠ "") :
    virtualTypeFinding scope e =
      .node (.virtualType ⟨name, (e.attribute? "type").getD "", scope, e.attribute? "shared"⟩) := by
  have : filled? "name" e = some name := by simp [filled?, h, Option.filter, hn]
  simp [virtualTypeFinding, this]

/-- The label of an element: the trimmed text of its first label, unless that is empty. -/
def label? (e : Element) : Option String :=
  ((e.childrenNamed "label").head?.map fun l => Text.trim l.text).filter (· ≠ "")

def fieldFinding (parent : String) (e : Element) : Finding :=
  match filled? "id" e with
  | none => .nameless e.tag
  | some id => .node (.configField ⟨id, parent, e.attribute? "type", label? e⟩)

mutual

/-- The findings of a group: the group, its fields, then the groups in it. -/
def groupFindings (parent : String) : Element → List Finding
  | .mk tag attributes text inner children =>
    let e : Element := .mk tag attributes text inner children
    match filled? "id" e with
    | none => [.nameless tag]
    | some id =>
      let group : Node := .configGroup ⟨id, parent, label? e⟩
      .node group :: (e.childrenNamed "field").map (fieldFinding group.path) ++
        groupsAmong group.path children

def groupsAmong (parent : String) : List Element → List Finding
  | [] => []
  | e :: rest =>
    (if e.tag = "group" then groupFindings parent e else []) ++ groupsAmong parent rest

end

theorem groupFindings_eq (parent : String) (e : Element) :
    groupFindings parent e =
      match filled? "id" e with
      | none => [.nameless e.tag]
      | some id =>
        .node (.configGroup ⟨id, parent, label? e⟩) ::
          (e.childrenNamed "field").map (fieldFinding (parent ++ "/" ++ id)) ++
            groupsAmong (parent ++ "/" ++ id) e.children := by
  cases e
  rw [groupFindings]
  rfl

theorem groupsAmong_eq (parent : String) (es : List Element) :
    groupsAmong parent es = es.flatMap fun e => if e.tag = "group" then groupFindings parent e else [] := by
  induction es with
  | nil => rfl
  | cons e rest ih => rw [groupsAmong, ih, List.flatMap_cons]

/-- The findings of a section: the section and the groups in it. -/
def sectionFindings (e : Element) : List Finding :=
  match filled? "id" e with
  | none => [.nameless e.tag]
  | some id => .node (.configSection ⟨id, label? e⟩) :: groupsAmong id e.children

/-- The sections, groups and fields of a document, in document order. -/
def formNodes (root : Element) : List Finding := (root.named "section").flatMap sectionFindings

theorem groupFindings_first {parent id : String} {e : Element} (h : filled? "id" e = some id) :
    (groupFindings parent e).head? = some (.node (.configGroup ⟨id, parent, label? e⟩)) := by
  cases e
  simp [groupFindings, h]

end Survey

end ReleaseImpact
