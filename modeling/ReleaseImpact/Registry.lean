import ReleaseImpact.Node
import ReleaseImpact.OrderedMap
import ReleaseImpact.Text.Quoted
import ReleaseImpact.Trail

/-!
What a source tree declares: for each module its nodes by their keys, and the file they were read
from. Main statements:

- `keyed_bucket`: the nodes of a module stand under their own keys.
- `addNode_eq_fail_iff`: a node is refused just if its module has no source file.
- `sourceFile_register`: a module's file is the one it was last registered with.
- `modules_register`: modules stand in the order of their first registration.
-/

namespace ReleaseImpact

abbrev Nodes := OrderedMap String Node

/-- Each node stands under its own key. -/
def Nodes.Keyed (nodes : Nodes) : Prop := ∀ e ∈ nodes.entries, e.2.key = e.1

theorem Nodes.Keyed.insert {nodes : Nodes} (h : Nodes.Keyed nodes) (node : Node) :
    Nodes.Keyed (OrderedMap.insert nodes node.key node) := by
  intro e member
  rcases OrderedMap.mem_entries_insert member with rfl | old
  · rfl
  · exact h e old

structure Registry where
  reportType : Option String
  nodes : OrderedMap String Nodes
  files : OrderedMap String String
  keyed : ∀ e ∈ nodes.entries, Nodes.Keyed e.2

namespace Registry

def logger : String := "bumpcheck.registry.registry"

def empty (reportType : Option String) : Registry :=
  ⟨reportType, .empty, .empty, fun _ member => absurd member List.not_mem_nil⟩

theorem keyed_insert (r : Registry) {moduleName : String} {nodes : Nodes} (h : Nodes.Keyed nodes) :
    ∀ e ∈ (r.nodes.insert moduleName nodes).entries, Nodes.Keyed e.2 := by
  intro e member
  rcases OrderedMap.mem_entries_insert member with rfl | old
  · exact h
  · exact r.keyed e old

/-- Declares a module and its file; a known module keeps its nodes and gets the new file. -/
def register (r : Registry) (moduleName file : String) : Registry where
  reportType := r.reportType
  nodes := if r.nodes.contains moduleName then r.nodes else r.nodes.insert moduleName .empty
  files := r.files.insert moduleName file
  keyed := by
    split
    · exact r.keyed
    · exact r.keyed_insert fun _ member => absurd member List.not_mem_nil

/-- Forgets the file of a module; its nodes stay. -/
def forgetFile (r : Registry) (moduleName : String) : Registry :=
  { r with files := r.files.erase moduleName }

def bucket (r : Registry) (moduleName : String) : Nodes := (r.nodes.get? moduleName).getD .empty

theorem keyed_bucket (r : Registry) (moduleName : String) : Nodes.Keyed (r.bucket moduleName) := by
  intro e member
  unfold bucket at member
  cases found : r.nodes.get? moduleName with
  | none => simp [found, OrderedMap.empty] at member
  | some nodes =>
    rw [found] at member
    exact r.keyed _ (OrderedMap.get?_eq_some_iff.1 found) e member

def put (r : Registry) (moduleName : String) (node : Node) : Registry where
  reportType := r.reportType
  nodes := r.nodes.insert moduleName ((r.bucket moduleName).insert node.key node)
  files := r.files
  keyed := r.keyed_insert ((r.keyed_bucket moduleName).insert node)

/-- Adds a node to a registered module. A different node under the same key gives way, with a
warning. -/
def addNode (r : Registry) (moduleName : String) (node : Node) : Trail Registry :=
  match r.files.get? moduleName with
  | none => .fail (.problem (.missingSourceFile moduleName))
  | some file => do
    match (r.bucket moduleName).get? node.key with
    | some old =>
      if old ≠ node then
        .log .warning logger "duplicate_unique_key"
          [("module", .text moduleName), ("key", .text node.key), ("source_file", .text file)]
    | none => pure ()
    return r.put moduleName node

def modules (r : Registry) : List String := r.nodes.keys

def hasModule (r : Registry) (moduleName : String) : Bool := r.nodes.contains moduleName

def moduleNodes (r : Registry) (moduleName : String) : Except Failure Nodes :=
  match r.nodes.get? moduleName with
  | some nodes => .ok nodes
  | none => .error (.problem (.unknownModule moduleName))

def sourceFile (r : Registry) (moduleName : String) : Except Failure String :=
  match r.files.get? moduleName with
  | some file => .ok file
  | none => .error (.problem (.missingSourceFile moduleName))

def nodeCount (r : Registry) : Nat := r.nodes.values.foldl (fun n nodes => n + nodes.size) 0

def summary (r : Registry) : String :=
  "Registry(report_type=" ++ (r.reportType.elim "None" Text.quoted) ++ ", modules=" ++
    Text.decimalText r.nodes.size ++ ", nodes=" ++ Text.decimalText r.nodeCount ++ ")"

/-! ## What the operations change -/

theorem addNode_eq_fail_iff {r : Registry} {moduleName : String} {node : Node} :
    (∃ f, (r.addNode moduleName node).outcome = .error f) ↔ r.files.get? moduleName = none := by
  unfold addNode
  split
  · next h => simp [h, Trail.fail]
  · next file h =>
    simp only [h, reduceCtorEq, iff_false, not_exists]
    intro f hf
    split at hf
    · split at hf <;> simp [bind, Trail.andThen, Trail.log, Trail.step, Trail.done, pure] at hf
    · simp [Trail.done, pure] at hf

theorem sourceFile_register (r : Registry) (moduleName file other : String) :
    (r.register moduleName file).sourceFile other =
      if moduleName = other then .ok file else r.sourceFile other := by
  unfold sourceFile register
  simp only [OrderedMap.get?_insert]
  by_cases h : moduleName = other <;> simp [h]

theorem modules_register (r : Registry) (moduleName file : String) :
    (r.register moduleName file).modules =
      if moduleName ∈ r.modules then r.modules else r.modules ++ [moduleName] := by
  unfold modules register
  by_cases h : r.nodes.contains moduleName
  · simp [h, OrderedMap.contains_iff.1 h]
  · have : moduleName ∉ r.nodes.keys := fun hm => h (OrderedMap.contains_iff.2 hm)
    simp [h, OrderedMap.keys_insert, this]

end Registry

end ReleaseImpact
