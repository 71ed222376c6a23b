import ReleaseImpact.Duplicate.Search

/-!
The ways to tell whether an added node is a duplicate: by verdicts known beforehand, by likeness to
the earlier nodes of its module, by a search in the other schema files, or by two ways in turn. Main
statements:

- `isAlike_false_of_section`: a section is like no other node.
- `ask_structural`: likeness has no memory.
-/

namespace ReleaseImpact

inductive Detector
  | known (verdicts : List (String × Verdict))
  | structural
  | crossFile (search : Search) (memory : Memory)
  /-- The second is asked where the first has nothing to look into. -/
  | fallback (first second : Detector)

namespace Detector

/-- The compared properties of a node other than its identifier. -/
def signature (n : Node) : List (String × Option String) := n.comparable.filter (·.1 ≠ "id")

/-- Whether a node is like another one of its kind in everything but the identifier. -/
def isAlike (existing : Nodes) (n : Node) : Bool :=
  n.kind ≠ .configSection &&
    existing.entries.any fun e =>
      e.1 ≠ n.key && e.2.kind = n.kind && signature e.2 = signature n

theorem isAlike_false_of_section (existing : Nodes) (s : ConfigSection) :
    isAlike existing (.configSection s) = false := by simp [isAlike, Node.kind]

def ask (fs : FileSystem) : Detector → Inquiry → Reply Detector
  | .known verdicts, q =>
    .plain (((verdicts.find? (·.1 = q.node.path)).map Prod.snd).getD .unique) (.known verdicts)
  | .structural, q => .plain (if isAlike q.existing q.node then .duplicate else .unique) .structural
  | .crossFile search memory, q => (search.ask fs memory q).map (.crossFile search ·)
  | .fallback first second, q =>
    let reply := ask fs first q
    match reply.verdict with
    | .ok .unavailable => ((ask fs second q).map (.fallback reply.next ·)).after reply.events
    | _ => reply.map (.fallback · second)

theorem ask_structural (fs : FileSystem) (q : Inquiry) :
    (ask fs .structural q).next = .structural := rfl

/-- A search that has not begun. -/
def ofSearch (s : Search) : Detector := .crossFile s .empty

/-- Searches first and goes by likeness where there is nothing to search. -/
def searchThenLikeness (s : Search) : Detector := .fallback (ofSearch s) .structural

end Detector

end ReleaseImpact
