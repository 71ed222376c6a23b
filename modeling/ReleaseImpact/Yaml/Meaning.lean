/-!
What the tag of a node says that the node is. Main statement:

- `ofTag_of_private`: a tag of one's own says nothing that is known.
-/

namespace ReleaseImpact.Yaml

inductive Meaning
  | nothing
  | truth
  | whole
  | pointed
  | binary
  | dated
  | text
  | sequence
  | mapping
  | orderedMap
  | pairs
  | set
  /-- A key that asks for the entries of other mappings. -/
  | merge
  /-- A key for what a mapping is as a scalar. -/
  | default
  | unknown
  deriving DecidableEq, Repr

/-- What the tags begin with that everyone knows. -/
def coreTags : String := "tag:yaml.org,2002:"

/-- The meanings by the tags that everyone knows. -/
def Meaning.names : List (String × Meaning) :=
  [("null", nothing), ("bool", truth), ("int", whole), ("float", pointed), ("binary", binary),
   ("timestamp", dated), ("str", text), ("seq", sequence), ("map", mapping), ("omap", orderedMap),
   ("pairs", pairs), ("set", set), ("merge", merge), ("value", default)]

def Meaning.ofTag (tag : String) : Meaning :=
  ((names.find? fun n => coreTags ++ n.1 = tag).map Prod.snd).getD .unknown

theorem Meaning.ofTag_of_private {tag : String} (h : ∀ n ∈ names, coreTags ++ n.1 ≠ tag) :
    ofTag tag = .unknown := by
  have : (names.find? fun n => coreTags ++ n.1 = tag) = none := by
    rw [List.find?_eq_none]
    simpa using h
  simp [ofTag, this]

end ReleaseImpact.Yaml
