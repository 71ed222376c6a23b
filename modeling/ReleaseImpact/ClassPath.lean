import ReleaseImpact.Text.Blank
import ReleaseImpact.Text.Split

/-!
The file in which a class would be declared, guessed from the file of its module: the directories up
to the first one that is also a part of the class name, followed by the parts of the name after that
one. Main statements:

- `candidate?_eq_none_of_disjoint`: without a shared part there is no candidate.
- `sharedAt?_some`: the directories up to the shared part lead the file path.
- `candidate?_of_shared`: the candidate, where the first shared part is known.
-/

namespace ReleaseImpact.ClassPath

def nameParts (className : String) : List String :=
  (Text.split '\\' (Text.trim className)).filter (· ≠ "")

/-- The directories up to the first one that is a part of the name. -/
def sharedAt? (parts : List String) : List String → Option (List String × String)
  | [] => none
  | d :: rest =>
    if d ∈ parts then some ([d], d)
    else (sharedAt? parts rest).map fun found => (d :: found.1, found.2)

def partsAfter (part : String) (parts : List String) : List String :=
  (parts.dropWhile (· ≠ part)).drop 1

/-- The guessed path, unless nothing is shared or nothing is left of the name. -/
def candidate? (file className extension : String) : Option String :=
  let parts := nameParts className
  match sharedAt? parts (Text.split '/' file) with
  | none => none
  | some (base, shared) =>
    match partsAfter shared parts with
    | [] => none
    | rest => some (Text.join '/' base ++ "/" ++ Text.join '/' rest ++ extension)

theorem sharedAt?_some {parts dirs base : List String} {shared : String}
    (h : sharedAt? parts dirs = some (base, shared)) :
    base <+: dirs ∧ base.getLast? = some shared ∧ shared ∈ parts := by
  induction dirs generalizing base with
  | nil => simp [sharedAt?] at h
  | cons d rest ih =>
    by_cases hd : d ∈ parts
    · simp only [sharedAt?, hd, if_true, Option.some.injEq, Prod.mk.injEq] at h
      obtain ⟨rfl, rfl⟩ := h
      exact ⟨by simp, by simp, hd⟩
    · simp only [sharedAt?, hd, if_false, Option.map_eq_some_iff, Prod.mk.injEq] at h
      obtain ⟨⟨base', shared'⟩, hr, rfl, rfl⟩ := h
      obtain ⟨h1, h2, h3⟩ := ih hr
      refine ⟨by simpa using h1, ?_, h3⟩
      cases base' with
      | nil => simp at h2
      | cons b bs => simpa [List.getLast?_cons_cons] using h2

theorem sharedAt?_eq_none_iff {parts dirs : List String} :
    sharedAt? parts dirs = none ↔ ∀ d ∈ dirs, d ∉ parts := by
  induction dirs with
  | nil => simp [sharedAt?]
  | cons d rest ih => by_cases hd : d ∈ parts <;> simp [sharedAt?, hd, ih]

theorem candidate?_eq_none_of_disjoint {file className extension : String}
    (h : ∀ d ∈ Text.split '/' file, d ∉ nameParts className) :
    candidate? file className extension = none := by
  simp [candidate?, sharedAt?_eq_none_iff.2 h]

theorem candidate?_of_shared {file className extension shared next : String} {base rest : List String}
    (h : sharedAt? (nameParts className) (Text.split '/' file) = some (base, shared))
    (hr : partsAfter shared (nameParts className) = next :: rest) :
    candidate? file className extension =
      some (Text.join '/' base ++ "/" ++ Text.join '/' (next :: rest) ++ extension) := by
  simp [candidate?, h, hr]

end ReleaseImpact.ClassPath
