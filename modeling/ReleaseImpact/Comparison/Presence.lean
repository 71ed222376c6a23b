import ReleaseImpact.Trail

/-!
Whether files are there: by a list of those that are, or by a file system, which may refuse to tell.
Main statements:

- `guard_of_no_fault`: a run that asks for no file in vain is left as it is.
- `guard_ofNames`: a list of files answers every question.
-/

namespace ReleaseImpact

structure Presence where
  isFile : String → Bool
  /-- What happens where the question has no answer. -/
  fault? : String → Option Failure

namespace Presence

def ofNames (names : List String) : Presence := ⟨names.contains, fun _ => none⟩

def ofFiles (fs : FileSystem) : Presence :=
  let ask (path : String) : Except PathFault Bool := fs.hasFile (Path.ofText path).text
  ⟨fun path => (ask path).toOption.getD false, fun path =>
    match ask path with
    | .error fault => some (.fileFault fault)
    | .ok _ => none⟩

/-- The steps up to the first question without an answer, and what happens there. -/
def upToFault (p : Presence) : List Step → List Step × Option Failure
  | [] => ([], none)
  | s :: rest =>
    match s.probe?.bind p.fault? with
    | some f => ([s], some f)
    | none =>
      let (steps, f) := p.upToFault rest
      (s :: steps, f)

/-- A run that ends at the first question without an answer. -/
def guard {α : Type} (p : Presence) (t : Trail α) : Trail α :=
  match p.upToFault t.steps with
  | (steps, some f) => ⟨steps, .error f⟩
  | (_, none) => t

theorem upToFault_of_no_fault {p : Presence} {steps : List Step}
    (h : ∀ s ∈ steps, s.probe?.bind p.fault? = none) : p.upToFault steps = (steps, none) := by
  induction steps with
  | nil => rfl
  | cons s rest ih =>
    have hr := ih fun s hs => h s (by simp [hs])
    simp [upToFault, h s (by simp), hr]

theorem guard_of_no_fault {α : Type} {p : Presence} {t : Trail α}
    (h : ∀ path ∈ t.probes, p.fault? path = none) : p.guard t = t := by
  have hs : ∀ s ∈ t.steps, s.probe?.bind p.fault? = none := by
    intro s hs
    cases hp : s.probe? with
    | none => rfl
    | some path => exact h path (List.mem_filterMap.2 ⟨s, hs, hp⟩)
  simp [guard, upToFault_of_no_fault hs]

theorem guard_ofNames {α : Type} (names : List String) (t : Trail α) : (ofNames names).guard t = t :=
  guard_of_no_fault fun _ _ => rfl

end Presence

end ReleaseImpact
