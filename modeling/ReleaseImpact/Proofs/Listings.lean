import ReleaseImpact.Proofs.FileTree

/-!
What a walk through a directory finds, told without the walk: the names in the directories that a chain of
directories leads to. Main statements:

- `mem_walk_iff`: there is one listing for each way down.
- `FileSystem.finds_iff`: a name is listed just if it stands there and counts as a file.
-/

namespace ReleaseImpact

namespace Entry

variable {leadsTo : Location → Bool} {excluded : String → Bool} {below : Location}

@[elab_as_elim]
theorem inductOn {motive : Entry → Prop} (e : Entry) (file : ∀ content, motive (.file content))
    (link : ∀ target, motive (.link target))
    (directory : ∀ children, (∀ c ∈ children, motive c.2) → motive (.directory children)) : motive e :=
  match e with
  | .file content => file content
  | .link target => link target
  | .directory children => directory children fun c _ => inductOn c.2 file link directory
termination_by e
decreasing_by
  have smaller := List.sizeOf_lt_of_mem ‹c ∈ children›
  obtain ⟨name, e⟩ := c
  simp only [Prod.mk.sizeOf_spec, Entry.directory.sizeOf_spec] at smaller ⊢
  omega

/-- Some names lead down, from one directory that is not excluded to the next, to some children. -/
inductive Descends (excluded : String → Bool) : Entry → List String → List (String × Entry) → Prop
  | here {children : List (String × Entry)} : Descends excluded (.directory children) [] children
  | down {children found : List (String × Entry)} {name : String} {names : List String} {e : Entry}
      (child : (name, e) ∈ children) (kept : excluded name = false)
      (further : Descends excluded e names found) :
      Descends excluded (.directory children) (name :: names) found

theorem mem_walk_iff {e : Entry} {listing : Listing} :
    listing ∈ walk leadsTo excluded below e ↔
      ∃ names children, e.Descends excluded names children ∧
        listing = (below ++ names,
          sortNames (fileNames (fun name => leadsTo (below ++ names ++ [name])) children)) := by
  induction e using inductOn generalizing below with
  | file content =>
    constructor
    · intro member
      cases member
    · rintro ⟨_, _, descends, -⟩
      cases descends
  | link target =>
    constructor
    · intro member
      cases member
    · rintro ⟨_, _, descends, -⟩
      cases descends
  | directory children ih =>
    rw [walk]
    simp only [List.mem_cons, List.mem_flatMap, List.mem_mergeSort]
    constructor
    · rintro (rfl | ⟨⟨name, listings⟩, inside, member⟩)
      · exact ⟨[], children, .here, by simp⟩
      · obtain ⟨e, child, -, kept, same⟩ := mem_walkChildren_iff.mp inside
        obtain ⟨names, found, descends, rfl⟩ := (ih _ child).mp (same ▸ member)
        exact ⟨name :: names, found, .down child kept descends, by simp⟩
    · rintro ⟨names, found, descends, rfl⟩
      cases descends with
      | here => exact .inl (by simp)
      | @down _ _ name names e child kept further =>
        refine .inr ⟨(name, walk leadsTo excluded (below ++ [name]) e), ?_, ?_⟩
        · have inner : e.isDirectory = true := by
            cases further <;> rfl
          exact mem_walkChildren_iff.mpr ⟨e, child, inner, kept, rfl⟩
        · exact (ih _ child).mpr ⟨names, found, further, by simp⟩

end Entry

namespace FileSystem

/-- A name in a directory below another one stands for neither a directory nor a link to one, as far as
their paths are short enough to be asked for. -/
def Finds (fs : FileSystem) (excluded : String → Bool) (top : Path) (names : List String) (name : String) :
    Prop :=
  ∃ place e children, fs.locate top.text = .ok (place, e) ∧ e.Descends excluded names children ∧
    withinLimit top names = true ∧
    ((∃ content, (name, Entry.file content) ∈ children) ∨
      ∃ target, (name, Entry.link target) ∈ children ∧
        (withinLimit top (names ++ [name]) && fs.isDirectory (top.below (names ++ [name])).text) = false)

theorem finds_iff {fs : FileSystem} {excluded : String → Bool} {top : Path} {names : List String}
    {name : String} :
    fs.Finds excluded top names name ↔ ∃ files, (names, files) ∈ fs.walk excluded top ∧ name ∈ files := by
  unfold Finds walk
  cases fs.locate top.text with
  | error fault => simp
  | ok located =>
    obtain ⟨place, e⟩ := located
    constructor
    · rintro ⟨_, _, children, same, descends, short, counts⟩
      cases same
      refine ⟨_, List.mem_filter.mpr ⟨Entry.mem_walk_iff.mpr ⟨names, children, descends, rfl⟩, short⟩, ?_⟩
      rw [sortNames, List.mem_mergeSort, mem_names]
      simpa using counts
    · rintro ⟨files, member, listed⟩
      obtain ⟨walked, short⟩ := List.mem_filter.mp member
      obtain ⟨names', children, descends, same⟩ := Entry.mem_walk_iff.mp walked
      obtain ⟨rfl, rfl⟩ := Prod.mk.inj same
      rw [sortNames, List.mem_mergeSort, mem_names] at listed
      exact ⟨place, e, children, rfl, by simpa using descends, short, by simpa using listed⟩

end FileSystem

end ReleaseImpact
