import ReleaseImpact.Proofs.Listings
import ReleaseImpact.Proofs.Siblings

/-!
The files that a search looks into, told without the search: the nearest directory above a file that holds
the marker, and the schema files below the search directories of it. Main statements:

- `firstMarked_cases`: the nearest directory that holds a marker, or a path that is refused before it.
- `filesIn_cases` and `schemaFiles_cases`: the schema files that are found, or a path that is refused.
- `mem_others_iff`: the files that are looked into are the siblings of the schema file.
-/

namespace ReleaseImpact

section Collecting

variable {α β ε : Type} {f : α → Except ε (List β)}

theorem flatMapM_loop_eq (items : List α) (found : List (List β)) :
    List.flatMapM.loop f items found =
      (items.flatMapM f).map fun more => found.reverse.flatten ++ more := by
  induction items generalizing found with
  | nil => simp [List.flatMapM, List.flatMapM.loop, pure, Except.pure, Except.map]
  | cons a rest ih =>
    unfold List.flatMapM List.flatMapM.loop
    cases f a with
    | error e => rfl
    | ok part =>
      simp only [bind, Except.bind, ih]
      cases rest.flatMapM f with
      | error e => rfl
      | ok more => simp [Except.map]

theorem flatMapM_cons (a : α) (rest : List α) :
    (a :: rest).flatMapM f = (do
      let part ← f a
      let more ← rest.flatMapM f
      return part ++ more) := by
  rw [List.flatMapM, List.flatMapM.loop]
  cases f a with
  | error e => rfl
  | ok part =>
    simp only [bind, Except.bind, flatMapM_loop_eq]
    cases rest.flatMapM f with
    | error e => rfl
    | ok more => simp [Except.map, pure, Except.pure]

/-- What is collected from some items, or an item that has nothing but an error, told by what is known of
each of them. -/
theorem flatMapM_cases {items : List α} {fails : α → ε → Prop} {tells : α → List β → Prop}
    {gives : α → β → Prop}
    (each : ∀ a ∈ items, (∃ e, f a = .error e ∧ fails a e) ∨ ∃ part, f a = .ok part ∧ tells a part)
    (holds : ∀ a part, tells a part → ∀ b, b ∈ part ↔ gives a b) :
    (∃ e, items.flatMapM f = .error e ∧ ∃ a ∈ items, fails a e) ∨
      ∃ all, items.flatMapM f = .ok all ∧ (∀ a ∈ items, ∃ part, tells a part) ∧
        ∀ b, b ∈ all ↔ ∃ a ∈ items, gives a b := by
  induction items with
  | nil => exact .inr ⟨[], rfl, List.forall_mem_nil _, by simp⟩
  | cons a rest ih =>
    obtain ⟨first, others⟩ := List.forall_mem_cons.mp each
    rw [flatMapM_cons]
    rcases first with ⟨e, failed, why⟩ | ⟨part, ended, told⟩
    · rw [failed]
      exact .inl ⟨e, rfl, a, List.mem_cons_self, why⟩
    · rw [ended]
      rcases ih others with ⟨e, failed, x, member, why⟩ | ⟨all, ended, tolds, found⟩
      · rw [failed]
        exact .inl ⟨e, rfl, x, List.mem_cons_of_mem a member, why⟩
      · rw [ended]
        refine .inr ⟨part ++ all, rfl, List.forall_mem_cons.mpr ⟨⟨part, told⟩, tolds⟩, fun b => ?_⟩
        rw [List.mem_append, holds a part told, found, List.exists_mem_cons_iff]

theorem single_cases (wanted : Prop) [Decidable wanted] (outcome : Except ε β) :
    (∃ e, (if wanted then (do return [← outcome]) else return [] : Except ε (List β)) = .error e ∧
        wanted ∧ outcome = .error e) ∨
      ∃ part, (if wanted then (do return [← outcome]) else return [] : Except ε (List β)) = .ok part ∧
        (wanted → ∃ b, outcome = .ok b) ∧ ∀ b, b ∈ part ↔ wanted ∧ outcome = .ok b := by
  by_cases here : wanted
  · rw [if_pos here]
    cases outcome with
    | error e => exact .inl ⟨e, rfl, here, rfl⟩
    | ok b => exact .inr ⟨[b], rfl, fun _ => ⟨b, rfl⟩, fun x => by simp [here, eq_comm]⟩
  · rw [if_neg here]
    exact .inr ⟨[], rfl, fun wanted => absurd wanted here, by simp [here]⟩

end Collecting

/-! ## The nearest marker -/

/-- The directories above a file, the nearest first. -/
def directoriesAbove (schemaFile : String) : List Path :=
  (Path.ofText schemaFile).parent :: (Path.ofText schemaFile).parent.ancestors

theorem firstMarked_cases (fs : FileSystem) (marker : Path) (directories : List Path) :
    (∃ near d far fault, directories = near ++ d :: far ∧
        (∀ x ∈ near, fs.isFile (x.join marker).text = false) ∧
        fs.hasFile (d.join marker).text = .error fault ∧
        firstMarked fs marker directories = .error fault) ∨
      firstMarked fs marker directories =
        .ok (directories.find? fun d => fs.isFile (d.join marker).text) := by
  induction directories with
  | nil => exact .inr rfl
  | cons d rest ih =>
    unfold firstMarked
    cases looked : fs.hasFile (d.join marker).text with
    | error fault => exact .inl ⟨[], d, rest, fault, rfl, List.forall_mem_nil _, looked, rfl⟩
    | ok there =>
      have here := FileSystem.hasFile_eq_ok looked
      cases there with
      | true => exact .inr (by simp [here])
      | false =>
        rw [List.find?_cons, here]
        rcases ih with ⟨near, x, far, fault, rfl, unmarked, refused, fails⟩ | ends
        · refine .inl ⟨d :: near, x, far, fault, rfl, ?_, refused, fails⟩
          exact List.forall_mem_cons.mpr ⟨here, unmarked⟩
        · exact .inr ends

theorem firstMarked_refused {fs : FileSystem} {marker : Path} {near far : List Path} {d : Path}
    {fault : PathFault} (unmarked : ∀ x ∈ near, fs.isFile (x.join marker).text = false)
    (refused : fs.hasFile (d.join marker).text = .error fault) :
    ∃ fault, firstMarked fs marker (near ++ d :: far) = .error fault := by
  induction near with
  | nil =>
    refine ⟨fault, ?_⟩
    rw [List.nil_append, firstMarked, refused]
  | cons x near ih =>
    obtain ⟨first, others⟩ := List.forall_mem_cons.mp unmarked
    rw [List.cons_append, firstMarked]
    cases looked : fs.hasFile (x.join marker).text with
    | error fault => exact ⟨fault, rfl⟩
    | ok there =>
      obtain rfl : there = false := (FileSystem.hasFile_eq_ok looked).symm.trans first
      exact ih others

namespace Search

variable {s : Search} {fs : FileSystem} {q : Inquiry}

/-- The nearest directory above a file that holds the marker as a file. -/
def nearestRoot? (s : Search) (fs : FileSystem) (schemaFile : String) : Option Path :=
  (directoriesAbove schemaFile).find? fun d => fs.isFile (d.join (.ofText s.marker)).text

theorem nearestRoot?_of_projectRoot? {schemaFile : String} {marked : Option Path}
    (found : projectRoot? fs schemaFile s.marker = .ok marked) : s.nearestRoot? fs schemaFile = marked := by
  rcases firstMarked_cases fs (.ofText s.marker) (directoriesAbove schemaFile) with
    ⟨_, _, _, fault, -, -, -, fails⟩ | ends
  · exact absurd (fails.symm.trans found) nofun
  · exact Except.ok.inj (ends.symm.trans found)

theorem marker_not_refused {schemaFile : String} {place : Option Path} {near far : List Path} {d : Path}
    {fault : PathFault} (found : projectRoot? fs schemaFile s.marker = .ok place)
    (above : directoriesAbove schemaFile = near ++ d :: far)
    (unmarked : ∀ x ∈ near, fs.isFile (x.join (.ofText s.marker)).text = false) :
    fs.hasFile (d.join (.ofText s.marker)).text ≠ .error fault := by
  intro refused
  obtain ⟨other, fails⟩ := firstMarked_refused unmarked refused
  rw [← above] at fails
  exact absurd (found.symm.trans fails) nofun

/-! ## Schema files -/

/-- A path of the schema file name below the search directories of a project. -/
def Finds (s : Search) (fs : FileSystem) (root p : Path) : Prop :=
  ∃ d ∈ s.directories, ∃ names, fs.Finds (fun _ => false) (root.join (.ofText d)) names s.schemaFileName ∧
    p = ((root.join (.ofText d)).below names).below [s.schemaFileName]

/-- A schema file of the project, without links, other than a given one. -/
def Sibling (s : Search) (fs : FileSystem) (root : Path) (schemaFile : String) (file : Path) : Prop :=
  (∃ p, s.Finds fs root p ∧ fs.resolve p = .ok file) ∧ fs.resolve (.ofText schemaFile) ≠ .ok file

theorem isDirectory_of_finds {excluded : String → Bool} {top : Path} {names : List String} {name : String}
    (finds : fs.Finds excluded top names name) : fs.isDirectory top.text = true := by
  obtain ⟨place, e, children, located, descends, -⟩ := finds
  unfold FileSystem.isDirectory
  rw [located]
  cases descends <;> rfl

/-- The schema files below a directory, none of which is refused. -/
structure FilesIn (s : Search) (fs : FileSystem) (top : Path) (files : List Path) : Prop where
  looked : ∃ there, fs.hasDirectory top.text = .ok there
  resolved : ∀ names, fs.Finds (fun _ => false) top names s.schemaFileName →
    ∃ file, fs.resolve ((top.below names).below [s.schemaFileName]) = .ok file
  named : ∀ file, file ∈ files ↔ ∃ names, fs.Finds (fun _ => false) top names s.schemaFileName ∧
    fs.resolve ((top.below names).below [s.schemaFileName]) = .ok file

theorem filesIn_cases (s : Search) (fs : FileSystem) (top : Path) :
    (∃ fault, s.filesIn fs top = .error fault ∧ (fs.hasDirectory top.text = .error fault ∨
        ∃ names, fs.Finds (fun _ => false) top names s.schemaFileName ∧
          fs.resolve ((top.below names).below [s.schemaFileName]) = .error fault)) ∨
      ∃ files, s.filesIn fs top = .ok files ∧ s.FilesIn fs top files := by
  unfold filesIn
  cases looked : fs.hasDirectory top.text with
  | error fault => exact .inl ⟨fault, rfl, .inl rfl⟩
  | ok there =>
    have is := FileSystem.hasDirectory_eq_ok looked
    cases there with
    | false =>
      have nothing (names : List String) : ¬fs.Finds (fun _ => false) top names s.schemaFileName := by
        intro finds
        rw [isDirectory_of_finds finds] at is
        cases is
      refine .inr ⟨[], rfl, ⟨false, looked⟩, ?_, ?_⟩
      · exact fun names finds => absurd finds (nothing names)
      · simp [nothing]
    | true =>
      simp only [bind, Except.bind, if_true]
      have each (listing : Listing) (_ : listing ∈ fs.walk (fun _ => false) top) :=
        single_cases (s.schemaFileName ∈ listing.2)
          (fs.resolve ((top.below listing.1).below [s.schemaFileName]))
      rcases flatMapM_cases each fun _ _ told => told.2 with
        ⟨fault, fails, listing, member, listed, refused⟩ | ⟨files, ends, told, found⟩
      · exact .inl ⟨fault, fails, .inr ⟨listing.1, FileSystem.finds_iff.mpr ⟨_, member, listed⟩, refused⟩⟩
      · refine .inr ⟨files, ends, ⟨true, looked⟩, fun names finds => ?_, fun file => ?_⟩
        · obtain ⟨listed, member, inside⟩ := FileSystem.finds_iff.mp finds
          obtain ⟨_, resolved, -⟩ := told (names, listed) member
          exact resolved inside
        · rw [found]
          constructor
          · rintro ⟨listing, member, listed, resolved⟩
            exact ⟨listing.1, FileSystem.finds_iff.mpr ⟨_, member, listed⟩, resolved⟩
          · rintro ⟨names, finds, resolved⟩
            obtain ⟨listed, member, inside⟩ := FileSystem.finds_iff.mp finds
            exact ⟨(names, listed), member, inside, resolved⟩

/-- The schema files below the search directories of a project, none of which is refused. -/
structure FilesBelow (s : Search) (fs : FileSystem) (root : Path) (files : List Path) : Prop where
  looked : ∀ d ∈ s.directories, ∃ there, fs.hasDirectory (root.join (.ofText d)).text = .ok there
  resolved : ∀ p, s.Finds fs root p → ∃ file, fs.resolve p = .ok file
  named : ∀ file, file ∈ files ↔ ∃ p, s.Finds fs root p ∧ fs.resolve p = .ok file

theorem schemaFiles_cases (s : Search) (fs : FileSystem) (root : Path) :
    (∃ fault, s.schemaFiles fs root = .error fault ∧
        ((∃ d ∈ s.directories, fs.hasDirectory (root.join (.ofText d)).text = .error fault) ∨
          ∃ p, s.Finds fs root p ∧ fs.resolve p = .error fault)) ∨
      ∃ files, s.schemaFiles fs root = .ok files ∧ s.FilesBelow fs root files := by
  have each (top : Path) (_ : top ∈ s.directories.map fun d => root.join (.ofText d)) :=
    s.filesIn_cases fs top
  unfold schemaFiles
  rcases flatMapM_cases each fun _ _ told => told.named with
    ⟨fault, fails, top, member, why⟩ | ⟨files, ends, told, found⟩
  · obtain ⟨d, listed, rfl⟩ := List.mem_map.mp member
    refine .inl ⟨fault, fails, ?_⟩
    rcases why with refused | ⟨names, finds, refused⟩
    · exact .inl ⟨d, listed, refused⟩
    · exact .inr ⟨_, ⟨d, listed, names, finds, rfl⟩, refused⟩
  · refine .inr ⟨files, ends, ?_, ?_, ?_⟩
    · intro d listed
      obtain ⟨_, known⟩ := told _ (List.mem_map_of_mem listed)
      exact known.looked
    · rintro _ ⟨d, listed, names, finds, rfl⟩
      obtain ⟨_, known⟩ := told _ (List.mem_map_of_mem listed)
      exact known.resolved names finds
    · intro file
      rw [found]
      constructor
      · rintro ⟨_, member, names, finds, resolved⟩
        obtain ⟨d, listed, rfl⟩ := List.mem_map.mp member
        exact ⟨_, ⟨d, listed, names, finds, rfl⟩, resolved⟩
      · rintro ⟨_, ⟨d, listed, names, finds, rfl⟩, resolved⟩
        exact ⟨_, List.mem_map_of_mem listed, names, finds, resolved⟩

theorem filesBelow_of_schemaFiles {root : Path} {files : List Path}
    (known : s.schemaFiles fs root = .ok files) : s.FilesBelow fs root files := by
  obtain ⟨_, failed, -⟩ | ⟨_, ended, told⟩ := s.schemaFiles_cases fs root
  · rw [known] at failed
    cases failed
  · rw [known] at ended
    cases ended
    exact told

theorem mem_others_iff {schemaFile : String} {root file : Path} {found : List Path}
    (listed : s.others fs root schemaFile = .ok found) :
    file ∈ found ↔ s.Sibling fs root schemaFile file := by
  obtain ⟨own, files, resolved, known, rfl⟩ := others_eq_ok_iff.mp listed
  rw [List.mem_filter, (filesBelow_of_schemaFiles known).named, Sibling, resolved, decide_eq_true_eq]
  refine and_congr_right fun _ => not_congr ⟨fun same => ?_, fun same => ?_⟩
  · rw [same]
  · exact (Except.ok.inj same).symm

end Search

end ReleaseImpact
