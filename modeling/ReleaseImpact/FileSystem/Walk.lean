import ReleaseImpact.FileSystem.Basic

/-!
The files below a directory, in an order that depends on the names alone: the files of a directory
come before everything in its subdirectories, and each in the order of their names. Links to
directories are not entered. Main statements:

- `mem_names`: what is not a directory is listed.
- `walk_of_file`: below a file there is nothing.
- `withinLimit_of_append`: what lies above a location has a shorter path.
-/

namespace ReleaseImpact

def sortNames (names : List String) : List String := names.mergeSort fun a b => decide (a ≤ b)

/-- A directory, by the names that lead to it, and the files in it. -/
abbrev Listing := List String × List String

/-- The names of what counts as a file: all but directories and links to directories. -/
def fileNames (leadsToDirectory : String → Bool) : List (String × Entry) → List String
  | [] => []
  | (name, .file _) :: rest => name :: fileNames leadsToDirectory rest
  | (name, .link _) :: rest =>
    if leadsToDirectory name then fileNames leadsToDirectory rest
    else name :: fileNames leadsToDirectory rest
  | (_, .directory _) :: rest => fileNames leadsToDirectory rest

theorem mem_names {f : String → Bool} {name : String} {children : List (String × Entry)} :
    name ∈ fileNames f children ↔
      (∃ c, (name, Entry.file c) ∈ children) ∨ ∃ t, (name, Entry.link t) ∈ children ∧ f name = false := by
  induction children with
  | nil => simp [fileNames]
  | cons e rest ih =>
    obtain ⟨n, e⟩ := e
    cases e with
    | file c =>
      simp only [fileNames, List.mem_cons, ih, Prod.mk.injEq, Entry.file.injEq, reduceCtorEq, and_false,
        false_or]
      constructor
      · rintro (rfl | ⟨c', h⟩ | h)
        · exact .inl ⟨c, .inl ⟨rfl, rfl⟩⟩
        · exact .inl ⟨c', .inr h⟩
        · exact .inr h
      · rintro (⟨c', ⟨rfl, rfl⟩ | h⟩ | h)
        · exact .inl rfl
        · exact .inr (.inl ⟨c', h⟩)
        · exact .inr (.inr h)
    | link t =>
      by_cases hf : f n
      · simp only [fileNames, hf, if_true, ih, List.mem_cons, Prod.mk.injEq, reduceCtorEq, and_false,
          false_or, Entry.link.injEq]
        constructor
        · rintro (h | ⟨t', h⟩)
          · exact .inl h
          · exact .inr ⟨t', .inr h.1, h.2⟩
        · rintro (h | ⟨t', ⟨rfl, _⟩ | h, h'⟩)
          · exact .inl h
          · simp [hf] at h'
          · exact .inr ⟨t', h, h'⟩
      · simp only [fileNames, hf, Bool.false_eq_true, if_false, ih, List.mem_cons, Prod.mk.injEq,
          reduceCtorEq, and_false, false_or, Entry.link.injEq]
        constructor
        · rintro (rfl | h | ⟨t', h⟩)
          · exact .inr ⟨t, .inl ⟨rfl, rfl⟩, by simpa using hf⟩
          · exact .inl h
          · exact .inr ⟨t', .inr h.1, h.2⟩
        · rintro (h | ⟨t', ⟨rfl, _⟩ | h, h'⟩)
          · exact .inr (.inl h)
          · exact .inl rfl
          · exact .inr (.inr ⟨t', h, h'⟩)
    | directory cs => simp [fileNames, ih]

namespace Entry

mutual

/-- The listings of a directory and of the directories in it that are not excluded. -/
def walk (leadsToDirectory : Location → Bool) (excluded : String → Bool) (below : Location) :
    Entry → List Listing
  | .directory children =>
    (below, sortNames (fileNames (fun name => leadsToDirectory (below ++ [name])) children)) ::
      ((walkChildren leadsToDirectory excluded below children).mergeSort
        fun a b => decide (a.1 ≤ b.1)).flatMap Prod.snd
  | _ => []

def walkChildren (leadsToDirectory : Location → Bool) (excluded : String → Bool)
    (below : Location) : List (String × Entry) → List (String × List Listing)
  | [] => []
  | (name, e) :: rest =>
    let others := walkChildren leadsToDirectory excluded below rest
    if e.isDirectory && !excluded name then
      (name, walk leadsToDirectory excluded (below ++ [name]) e) :: others
    else others

end

theorem walk_of_file (f : Location → Bool) (excluded : String → Bool) (below : Location)
    (content : List UInt8) : walk f excluded below (.file content) = [] := rfl

end Entry

namespace FileSystem

/-- The text by which a walk asks for what is below a directory. It begins with the text of the
directory, also where that is a dot. -/
def walkText (root : Path) (names : Location) : String :=
  if root.text = "." then Text.join '/' ("." :: names) else (root.below names).text

/-- Whether the text by which a walk asks for a location is no longer than a path may be. -/
def withinLimit (root : Path) (names : Location) : Bool := (walkText root names).utf8ByteSize < pathLimit

theorem withinLimit_of_append {root : Path} {names more : Location}
    (within : withinLimit root (names ++ more) = true) : withinLimit root names = true := by
  have shorter : (walkText root names).utf8ByteSize ≤ (walkText root (names ++ more)).utf8ByteSize := by
    rw [walkText, walkText]
    split
    case isTrue dot => exact Text.utf8ByteSize_join_le ("." :: names) more
    case isFalse noDot =>
      have text (further : Location) : (root.below further).text =
          Path.anchorText root.anchor ++ Text.join '/' (root.parts ++ further) := by
        rw [Path.text, if_neg]
        · rfl
        · rintro ⟨none, parts⟩
          exact noDot (by rw [Path.text, if_pos ⟨none, (List.append_eq_nil_iff.mp parts).1⟩])
      rw [text, text, ← List.append_assoc, String.utf8ByteSize_append, String.utf8ByteSize_append]
      exact Nat.add_le_add_left (Text.utf8ByteSize_join_le _ more) _
  exact decide_eq_true (Nat.lt_of_le_of_lt shorter (of_decide_eq_true within))

/-- The listings below a path, given from there; there are none where no directory is. A directory with
too long a path is passed over, and with it what is below, and a link with too long a path leads nowhere. -/
def walk (fs : FileSystem) (excluded : String → Bool) (root : Path) : List Listing :=
  match fs.locate root.text with
  | .ok (_, e) =>
    (e.walk (fun names => withinLimit root names && fs.isDirectory (root.below names).text) excluded []).filter
      fun listing => withinLimit root listing.1
  | .error _ => []

/-- All files below a directory, as paths that start with the path of the directory. -/
def filesBelow (fs : FileSystem) (excluded : List String) (root : Path) : List Path :=
  (fs.walk (excluded.contains ·) root).flatMap fun listing =>
    listing.2.map fun name => root.below (listing.1 ++ [name])

/-- The files below a directory, unless the text of the path is none. -/
def listFiles (fs : FileSystem) (excluded : List String) (root : Path) : Except PathFault (List Path) :=
  if '\x00' ∈ root.text.toList then .error .containsNul else .ok (fs.filesBelow excluded root)

end FileSystem

end ReleaseImpact
