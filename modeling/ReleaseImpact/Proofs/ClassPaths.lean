import ReleaseImpact.ClassPath
import ReleaseImpact.Proofs.Trimming

/-!
Where the class of a name would be declared, by the directories of a file and the parts of the name. Main
statements:

- `sharedAt?_eq_some_iff`: where a file path and a name meet.
- `candidate?_eq_some_iff`: the path that is guessed, and when there is one.
- `strippedCandidate?_eq`: no slash ends the directory from which the path goes on.
- `nameParts_join`: the parts that a name is put together from are found again.
- `candidate?_overlays`: both together, with the usual place of a class beside the files of its module.
-/

namespace ReleaseImpact.ClassPath

open Text

/-- The directory of some parts that is also a part of a name, the first one of that sort: what stands
above it, and the parts of the name behind the first place where the name has it. -/
structure Meets (dirs parts above : List String) (shared : String) (behind : List String) : Prop where
  below : ∃ rest, dirs = above ++ shared :: rest
  first : ∀ d ∈ above, d ∉ parts
  before : ∃ earlier, parts = earlier ++ shared :: behind ∧ shared ∉ earlier

/-- The guessed path, put together from a directory that loses the slashes at its end. -/
def strippedCandidate? (file className extension : String) : Option String :=
  let parts := nameParts className
  match sharedAt? parts (split '/' file) with
  | none => none
  | some (base, shared) =>
    match partsAfter shared parts with
    | [] => none
    | rest =>
      let directory := String.ofList ((join '/' base).toList.rdropWhile (· = '/'))
      some (directory ++ "/" ++ join '/' rest ++ extension)

/-! ## Where a path and a name meet -/

variable {dirs parts above base behind : List String} {shared : String}

theorem sharedAt?_of_first (first : ∀ d ∈ above, d ∉ parts) (common : shared ∈ parts) (rest : List String) :
    sharedAt? parts (above ++ shared :: rest) = some (above ++ [shared], shared) := by
  induction above with
  | nil => simp [sharedAt?, common]
  | cons d above ih =>
    obtain ⟨here, later⟩ := List.forall_mem_cons.mp first
    simp [sharedAt?, here, ih later]

theorem sharedAt?_eq_some_iff :
    sharedAt? parts dirs = some (base, shared) ↔
      ∃ above rest, dirs = above ++ shared :: rest ∧ base = above ++ [shared] ∧ (∀ d ∈ above, d ∉ parts) ∧
        shared ∈ parts := by
  constructor
  · intro found
    induction dirs generalizing base with
    | nil => cases found
    | cons d dirs ih =>
      by_cases here : d ∈ parts
      · rw [sharedAt?, if_pos here] at found
        cases found
        exact ⟨[], dirs, rfl, rfl, List.forall_mem_nil _, here⟩
      · rw [sharedAt?, if_neg here] at found
        obtain ⟨⟨base', shared'⟩, later, same⟩ := Option.map_eq_some_iff.mp found
        obtain ⟨rfl, rfl⟩ : d :: base' = base ∧ shared' = shared := Prod.mk.inj same
        obtain ⟨above, rest, rfl, rfl, first, common⟩ := ih later
        exact ⟨d :: above, rest, rfl, rfl, List.forall_mem_cons.mpr ⟨here, first⟩, common⟩
  · rintro ⟨above, rest, rfl, rfl, first, common⟩
    exact sharedAt?_of_first first common rest

theorem partsAfter_append {earlier : List String} (new : shared ∉ earlier) (behind : List String) :
    partsAfter shared (earlier ++ shared :: behind) = behind := by
  have passed : ∀ p ∈ earlier, decide (p ≠ shared) = true := fun p inside =>
    decide_eq_true fun same => new (same ▸ inside)
  rw [partsAfter, List.dropWhile_append_of_pos passed, List.dropWhile_cons_of_neg (by simp)]
  rfl

theorem Meets.sharedAt?_eq (meets : Meets dirs parts above shared behind) :
    sharedAt? parts dirs = some (above ++ [shared], shared) := by
  obtain ⟨rest, rfl⟩ := meets.below
  obtain ⟨earlier, rfl, -⟩ := meets.before
  exact sharedAt?_of_first meets.first (by simp) rest

theorem Meets.partsAfter_eq (meets : Meets dirs parts above shared behind) :
    partsAfter shared parts = behind := by
  obtain ⟨earlier, rfl, new⟩ := meets.before
  exact partsAfter_append new behind

theorem exists_meets (found : sharedAt? parts dirs = some (base, shared)) :
    ∃ above, base = above ++ [shared] ∧ Meets dirs parts above shared (partsAfter shared parts) := by
  obtain ⟨above, rest, rfl, rfl, first, common⟩ := sharedAt?_eq_some_iff.mp found
  obtain ⟨earlier, behind, rfl, new⟩ := List.eq_append_cons_of_mem common
  rw [partsAfter_append new]
  exact ⟨above, rfl, ⟨rest, rfl⟩, first, earlier, rfl, new⟩

theorem join_meeting {behind : List String} (more : behind ≠ []) (above : List String) (shared : String) :
    join '/' (above ++ [shared]) ++ "/" ++ join '/' behind = join '/' (above ++ shared :: behind) := by
  rw [← join_append (by simp) more, List.append_assoc, List.singleton_append]

/-- A path is guessed where the file and the name meet and the name goes on behind that. -/
theorem candidate?_eq_some_iff {file className extension path : String} :
    candidate? file className extension = some path ↔
      ∃ above shared behind, Meets (split '/' file) (nameParts className) above shared behind ∧
        behind ≠ [] ∧ path = join '/' (above ++ shared :: behind) ++ extension := by
  unfold candidate?
  constructor
  · intro guessed
    dsimp only at guessed
    split at guessed
    · cases guessed
    · next base shared found =>
      obtain ⟨above, rfl, meets⟩ := exists_meets found
      split at guessed
      · cases guessed
      · next more =>
        cases guessed
        exact ⟨above, shared, _, meets, more, by rw [join_meeting more]⟩
  · rintro ⟨above, shared, behind, meets, more, rfl⟩
    cases behind with
    | nil => exact absurd rfl more
    | cons next behind => simp only [meets.sharedAt?_eq, meets.partsAfter_eq, join_meeting more]

/-! ## The directory from which a path goes on -/

theorem not_mem_of_mem_splitOn {sep : Char} {text part : List Char} (member : part ∈ splitOn sep text) :
    sep ∉ part := by
  induction text generalizing part with
  | nil =>
    obtain rfl := List.mem_singleton.mp member
    exact List.not_mem_nil
  | cons c text ih =>
    by_cases here : c = sep
    · rw [splitOn, if_pos here] at member
      rcases List.mem_cons.mp member with rfl | later
      · exact List.not_mem_nil
      · exact ih later
    · rw [splitOn, if_neg here] at member
      cases rest : splitOn sep text with
      | nil => exact absurd rest (splitOn_ne_nil sep text)
      | cons first others =>
        simp only [rest, List.mem_cons] at member ih
        rcases member with rfl | later
        · exact fun inside => (List.mem_cons.mp inside).elim (fun same => here same.symm) (ih (.inl rfl))
        · exact ih (.inr later)

theorem not_slash_of_mem_split {file part : String} (member : part ∈ split '/' file) : '/' ∉ part.toList := by
  obtain ⟨text, inside, rfl⟩ := List.mem_map.mp member
  rw [String.toList_ofList]
  exact not_mem_of_mem_splitOn inside

theorem ne_empty_of_mem_nameParts {className part : String} (member : part ∈ nameParts className) :
    part ≠ "" := of_decide_eq_true (List.mem_filter.mp member).2

theorem exists_join_concat (above : List String) (shared : String) :
    ∃ front, join '/' (above ++ [shared]) = front ++ shared := by
  by_cases top : above = []
  · exact ⟨"", by rw [top, List.nil_append, join_singleton, String.empty_append]⟩
  · exact ⟨_, join_append_singleton top shared⟩

theorem Meets.rdropWhile_eq {file className : String}
    (meets : Meets (split '/' file) (nameParts className) above shared behind) :
    (join '/' (above ++ [shared])).toList.rdropWhile (· = '/') = (join '/' (above ++ [shared])).toList := by
  obtain ⟨rest, dirs⟩ := meets.below
  obtain ⟨earlier, parts, -⟩ := meets.before
  have directory : shared ∈ split '/' file := by simp [dirs]
  have part : shared ∈ nameParts className := by simp [parts]
  have noSlash : '/' ∉ shared.toList := not_slash_of_mem_split directory
  have some : shared.toList ≠ [] := fun none => ne_empty_of_mem_nameParts part (String.toList_inj.mp none)
  obtain ⟨front, whole⟩ := exists_join_concat above shared
  rw [whole, String.toList_append, List.rdropWhile_eq_self_iff]
  intro _ slash
  rw [List.getLast_append_of_right_ne_nil _ _ some, decide_eq_true_eq] at slash
  exact noSlash (slash ▸ List.getLast_mem some)

theorem strippedCandidate?_eq (file className extension : String) :
    strippedCandidate? file className extension = candidate? file className extension := by
  unfold strippedCandidate? candidate?
  dsimp only
  cases found : sharedAt? (nameParts className) (split '/' file) with
  | none => rfl
  | some meeting =>
    obtain ⟨above, whole, meets⟩ := exists_meets found
    have kept : String.ofList ((join '/' meeting.1).toList.rdropWhile (· = '/')) = join '/' meeting.1 := by
      rw [whole, meets.rdropWhile_eq, String.ofList_toList]
    dsimp only
    cases partsAfter meeting.2 (nameParts className) with
    | nil => rfl
    | cons next rest => exact congrArg (fun d => some (d ++ "/" ++ join '/' (next :: rest) ++ extension)) kept

/-! ## A class beside the files of its module -/

/-- A part of a path or a name: some text with neither separators in it nor blanks around it. -/
structure IsPart (part : String) : Prop where
  filled : part ≠ ""
  noSlash : '/' ∉ part.toList
  noBackslash : '\\' ∉ part.toList
  bare : trim part = part

instance (part : String) : Decidable (IsPart part) :=
  decidable_of_iff (part ≠ "" ∧ '/' ∉ part.toList ∧ '\\' ∉ part.toList ∧ trim part = part)
    ⟨fun ⟨filled, noSlash, noBackslash, bare⟩ => ⟨filled, noSlash, noBackslash, bare⟩,
      fun ⟨filled, noSlash, noBackslash, bare⟩ => ⟨filled, noSlash, noBackslash, bare⟩⟩

/-- A file of a module and a class of it. The module is in two directories named like the first parts of the
class, and no directory above has a name from the class. -/
structure Layout where
  above : List String
  vendor : String
  moduleName : String
  below : List String
  rest : List String
  parts : ∀ p ∈ above ++ vendor :: moduleName :: (below ++ rest), IsPart p
  more : rest ≠ []
  apart : ∀ d ∈ above, d ∉ vendor :: moduleName :: rest

namespace Layout

def file (l : Layout) : String := join '/' (l.above ++ l.vendor :: l.moduleName :: l.below)

def className (l : Layout) : String := join '\\' (l.vendor :: l.moduleName :: l.rest)

/-- Where the class is declared, but for the extension of the file. -/
def classFile (l : Layout) : String := join '/' (l.above ++ l.vendor :: l.moduleName :: l.rest)

end Layout

theorem IsPart.ends {part : String} (isPart : IsPart part) :
    (∀ c ∈ part.toList.head?, isBlank c = false) ∧ ∀ c ∈ part.toList.getLast?, isBlank c = false := by
  have same := isPart.bare
  rw [trim, ← String.toList_inj, String.toList_ofList] at same
  exact trimmed_eq_self_iff.mp same

theorem IsPart.toList_ne_nil {part : String} (isPart : IsPart part) : part.toList ≠ [] :=
  fun none => isPart.filled (String.toList_inj.mp none)

theorem head?_joinWith_cons {text : List Char} (some : text ≠ []) (sep : Char) (rest : List (List Char)) :
    (joinWith sep (text :: rest)).head? = text.head? := by
  by_cases alone : rest = []
  · rw [alone]
    rfl
  · rw [← List.singleton_append, joinWith_append sep (List.cons_ne_nil _ _) alone]
    exact List.head?_append_of_ne_nil _ some

theorem getLast?_joinWith_concat {text : List Char} (some : text ≠ []) (sep : Char)
    (front : List (List Char)) : (joinWith sep (front ++ [text])).getLast? = text.getLast? := by
  by_cases alone : front = []
  · rw [alone]
    rfl
  · rw [joinWith_append sep alone (List.cons_ne_nil _ _), List.getLast?_append_of_ne_nil _ (List.cons_ne_nil _ _)]
    exact List.getLast?_cons_of_ne_nil some

theorem splitOn_replicate_append (sep : Char) (k : Nat) (text : List Char) :
    splitOn sep (List.replicate k sep ++ text) = List.replicate k [] ++ splitOn sep text := by
  induction k with
  | zero => rfl
  | succ k ih =>
    rw [List.replicate_succ, List.cons_append, splitOn, if_pos rfl, ih]
    rfl

theorem ends_join {parts : List String} (areParts : ∀ p ∈ parts, IsPart p) (some : parts ≠ []) (sep : Char) :
    (∀ c ∈ (join sep parts).toList.head?, isBlank c = false) ∧
      ∃ c, (join sep parts).toList.getLast? = .some c ∧ isBlank c = false := by
  rw [join, String.toList_ofList]
  constructor
  · obtain ⟨p, rest, rfl⟩ := List.exists_cons_of_ne_nil some
    have isPart := areParts p List.mem_cons_self
    rw [List.map_cons, head?_joinWith_cons isPart.toList_ne_nil]
    exact isPart.ends.1
  · obtain ⟨front, p, rfl⟩ := (List.eq_nil_or_concat' parts).resolve_left some
    have isPart := areParts p (by simp)
    have last := List.getLast?_eq_getLast_of_ne_nil isPart.toList_ne_nil
    rw [List.map_append, List.map_singleton, getLast?_joinWith_concat isPart.toList_ne_nil]
    exact ⟨_, last, isPart.ends.2 _ last⟩

theorem trim_join {parts : List String} (areParts : ∀ p ∈ parts, IsPart p) (some : parts ≠ []) (k : Nat) :
    trim (String.ofList (List.replicate k '\\') ++ join '\\' parts) =
      String.ofList (List.replicate k '\\') ++ join '\\' parts := by
  obtain ⟨first, c, last, clear⟩ := ends_join areParts some '\\'
  rw [trim, ← String.toList_inj, String.toList_ofList, String.toList_append, String.toList_ofList,
    trimmed_eq_self_iff]
  constructor
  · cases k with
    | zero => exact first
    | succ k =>
      intro d front
      obtain rfl := Option.some.inj front
      decide
  · intro d behind
    rw [List.getLast?_append, last] at behind
    obtain rfl := Option.some.inj behind
    exact clear

theorem nameParts_join {parts : List String} (areParts : ∀ p ∈ parts, IsPart p) (some : parts ≠ [])
    (k : Nat) : nameParts (String.ofList (List.replicate k '\\') ++ join '\\' parts) = parts := by
  have inside : parts.filter (· ≠ "") = parts :=
    List.filter_eq_self.mpr fun p member => decide_eq_true (areParts p member).filled
  have found : split '\\' (join '\\' parts) = parts :=
    split_join (fun p member => (areParts p member).noBackslash) some
  rw [nameParts, trim_join areParts some, split, String.toList_append, String.toList_ofList,
    splitOn_replicate_append, List.map_append, ← split, found, List.filter_append, inside]
  simp

/-- A path may begin with a slash. -/
theorem exists_rooted {front : String} (member : front ∈ ["", "/"]) :
    ∃ root : List String, (∀ d ∈ root, d = "") ∧
      ∀ dirs : List String, dirs ≠ [] → (∀ d ∈ dirs, '/' ∉ d.toList) →
        split '/' (front ++ join '/' dirs) = root ++ dirs ∧
          join '/' (root ++ dirs) = front ++ join '/' dirs := by
  rcases List.mem_cons.mp member with rfl | member
  · refine ⟨[], List.forall_mem_nil _, fun dirs some whole => ?_⟩
    rw [String.empty_append]
    exact ⟨split_join whole some, rfl⟩
  · obtain rfl := List.mem_singleton.mp member
    refine ⟨[""], by simp, fun dirs some whole => ?_⟩
    constructor
    · have parted := split_append "" (join '/' dirs)
      rw [split_join whole some] at parted
      exact parted
    · exact join_append (List.cons_ne_nil _ _) some

theorem Layout.meets (l : Layout) {root : List String} (top : ∀ d ∈ root, d = "") (k : Nat) :
    Meets (root ++ (l.above ++ l.vendor :: l.moduleName :: l.below))
      (nameParts (String.ofList (List.replicate k '\\') ++ l.className)) (root ++ l.above) l.vendor
      (l.moduleName :: l.rest) := by
  have named : ∀ p ∈ l.vendor :: l.moduleName :: l.rest, IsPart p := fun p member => l.parts p (by grind)
  rw [Layout.className, nameParts_join named (List.cons_ne_nil _ _)]
  refine ⟨⟨l.moduleName :: l.below, by simp⟩, fun d inside => ?_, [], rfl, List.not_mem_nil⟩
  rcases List.mem_append.mp inside with outer | above
  · exact fun part => (named d part).filled (top d outer)
  · exact l.apart d above

/-- What the path of a class is made of: the directories of the file down to the first one that is a part of
the name, and the parts of the name behind the first place where it has that one. So a class of a module is
looked for in the module, if the module is in directories named like the first parts of the class. -/
theorem candidate?_overlays :
    (∀ file className extension,
        strippedCandidate? file className extension = candidate? file className extension) ∧
      (∀ file className extension path, candidate? file className extension = some path ↔
        ∃ above shared behind, Meets (split '/' file) (nameParts className) above shared behind ∧
          behind ≠ [] ∧ path = join '/' (above ++ shared :: behind) ++ extension) ∧
      ∀ (l : Layout), ∀ front ∈ ["", "/"], ∀ (k : Nat) (extension : String),
        candidate? (front ++ l.file) (String.ofList (List.replicate k '\\') ++ l.className) extension =
          some (front ++ l.classFile ++ extension) := by
  refine ⟨strippedCandidate?_eq, fun _ _ _ _ => candidate?_eq_some_iff, fun l front member k extension => ?_⟩
  obtain ⟨root, top, rooted⟩ := exists_rooted member
  obtain ⟨found, -⟩ := rooted (l.above ++ l.vendor :: l.moduleName :: l.below) (by simp)
    fun d inside => (l.parts d (by grind)).noSlash
  obtain ⟨-, joined⟩ := rooted (l.above ++ l.vendor :: l.moduleName :: l.rest) (by simp)
    fun d inside => (l.parts d (by grind)).noSlash
  have meets := l.meets top k
  rw [← found] at meets
  refine candidate?_eq_some_iff.mpr ⟨_, _, _, meets, List.cons_ne_nil _ _, ?_⟩
  rw [List.append_assoc, joined]
  rfl

def catalogLayout : Layout where
  above := ["app", "code"]
  vendor := "Acme"
  moduleName := "Catalog"
  below := ["etc", "Acme", "di.xml"]
  rest := ["Model", "Catalog", "Item"]
  parts := by decide
  more := by decide
  apart := by decide

theorem candidate?_overlays_catalog :
    candidate? "/app/code/Acme/Catalog/etc/Acme/di.xml" "\\\\Acme\\Catalog\\Model\\Catalog\\Item" ".php" =
        some "/app/code/Acme/Catalog/Model/Catalog/Item.php" ∧
      candidate? "src/Catalog//Acme/di.xml" " Acme\\Catalog\\\\Block\\Catalog\\List\n" ".php" =
        some "src/Catalog/Block/Catalog/List.php" := by
  obtain ⟨-, guessed, placed⟩ := candidate?_overlays
  refine ⟨placed catalogLayout "/" (by decide) 2 ".php", ?_⟩
  have meets : Meets (split '/' "src/Catalog//Acme/di.xml")
      (nameParts " Acme\\Catalog\\\\Block\\Catalog\\List\n") ["src"] "Catalog" ["Block", "Catalog", "List"] :=
    ⟨⟨["", "Acme", "di.xml"], by decide⟩, by decide, ["Acme"], by decide, by decide⟩
  exact (guessed _ _ _ _).mpr ⟨_, _, _, meets, by decide, by decide⟩

end ReleaseImpact.ClassPath
