import ReleaseImpact.Proofs.ResolvedPaths
import ReleaseImpact.Proofs.TreeReports

/-!
A directory without what a walk through it does not enter. A scan reads nothing else, unless a link leads
there. Main statements:

- `Entry.walk_prune`: a walk finds the same without the directories of excluded names.
- `Entry.walk_congr_links`: a walk depends on what lies outside through the links in the directory alone.
- `FileSystem.content_of_alikeOutside`: directories that are alike but for excluded directories have one
  content.
- `readBelow_of_content`: what is read below a directory depends on its content alone.
-/

namespace ReleaseImpact

open FileSystem

namespace Entry

variable {excluded : String → Bool} {leadsTo leadsTo' : Location → Bool} {below : Location}

mutual

/-- What is left of an entry without the directories of excluded names in it. -/
def prune (excluded : String → Bool) : Entry → Entry
  | .directory children => .directory (pruneAmong excluded children)
  | e => e

def pruneAmong (excluded : String → Bool) : List (String × Entry) → List (String × Entry)
  | [] => []
  | (name, e) :: rest =>
    if e.isDirectory && excluded name then pruneAmong excluded rest
    else (name, prune excluded e) :: pruneAmong excluded rest

end

@[simp] theorem isDirectory_prune (e : Entry) : (e.prune excluded).isDirectory = e.isDirectory := by
  cases e <;> rfl

theorem prune_of_no_directory {e : Entry} (noDirectory : e.isDirectory = false) : e.prune excluded = e := by
  cases e with
  | directory children => cases noDirectory
  | file content => rfl
  | link target => rfl

theorem mem_pruneAmong_iff {children : List (String × Entry)} {name : String} {d : Entry} :
    (name, d) ∈ pruneAmong excluded children ↔
      ∃ c, (name, c) ∈ children ∧ (c.isDirectory && excluded name) = false ∧ d = c.prune excluded := by
  induction children with
  | nil => simp [pruneAmong]
  | cons first rest ih =>
    obtain ⟨n, e⟩ := first
    simp only [List.mem_cons, Prod.mk.injEq, or_and_right, exists_or]
    unfold pruneAmong
    split
    · next dropped =>
      rw [ih]
      refine (or_iff_right ?_).symm
      rintro ⟨_, ⟨rfl, rfl⟩, kept, -⟩
      cases kept.symm.trans dropped
    · next kept =>
      rw [List.mem_cons, ih]
      refine or_congr_left ⟨?_, ?_⟩
      · intro same
        obtain ⟨rfl, rfl⟩ := Prod.mk.inj same
        exact ⟨e, ⟨rfl, rfl⟩, by simpa using kept, rfl⟩
      · rintro ⟨_, ⟨rfl, rfl⟩, -, rfl⟩
        rfl

/-! ## Walks -/

theorem fileNames_pruneAmong (leads : String → Bool) (children : List (String × Entry)) :
    fileNames leads (pruneAmong excluded children) = fileNames leads children := by
  induction children with
  | nil => rfl
  | cons first rest ih =>
    obtain ⟨name, e⟩ := first
    unfold pruneAmong
    cases e with
    | file content => simp [isDirectory, prune, fileNames, ih]
    | link target => simp [isDirectory, prune, fileNames, ih]
    | directory inner =>
      split
      · simpa [fileNames] using ih
      · simpa [prune, fileNames] using ih

theorem walk_prune (leadsTo : Location → Bool) (excluded : String → Bool) (below : Location) (e : Entry) :
    walk leadsTo excluded below (e.prune excluded) = walk leadsTo excluded below e := by
  induction e using inductOn generalizing below with
  | file content => rfl
  | link target => rfl
  | directory children ih =>
    have inside (some : List (String × Entry)) (sub : ∀ c ∈ some, c ∈ children) :
        walkChildren leadsTo excluded below (pruneAmong excluded some) =
          walkChildren leadsTo excluded below some := by
      induction some with
      | nil => rfl
      | cons first rest others =>
        obtain ⟨name, e⟩ := first
        obtain ⟨here, sub⟩ := List.forall_mem_cons.mp sub
        have later := others sub
        cases directory : e.isDirectory <;> cases named : excluded name <;>
          simp [pruneAmong, walkChildren, directory, named, later, ih _ here]
    rw [prune, walk, walk, fileNames_pruneAmong, inside children fun _ member => member]

theorem walk_congr_links {e : Entry}
    (same : ∀ names ∈ e.linkPlaces, leadsTo (below ++ names) = leadsTo' (below ++ names)) :
    walk leadsTo excluded below e = walk leadsTo' excluded below e := by
  induction e using inductOn generalizing below with
  | file content => rfl
  | link target => rfl
  | directory children ih =>
    have files : fileNames (fun name => leadsTo (below ++ [name])) children =
        fileNames (fun name => leadsTo' (below ++ [name])) children :=
      fileNames_congr fun name target member =>
        same [name] (mem_linkPlacesAmong member (List.mem_singleton_self []))
    rw [walk, walk, files, walkChildren_congr]
    intro c member
    refine ih c member fun names listed => ?_
    rw [List.append_assoc]
    exact same (c.1 :: names) (mem_linkPlacesAmong member listed)

/-! ## What a walk lists -/

theorem exists_of_descends_prune {e : Entry} {names : List String} {children : List (String × Entry)}
    (descends : (e.prune excluded).Descends excluded names children) :
    ∃ children', e.Descends excluded names children' ∧ children = pruneAmong excluded children' := by
  induction e using inductOn generalizing names with
  | file content => cases descends
  | link target => cases descends
  | directory inner ih =>
    rw [prune] at descends
    cases descends with
    | here => exact ⟨inner, .here, rfl⟩
    | down child kept further =>
      obtain ⟨c, member, -, rfl⟩ := mem_pruneAmong_iff.mp child
      obtain ⟨children', descends, same⟩ := ih _ member further
      exact ⟨children', .down member kept descends, same⟩

/-- What is no directory stands in the whole entry where it stands in what is left of it. -/
theorem entryAt_of_descends_prune {e d : Entry} (proper : e.Proper) {names : List String} {name : String}
    {children : List (String × Entry)} (descends : (e.prune excluded).Descends excluded names children)
    (child : (name, d) ∈ children) (noDirectory : d.isDirectory = false) :
    e.entryAt (names ++ [name]) = some d := by
  obtain ⟨children', whole, rfl⟩ := exists_of_descends_prune descends
  obtain ⟨c, member, -, rfl⟩ := mem_pruneAmong_iff.mp child
  rw [isDirectory_prune] at noDirectory
  have above := entryAt_of_descends proper whole
  rw [prune_of_no_directory noDirectory, entryAt_append, above]
  show ((childIn name children').bind some) = some c
  rw [(proper.entryAt above).2.childIn_of_mem member]
  rfl

theorem mem_linkPlaces_of_descends {e : Entry} {names : List String} {name target : String}
    {children : List (String × Entry)} (descends : e.Descends excluded names children)
    (child : (name, .link target) ∈ children) : names ++ [name] ∈ e.linkPlaces := by
  induction descends with
  | here => exact mem_linkPlacesAmong child (List.mem_singleton_self [])
  | down inside kept further ih => exact mem_linkPlacesAmong inside (ih child)

end Entry

/-! ## Content -/

namespace FileSystem

variable {fs fs' : FileSystem} {excluded : List String} {root : Path}

/-- What stands at a path, without the directories of excluded names below it. -/
def pruned (fs : FileSystem) (excluded : List String) (root : Path) : Except PathFault Entry :=
  (fs.locate root.text).map fun found => found.2.prune (excluded.contains ·)

/-- Two file systems differ below a directory in nothing but what is in directories of excluded names, and
no link that is elsewhere in the directory shows the difference. -/
structure AlikeOutside (fs fs' : FileSystem) (excluded : List String) (root : Path) : Prop where
  pruned : fs'.pruned excluded root = fs.pruned excluded root
  links : ∀ e, fs.pruned excluded root = .ok e → ∀ names ∈ e.linkPlaces,
    fs'.isDirectory (root.below names).text = fs.isDirectory (root.below names).text ∧
      fs'.read (root.below names).text = fs.read (root.below names).text

theorem alikeOutside_of_no_links {e : Entry} (left : fs.pruned excluded root = .ok e)
    (left' : fs'.pruned excluded root = .ok e) (noLinks : e.linkPlaces = []) :
    fs.AlikeOutside fs' excluded root where
  pruned := left'.trans left.symm
  links d same names listed := by
    cases left.symm.trans same
    rw [noLinks] at listed
    cases listed

theorem pruned_eq_ok_iff {e : Entry} :
    fs.pruned excluded root = .ok e ↔
      ∃ place d, fs.locate root.text = .ok (place, d) ∧ d.prune (excluded.contains ·) = e := by
  unfold pruned
  cases fs.locate root.text with
  | error fault => simp [Except.map]
  | ok found =>
    constructor
    · intro left
      exact ⟨found.1, found.2, rfl, Except.ok.inj left⟩
    · rintro ⟨place, d, same, rfl⟩
      cases same
      rfl

theorem walk_eq_of_pruned {e : Entry} (left : fs.pruned excluded root = .ok e) :
    fs.walk (excluded.contains ·) root =
      (e.walk (fun names => withinLimit root names && fs.isDirectory (root.below names).text)
        (excluded.contains ·) []).filter fun listing => withinLimit root listing.1 := by
  obtain ⟨place, d, located, rfl⟩ := pruned_eq_ok_iff.mp left
  rw [walk, located, Entry.walk_prune]

/-- What is read of a file that stands below a path is its content, if the path can be asked for. -/
theorem read_of_stands (proper : fs.root.Proper) {place : Location} {e : Entry}
    (located : fs.locate root.text = .ok (place, e)) {names : Location} (named : names ≠ [])
    {content : List UInt8} (found : e.entryAt names = some (.file content)) :
    fs.read (root.below names).text =
      (checkText (root.below names).text).map fun _ => content := by
  have properNames := ((proper_of_located proper located).entryAt found).1
  obtain ⟨left, goesOn⟩ := reach_below located named properNames
  have start := Entry.entryAt_of_reach (locate_eq_ok_iff.mp located).2
  have down := goesOn.trans (Entry.reach_down start properNames found nofun)
  cases checked : checkText (root.below names).text with
  | ok u =>
    rw [read, locate_eq_ok_iff.mpr ⟨checked, down⟩]
    rfl
  | error fault =>
    rw [read, locate, checked]
    rfl

theorem content_of_alikeOutside (proper : fs.root.Proper) (proper' : fs'.root.Proper)
    (alike : fs.AlikeOutside fs' excluded root) : fs'.content excluded root = fs.content excluded root := by
  cases left : fs.pruned excluded root with
  | error fault =>
    have nowhere {fs : FileSystem} (left : fs.pruned excluded root = .error fault) :
        fs.content excluded root = [] := by
      unfold pruned at left
      unfold content walk
      cases located : fs.locate root.text with
      | error fault => rfl
      | ok found =>
        rw [located] at left
        cases left
    rw [nowhere left, nowhere (alike.pruned.trans left)]
  | ok e =>
    have left' := alike.pruned.trans left
    obtain ⟨place, d, located, same⟩ := pruned_eq_ok_iff.mp left
    obtain ⟨place', d', located', same'⟩ := pruned_eq_ok_iff.mp left'
    have walked : e.walk (fun names => withinLimit root names && fs'.isDirectory (root.below names).text)
          (excluded.contains ·) [] =
        e.walk (fun names => withinLimit root names && fs.isDirectory (root.below names).text)
          (excluded.contains ·) [] :=
      Entry.walk_congr_links fun names listed => congrArg _ (alike.links e left names listed).1
    rw [content, content, walk_eq_of_pruned left', walk_eq_of_pruned left, walked]
    refine List.flatMap_congr fun listing member => List.map_congr_left fun name listed => ?_
    obtain ⟨names, children, descends, rfl⟩ := Entry.mem_walk_iff.mp (List.mem_filter.mp member).1
    rw [sortNames, List.mem_mergeSort, mem_names] at listed
    have named : names ++ [name] ≠ [] := by simp
    rw [List.nil_append]
    congr 1
    -- A file stands in both trees. Of a link it is only known that it leads to the same content.
    rcases listed with ⟨bytes, child⟩ | ⟨target, child, -⟩
    · have stands := Entry.entryAt_of_descends_prune (proper_of_located proper located)
        (same ▸ descends) child rfl
      have stands' := Entry.entryAt_of_descends_prune (proper_of_located proper' located')
        (same' ▸ descends) child rfl
      rw [read_of_stands proper located named stands, read_of_stands proper' located' named stands']
    · exact (alike.links e left _ (Entry.mem_linkPlaces_of_descends descends child)).2

end FileSystem

/-! ## Registries -/

open Survey

variable {fs fs' : FileSystem}

theorem gather_congr {type : ReportType} {file : Path}
    (same : readDocument fs' file.text = readDocument fs file.text) (r : Registry) :
    gather fs' type r file = gather fs type r file := by
  unfold gather scanned
  rw [same]

theorem readBelow_of_content {settings : ScanSettings} {root : Path}
    (same : fs'.content settings.excludedDirs root = fs.content settings.excludedDirs root)
    (type : ReportType) : readBelow fs' settings root type = readBelow fs settings root type := by
  unfold readBelow gathered
  rw [filesBelow_eq_map_content, filesBelow_eq_map_content, same, List.foldl_map, List.foldl_map]
  refine List.foldl_ext _ _ _ fun r e member => gather_congr ?_ r
  rw [readDocument, readDocument, (mem_content member).2, (mem_content (same ▸ member)).2]

end ReleaseImpact
