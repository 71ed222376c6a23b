import ReleaseImpact.FileSystem.Edit
import ReleaseImpact.Proofs.Listings

/-!
The shape of a file tree: its names, directories and links, without what is in its files. Main statements:

- `Entry.reach_congr`: where a path leads is decided by the directories and the links.
- `reach_shape` and `resolve_shape`: so it is decided by the shape.
- `Entry.resolve_congr`: where a path resolves to is decided by the links alone.
- `FileSystem.hasFile_shape` and its siblings: so is everything that does not open a file.
- `FileSystem.walk_shape`: the listings of a directory are decided by the shape.
- `FileSystem.shape_write`: to write into a file that is there leaves the shape as it is.
-/

namespace ReleaseImpact

namespace Entry

mutual

def shape : Entry → Entry
  | .file _ => .file []
  | .link target => .link target
  | .directory children => .directory (shapeAll children)

def shapeAll : List (String × Entry) → List (String × Entry)
  | [] => []
  | (name, e) :: rest => (name, shape e) :: shapeAll rest

end

@[simp] theorem isFile_shape (e : Entry) : e.shape.isFile = e.isFile := by cases e <;> rfl

@[simp] theorem isDirectory_shape (e : Entry) : e.shape.isDirectory = e.isDirectory := by cases e <;> rfl

theorem childIn_shapeAll (name : String) (children : List (String × Entry)) :
    childIn name (shapeAll children) = (childIn name children).map shape := by
  induction children with
  | nil => rfl
  | cons c rest ih =>
    obtain ⟨n, e⟩ := c
    rw [shapeAll, childIn, childIn, ih]
    split <;> rfl

theorem child?_shape (name : String) (e : Entry) : e.shape.child? name = (e.child? name).map shape := by
  cases e with
  | directory children => exact childIn_shapeAll name children
  | _ => rfl

theorem entryAt_shape (e : Entry) (location : Location) :
    e.shape.entryAt location = (e.entryAt location).map shape := by
  induction location generalizing e with
  | nil => rfl
  | cons name rest ih =>
    rw [entryAt, entryAt, child?_shape]
    cases e.child? name with
    | none => rfl
    | some c => exact ih c

theorem linkCount_shape (e : Entry) : e.shape.linkCount = e.linkCount := by
  induction e using inductOn with
  | file content => rfl
  | link target => rfl
  | directory children ih =>
    rw [shape, linkCount, linkCount]
    induction children with
    | nil => rfl
    | cons c rest others =>
      obtain ⟨first, further⟩ := List.forall_mem_cons.mp ih
      rw [shapeAll, linkCountAll, linkCountAll, first, others further]

/-- An entry by itself, without the content of a file. -/
def sort : Entry → Entry
  | .file _ => .file []
  | .link target => .link target
  | .directory _ => .directory []

theorem sort_shape (e : Entry) : e.shape.sort = e.sort := by cases e <;> rfl

theorem exists_directory_of_sort {e : Entry} (same : e.sort = .directory []) :
    ∃ children, e = .directory children := by
  cases e with
  | directory children => exact ⟨children, rfl⟩
  | _ => cases same

theorem sort_eq_link_iff {e : Entry} {target : String} : e.sort = .link target ↔ e = .link target := by
  cases e <;> simp [sort]

theorem reach_congr {root root' : Entry}
    (same : ∀ place, (root'.entryAt place).map sort = (root.entryAt place).map sort)
    (links : Nat) (here : Location) (parts : List String) :
    reach root' links here parts =
      (reach root links here parts).map fun led => (led.1, root'.entryAt led.1) := by
  have directory {here : Location} {children : List (String × Entry)}
      (found : root.entryAt here = some (.directory children)) :
      ∃ children', root'.entryAt here = some (.directory children') ∧
        ∀ part, (childIn part children').map sort = (childIn part children).map sort := by
    have sorts := same here
    rw [found] at sorts
    obtain ⟨e', found', sorted⟩ := Option.map_eq_some_iff.mp sorts
    obtain ⟨children', rfl⟩ := exists_directory_of_sort sorted
    exact ⟨children', found', fun part => by rw [← entryAt_concat found, ← entryAt_concat found', same]⟩
  have link {part target : String} {children children' : List (String × Entry)}
      (sorts : (childIn part children').map sort = (childIn part children).map sort)
      (inside : childIn part children = some (.link target)) : childIn part children' = some (.link target) := by
    rw [inside] at sorts
    obtain ⟨e', inside', sorted⟩ := Option.map_eq_some_iff.mp sorts
    rw [inside', sort_eq_link_iff.mp sorted]
  -- A link starts the search again, with one link less, so this is no induction on the tree or the parts.
  fun_induction reach root links here parts with
  | case1 links here =>
    rw [reach]
    rfl
  | case2 links here part rest missing =>
    rw [reach_of_missing (by simpa [missing] using same here)]
    rfl
  | case3 links here part rest children found stays ih =>
    obtain ⟨children', found', -⟩ := directory found
    rw [reach_here found' stays, ih]
  | case4 links here rest children found moves ih =>
    obtain ⟨children', found', -⟩ := directory found
    rw [reach_above found', ih]
  | case5 links here part rest children found moves down long =>
    obtain ⟨children', found', -⟩ := directory found
    rw [reach_long found' moves down long]
    rfl
  | case6 links here part rest children found moves down short inside last =>
    obtain ⟨children', found', sorts⟩ := directory found
    have absent : childIn part children' = none := by simpa [inside] using sorts part
    rw [reach_absent found' ⟨moves, down, short⟩ absent, if_pos last, Except.map, entryAt_concat found', absent]
  | case7 links here part rest children found moves down short inside further =>
    obtain ⟨children', found', sorts⟩ := directory found
    have absent : childIn part children' = none := by simpa [inside] using sorts part
    rw [reach_absent found' ⟨moves, down, short⟩ absent, if_neg further]
    rfl
  | case8 here part rest children found moves down short target inside =>
    obtain ⟨children', found', sorts⟩ := directory found
    rw [reach_link_of_none_left found' ⟨moves, down, short⟩ (link (sorts part) inside)]
    rfl
  | case9 here part rest children found moves down short target inside links ih =>
    obtain ⟨children', found', sorts⟩ := directory found
    rw [reach_link found' ⟨moves, down, short⟩ (link (sorts part) inside)]
    exact ih
  | case10 links here part rest children found moves down short child noLink inside ih =>
    obtain ⟨children', found', sorts⟩ := directory found
    obtain ⟨child', inside', sorted⟩ := Option.map_eq_some_iff.mp ((sorts part).trans (congrArg _ inside))
    have noLink' (target : String) : child' ≠ .link target := fun linked =>
      noLink target (sort_eq_link_iff.mp (sorted ▸ sort_eq_link_iff.mpr linked))
    rw [reach_child found' ⟨moves, down, short⟩ inside' noLink', ih]
  | case11 links here part rest other noDirectory found =>
    have sorts := same here
    rw [found] at sorts
    obtain ⟨other', found', sorted⟩ := Option.map_eq_some_iff.mp sorts
    have noDirectory' (children : List (String × Entry)) : other' ≠ .directory children := by
      rintro rfl
      obtain ⟨children, there⟩ := exists_directory_of_sort sorted.symm
      exact noDirectory children there
    rw [reach_of_leaf found' noDirectory']
    rfl

theorem reach_shape (root : Entry) (links : Nat) (here : Location) (parts : List String) :
    reach root.shape links here parts =
      (reach root links here parts).map fun led => (led.1, led.2.map shape) := by
  have same (place : Location) : (root.shape.entryAt place).map sort = (root.entryAt place).map sort := by
    rw [entryAt_shape, Option.map_map]
    exact congrArg (Option.map · _) (funext sort_shape)
  rw [reach_congr same]
  cases led : reach root links here parts with
  | error fault => rfl
  | ok found => rw [Except.map, Except.map, entryAt_shape, entryAt_of_reach led]

theorem resolve_congr {root root' : Entry}
    (same : ∀ place target, root'.entryAt place = some (.link target) ↔ root.entryAt place = some (.link target))
    (workingDirectory : Location) (depth : Nat) (opened : List Spelling) (here : Spelling)
    (parts : List String) :
    resolve root' workingDirectory depth opened here parts =
      resolve root workingDirectory depth opened here parts := by
  have linked {place : Location} {part target : String}
      (child : (root.entryAt place).bind (child? part) = some (.link target)) :
      (root'.entryAt place).bind (child? part) = some (.link target) := by
    rw [bind_child?] at child ⊢
    exact (same _ target).mpr child
  fun_induction resolve root workingDirectory depth opened here parts with
  | case1 => rw [resolve]
  | case2 depth opened here part rest stays ih =>
    rw [resolve]
    simpa [stays] using ih
  | case3 depth opened here rest moves ih =>
    rw [resolve]
    simpa [moves] using ih
  | case4 opened here part rest moves down target child place =>
    rw [resolve, linked child]
    simp [moves, down, place]
  | case5 opened here part rest moves down target child place depth again =>
    rw [resolve, linked child]
    simp [moves, down, place, again]
  | case6 opened here part rest moves down target child place depth fresh start found led ihTarget ihRest =>
    rw [resolve, linked child]
    simp only [start, place, dite_eq_ite] at fresh led ihTarget
    simp [moves, down, fresh, ihTarget, led, ihRest]
  | case7 opened here part rest moves down target child place depth fresh start found led ih =>
    rw [resolve, linked child]
    simp only [start, place, dite_eq_ite] at fresh led ih
    simp [moves, down, fresh, ih, led]
  | case8 depth opened here part rest moves down noLink ih =>
    rw [resolve]
    cases child : (root'.entryAt (here.location workingDirectory)).bind (child? part) with
    | none => simpa [moves, down] using ih
    | some e =>
      cases e with
      | link target =>
        rw [bind_child?] at child
        exact absurd ((bind_child? ..).trans ((same _ target).mp child)) (noLink target)
      | file content => simpa [moves, down] using ih
      | directory children => simpa [moves, down] using ih

theorem resolve_shape (root : Entry) (workingDirectory : Location) (depth : Nat) (opened : List Spelling)
    (here : Spelling) (parts : List String) :
    resolve root.shape workingDirectory depth opened here parts =
      resolve root workingDirectory depth opened here parts := by
  refine resolve_congr (fun place target => ?_) workingDirectory depth opened here parts
  rw [entryAt_shape]
  cases root.entryAt place with
  | none => simp
  | some e => cases e <;> simp [shape]

theorem fileNames_shapeAll (leadsTo : String → Bool) (children : List (String × Entry)) :
    fileNames leadsTo (shapeAll children) = fileNames leadsTo children := by
  induction children with
  | nil => rfl
  | cons c rest ih =>
    obtain ⟨name, e⟩ := c
    cases e <;> simp only [shapeAll, shape, fileNames, ih]

theorem walk_shape (leadsTo : Location → Bool) (excluded : String → Bool) (below : Location) (e : Entry) :
    walk leadsTo excluded below e.shape = walk leadsTo excluded below e := by
  induction e using inductOn generalizing below with
  | file content => rfl
  | link target => rfl
  | directory children ih =>
    have inner : walkChildren leadsTo excluded below (shapeAll children) =
        walkChildren leadsTo excluded below children := by
      induction children with
      | nil => rfl
      | cons c rest others =>
        obtain ⟨first, further⟩ := List.forall_mem_cons.mp ih
        simp only [shapeAll, walkChildren, isDirectory_shape, others further, first]
    rw [shape, walk, walk, fileNames_shapeAll, inner]

theorem shapeAll_setChild {name : String} {change : Option Entry → Option Entry} {e e' : Entry}
    {children : List (String × Entry)} (found : childIn name children = some e)
    (changed : change (some e) = some e') (same : e'.shape = e.shape) :
    shapeAll (setChild name change children) = shapeAll children := by
  induction children with
  | nil => cases found
  | cons c rest ih =>
    obtain ⟨n, d⟩ := c
    unfold childIn at found
    unfold setChild
    split at found
    · next here =>
      cases found
      rw [if_pos here, changed]
      simp [shapeAll, same, here]
    · next other => rw [if_neg other, shapeAll, shapeAll, ih found]

theorem shape_changeAt {e : Entry} {location : Location} {old : List UInt8} (new : List UInt8)
    (found : e.entryAt location = some (.file old)) :
    (e.changeAt (fun _ => some (.file new)) location).shape = e.shape := by
  induction location generalizing e with
  | nil => rw [changeAt]
  | cons name rest ih =>
    obtain ⟨c, child, further⟩ := Option.bind_eq_some_iff.mp found
    cases e with
    | file content => cases child
    | link target => cases child
    | directory children =>
      have inside : childIn name children = some c := child
      cases rest with
      | nil =>
        cases further
        have same : (Entry.file new).shape = (Entry.file old).shape := rfl
        rw [changeAt, shape, shape, shapeAll_setChild inside rfl same]
      | cons next rest =>
        rw [changeAt, shape, shape, shapeAll_setChild inside rfl (ih further)]
        exact nofun

end Entry

namespace FileSystem

def shape (fs : FileSystem) : FileSystem := { fs with root := fs.root.shape }

theorem locate_shape (fs : FileSystem) (text : String) :
    fs.shape.locate text = (fs.locate text).map fun led => (led.1, led.2.shape) := by
  unfold locate Entry.follow
  cases checkText text with
  | error fault => rfl
  | ok u =>
    have led : fs.shape.root.reach maxLinks (fs.shape.start text) (Entry.rawParts text) = _ :=
      fs.root.reach_shape maxLinks (fs.start text) (Entry.rawParts text)
    simp only [bind, Except.bind, led]
    cases fs.root.reach maxLinks (fs.start text) (Entry.rawParts text) with
    | error fault => rfl
    | ok result =>
      obtain ⟨location, _ | e⟩ := result <;> rfl

theorem probe_shape (fs : FileSystem) {accepts : Entry → Bool}
    (blind : ∀ e : Entry, accepts e.shape = accepts e) (text : String) :
    fs.shape.probe accepts text = fs.probe accepts text := by
  unfold probe
  rw [locate_shape]
  cases fs.locate text with
  | error fault => cases fault <;> rfl
  | ok led => simp only [Except.map, blind]

theorem hasFile_shape (fs : FileSystem) (text : String) : fs.shape.hasFile text = fs.hasFile text :=
  fs.probe_shape Entry.isFile_shape text

theorem hasDirectory_shape (fs : FileSystem) (text : String) :
    fs.shape.hasDirectory text = fs.hasDirectory text :=
  fs.probe_shape Entry.isDirectory_shape text

theorem isDirectory_shape (fs : FileSystem) (text : String) :
    fs.shape.isDirectory text = fs.isDirectory text := by
  unfold isDirectory
  rw [locate_shape]
  cases fs.locate text with
  | error fault => rfl
  | ok led => exact led.2.isDirectory_shape

theorem walk_shape (fs : FileSystem) (excluded : String → Bool) (top : Path) :
    fs.shape.walk excluded top = fs.walk excluded top := by
  unfold walk
  rw [locate_shape]
  cases fs.locate top.text with
  | error fault => rfl
  | ok led => simp only [Except.map, Entry.walk_shape, isDirectory_shape]

theorem resolve_shape (fs : FileSystem) (p : Path) : fs.shape.resolve p = fs.resolve p := by
  unfold resolve
  split
  · rfl
  · have count : fs.shape.root.linkCount = fs.root.linkCount := fs.root.linkCount_shape
    have spelt (depth : Nat) :
        fs.shape.root.resolve fs.workingDirectory depth = fs.root.resolve fs.workingDirectory depth := by
      funext opened here parts
      exact fs.root.resolve_shape fs.workingDirectory depth opened here parts
    have start : fs.shape.workingDirectory = fs.workingDirectory := rfl
    simp only [count, spelt, start, locate_shape]
    generalize fs.locate _ = led
    cases led with
    | error fault => cases fault <;> rfl
    | ok led => rfl

theorem shape_write {fs fs' : FileSystem} {text : String} {content : List UInt8}
    (there : fs.isFile text = true) (written : fs.write text content = .ok fs') : fs'.shape = fs.shape := by
  unfold isFile at there
  cases located : fs.locate text with
  | error fault =>
    rw [located] at there
    cases there
  | ok found =>
    obtain ⟨location, e⟩ := found
    rw [located] at there
    obtain ⟨checked, led⟩ := locate_eq_ok_iff.mp located
    cases e with
    | link target => cases there
    | directory children => cases there
    | file old =>
      have goes : fs.writeLocation text = .ok location := by
        simp only [writeLocation, checked, led, bind, Except.bind]
      simp only [write, goes, bind, Except.bind, Except.ok.injEq] at written
      have kept := Entry.shape_changeAt content (Entry.entryAt_of_reach led)
      rw [← written, changeAt, shape, shape, kept]

end FileSystem

end ReleaseImpact
