import ReleaseImpact.Proofs.Copies
import ReleaseImpact.Proofs.Listings
import ReleaseImpact.Proofs.SkippedFiles

/-!
A source tree without some of its files. Paths that still lead somewhere lead where they led, so a scan
finds what it found before if the files were unusable and no link that it takes nodes through needs one of
them. Main statements:

- `reach_of_without`: what a path leads to without the files, it led to with them.
- `listed_without`: the files that are listed are those from before without the files, apart from links to
  directories.
- `readDocument_without`: a path is read as before, or cannot be opened any more.
- `readAll_filter`: files that are not counted may be left out.
- `scanTree_without`: a scan without unusable files.
- `scanTree_of_broken_link`: a file of no wanted kind may be what a link leads to.
-/

namespace ReleaseImpact

instance (name : String) : Decidable (ProperName name) :=
  decidable_of_iff (name ≠ "" ∧ name ≠ "." ∧ name ≠ ".." ∧ '/' ∉ name.toList ∧
      name.utf8ByteSize ≤ Entry.maxNameLength)
    ⟨fun ⟨nonempty, notHere, notAbove, noSlash, short⟩ => ⟨nonempty, notHere, notAbove, noSlash, short⟩,
      fun proper => ⟨proper.nonempty, proper.notHere, proper.notAbove, proper.noSlash, proper.short⟩⟩

namespace Entry

/-! ## Trees with proper names -/

/-- Files, links and directories with distinct proper names. -/
inductive Proper : Entry → Prop
  | file (content : List UInt8) : Proper (.file content)
  | link (target : String) : Proper (.link target)
  | directory {children : List (String × Entry)} (distinct : (children.map Prod.fst).Nodup)
      (names : ∀ c ∈ children, ProperName c.1) (below : ∀ c ∈ children, Proper c.2) :
      Proper (.directory children)

theorem Proper.child {children : List (String × Entry)} (proper : Proper (.directory children))
    {name : String} {c : Entry} (found : childIn name children = some c) : ProperName name ∧ c.Proper := by
  cases proper with
  | directory distinct names below =>
    have member := mem_of_childIn found
    exact ⟨names _ member, below _ member⟩

theorem Proper.childIn_of_mem {children : List (String × Entry)} (proper : Proper (.directory children))
    {name : String} {c : Entry} (member : (name, c) ∈ children) : childIn name children = some c := by
  cases proper with
  | directory distinct names below => exact Entry.childIn_of_mem distinct member

mutual

def isProper : Entry → Bool
  | .directory children => decide (children.map Prod.fst).Nodup && areProper children
  | _ => true

def areProper : List (String × Entry) → Bool
  | [] => true
  | (name, e) :: rest => decide (ProperName name) && isProper e && areProper rest

end

theorem areProper_iff {children : List (String × Entry)} :
    areProper children = true ↔ ∀ c ∈ children, ProperName c.1 ∧ c.2.isProper = true := by
  induction children with
  | nil => simp [areProper]
  | cons c rest ih => simp [areProper, ih]

theorem proper_iff {e : Entry} : e.Proper ↔ e.isProper = true := by
  induction e using inductOn with
  | file content => exact iff_of_true (.file content) rfl
  | link target => exact iff_of_true (.link target) rfl
  | directory children ih =>
    rw [isProper, Bool.and_eq_true, decide_eq_true_eq, areProper_iff]
    constructor
    · rintro (_ | _ | ⟨distinct, names, below⟩)
      exact ⟨distinct, fun c member => ⟨names c member, (ih c member).mp (below c member)⟩⟩
    · rintro ⟨distinct, each⟩
      exact .directory distinct (fun c member => (each c member).1)
        fun c member => (ih c member).mpr (each c member).2

instance (e : Entry) : Decidable e.Proper := decidable_of_iff _ proper_iff.symm

theorem Proper.entryAt {e d : Entry} {location : Location} (proper : e.Proper)
    (found : e.entryAt location = some d) : (∀ name ∈ location, ProperName name) ∧ d.Proper := by
  induction location generalizing e with
  | nil =>
    cases found
    exact ⟨List.forall_mem_nil _, proper⟩
  | cons name rest ih =>
    obtain ⟨children, c, rfl, child, further⟩ := exists_of_entryAt_cons found
    obtain ⟨first, inner⟩ := proper.child child
    obtain ⟨names, last⟩ := ih inner further
    exact ⟨List.forall_mem_cons.mpr ⟨first, names⟩, last⟩

theorem entryAt_of_descends {e : Entry} (proper : e.Proper) {excluded : String → Bool} {names : List String}
    {children : List (String × Entry)} (descends : e.Descends excluded names children) :
    e.entryAt names = some (.directory children) := by
  induction descends with
  | here => rfl
  | down child kept further ih =>
    have found := proper.childIn_of_mem child
    show (childIn _ _).bind _ = _
    rw [found]
    exact ih (proper.child found).2

/-! ## Entries without some files -/

mutual

/-- What is left of an entry without the files and links at some locations. Directories stay. -/
def without (gone : Location → Bool) (here : Location) : Entry → Entry
  | .file content => .file content
  | .link target => .link target
  | .directory children => .directory (withoutAmong gone here children)

def withoutAmong (gone : Location → Bool) (here : Location) :
    List (String × Entry) → List (String × Entry)
  | [] => []
  | (name, e) :: rest =>
    if e.isDirectory || !gone (here ++ [name]) then
      (name, without gone (here ++ [name]) e) :: withoutAmong gone here rest
    else withoutAmong gone here rest

end

variable {gone : Location → Bool} {here : Location} {children : List (String × Entry)} {e : Entry}

@[simp] theorem isDirectory_without : (e.without gone here).isDirectory = e.isDirectory := by
  cases e <;> rfl

theorem without_eq_link_iff {target : String} : e.without gone here = .link target ↔ e = .link target := by
  cases e <;> simp [without]

theorem mem_withoutAmong_iff {name : String} {e' : Entry} :
    (name, e') ∈ withoutAmong gone here children ↔
      ∃ e, (name, e) ∈ children ∧ (e.isDirectory || !gone (here ++ [name])) = true ∧
        e' = e.without gone (here ++ [name]) := by
  induction children with
  | nil => simp [withoutAmong]
  | cons c rest ih =>
    obtain ⟨n, e⟩ := c
    unfold withoutAmong
    split
    · next stays =>
      rw [List.mem_cons, ih]
      constructor
      · rintro (same | ⟨e, member, rest⟩)
        · cases same
          exact ⟨e, List.mem_cons_self, stays, rfl⟩
        · exact ⟨e, List.mem_cons_of_mem _ member, rest⟩
      · rintro ⟨e, member, rest⟩
        rcases List.mem_cons.mp member with same | member
        · cases same
          exact .inl (by rw [rest.2])
        · exact .inr ⟨e, member, rest⟩
    · next falls =>
      rw [ih]
      refine exists_congr fun d => and_congr_left fun rest => ?_
      rw [List.mem_cons, or_iff_right]
      rintro same
      cases same
      exact falls rest.1

theorem childIn_withoutAmong {name : String} (found : childIn name children = some e)
    (stays : (e.isDirectory || !gone (here ++ [name])) = true) :
    childIn name (withoutAmong gone here children) = some (e.without gone (here ++ [name])) := by
  induction children with
  | nil => cases found
  | cons c rest ih =>
    obtain ⟨n, d⟩ := c
    unfold childIn at found
    unfold withoutAmong
    split at found
    · next same =>
      cases found
      subst same
      rw [if_pos stays, childIn, if_pos rfl]
    · next other =>
      split
      · rw [childIn, if_neg other]
        exact ih found
      · exact ih found

theorem childIn_of_withoutAmong (proper : Proper (.directory children)) {name : String} {e' : Entry}
    (found : childIn name (withoutAmong gone here children) = some e') :
    ∃ e, childIn name children = some e ∧ e' = e.without gone (here ++ [name]) := by
  obtain ⟨e, member, -, same⟩ := mem_withoutAmong_iff.mp (mem_of_childIn found)
  exact ⟨e, proper.childIn_of_mem member, same⟩

theorem entryAt_without {d : Entry} {names : Location} (found : e.entryAt names = some d)
    (stays : (d.isDirectory || !gone (here ++ names)) = true) :
    (e.without gone here).entryAt names = some (d.without gone (here ++ names)) := by
  induction names generalizing e here with
  | nil =>
    cases found
    rw [List.append_nil]
    rfl
  | cons name rest ih =>
    obtain ⟨children, c, rfl, child, further⟩ := exists_of_entryAt_cons found
    have split : here ++ name :: rest = here ++ [name] ++ rest := by simp
    rw [split] at stays ⊢
    have kept : (c.isDirectory || !gone (here ++ [name])) = true := by
      cases rest with
      | nil =>
        cases further
        simpa using stays
      | cons next more =>
        obtain ⟨inner, -, rfl, -⟩ := exists_of_entryAt_cons further
        rfl
    show (childIn name (withoutAmong gone here children)).bind _ = _
    rw [childIn_withoutAmong child kept]
    exact ih further stays

theorem entryAt_of_without {d' : Entry} {names : Location} (proper : e.Proper)
    (found : (e.without gone here).entryAt names = some d') :
    ∃ d, e.entryAt names = some d ∧ d' = d.without gone (here ++ names) := by
  induction names generalizing e here with
  | nil =>
    cases found
    exact ⟨e, rfl, by rw [List.append_nil]⟩
  | cons name rest ih =>
    obtain ⟨left, c', same, child, further⟩ := exists_of_entryAt_cons found
    cases e with
    | file content => cases same
    | link target => cases same
    | directory children =>
      cases same
      obtain ⟨c, there, rfl⟩ := childIn_of_withoutAmong proper child
      obtain ⟨d, last, rfl⟩ := ih (proper.child there).2 further
      refine ⟨d, ?_, by simp⟩
      show (childIn name children).bind _ = _
      rw [there]
      exact last

/-! ## Paths without some files -/

theorem reach_of_without {root d' : Entry} (proper : root.Proper) {links : Nat} {here location : Location}
    {parts : List String}
    (led : reach (root.without gone []) links here parts = .ok (location, some d')) :
    ∃ d, reach root links here parts = .ok (location, some d) ∧ d' = d.without gone location := by
  have directory {here : Location} {left : List (String × Entry)}
      (found : (root.without gone []).entryAt here = some (.directory left)) :
      ∃ children, root.entryAt here = some (.directory children) ∧ Proper (.directory children) ∧
        left = withoutAmong gone here children := by
    obtain ⟨e, there, same⟩ := entryAt_of_without proper found
    cases e with
    | file content => cases same
    | link target => cases same
    | directory children =>
      cases same
      exact ⟨children, there, (proper.entryAt there).2, rfl⟩
  generalize trimmed : root.without gone [] = root' at led directory
  fun_induction reach root' links here parts with
  | case1 links here =>
    subst trimmed
    obtain ⟨rfl, found⟩ := Prod.mk.inj (Except.ok.inj led)
    obtain ⟨d, there, same⟩ := entryAt_of_without proper found
    exact ⟨d, by rw [reach, there], same⟩
  | case3 links here part rest left found stays ih =>
    obtain ⟨children, there, -⟩ := directory found
    rw [reach_here there stays]
    exact ih led
  | case4 links here rest left found moves ih =>
    obtain ⟨children, there, -⟩ := directory found
    rw [reach_above there]
    exact ih led
  | case9 here part rest left found moves down short target inside links ih =>
    obtain ⟨children, there, inner, rfl⟩ := directory found
    obtain ⟨c, child, same⟩ := childIn_of_withoutAmong inner inside
    cases without_eq_link_iff.mp same.symm
    rw [reach_link there ⟨moves, down, short⟩ child]
    exact ih led
  | case10 links here part rest left found moves down short child noLink inside ih =>
    obtain ⟨children, there, inner, rfl⟩ := directory found
    obtain ⟨c, child, rfl⟩ := childIn_of_withoutAmong inner inside
    rw [reach_child there ⟨moves, down, short⟩ child fun target same => noLink target (without_eq_link_iff.mpr same)]
    exact ih led
  | _ => simp_all

/-! ## Listings without some files -/

variable {f f' : Location → Bool} {excluded : String → Bool} {place below : Location}

theorem fileNames_withoutAmong {leads leads' alike : String → Bool}
    (agree : ∀ name, alike name = true → leads' name = leads name) :
    (fileNames leads' (withoutAmong gone here children)).filter alike =
      (fileNames leads children).filter fun name => alike name && !gone (here ++ [name]) := by
  induction children with
  | nil => rfl
  | cons c rest ih =>
    obtain ⟨name, e⟩ := c
    unfold withoutAmong
    cases e with
    | directory inner => simp [fileNames, without, isDirectory, ih]
    | file content =>
      cases removed : gone (here ++ [name]) <;>
        simp [fileNames, without, isDirectory, removed, List.filter_cons, ih]
    | link target =>
      cases removed : gone (here ++ [name]) with
      | true => cases led : leads name <;> simp [fileNames, isDirectory, led, removed, ih]
      | false =>
        cases same : alike name with
        | true =>
          have agree := agree name same
          cases led : leads name <;>
            simp [fileNames, without, isDirectory, agree, led, removed, same, ih]
        | false =>
          cases led : leads name <;> cases led' : leads' name <;>
            simp [fileNames, without, isDirectory, led, led', removed, same, ih]

theorem sorted_sortNames (names : List String) :
    (sortNames names).Pairwise fun a b => decide (a ≤ b) = true :=
  List.pairwise_mergeSort (by simpa using fun _ _ _ => String.le_trans) (by simpa using String.le_total) names

theorem sortNames_filter (names : List String) (kept : String → Bool) :
    sortNames (names.filter kept) = (sortNames names).filter kept := by
  have perm : (sortNames (names.filter kept)).Perm ((sortNames names).filter kept) :=
    (List.mergeSort_perm ..).trans ((List.mergeSort_perm ..).symm.filter kept)
  refine perm.eq_of_pairwise (fun a b _ _ up down => ?_) (sorted_sortNames _)
    ((sorted_sortNames names).filter kept)
  exact String.le_antisymm (of_decide_eq_true up) (of_decide_eq_true down)

/-- A listing of some files only. -/
def keepOnly (kept : Location → Bool) (listing : Listing) : Listing :=
  (listing.1, listing.2.filter fun name => kept (listing.1 ++ [name]))

theorem walkChildren_withoutAmong {alike kept : Location → Bool}
    (each : ∀ c ∈ children,
      (walk f' excluded (below ++ [c.1]) (c.2.without gone (place ++ below ++ [c.1]))).map (keepOnly alike) =
        (walk f excluded (below ++ [c.1]) c.2).map (keepOnly kept)) :
    (walkChildren f' excluded below (withoutAmong gone (place ++ below) children)).map
        (fun group => (group.1, group.2.map (keepOnly alike))) =
      (walkChildren f excluded below children).map fun group => (group.1, group.2.map (keepOnly kept)) := by
  induction children with
  | nil => rfl
  | cons c rest ih =>
    obtain ⟨name, e⟩ := c
    obtain ⟨first, others⟩ := List.forall_mem_cons.mp each
    have others := ih others
    unfold withoutAmong
    split
    · rw [walkChildren, walkChildren, isDirectory_without]
      split
      · rw [List.map_cons, List.map_cons, first, others]
      · exact others
    · next falls =>
      have noDirectory : e.isDirectory = false := by
        rw [Bool.or_eq_true, not_or] at falls
        exact Bool.eq_false_iff.mpr falls.1
      rw [walkChildren, noDirectory]
      exact others

theorem map_flatMap_mergeSort (groups : List (String × List Listing)) (g : Listing → Listing) :
    ((groups.mergeSort fun a b => decide (a.1 ≤ b.1)).flatMap Prod.snd).map g =
      ((groups.map fun group => (group.1, group.2.map g)).mergeSort fun a b => decide (a.1 ≤ b.1)).flatMap
        Prod.snd := by
  rw [← List.map_mergeSort (r := fun a b => decide (a.1 ≤ b.1)) fun _ _ _ _ => rfl, List.flatMap_map,
    List.map_flatMap]

/-- The listings are those from before without the files, as far as links lead to a directory, or do not, as
they did. -/
theorem walk_without {f f' alike : Location → Bool} (excluded : String → Bool) (gone : Location → Bool)
    (agree : ∀ names, alike names = true → f' names = f names)
    (proper : e.Proper) (place below : Location) :
    (walk f' excluded below (e.without gone (place ++ below))).map (keepOnly alike) =
      (walk f excluded below e).map (keepOnly fun names => alike names && !gone (place ++ names)) := by
  induction proper generalizing below with
  | file content => rfl
  | link target => rfl
  | @directory children distinct names inner ih =>
    have listed : (fileNames (fun name => f' (below ++ [name]))
          (withoutAmong gone (place ++ below) children)).filter (fun name => alike (below ++ [name])) =
        (fileNames (fun name => f (below ++ [name])) children).filter fun name =>
          alike (below ++ [name]) && !gone (place ++ below ++ [name]) :=
      fileNames_withoutAmong fun name => agree (below ++ [name])
    have deeper : (walkChildren f' excluded below (withoutAmong gone (place ++ below) children)).map
          (fun group => (group.1, group.2.map (keepOnly alike))) =
        (walkChildren f excluded below children).map fun group =>
          (group.1, group.2.map (keepOnly fun names => alike names && !gone (place ++ names))) :=
      walkChildren_withoutAmong fun c member => by
        have inside := ih c member (below ++ [c.1])
        rwa [← List.append_assoc] at inside
    rw [without, walk, walk, List.map_cons, List.map_cons]
    refine congrArg₂ _ ?_ ?_
    · simp only [keepOnly, ← sortNames_filter, listed, List.append_assoc]
    · rw [map_flatMap_mergeSort, map_flatMap_mergeSort, deeper]

end Entry

open Entry

namespace FileSystem

/-- The tree without the files and links at some locations. -/
def without (fs : FileSystem) (gone : Location → Bool) : FileSystem :=
  { fs with root := fs.root.without gone [] }

variable {fs : FileSystem} {gone : Location → Bool} {text : String}

theorem exists?_eq_true_iff : fs.exists? text = true ↔ ∃ location e, fs.locate text = .ok (location, e) := by
  unfold exists?
  cases fs.locate text with
  | error fault => simp [Except.isOk, Except.toBool]
  | ok found => exact iff_of_true rfl ⟨found.1, found.2, rfl⟩

theorem locate_of_without (proper : fs.root.Proper) {location : Location} {e' : Entry}
    (led : (fs.without gone).locate text = .ok (location, e')) :
    ∃ e, fs.locate text = .ok (location, e) ∧ e' = e.without gone location := by
  obtain ⟨checked, led⟩ := locate_eq_ok_iff.1 led
  obtain ⟨e, led, same⟩ := reach_of_without proper led
  exact ⟨e, locate_eq_ok_iff.2 ⟨checked, led⟩, same⟩

theorem reach_ne_containsNul (root : Entry) (links : Nat) (here : Location) (parts : List String) :
    reach root links here parts ≠ .error .containsNul := by
  fun_induction reach root links here parts <;> simp_all

theorem locate_eq_containsNul_iff : fs.locate text = .error .containsNul ↔ '\x00' ∈ text.toList := by
  unfold locate checkText
  by_cases nul : '\x00' ∈ text.toList
  · simp [nul, bind, Except.bind]
  · have follows : fs.root.follow maxLinks (fs.start text) (rawParts text) ≠ .error .containsNul := by
      unfold follow
      have reaches := reach_ne_containsNul fs.root maxLinks (fs.start text) (rawParts text)
      split <;> simp_all
    simp only [nul, if_false, iff_false]
    split
    · exact nofun
    · split
      · exact nofun
      · exact follows

theorem read_of_nul (nul : '\x00' ∈ text.toList) : fs.read text = .error .containsNul := by
  rw [read, locate_eq_containsNul_iff.mpr nul]

theorem refused_of_locate {fault : PathFault} (nowhere : fs.locate text = .error fault)
    (noNul : '\x00' ∉ text.toList) : fs.read text = .error fault ∧ fault ≠ .containsNul := by
  refine ⟨by rw [read, nowhere], ?_⟩
  rintro rfl
  exact noNul (locate_eq_containsNul_iff.mp nowhere)

theorem noNul_of_locate {location : Location} {e : Entry} (located : fs.locate text = .ok (location, e)) :
    '\x00' ∉ text.toList := fun nul => by cases located.symm.trans (locate_eq_containsNul_iff.mpr nul)

theorem read_without (proper : fs.root.Proper) (led : (fs.without gone).exists? text = true) :
    (fs.without gone).read text = fs.read text := by
  obtain ⟨location, e', after⟩ := exists?_eq_true_iff.mp led
  obtain ⟨e, before, rfl⟩ := locate_of_without proper after
  unfold read
  rw [before, after]
  cases e <;> rfl

theorem readDocument_without (proper : fs.root.Proper) (gone : Location → Bool) (text : String) :
    readDocument (fs.without gone) text = readDocument fs text ∨
      ∃ reason, readDocument (fs.without gone) text = .ok (.error reason) := by
  cases after : (fs.without gone).locate text with
  | ok found =>
    left
    rw [readDocument, readDocument, read_without proper (exists?_eq_true_iff.mpr ⟨_, _, after⟩)]
  | error fault =>
    by_cases nul : '\x00' ∈ text.toList
    · left
      rw [readDocument, readDocument, read_of_nul nul, read_of_nul nul]
    · obtain ⟨closed, path⟩ := refused_of_locate after nul
      exact .inr ⟨_, Survey.readDocument_of_refused closed path⟩

/-- A path leads to a directory as before, unless the directory cannot be found any more. -/
theorem isDirectory_without (proper : fs.root.Proper)
    (unlike : (fs.without gone).isDirectory text ≠ fs.isDirectory text) :
    fs.read text = .error .isDirectory ∧
      ∃ fault, (fs.without gone).read text = .error fault ∧ fault ≠ .containsNul := by
  unfold isDirectory at unlike
  cases after : (fs.without gone).locate text with
  | ok found =>
    obtain ⟨e, before, same⟩ := locate_of_without proper after
    have kind : found.2.isDirectory = e.isDirectory := same ▸ Entry.isDirectory_without
    rw [after, before] at unlike
    exact absurd kind unlike
  | error fault =>
    rw [after] at unlike
    cases before : fs.locate text with
    | error fault' =>
      rw [before] at unlike
      exact absurd rfl unlike
    | ok found =>
      obtain ⟨location, e⟩ := found
      rw [before] at unlike
      cases e with
      | file content => exact absurd rfl unlike
      | link target => exact absurd rfl unlike
      | directory children =>
        exact ⟨by rw [read, before], fault, refused_of_locate after (noNul_of_locate before)⟩

/-! ## Files below a directory -/

/-- The names that lead from a directory to the files below it. -/
def listed (fs : FileSystem) (excluded : List String) (root : Path) : List Location :=
  (fs.walk (excluded.contains ·) root).flatMap fun listing => listing.2.map fun name => listing.1 ++ [name]

theorem filesBelow_eq_map_listed (fs : FileSystem) (excluded : List String) (root : Path) :
    fs.filesBelow excluded root = (fs.listed excluded root).map root.below := by
  simp only [filesBelow, listed, List.map_flatMap, List.map_map]
  rfl

section Below

variable {root : Path} {place : Location} {e : Entry}

theorem locate_without (proper : fs.root.Proper) (located : fs.locate root.text = .ok (place, e))
    (top : (fs.without gone).exists? root.text = true) :
    (fs.without gone).locate root.text = .ok (place, e.without gone place) := by
  obtain ⟨location, e', after⟩ := exists?_eq_true_iff.mp top
  obtain ⟨d, before, same⟩ := locate_of_without proper after
  cases before.symm.trans located
  rw [after, same]

theorem proper_of_located (proper : fs.root.Proper) (located : fs.locate root.text = .ok (place, e)) :
    e.Proper := (proper.entryAt (entryAt_of_reach (locate_eq_ok_iff.1 located).2)).2

theorem exists?_file_without (proper : fs.root.Proper) (located : fs.locate root.text = .ok (place, e))
    (top : (fs.without gone).exists? root.text = true) {names : Location} (named : names ≠ [])
    {content : List UInt8} (found : e.entryAt names = some (.file content))
    (kept : gone (place ++ names) = false) (checked : checkText (root.below names).text = .ok ()) :
    (fs.without gone).exists? (root.below names).text = true := by
  have after := locate_without proper located top
  have properNames := ((proper_of_located proper located).entryAt found).1
  have stays : ((Entry.file content).isDirectory || !gone (place ++ names)) = true := by simp [kept]
  obtain ⟨left, goesOn⟩ := reach_below after named properNames
  have start := entryAt_of_reach (locate_eq_ok_iff.1 after).2
  have down := goesOn.trans (reach_down start properNames (entryAt_without found stays) nofun)
  exact exists?_eq_true_iff.mpr ⟨_, _, locate_eq_ok_iff.2 ⟨checked, down⟩⟩

theorem entryAt_of_mem_listed (proper : fs.root.Proper) (located : fs.locate root.text = .ok (place, e))
    {excluded : List String} {names : Location} (member : names ∈ fs.listed excluded root) :
    names ≠ [] ∧ ((∃ content, e.entryAt names = some (.file content)) ∨
      ∃ target, e.entryAt names = some (.link target)) := by
  obtain ⟨listing, walked, member⟩ := List.mem_flatMap.mp member
  obtain ⟨name, here, rfl⟩ := List.mem_map.mp member
  rw [walk, located] at walked
  obtain ⟨names, children, descends, rfl⟩ := mem_walk_iff.mp (List.mem_filter.mp walked).1
  have proper := proper_of_located proper located
  have above := entryAt_of_descends proper descends
  have inner := (proper.entryAt above).2
  have inside {d : Entry} (child : (name, d) ∈ children) : e.entryAt (names ++ [name]) = some d := by
    rw [entryAt_append, above]
    show ((childIn name children).bind fun x => some x) = some d
    rw [inner.childIn_of_mem child]
    rfl
  rw [sortNames, List.mem_mergeSort, mem_names] at here
  refine ⟨by simp, ?_⟩
  rcases here with ⟨content, child⟩ | ⟨target, child, -⟩
  · exact .inl ⟨content, inside child⟩
  · exact .inr ⟨target, inside child⟩

theorem listed_filter (fs : FileSystem) (excluded : List String) (root : Path) (kept : Location → Bool) :
    (fs.listed excluded root).filter kept =
      ((fs.walk (excluded.contains ·) root).map (keepOnly kept)).flatMap fun listing =>
        listing.2.map fun name => listing.1 ++ [name] := by
  rw [listed, List.filter_flatMap, List.flatMap_map]
  refine List.flatMap_congr fun listing _ => ?_
  rw [List.filter_map]
  rfl

/-- Whether a path below a directory leads to a directory, or does not, as before. -/
def alike (fs : FileSystem) (gone : Location → Bool) (root : Path) (names : Location) : Bool :=
  (fs.without gone).isDirectory (root.below names).text = fs.isDirectory (root.below names).text

theorem map_keepOnly_filter (kept wanted : Location → Bool) (listings : List Listing) :
    (listings.filter fun listing => wanted listing.1).map (keepOnly kept) =
      (listings.map (keepOnly kept)).filter fun listing => wanted listing.1 := by
  rw [List.filter_map]
  rfl

theorem listed_without (proper : fs.root.Proper) (located : fs.locate root.text = .ok (place, e))
    (top : (fs.without gone).exists? root.text = true) (excluded : List String) :
    ((fs.without gone).listed excluded root).filter (fs.alike gone root) =
      (fs.listed excluded root).filter fun names => fs.alike gone root names && !gone (place ++ names) := by
  have agree (names : Location) (same : fs.alike gone root names = true) :
      (withinLimit root names && (fs.without gone).isDirectory (root.below names).text) =
        (withinLimit root names && fs.isDirectory (root.below names).text) :=
    congrArg _ (of_decide_eq_true same)
  have walked := walk_without (excluded.contains ·) gone agree (proper_of_located proper located) place []
  rw [List.append_nil] at walked
  rw [listed_filter, listed_filter, walk, walk, located, locate_without proper located top]
  dsimp only
  rw [map_keepOnly_filter, map_keepOnly_filter, walked]

end Below

end FileSystem

open Trail FileSystem

namespace Survey

variable {fs fs' : FileSystem} {gone : Location → Bool} {file : Path} {types : List ReportType}

/-! ## Reading what is left -/

theorem uncounted_of_refused {fault : PathFault} (closed : fs.read file.text = .error fault)
    (path : fault ≠ .containsNul) : counted fs types file = 0 := (warned_of_unusable (.refused closed path)).2

theorem readOne_congr (same : readDocument fs' file.text = readDocument fs file.text)
    (e : ReportType × Registry) : readOne fs' file e = readOne fs file e := by
  simp only [readOne, scanned, same]

theorem counted_congr (same : readDocument fs' file.text = readDocument fs file.text) :
    counted fs' types file = counted fs types file := by
  simp only [counted, warning?, same]

theorem uncounted_without (proper : fs.root.Proper) (gone : Location → Bool) (uncounted : counted fs types file = 0) :
    counted (fs.without gone) types file = 0 := by
  rcases readDocument_without proper gone file.text with same | ⟨reason, unread⟩
  · rw [counted_congr same, uncounted]
  · refine counted_eq_zero_iff.mpr (.inr ?_)
    simp only [warning?, unread]
    split <;> rfl

theorem mapM_congr_of_mem {as : List (ReportType × Registry)}
    {f g : ReportType × Registry → Except Failure (ReportType × Registry)} (same : ∀ e ∈ as, f e = g e) :
    as.mapM f = as.mapM g := by
  induction as with
  | nil => rw [List.mapM_nil, List.mapM_nil]
  | cons e rest ih =>
    obtain ⟨first, others⟩ := List.forall_mem_cons.mp same
    rw [List.mapM_cons, List.mapM_cons, first, ih others]

theorem bind_congr_of_ok {α β : Type} {t : Except Failure α} {f g : α → Except Failure β}
    (same : ∀ a, t = .ok a → f a = g a) : t >>= f = t >>= g := by
  cases t with
  | error failure => rfl
  | ok a => exact same a rfl

theorem readAll_cons (fs : FileSystem) (as : List (ReportType × Registry)) (file : Path) (rest : List Path) :
    readAll fs as (file :: rest) = as.mapM (readOne fs file) >>= fun as => readAll fs as rest :=
  List.foldlM_cons

theorem readAll_filter {files : List Location} {root : Path} (kept : Location → Bool)
    (same : ∀ names ∈ files, kept names = true → ∀ e : ReportType × Registry, e.1 ∈ types →
      readOne fs' (root.below names) e = readOne fs (root.below names) e)
    (skipped : ∀ names ∈ files, kept names = false → counted fs types (root.below names) = 0)
    (as : List (ReportType × Registry)) (known : as.map Prod.fst = types) :
    readAll fs' as ((files.filter kept).map root.below) = readAll fs as (files.map root.below) := by
  induction files generalizing as with
  | nil => rw [List.filter_nil, List.map_nil, readAll, readAll, List.foldlM_nil, List.foldlM_nil]
  | cons names rest ih =>
    have ih := ih (fun names later => same names (List.mem_cons_of_mem _ later))
      fun names later => skipped names (List.mem_cons_of_mem _ later)
    have kinds (e : ReportType × Registry) (member : e ∈ as) : e.1 ∈ types := known ▸ List.mem_map_of_mem member
    rw [List.map_cons, readAll_cons]
    cases stays : kept names with
    | true =>
      have first := mapM_congr_of_mem fun e member =>
        same names List.mem_cons_self stays e (kinds e member)
      rw [List.filter_cons_of_pos stays, List.map_cons, readAll_cons, first]
      exact bind_congr_of_ok fun next read => ih next ((types_mapM read).trans known)
    | false =>
      have first := skipped names List.mem_cons_self stays
      have unchanged : as.mapM (readOne fs (root.below names)) = .ok as :=
        (mapM_congr_of_mem fun e member => readOne_of_uncounted first (kinds e member)).trans
          (List.mapM_pure.trans (congrArg pure (List.map_id as)))
      rw [List.filter_cons_of_neg (by simp [stays]), ih as known, unchanged]
      exact (pure_bind (m := Except Failure) as fun as => readAll fs as (rest.map root.below)).symm

theorem sum_map_filter {α : Type} (items : List α) {f f' : α → Nat} (kept : α → Bool)
    (same : ∀ a ∈ items, kept a = true → f' a = f a) (zero : ∀ a ∈ items, kept a = false → f a = 0) :
    ((items.filter kept).map f').sum = (items.map f).sum := by
  induction items with
  | nil => rfl
  | cons a rest ih =>
    have ih := ih (fun a later => same a (List.mem_cons_of_mem _ later))
      fun a later => zero a (List.mem_cons_of_mem _ later)
    cases stays : kept a with
    | true =>
      rw [List.filter_cons_of_pos stays, List.map_cons, List.map_cons, List.sum_cons, List.sum_cons, ih,
        same a List.mem_cons_self stays]
    | false =>
      rw [List.filter_cons_of_neg (by simp [stays]), ih, List.map_cons, List.sum_cons,
        zero a List.mem_cons_self stays, Nat.zero_add]

/-! ## Whole scans -/

section Whole

variable {settings : ScanSettings} {root : Path} {place : Location} {e : Entry}

theorem hasDirectory_of_located (located : fs.locate root.text = .ok (place, e)) :
    fs.hasDirectory root.text = .ok e.isDirectory := by
  rw [hasDirectory, probe, located]

theorem isDirectory_of_scan {registries : List (ReportType × Registry)}
    (scan : (scanTree fs settings root).outcome = .ok registries)
    (located : fs.locate root.text = .ok (place, e)) : e.isDirectory = true := by
  have directory := hasDirectory_of_located located
  cases kind : e.isDirectory with
  | true => rfl
  | false =>
    rw [kind] at directory
    rw [scanTree_missing directory] at scan
    cases scan

/-- Without the files, the path of the directory still leads somewhere, and so does each link below it that
stays and is counted. -/
structure Unbroken (fs : FileSystem) (gone : Location → Bool) (settings : ScanSettings) (root : Path)
    (place : Location) (e : Entry) : Prop where
  top : (fs.without gone).exists? root.text = true
  link : ∀ names ∈ fs.listed settings.excludedDirs root, ∀ target, e.entryAt names = some (.link target) →
    gone (place ++ names) = false → counted fs (wantedTypes settings) (root.below names) ≠ 0 →
      (fs.without gone).exists? (root.below names).text = true

theorem readDocument_of_counted (proper : fs.root.Proper) (located : fs.locate root.text = .ok (place, e))
    (unbroken : Unbroken fs gone settings root place e) {names : Location}
    (member : names ∈ fs.listed settings.excludedDirs root) (kept : gone (place ++ names) = false)
    (used : counted fs (wantedTypes settings) (root.below names) ≠ 0) :
    readDocument (fs.without gone) (root.below names).text = readDocument fs (root.below names).text := by
  cases before : fs.locate (root.below names).text with
  | error fault =>
    by_cases nul : '\x00' ∈ (root.below names).text.toList
    · rw [readDocument, readDocument, read_of_nul nul, read_of_nul nul]
    · obtain ⟨closed, path⟩ := refused_of_locate before nul
      exact absurd (uncounted_of_refused closed path) used
  | ok found =>
    have checked := (locate_eq_ok_iff.1 before).1
    have led : (fs.without gone).exists? (root.below names).text = true := by
      obtain ⟨named, ⟨content, file⟩ | ⟨target, link⟩⟩ := entryAt_of_mem_listed proper located member
      · exact exists?_file_without proper located unbroken.top named file kept checked
      · exact unbroken.link names member target link kept used
    rw [readDocument, readDocument, read_without proper led]

section Removal

variable (proper : fs.root.Proper) (located : fs.locate root.text = .ok (place, e))
  (unbroken : Unbroken fs gone settings root place e)
  (unusable : ∀ names ∈ fs.listed settings.excludedDirs root, gone (place ++ names) = true →
    Unusable fs (wantedTypes settings) (root.below names))

include proper in
theorem uncounted_of_unlike {names : Location} (unlike : fs.alike gone root names = false) :
    counted fs types (root.below names) = 0 ∧ counted (fs.without gone) types (root.below names) = 0 := by
  obtain ⟨before, fault, after, path⟩ := isDirectory_without proper (of_decide_eq_false unlike)
  exact ⟨uncounted_of_refused before nofun, uncounted_of_refused after path⟩

include unusable proper in
theorem uncounted_of_left {names : Location} (member : names ∈ fs.listed settings.excludedDirs root)
    (left : (fs.alike gone root names && !gone (place ++ names)) = false) :
    counted fs (wantedTypes settings) (root.below names) = 0 := by
  rw [Bool.and_eq_false_iff, Bool.not_eq_false'] at left
  rcases left with unlike | removed
  · exact (uncounted_of_unlike proper unlike).1
  · exact (warned_of_unusable (unusable names member removed)).2

include proper located unbroken in
theorem taken_of_kept {names : Location} (member : names ∈ fs.listed settings.excludedDirs root)
    (stays : (fs.alike gone root names && !gone (place ++ names)) = true) :
    counted (fs.without gone) (wantedTypes settings) (root.below names) =
        counted fs (wantedTypes settings) (root.below names) ∧
      ∀ e : ReportType × Registry, e.1 ∈ wantedTypes settings →
        readOne (fs.without gone) (root.below names) e = readOne fs (root.below names) e := by
  rw [Bool.and_eq_true, Bool.not_eq_true'] at stays
  by_cases used : counted fs (wantedTypes settings) (root.below names) = 0
  · have unused := uncounted_without proper gone used
    refine ⟨unused.trans used.symm, fun e known => ?_⟩
    rw [readOne_of_uncounted used known, readOne_of_uncounted unused known]
  · have same := readDocument_of_counted proper located unbroken member stays.2 used
    exact ⟨counted_congr same, fun e _ => readOne_congr same e⟩

include proper located unbroken unusable in
theorem readAll_without (as : List (ReportType × Registry)) (known : as.map Prod.fst = wantedTypes settings) :
    readAll (fs.without gone) as ((fs.without gone).filesBelow settings.excludedDirs root) =
      readAll fs as (fs.filesBelow settings.excludedDirs root) := by
  let files := (fs.without gone).listed settings.excludedDirs root
  have alike : readAll (fs.without gone) as ((files.filter (fs.alike gone root)).map root.below) =
      readAll (fs.without gone) as (files.map root.below) :=
    readAll_filter _ (fun _ _ _ _ _ => rfl) (fun _ _ unlike => (uncounted_of_unlike proper unlike).2) as known
  rw [filesBelow_eq_map_listed, filesBelow_eq_map_listed, ← alike,
    listed_without proper located unbroken.top]
  exact readAll_filter _ (fun names member stays => (taken_of_kept proper located unbroken member stays).2)
    (fun names => uncounted_of_left proper unusable) as known

include proper located unbroken unusable in
theorem taken_without :
    (((fs.without gone).filesBelow settings.excludedDirs root).map
        (counted (fs.without gone) (wantedTypes settings))).sum =
      ((fs.filesBelow settings.excludedDirs root).map (counted fs (wantedTypes settings))).sum := by
  let files := (fs.without gone).listed settings.excludedDirs root
  let count := counted (fs.without gone) (wantedTypes settings) ∘ root.below
  have alike : ((files.filter (fs.alike gone root)).map count).sum = (files.map count).sum :=
    sum_map_filter _ _ (fun _ _ _ => rfl) fun _ _ unlike => (uncounted_of_unlike proper unlike).2
  rw [filesBelow_eq_map_listed, filesBelow_eq_map_listed, List.map_map, List.map_map, ← alike,
    listed_without proper located unbroken.top]
  exact sum_map_filter _ _ (fun names member stays => (taken_of_kept proper located unbroken member stays).1)
    fun names => uncounted_of_left proper unusable

end Removal

theorem outcome_without {registries : List (ReportType × Registry)}
    (scan : (scanTree fs settings root).outcome = .ok registries) (proper : fs.root.Proper)
    (located : fs.locate root.text = .ok (place, e)) (unbroken : Unbroken fs gone settings root place e)
    (unusable : ∀ names ∈ fs.listed settings.excludedDirs root, gone (place ++ names) = true →
      Unusable fs (wantedTypes settings) (root.below names)) :
    (scanTree (fs.without gone) settings root).outcome = .ok registries := by
  have directory : (fs.without gone).hasDirectory root.text = .ok true := by
    rw [hasDirectory_of_located (locate_without proper located unbroken.top), Entry.isDirectory_without,
      isDirectory_of_scan scan located]
  rw [scanTree, directory]
  dsimp only
  rw [scanDirectory_outcome]
  exact (readAll_without proper located unbroken unusable _ (types_start _)).trans (scanTree_eq_ok scan)

/-- A scan leaves nothing of unusable files behind but a warning for each kind that has their name, and does
not count them. Without them it gives the same registries and tells the same at its end, if no link that
stays and is counted needs them. -/
theorem scanTree_without {registries : List (ReportType × Registry)}
    (scan : (scanTree fs settings root).outcome = .ok registries) (proper : fs.root.Proper)
    (located : fs.locate root.text = .ok (place, e)) (unbroken : Unbroken fs gone settings root place e)
    (unusable : ∀ names ∈ fs.listed settings.excludedDirs root, gone (place ++ names) = true →
      Unusable fs (wantedTypes settings) (root.below names)) :
    let types := wantedTypes settings
    let files := fs.filesBelow settings.excludedDirs root
    let run := scanTree fs settings root
    let less := scanTree (fs.without gone) settings root
    less.outcome = .ok registries ∧ less.steps.getLast? = run.steps.getLast? ∧
      run.steps.getLast? = some (.event (treeScanned root (files.map (counted fs types)).sum registries)) ∧
      run.steps.filterMap skip? = files.flatMap (warned fs types) ∧
      ∀ file, Unusable fs types file →
        (∃ w, (w = unresolved file ∨ ∃ reason, w = unreadable file reason) ∧
          warned fs types file = (kindsOf types file).map fun _ => w) ∧
        counted fs types file = 0 := by
  intro types files run less
  have same := outcome_without scan proper located unbroken unusable
  obtain ⟨warnings, last⟩ := scanTree_tells scan
  obtain ⟨-, last'⟩ := scanTree_tells same
  rw [taken_without proper located unbroken unusable] at last'
  exact ⟨same, last'.trans last.symm, last, warnings, fun file => warned_of_unusable⟩

end Whole

/-! ## A shop with a link -/

/-- A shop with some entries in the directory of its configuration. -/
def etcShop (children : List (String × Entry)) : FileSystem where
  root := .directory [("Acme", .directory [("Shop", .directory [("etc", .directory children)])])]
  workingDirectory := []

def etcPath : Path := .ofText "/Acme/Shop/etc"

def diPath : Path := etcPath.below ["di.xml"]

theorem locate_etcPath (children : List (String × Entry)) :
    (etcShop children).locate etcPath.text = .ok (["Acme", "Shop", "etc"], .directory children) := by cbv

theorem locate_diPath {children : List (String × Entry)}
    (link : childIn "di.xml" children = some (.link "data.xml")) :
    (etcShop children).locate diPath.text =
      (etcShop children).root.follow 39 ["Acme", "Shop", "etc"] ["data.xml"] := by
  have there : (etcShop children).root.entryAt ["Acme", "Shop", "etc"] = some (.directory children) := rfl
  have proper : ProperName "di.xml" := by decide
  have led : reach (etcShop children).root 40 ["Acme", "Shop", "etc"] ["di.xml"] =
      reach (etcShop children).root 39 ["Acme", "Shop", "etc"] ["data.xml"] :=
    reach_link there (lookedUp_of_proper proper) link []
  have down : reach (etcShop children).root 40 [] ["", "Acme", "Shop", "etc", "di.xml"] =
      reach (etcShop children).root 40 ["Acme", "Shop", "etc"] ["di.xml"] := by cbv
  have text : diPath.text = "/Acme/Shop/etc/di.xml" := by cbv
  have checked : checkText "/Acme/Shop/etc/di.xml" = .ok () := by cbv
  have parts : rawParts "/Acme/Shop/etc/di.xml" = ["", "Acme", "Shop", "etc", "di.xml"] := by cbv
  have start : (etcShop children).start "/Acme/Shop/etc/di.xml" = [] := by cbv
  have followed : reach (etcShop children).root maxLinks [] ["", "Acme", "Shop", "etc", "di.xml"] =
      reach (etcShop children).root 39 ["Acme", "Shop", "etc"] ["data.xml"] := down.trans led
  rw [text, locate, checked, parts, start]
  show follow _ _ _ _ = _
  rw [follow, follow, followed]

/-- Declarations that are read through a link, and malformed forms. -/
def inEtc : Entry :=
  .directory [("data.xml", .file typeBytes), ("di.xml", .link "data.xml"), ("system.xml", .file [60])]

def linkedShop : FileSystem :=
  etcShop [("data.xml", .file typeBytes), ("di.xml", .link "data.xml"), ("system.xml", .file [60])]

def isData (location : Location) : Bool := location = ["Acme", "Shop", "etc", "data.xml"]

def isForm (location : Location) : Bool := location = ["Acme", "Shop", "etc", "system.xml"]

theorem without_isData :
    linkedShop.without isData = etcShop [("di.xml", .link "data.xml"), ("system.xml", .file [60])] := rfl

theorem without_isForm :
    linkedShop.without isForm = etcShop [("data.xml", .file typeBytes), ("di.xml", .link "data.xml")] := rfl

theorem proper_linkedShop : linkedShop.root.Proper := by decide

theorem listed_linkedShop : linkedShop.listed ScanSettings.initial.excludedDirs etcPath =
    [["data.xml"], ["di.xml"], ["system.xml"]] := by
  have leads : (linkedShop).isDirectory (etcPath.below ([] ++ ["di.xml"])).text = false := by
    show FileSystem.isDirectory _ diPath.text = _
    rw [FileSystem.isDirectory, linkedShop, locate_diPath rfl]
    cbv
  rw [linkedShop] at leads
  rw [listed, FileSystem.walk, linkedShop, locate_etcPath]
  simp only [Entry.walk, walkChildren, fileNames, leads, Bool.and_false]
  cbv

theorem listed_without_isData : (linkedShop.without isData).listed ScanSettings.initial.excludedDirs etcPath =
    [["di.xml"], ["system.xml"]] := by
  have leads : (linkedShop.without isData).isDirectory (etcPath.below ([] ++ ["di.xml"])).text = false := by
    show FileSystem.isDirectory _ diPath.text = _
    rw [FileSystem.isDirectory, without_isData, locate_diPath rfl]
    cbv
  rw [without_isData] at leads
  rw [listed, FileSystem.walk, without_isData, locate_etcPath]
  simp only [Entry.walk, walkChildren, fileNames, leads, Bool.and_false]
  cbv

theorem read_diPath : linkedShop.read diPath.text = .ok typeBytes := by
  rw [FileSystem.read, linkedShop, locate_diPath rfl]
  cbv

theorem read_diPath_without : (linkedShop.without isData).read diPath.text = .error .missing := by
  rw [FileSystem.read, without_isData, locate_diPath rfl]
  cbv

def formPath : Path := etcPath.below ["system.xml"]

theorem read_formPath : linkedShop.read formPath.text = .ok [60] := by cbv

theorem ofBytes_open : Xml.ofBytes [60] = .error .malformed := by cbv

theorem readDocument_diPath :
    readDocument linkedShop diPath.text = .ok (.ok (.mk "virtualType" [("name", "A")] "" "" [])) :=
  readDocument_eq_ok_iff.mpr ⟨typeBytes, read_diPath, ofBytes_typeBytes⟩

theorem readDocument_formPath : readDocument linkedShop formPath.text = .ok (.error "not well-formed") := by
  simp only [readDocument, read_formPath, ofBytes_open]

theorem readDocument_without_isData {file : Path}
    (listed : file ∈ (linkedShop.without isData).filesBelow ScanSettings.initial.excludedDirs etcPath) :
    ∃ reason, readDocument (linkedShop.without isData) file.text = .ok (.error reason) := by
  rw [filesBelow_eq_map_listed, listed_without_isData] at listed
  simp only [List.map_cons, List.map_nil, List.mem_cons, List.not_mem_nil, or_false] at listed
  rcases listed with rfl | rfl
  · exact ⟨_, readDocument_of_refused read_diPath_without nofun⟩
  · have opened : (linkedShop.without isData).read formPath.text = .ok [60] := by cbv
    refine ⟨"not well-formed", ?_⟩
    show readDocument _ formPath.text = _
    simp only [readDocument, opened, ofBytes_open]

theorem readable_linkedShop {file : Path}
    (listed : file ∈ linkedShop.filesBelow ScanSettings.initial.excludedDirs etcPath) :
    Readable linkedShop file := by
  rw [filesBelow_eq_map_listed, listed_linkedShop] at listed
  simp only [List.map_cons, List.map_nil, List.mem_cons, List.not_mem_nil, or_false] at listed
  rcases listed with rfl | rfl | rfl
  · have other : ¬((etcPath.below ["data.xml"]).name = "di.xml" ∨
        (etcPath.below ["data.xml"]).name = "system.xml") := by decide +kernel
    exact fun kind => absurd kind other
  · exact fun _ f => readDocument_diPath ▸ nofun
  · exact fun _ f => readDocument_formPath ▸ nofun

theorem scanTree_linkedShop : (scanTree linkedShop .initial etcPath).outcome =
    .ok ((wantedTypes .initial).map fun type =>
      (type, gathered linkedShop type (linkedShop.filesBelow ScanSettings.initial.excludedDirs etcPath))) :=
  scanTree_of_readable (hasDirectory_of_located (locate_etcPath _)) fun _ => readable_linkedShop

theorem scanTree_without_isData : (scanTree (linkedShop.without isData) .initial etcPath).outcome =
    .ok ((wantedTypes .initial).map fun type => (type, gathered (linkedShop.without isData) type
      ((linkedShop.without isData).filesBelow ScanSettings.initial.excludedDirs etcPath))) := by
  refine scanTree_of_readable ?_ fun file listed _ f => ?_
  · rw [without_isData]
    exact hasDirectory_of_located (locate_etcPath _)
  · obtain ⟨reason, read⟩ := readDocument_without_isData listed
    rw [read]
    exact nofun

theorem eq_of_link_inEtc {names : Location} {target : String}
    (found : inEtc.entryAt names = some (.link target)) : names = ["di.xml"] := by
  cases names with
  | nil => cases found
  | cons name rest =>
    obtain ⟨children, c, same, child, further⟩ := exists_of_entryAt_cons found
    cases same
    have member := mem_of_childIn child
    have last (noDirectory : c.isDirectory = false) : rest = [] := by
      cases rest with
      | nil => rfl
      | cons next more =>
        obtain ⟨inner, _, rfl, -⟩ := exists_of_entryAt_cons further
        cases noDirectory
    simp only [List.mem_cons, Prod.mk.injEq, List.not_mem_nil, or_false] at member
    rcases member with ⟨-, rfl⟩ | ⟨rfl, rfl⟩ | ⟨-, rfl⟩
    · cases last rfl
      cases further
    · rw [last rfl]
    · cases last rfl
      cases further

/-- The forms may go. -/
theorem scanTree_without_isForm :
    let etc := ["Acme", "Shop", "etc"]
    ∃ registries, (scanTree linkedShop .initial etcPath).outcome = .ok registries ∧
      linkedShop.root.Proper ∧ linkedShop.locate etcPath.text = .ok (etc, inEtc) ∧
      Unbroken linkedShop isForm .initial etcPath etc inEtc ∧
      (∀ names ∈ linkedShop.listed ScanSettings.initial.excludedDirs etcPath, isForm (etc ++ names) = true →
        Unusable linkedShop (wantedTypes .initial) (etcPath.below names)) ∧
      (scanTree (linkedShop.without isForm) .initial etcPath).outcome = .ok registries := by
  intro etc
  have located : linkedShop.locate etcPath.text = .ok (etc, inEtc) := locate_etcPath _
  have unbroken : Unbroken linkedShop isForm .initial etcPath etc inEtc := by
    refine ⟨?_, fun names _ target found _ _ => ?_⟩
    · rw [FileSystem.exists?, without_isForm, locate_etcPath]
      rfl
    · obtain rfl := eq_of_link_inEtc found
      show FileSystem.exists? _ diPath.text = _
      rw [FileSystem.exists?, without_isForm, locate_diPath rfl]
      cbv
  have unusable (names : Location) (member : names ∈ linkedShop.listed ScanSettings.initial.excludedDirs etcPath)
      (removed : isForm (etc ++ names) = true) :
      Unusable linkedShop (wantedTypes .initial) (etcPath.below names) := by
    have named : names = ["system.xml"] := List.append_cancel_left (of_decide_eq_true removed)
    subst named
    exact .malformed read_formPath ofBytes_open
  exact ⟨_, scanTree_linkedShop, proper_linkedShop, located, unbroken, unusable,
    (scanTree_without scanTree_linkedShop proper_linkedShop located unbroken unusable).1⟩

/-- A file that no reader wants, by its name, may be what a link leads to. Without it the module is lost. -/
theorem scanTree_of_broken_link :
    linkedShop.root.Proper ∧
      (∀ names ∈ linkedShop.listed ScanSettings.initial.excludedDirs etcPath,
        isData (["Acme", "Shop", "etc"] ++ names) = true →
          Unusable linkedShop (wantedTypes .initial) (etcPath.below names)) ∧
      ∃ registries less, (scanTree linkedShop .initial etcPath).outcome = .ok registries ∧
        (scanTree (linkedShop.without isData) .initial etcPath).outcome = .ok less ∧
        (∃ e ∈ registries, "Acme_Shop" ∈ e.2.modules) ∧ ∀ e ∈ less, "Acme_Shop" ∉ e.2.modules := by
  refine ⟨proper_linkedShop, fun names _ removed => ?_, _, _, scanTree_linkedShop, scanTree_without_isData,
    ?_, fun e member known => ?_⟩
  · have named : names = ["data.xml"] :=
      (List.append_right_inj ["Acme", "Shop", "etc"]).mp (of_decide_eq_true removed)
    subst named
    refine .foreign fun type _ => Bool.eq_false_iff.mpr fun wanted => ?_
    have name := wanted_iff.mp wanted
    revert name
    cases type <;> decide +kernel
  · refine ⟨_, List.mem_map_of_mem (a := .di) (by decide +kernel), ?_⟩
    refine mem_modules_gathered_iff.mpr ⟨diPath, ?_, ?_⟩
    · rw [filesBelow_eq_map_listed, listed_linkedShop]
      exact List.mem_map_of_mem (by decide)
    · rw [documentIn?_eq_some_iff.mpr ⟨by decide +kernel, by decide +kernel, readDocument_diPath⟩]
      rfl
  · obtain ⟨type, -, rfl⟩ := List.mem_map.mp member
    obtain ⟨file, listed, some⟩ := mem_modules_gathered_iff.mp known
    obtain ⟨document, found⟩ := Option.isSome_iff_exists.mp some
    obtain ⟨reason, unread⟩ := readDocument_without_isData listed
    cases unread.symm.trans (documentIn?_eq_some_iff.mp found).2.2

end Survey

end ReleaseImpact
