import ReleaseImpact.Proofs.Enumeration

/-!
Which files are listed below a directory, and in which order. Main statements:

- `Entry.pairwise_walk`: a walk comes to the files of a directory before those further down, and else goes by
  the names.
- `FileSystem.mem_listed_iff`: a file is listed just if the names down to it lead through directories that are
  not excluded.
- `FileSystem.listFiles_ordered`: the files below a directory, each of them once, in an order that is told by
  the names alone.
- `FileSystem.deep_passedOver`: a directory with too long a path is passed over.
-/

namespace ReleaseImpact

/-- The order of the ways down to files. The files of a directory come first, by their names, and then what
is in its directories, by the names of those. -/
inductive Precedes : Location → Location → Prop
  | beside {name other : String} (less : name < other) : Precedes [name] [other]
  | above {name directory next : String} {rest : Location} : Precedes [name] (directory :: next :: rest)
  | apart {directory other next next' : String} {rest rest' : Location} (less : directory < other) :
      Precedes (directory :: next :: rest) (other :: next' :: rest')
  | inside {directory : String} {way way' : Location} (further : Precedes way way') :
      Precedes (directory :: way) (directory :: way')

namespace Precedes

variable {way way' : Location}

theorem asymm (first : Precedes way way') : ¬Precedes way' way := by
  induction first with
  | beside less =>
    rintro (more | _ | _ | further)
    · exact String.lt_asymm less more
    · nomatch further
  | above =>
    rintro (_ | _ | _ | further)
    nomatch further
  | apart less =>
    rintro (_ | _ | more | _)
    · exact String.lt_asymm less more
    · exact String.lt_irrefl _ less
  | inside further ih =>
    rintro (less | _ | less | back)
    · exact String.lt_irrefl _ less
    · nomatch further
    · exact String.lt_irrefl _ less
    · exact ih back

theorem irrefl (way : Location) : ¬Precedes way way := fun first => first.asymm first

theorem nodup_of_pairwise {ways : List Location} (ordered : ways.Pairwise Precedes) : ways.Nodup :=
  ordered.imp fun first => by
    rintro rfl
    exact irrefl _ first

/-- There is one list of some ways in this order. -/
theorem eq_of_pairwise {ways ways' : List Location} (ordered : ways.Pairwise Precedes)
    (ordered' : ways'.Pairwise Precedes) (same : ∀ way, way ∈ ways ↔ way ∈ ways') : ways = ways' := by
  have perm :=
    (List.perm_ext_iff_of_nodup (nodup_of_pairwise ordered) (nodup_of_pairwise ordered')).mpr same
  exact perm.eq_of_pairwise (fun _ _ _ _ first back => absurd back first.asymm) ordered ordered'

end Precedes

/-! ## Walks -/

namespace Entry

variable {leadsTo : Location → Bool} {excluded : String → Bool} {below : Location} {e e' : Entry}

theorem pairwise_sortNames {names : List String} (distinct : names.Nodup) :
    (sortNames names).Pairwise (· < ·) := by
  have apart : (sortNames names).Nodup := (List.mergeSort_perm ..).symm.nodup distinct
  exact (sorted_sortNames names).imp₂ (fun a b less other => lt_of_le_of_ne (of_decide_eq_true less) other) apart

theorem fileNames_sublist (leads : String → Bool) (children : List (String × Entry)) :
    (fileNames leads children).Sublist (children.map Prod.fst) := by
  induction children with
  | nil => exact .slnil
  | cons c rest ih =>
    obtain ⟨name, e⟩ := c
    cases e with
    | file content => exact ih.cons_cons name
    | directory inner => exact ih.cons name
    | link target =>
      rw [fileNames]
      split
      · exact ih.cons name
      · exact ih.cons_cons name

theorem walkChildren_sublist (leadsTo : Location → Bool) (excluded : String → Bool) (below : Location)
    (children : List (String × Entry)) :
    ((walkChildren leadsTo excluded below children).map Prod.fst).Sublist (children.map Prod.fst) := by
  induction children with
  | nil => exact .slnil
  | cons c rest ih =>
    obtain ⟨name, e⟩ := c
    rw [walkChildren]
    split
    · exact ih.cons_cons name
    · exact ih.cons name

theorem pairwise_walkChildren {children : List (String × Entry)}
    (distinct : (children.map Prod.fst).Nodup) :
    ((walkChildren leadsTo excluded below children).mergeSort fun a b => decide (a.1 ≤ b.1)).Pairwise
      fun group other => group.1 < other.1 := by
  let groups := walkChildren leadsTo excluded below children
  have sorted : (groups.mergeSort fun a b => decide (a.1 ≤ b.1)).Pairwise
      fun a b => decide (a.1 ≤ b.1) = true :=
    List.pairwise_mergeSort (by simpa using fun _ _ _ => String.le_trans) (by simpa using String.le_total) groups
  have apart : (groups.mergeSort fun a b => decide (a.1 ≤ b.1)).Pairwise fun a b => a.1 ≠ b.1 := by
    have names : (groups.map Prod.fst).Nodup := (walkChildren_sublist ..).nodup distinct
    exact ((List.mergeSort_perm ..).symm.pairwise_iff Ne.symm).mp (List.pairwise_map.mp names)
  exact sorted.imp₂ (fun a b less other => lt_of_le_of_ne (of_decide_eq_true less) other) apart

def waysIn (listing : Listing) : List Location := listing.2.map fun name => listing.1 ++ [name]

/-- The order of the ways that lead on from a location. -/
def PrecedesFrom (below : Location) (way way' : Location) : Prop :=
  ∃ further further', way = below ++ further ∧ way' = below ++ further' ∧ Precedes further further'

theorem exists_way_of_mem {way : Location} (member : way ∈ (walk leadsTo excluded below e).flatMap waysIn) :
    ∃ next rest, way = below ++ next :: rest := by
  obtain ⟨listing, walked, member⟩ := List.mem_flatMap.mp member
  obtain ⟨name, -, rfl⟩ := List.mem_map.mp member
  obtain ⟨names, children, -, rfl⟩ := mem_walk_iff.mp walked
  obtain ⟨next, rest, spelt⟩ := List.exists_cons_of_ne_nil (List.concat_ne_nil name names)
  exact ⟨next, rest, by rw [← spelt, List.append_assoc]⟩

theorem pairwise_walk (leadsTo : Location → Bool) (excluded : String → Bool) (proper : e.Proper)
    (below : Location) :
    ((walk leadsTo excluded below e).flatMap waysIn).Pairwise (PrecedesFrom below) := by
  induction proper generalizing below with
  | file content => exact .nil
  | link target => exact .nil
  | @directory children distinct names inner ih =>
    let groups := (walkChildren leadsTo excluded below children).mergeSort fun a b => decide (a.1 ≤ b.1)
    have groupOf {group : String × List Listing} (member : group ∈ groups) :
        ∃ c ∈ children, c.1 = group.1 ∧ group.2 = walk leadsTo excluded (below ++ [group.1]) c.2 := by
      obtain ⟨c, child, -, -, same⟩ := mem_walkChildren_iff.mp (List.mem_mergeSort.mp member)
      exact ⟨_, child, rfl, same⟩
    have wayIn {group : String × List Listing} (member : group ∈ groups) {way : Location}
        (listed : way ∈ group.2.flatMap waysIn) : ∃ next rest, way = below ++ group.1 :: next :: rest := by
      obtain ⟨c, -, -, same⟩ := groupOf member
      obtain ⟨next, rest, rfl⟩ := exists_way_of_mem (same ▸ listed)
      exact ⟨next, rest, by simp⟩
    -- The ways to the files here end after one name, and all others go on into a group.
    rw [walk, List.flatMap_cons, List.flatMap_assoc, List.pairwise_append]
    refine ⟨?files, ?directories, ?across⟩
    case files =>
      refine List.pairwise_map.mpr ((pairwise_sortNames ((fileNames_sublist ..).nodup distinct)).imp ?_)
      exact fun less => ⟨_, _, rfl, rfl, .beside less⟩
    case directories =>
      refine List.pairwise_flatMap.mpr ⟨fun group member => ?_, ?_⟩
      · obtain ⟨c, child, name, same⟩ := groupOf member
        rw [same]
        refine (ih c child (below ++ [group.1])).imp ?_
        rintro way way' ⟨further, further', rfl, rfl, first⟩
        exact ⟨_, _, List.append_assoc .., List.append_assoc .., .inside first⟩
      · refine (pairwise_walkChildren distinct).imp_of_mem ?_
        intro group other member member' less way listed way' listed'
        obtain ⟨next, rest, rfl⟩ := wayIn member listed
        obtain ⟨next', rest', rfl⟩ := wayIn member' listed'
        exact ⟨_, _, rfl, rfl, .apart less⟩
    case across =>
      intro way listed way' further
      obtain ⟨name, -, rfl⟩ := List.mem_map.mp listed
      obtain ⟨group, member, further⟩ := List.mem_flatMap.mp further
      obtain ⟨next, rest, rfl⟩ := wayIn member further
      exact ⟨_, _, rfl, rfl, .above⟩

theorem descends_iff (proper : e.Proper) {names : List String} {children : List (String × Entry)} :
    e.Descends excluded names children ↔
      e.entryAt names = some (.directory children) ∧ ∀ name ∈ names, excluded name = false := by
  constructor
  · intro descends
    refine ⟨entryAt_of_descends proper descends, ?_⟩
    clear proper
    induction descends with
    | here => exact List.forall_mem_nil _
    | down child kept further ih => exact List.forall_mem_cons.mpr ⟨kept, ih⟩
  · rintro ⟨found, kept⟩
    clear proper
    induction names generalizing e with
    | nil =>
      cases found
      exact .here
    | cons name rest ih =>
      obtain ⟨inside, c, rfl, child, further⟩ := exists_of_entryAt_cons found
      obtain ⟨first, others⟩ := List.forall_mem_cons.mp kept
      exact .down (mem_of_childIn child) first (ih further others)

end Entry

open Entry

namespace FileSystem

variable {fs : FileSystem} {root : Path} {place : Location} {top : Entry} {excluded : List String}

/-- A name below a directory stands for neither a directory nor a link that leads to one, and the names in
front of it for directories that are not excluded. Paths that are too long are not asked for. -/
structure HoldsFile (fs : FileSystem) (excluded : List String) (root : Path) (top : Entry) (names : Location)
    (name : String) : Prop where
  kept : ∀ directory ∈ names, directory ∉ excluded
  short : withinLimit root names = true
  stands : ∃ e, top.entryAt (names ++ [name]) = some e ∧ e.isDirectory = false ∧
    ∀ target, e = .link target → withinLimit root (names ++ [name]) = true →
      fs.isDirectory (root.below (names ++ [name])).text = false

theorem finds_iff_holdsFile (located : fs.locate root.text = .ok (place, top)) (proper : top.Proper)
    {names : Location} {name : String} :
    fs.Finds (excluded.contains ·) root names name ↔ fs.HoldsFile excluded root top names name := by
  have kept : (∀ n ∈ names, excluded.contains n = false) ↔ ∀ n ∈ names, n ∉ excluded := by simp
  constructor
  · rintro ⟨_, _, children, same, descends, short, counts⟩
    cases located.symm.trans same
    obtain ⟨found, passes⟩ := (descends_iff proper).mp descends
    have inner := (proper.entryAt found).2
    refine ⟨kept.mp passes, short, ?_⟩
    rcases counts with ⟨content, child⟩ | ⟨target, child, apart⟩
    · exact ⟨_, entryAt_concat_eq_some_iff.mpr ⟨children, found, inner.childIn_of_mem child⟩, rfl, nofun⟩
    · refine ⟨_, entryAt_concat_eq_some_iff.mpr ⟨children, found, inner.childIn_of_mem child⟩, rfl, fun _ _ near => ?_⟩
      rwa [near, Bool.true_and] at apart
  · rintro ⟨passes, short, e, stands, noDirectory, apart⟩
    obtain ⟨children, found, child⟩ := entryAt_concat_eq_some_iff.mp stands
    refine ⟨place, top, children, located, (descends_iff proper).mpr ⟨found, kept.mpr passes⟩, short, ?_⟩
    cases e with
    | directory inner => cases noDirectory
    | file content => exact .inl ⟨content, mem_of_childIn child⟩
    | link target =>
      refine .inr ⟨target, mem_of_childIn child, ?_⟩
      cases near : withinLimit root (names ++ [name]) with
      | false => rfl
      | true => rw [Bool.true_and, apart target rfl near]

theorem mem_listed_iff (located : fs.locate root.text = .ok (place, top)) (proper : top.Proper) {way : Location} :
    way ∈ fs.listed excluded root ↔
      ∃ names name, way = names ++ [name] ∧ fs.HoldsFile excluded root top names name := by
  simp only [← finds_iff_holdsFile located proper, finds_iff]
  constructor
  · intro member
    obtain ⟨⟨names, files⟩, walked, member⟩ := List.mem_flatMap.mp member
    obtain ⟨name, listed, rfl⟩ := List.mem_map.mp member
    exact ⟨names, name, rfl, files, walked, listed⟩
  · rintro ⟨names, name, rfl, files, walked, listed⟩
    exact List.mem_flatMap.mpr ⟨_, walked, List.mem_map_of_mem listed⟩

theorem pairwise_listed (excluded : List String) (located : fs.locate root.text = .ok (place, top))
    (proper : top.Proper) :
    (fs.listed excluded root).Pairwise Precedes := by
  have walked := pairwise_walk (fun names => withinLimit root names && fs.isDirectory (root.below names).text)
    (excluded.contains ·) proper []
  have part : (fs.listed excluded root).Sublist ((top.walk (fun names => withinLimit root names &&
      fs.isDirectory (root.below names).text) (excluded.contains ·) []).flatMap waysIn) := by
    rw [listed, walk, located]
    exact List.filter_sublist.flatMap _
  refine (walked.sublist part).imp ?_
  rintro _ _ ⟨way, way', rfl, rfl, first⟩
  exact first

theorem HoldsFile.of_samePlaces {fs' : FileSystem} {top' : Entry} {names : Location} {name : String}
    (holds : fs.HoldsFile excluded root top names name) (same : top.SamePlaces top')
    (directories : ∀ text, fs'.isDirectory text = fs.isDirectory text) :
    fs'.HoldsFile excluded root top' names name where
  kept := holds.kept
  short := holds.short
  stands := by
    obtain ⟨e, found, noDirectory, apart⟩ := holds.stands
    obtain ⟨e', found', sameFace⟩ := Option.map_eq_some_iff.mp ((same _).trans (congrArg _ found))
    refine ⟨e', found', ?_, ?_⟩
    · rw [← isDirectory_face, sameFace, isDirectory_face, noDirectory]
    · rintro target rfl near
      rw [directories, apart target (face_eq_link_iff.mp sameFace.symm) near]

theorem listed_of_reordered {tree : Entry} {children : List (String × Entry)} (proper : fs.root.Proper)
    (located : fs.locate root.text = .ok (place, .directory children)) (reordered : fs.root.Reordered tree) :
    (fs.withRoot tree).listed excluded root = fs.listed excluded root := by
  have same := reordered.samePlaces
  obtain ⟨children', located'⟩ : ∃ children',
      (fs.withRoot tree).locate root.text = .ok (place, .directory children') := by
    have led := locate_of_samePlaces same root.text
    rw [located] at led
    cases after : (fs.withRoot tree).locate root.text with
    | error fault =>
      rw [after] at led
      cases led
    | ok found =>
      rw [after] at led
      obtain ⟨rfl, sameFace⟩ := Prod.mk.inj (Except.ok.inj led)
      obtain ⟨children', here⟩ := exists_of_face_eq_directory sameFace
      exact ⟨children', congrArg _ (Prod.ext rfl here)⟩
  have inner := proper_of_located proper located
  have inner' := proper_of_located (reordered.proper proper) located'
  have within := same.within (entryAt_of_reach (locate_eq_ok_iff.1 located).2)
    (entryAt_of_reach (locate_eq_ok_iff.1 located').2)
  refine Precedes.eq_of_pairwise (pairwise_listed _ located' inner') (pairwise_listed _ located inner) fun way => ?_
  rw [mem_listed_iff located' inner', mem_listed_iff located inner]
  refine exists_congr fun names => exists_congr fun name => and_congr_right fun _ => ?_
  refine ⟨fun holds => ?_, fun holds => ?_⟩
  · exact holds.of_samePlaces (fun location => (within location).symm) fun text =>
      (isDirectory_of_samePlaces same text).symm
  · exact holds.of_samePlaces within (isDirectory_of_samePlaces same)

/-! ## Lists of files -/

theorem below_injective (root : Path) : Function.Injective root.below := by
  intro way way' same
  exact List.append_cancel_left (congrArg Path.parts same)

theorem listFiles_eq (located : fs.locate root.text = .ok (place, top)) (excluded : List String) :
    fs.listFiles excluded root = .ok ((fs.listed excluded root).map root.below) := by
  rw [listFiles, if_neg (noNul_of_locate located), filesBelow_eq_map_listed]

def mixedEntries : List (String × Entry) :=
  [("z.xml", .file []), ("b", .directory [("di.xml", .file [])]),
    ("a", .directory [("z.xml", .file []), ("var", .directory [("cache.xml", .file [])]), ("B.xml", .file [])]),
    ("shared", .link "../o"), ("copy.xml", .link "../o/g.xml"), ("r", .directory [("f.xml", .file [])])]

def mixedTree : FileSystem where
  root := .directory [("r", .directory mixedEntries), ("o", .directory [("g.xml", .file [])])]
  workingDirectory := []

theorem isDirectory_mixedLink {name target : String} (found : Location × Entry) (proper : ProperName name)
    (text : rawParts ((Path.ofText "r").below [name]).text = ["r", name])
    (checked : checkText ((Path.ofText "r").below [name]).text = .ok ())
    (relative : Text.startsWith ((Path.ofText "r").below [name]).text "/" = false ∧
      Text.startsWith target "/" = false)
    (link : childIn name mixedEntries = some (.link target))
    (led : mixedTree.root.reach 39 ["r"] (rawParts target) = .ok (found.1, some found.2)) :
    mixedTree.isDirectory ((Path.ofText "r").below [name]).text = found.2.isDirectory := by
  have down : mixedTree.root.reach maxLinks [] ["r", name] = mixedTree.root.reach maxLinks ["r"] [name] :=
    reach_child rfl (lookedUp_of_proper (by decide)) rfl (fun _ => Entry.noConfusion) [name]
  have followed :
      mixedTree.root.reach maxLinks ["r"] [name] = mixedTree.root.reach 39 ["r"] (rawParts target) := by
    have further : mixedTree.root.reach (39 + 1) ["r"] [name] = _ := reach_link rfl (lookedUp_of_proper proper) link []
    rwa [relative.2, List.append_nil] at further
  have located : mixedTree.locate ((Path.ofText "r").below [name]).text = .ok found := by
    refine locate_eq_ok_iff.mpr ⟨checked, ?_⟩
    rw [text, start, relative.1]
    exact (down.trans followed).trans led
  rw [isDirectory, located]

theorem walk_mixedEntries {leads : Location → Bool} (shared : leads ["shared"] = true)
    (copied : leads ["copy.xml"] = false) :
    (Entry.directory mixedEntries).walk leads (["var", "r"].contains ·) [] =
      [([], ["copy.xml", "z.xml"]), (["a"], ["B.xml", "z.xml"]), (["b"], ["di.xml"])] := by
  simp [mixedEntries, Entry.walk, walkChildren, fileNames, shared, copied, Entry.isDirectory, sortNames,
    List.mergeSort, List.MergeSort.Internal.splitInTwo]

def mixedFiles : List Path :=
  [["copy.xml"], ["z.xml"], ["a", "B.xml"], ["a", "z.xml"], ["b", "di.xml"]].map (Path.ofText "r").below

/-- A way into a directory, out of it some times, and in again. -/
def detour (times : Nat) : List String := (List.replicate times ["a", ".."]).flatten ++ ["a"]

theorem detour_succ (times : Nat) : detour (times + 1) = ["a", ".."] ++ detour times := rfl

theorem detour_ne_nil (times : Nat) : detour times ≠ [] := List.concat_ne_nil _ _

theorem eq_of_mem_detour {times : Nat} {part : String} (member : part ∈ detour times) :
    part = "a" ∨ part = ".." := by
  induction times with
  | zero => exact .inl (List.mem_singleton.mp member)
  | succ times ih =>
    rw [detour_succ, List.mem_append, List.mem_pair] at member
    exact member.elim id ih

theorem join_detour_succ (times : Nat) :
    Text.join '/' (detour (times + 1)) = "a/../" ++ Text.join '/' (detour times) := by
  rw [detour_succ, Text.join_append (List.cons_ne_nil _ _) (detour_ne_nil times)]
  exact congrArg (· ++ _) (by decide +kernel)

theorem utf8ByteSize_join_detour (times : Nat) :
    (Text.join '/' (detour times)).utf8ByteSize = 5 * times + 1 := by
  induction times with
  | zero => decide +kernel
  | succ times ih =>
    have front : "a/../".utf8ByteSize = 5 := by decide +kernel
    rw [join_detour_succ, String.utf8ByteSize_append, ih, front]
    omega

theorem noNul_join_detour (times : Nat) : '\x00' ∉ (Text.join '/' (detour times)).toList := by
  induction times with
  | zero => decide +kernel
  | succ times ih =>
    have front : '\x00' ∉ "a/../".toList := by decide +kernel
    rw [join_detour_succ, String.toList_append, List.mem_append, not_or]
    exact ⟨front, ih⟩

def deepEntries : List (String × Entry) :=
  [("deep", .directory [("g.xml", .file [])]), ("f.xml", .file [])]

def deepTree : FileSystem := ⟨.directory [("a", .directory deepEntries)], []⟩

theorem reach_detour (times links : Nat) : deepTree.root.reach links [] (detour times) =
    .ok (["a"], some (.directory deepEntries)) := by
  have down (rest : List String) :
      deepTree.root.reach links [] ("a" :: rest) = deepTree.root.reach links ["a"] rest :=
    reach_child rfl (lookedUp_of_proper (by decide)) rfl (fun _ => Entry.noConfusion) rest
  induction times with
  | zero =>
    refine (down []).trans ?_
    rw [reach]
    rfl
  | succ times ih =>
    have up :
        deepTree.root.reach links ["a"] (".." :: detour times) = deepTree.root.reach links [] (detour times) :=
      reach_above rfl _
    exact ((down _).trans up).trans ih

def longWay : Path := ⟨.none, detour 818⟩

theorem text_longWay : longWay.text = Text.join '/' (detour 818) := by
  rw [Path.text, if_neg (fun empty => detour_ne_nil _ empty.2), longWay, Path.anchorText, String.empty_append]

theorem utf8ByteSize_longWay : longWay.text.utf8ByteSize = 4091 := by
  rw [text_longWay, utf8ByteSize_join_detour]

theorem locate_longWay : deepTree.locate longWay.text = .ok (["a"], .directory deepEntries) := by
  have split : rawParts longWay.text = detour 818 := by
    rw [text_longWay, rawParts, Text.split_join _ (detour_ne_nil _)]
    intro part member
    rcases eq_of_mem_detour member with rfl | rfl <;> decide
  have checked : checkText longWay.text = .ok () := by
    have any : longWay.text ≠ "" := by
      intro empty
      have size := utf8ByteSize_longWay
      rw [empty] at size
      cases size
    rw [checkText, if_neg (text_longWay ▸ noNul_join_detour _), if_neg any, utf8ByteSize_longWay, if_neg (by decide)]
  refine locate_eq_ok_iff.mpr ⟨checked, ?_⟩
  have start : deepTree.start longWay.text = [] := ite_self []
  rw [split, start, reach_detour]

theorem withinLimit_longWay : withinLimit longWay [] = true ∧ withinLimit longWay ["deep"] = false := by
  have noDot : longWay.text ≠ "." := by
    intro dot
    have size := utf8ByteSize_longWay
    rw [dot] at size
    cases size
  have here : longWay.below [] = longWay := congrArg (Path.mk _) (List.append_nil _)
  have further : "/deep".utf8ByteSize = 5 := by decide +kernel
  rw [withinLimit, withinLimit, walkText, walkText, if_neg noDot, if_neg noDot, here,
    text_below (List.cons_ne_nil _ _) (detour_ne_nil _), Text.join_singleton, String.append_assoc,
    String.utf8ByteSize_append, utf8ByteSize_longWay]
  exact ⟨rfl, congrArg (fun size => decide (4091 + size < pathLimit)) further⟩

theorem walk_deepEntries (leads : Location → Bool) :
    (Entry.directory deepEntries).walk leads ([].contains ·) [] = [([], ["f.xml"]), (["deep"], ["g.xml"])] := by
  simp [deepEntries, Entry.walk, walkChildren, fileNames, Entry.isDirectory, sortNames]

end FileSystem

end ReleaseImpact
