import ReleaseImpact.FileSystem.Walk
import Mathlib.Data.List.Basic

/-!
Paths and what they lead to, one part after the other. In directories without links this can be told from
the entry alone, wherever it stands. Main statements:

- `reach_here`, `reach_above`, `reach_child`, `reach_link` and `reach_absent`: what one part of a path does.
- `reach_append`: a path goes on from where its first parts lead.
- `locate_below`: a path below a directory leads to what the directory has there.
- `walk_congr` and `entryAt_of_mem_walk`: the listings of a directory name the files in it.
- `content_eq_of_plain`: directories that are the same entry have the same content.
-/

namespace ReleaseImpact

/-- A name that an entry may have. -/
structure ProperName (name : String) : Prop where
  nonempty : name ≠ ""
  notHere : name ≠ "."
  notAbove : name ≠ ".."
  noSlash : '/' ∉ name.toList
  short : name.utf8ByteSize ≤ Entry.maxNameLength

namespace Entry

/-- Files and directories with distinct proper names, and no links. -/
inductive Plain : Entry → Prop
  | file (content : List UInt8) : Plain (.file content)
  | directory {children : List (String × Entry)} (distinct : (children.map Prod.fst).Nodup)
      (names : ∀ c ∈ children, ProperName c.1) (below : ∀ c ∈ children, Plain c.2) :
      Plain (.directory children)

theorem mem_of_childIn {name : String} {e : Entry} {children : List (String × Entry)}
    (found : childIn name children = some e) : (name, e) ∈ children := by
  induction children with
  | nil => cases found
  | cons c rest ih =>
    obtain ⟨n, d⟩ := c
    unfold childIn at found
    split at found
    · next same =>
      cases found
      exact same ▸ List.mem_cons_self
    · exact List.mem_cons_of_mem _ (ih found)

theorem childIn_of_mem {name : String} {e : Entry} {children : List (String × Entry)}
    (distinct : (children.map Prod.fst).Nodup) (member : (name, e) ∈ children) :
    childIn name children = some e := by
  induction children with
  | nil => cases member
  | cons c rest ih =>
    obtain ⟨n, d⟩ := c
    obtain ⟨fresh, distinct⟩ := List.nodup_cons.1 distinct
    unfold childIn
    rcases List.mem_cons.1 member with same | later
    · cases same
      exact if_pos rfl
    · have other : n ≠ name := by
        rintro rfl
        exact fresh (List.mem_map.2 ⟨(n, e), later, rfl⟩)
      rw [if_neg other, ih distinct later]

/-! ## Names in a directory -/

theorem bind_child? (e : Entry) (location : Location) (part : String) :
    (e.entryAt location).bind (child? part) = e.entryAt (location ++ [part]) := by
  rw [entryAt_append]
  cases e.entryAt location with
  | none => rfl
  | some d => cases child : d.child? part <;> simp [entryAt, child]

theorem exists_of_entryAt_cons {e d : Entry} {name : String} {rest : Location}
    (found : e.entryAt (name :: rest) = some d) :
    ∃ children c, e = .directory children ∧ childIn name children = some c ∧ c.entryAt rest = some d := by
  obtain ⟨c, child, further⟩ := Option.bind_eq_some_iff.1 found
  cases e with
  | directory children => exact ⟨children, c, rfl, child, further⟩
  | file content => cases child
  | link target => cases child

theorem entryAt_concat {e : Entry} {here : Location} {children : List (String × Entry)}
    (found : e.entryAt here = some (.directory children)) (name : String) :
    e.entryAt (here ++ [name]) = childIn name children := by
  rw [← bind_child?, found]
  rfl

theorem entryAt_concat_eq_some_iff {e d : Entry} {front : Location} {name : String} :
    e.entryAt (front ++ [name]) = some d ↔
      ∃ children, e.entryAt front = some (.directory children) ∧ childIn name children = some d := by
  constructor
  · intro found
    rw [← bind_child?] at found
    obtain ⟨above, there, child⟩ := Option.bind_eq_some_iff.mp found
    cases above with
    | directory children => exact ⟨children, there, child⟩
    | file content => cases child
    | link target => cases child
  · rintro ⟨children, there, child⟩
    rw [entryAt_concat there, child]

/-! ## Following paths -/

/-- A part of a path that is looked up in a directory. -/
structure LookedUp (part : String) : Prop where
  moves : ¬isHere part = true
  down : part ≠ ".."
  short : ¬maxNameLength < part.utf8ByteSize

-- One equation for each thing that a part of a path can do.
section Steps

variable {root e : Entry} {links : Nat} {here : Location} {part target : String}
  {children : List (String × Entry)}

theorem reach_of_leaf (found : root.entryAt here = some e) (leaf : ∀ children, e ≠ .directory children)
    (part : String) (rest : List String) :
    reach root links here (part :: rest) = .error .notDirectory := by
  rw [reach, found]
  cases e with
  | directory children => exact absurd rfl (leaf children)
  | file content => rfl
  | link target => rfl

theorem reach_of_missing (missing : root.entryAt here = none) (part : String) (rest : List String) :
    reach root links here (part :: rest) = .error .missing := by
  rw [reach, missing]

variable (found : root.entryAt here = some (.directory children))

include found

theorem reach_here (stays : isHere part = true) (rest : List String) :
    reach root links here (part :: rest) = reach root links here rest := by
  rw [reach]
  simp [found, stays]

theorem reach_above (rest : List String) :
    reach root links here (".." :: rest) = reach root links here.dropLast rest := by
  have moves : isHere ".." = false := by decide
  rw [reach]
  simp [found, moves]

theorem reach_long (moves : ¬isHere part = true) (down : part ≠ "..")
    (long : maxNameLength < part.utf8ByteSize) (rest : List String) :
    reach root links here (part :: rest) = .error .nameTooLong := by
  rw [reach]
  simp [found, moves, down, long]

theorem reach_child (up : LookedUp part) (inside : childIn part children = some e)
    (noLink : ∀ target, e ≠ .link target) (rest : List String) :
    reach root links here (part :: rest) = reach root links (here ++ [part]) rest := by
  rw [reach]
  simp [found, up.moves, up.down, up.short, inside]

theorem reach_link (up : LookedUp part) (inside : childIn part children = some (.link target))
    (rest : List String) :
    reach root (links + 1) here (part :: rest) =
      reach root links (if Text.startsWith target "/" then [] else here) (rawParts target ++ rest) := by
  rw [reach]
  simp [found, up.moves, up.down, up.short, inside]

theorem reach_link_of_none_left (up : LookedUp part) (inside : childIn part children = some (.link target))
    (rest : List String) : reach root 0 here (part :: rest) = .error .tooManyLinks := by
  rw [reach]
  simp [found, up.moves, up.down, up.short, inside]

theorem reach_absent (up : LookedUp part) (absent : childIn part children = none) (rest : List String) :
    reach root links here (part :: rest) =
      if rest.isEmpty then .ok (here ++ [part], none) else .error .missing := by
  rw [reach]
  simp [found, up.moves, up.down, up.short, absent]

end Steps

theorem reach_all_here {root : Entry} {links : Nat} {here : Location} {children : List (String × Entry)}
    (found : root.entryAt here = some (.directory children)) {parts : List String}
    (stay : ∀ part ∈ parts, isHere part = true) (rest : List String) :
    reach root links here (parts ++ rest) = reach root links here rest := by
  induction parts with
  | nil => rfl
  | cons part parts ih =>
    obtain ⟨first, others⟩ := List.forall_mem_cons.1 stay
    rw [List.cons_append, reach_here found first, ih others]

theorem directory_of_reach {root : Entry} {links : Nat} {here : Location} {part : String}
    {rest : List String} {result : Location × Option Entry}
    (led : reach root links here (part :: rest) = .ok result) :
    ∃ children, root.entryAt here = some (.directory children) := by
  rw [reach] at led
  split at led
  · cases led
  · next children found => exact ⟨children, found⟩
  · cases led

theorem entryAt_of_reach {root : Entry} {links : Nat} {here location : Location} {parts : List String}
    {found : Option Entry} (led : reach root links here parts = .ok (location, found)) :
    root.entryAt location = found := by
  fun_induction reach root links here parts with
  | case1 links here =>
    obtain ⟨rfl, stands⟩ := Prod.mk.inj (Except.ok.inj led)
    exact stands
  | case6 links here part rest children stands moves down short inside last =>
    obtain ⟨rfl, rfl⟩ := Prod.mk.inj (Except.ok.inj led)
    rw [entryAt_concat stands, inside]
  | _ => simp_all

theorem reach_append {root : Entry} {links : Nat} {here location : Location} {parts : List String}
    {e : Entry} (led : reach root links here parts = .ok (location, some e)) :
    ∃ left, ∀ more, reach root links here (parts ++ more) = reach root left location more := by
  -- what is left of the links that may be followed depends on the first parts alone
  fun_induction reach root links here parts with
  | case1 links here =>
    obtain ⟨rfl, -⟩ := Prod.mk.inj (Except.ok.inj led)
    exact ⟨links, fun more => rfl⟩
  | case3 links here part rest children found stays ih =>
    obtain ⟨left, same⟩ := ih led
    exact ⟨left, fun more => (reach_here found stays _).trans (same more)⟩
  | case4 links here rest children found moves ih =>
    obtain ⟨left, same⟩ := ih led
    exact ⟨left, fun more => (reach_above found _).trans (same more)⟩
  | case9 here part rest children found moves down short target inside links ih =>
    obtain ⟨left, same⟩ := ih led
    refine ⟨left, fun more => ?_⟩
    rw [List.cons_append, reach_link found ⟨moves, down, short⟩ inside, ← List.append_assoc]
    exact same more
  | case10 links here part rest children found moves down short child noLink inside ih =>
    obtain ⟨left, same⟩ := ih led
    exact ⟨left, fun more => (reach_child found ⟨moves, down, short⟩ inside noLink _).trans (same more)⟩
  | _ => simp_all

theorem Plain.entryAt {e d : Entry} {location : Location} (plain : e.Plain)
    (found : e.entryAt location = some d) : (∀ name ∈ location, ProperName name) ∧ d.Plain := by
  induction location generalizing e with
  | nil =>
    cases found
    exact ⟨List.forall_mem_nil _, plain⟩
  | cons name rest ih =>
    obtain ⟨children, c, rfl, child, further⟩ := exists_of_entryAt_cons found
    obtain _ | ⟨distinct, names, below⟩ := plain
    have member := mem_of_childIn child
    obtain ⟨others, last⟩ := ih (below _ member) further
    exact ⟨List.forall_mem_cons.2 ⟨names _ member, others⟩, last⟩

theorem isHere_of_proper {name : String} (proper : ProperName name) : isHere name = false := by
  simp [isHere, proper.nonempty, proper.notHere]

theorem lookedUp_of_proper {name : String} (proper : ProperName name) : LookedUp name where
  moves := Bool.not_eq_true _ ▸ isHere_of_proper proper
  down := proper.notAbove
  short := Nat.not_lt.2 proper.short

theorem reach_down {root : Entry} {links : Nat} {here location : Location} {e d : Entry}
    (start : root.entryAt here = some e) (names : ∀ name ∈ location, ProperName name)
    (found : e.entryAt location = some d) (noLink : ∀ target, d ≠ .link target) :
    reach root links here location = .ok (here ++ location, some d) := by
  induction location generalizing here e with
  | nil =>
    cases found
    rw [reach, start, List.append_nil]
  | cons name rest ih =>
    obtain ⟨proper, others⟩ := List.forall_mem_cons.mp names
    obtain ⟨children, c, rfl, child, further⟩ := exists_of_entryAt_cons found
    have next : root.entryAt (here ++ [name]) = some c := (entryAt_concat start name).trans child
    have passes : ∀ target, c ≠ .link target := by
      rintro target rfl
      cases rest with
      | nil =>
        cases further
        exact noLink target rfl
      | cons below more =>
        obtain ⟨_, _, same, -⟩ := exists_of_entryAt_cons further
        cases same
    rw [reach_child start (lookedUp_of_proper proper) child passes, ih next others further, List.append_assoc,
      List.singleton_append]

theorem reach_of_plain {root : Entry} {links : Nat} {here location : Location} {e d : Entry}
    (start : root.entryAt here = some e) (plain : e.Plain) (found : e.entryAt location = some d) :
    reach root links here location = .ok (here ++ location, some d) := by
  obtain ⟨names, last⟩ := plain.entryAt found
  refine reach_down start names found ?_
  rintro target rfl
  cases last

end Entry

/-! ## Paths below a directory -/

open Entry

theorem startsWith_slash_of_proper {name : String} (proper : ProperName name) (rest : String) :
    Text.startsWith (name ++ rest) "/" = false := by
  have letters : name.toList ≠ [] := by simpa using proper.nonempty
  obtain ⟨c, cs, first⟩ := List.exists_cons_of_ne_nil letters
  have noSlash := proper.noSlash
  rw [first] at noSlash
  simp only [List.mem_cons, not_or] at noSlash
  simp [Text.startsWith, first, List.isPrefixOf, noSlash.1]

theorem rawParts_join {location : Location} (named : location ≠ [])
    (proper : ∀ name ∈ location, ProperName name) : rawParts (Text.join '/' location) = location :=
  Text.split_join (fun name member => (proper name member).noSlash) named

theorem startsWith_slash_join {location : Location} (named : location ≠ [])
    (proper : ∀ name ∈ location, ProperName name) :
    Text.startsWith (Text.join '/' location) "/" = false := by
  obtain ⟨name, rest, rfl⟩ := List.exists_cons_of_ne_nil named
  have first := proper name List.mem_cons_self
  cases rest with
  | nil =>
    rw [Text.join_singleton]
    simpa using startsWith_slash_of_proper first ""
  | cons next rest =>
    have joined := Text.join_append (List.cons_ne_nil name []) (List.cons_ne_nil next rest)
    rw [List.singleton_append, Text.join_singleton, String.append_assoc] at joined
    rw [joined]
    exact startsWith_slash_of_proper first _

theorem rawParts_slash (front : String) {location : Location} (named : location ≠ [])
    (proper : ∀ name ∈ location, ProperName name) :
    rawParts (front ++ "/" ++ Text.join '/' location) = rawParts front ++ location := by
  rw [rawParts, Text.split_append, ← rawParts, ← rawParts, rawParts_join named proper]

theorem text_below {root : Path} {location : Location} (named : location ≠ []) (parts : root.parts ≠ []) :
    (root.below location).text = root.text ++ "/" ++ Text.join '/' location := by
  simp [Path.text, Path.below, parts, Text.join_append parts named, String.append_assoc]

theorem text_of_no_parts {root : Path} (parts : root.parts = []) :
    root.text = if root.anchor = .none then "." else Path.anchorText root.anchor := by
  simp [Path.text, parts, Text.join, Text.joinWith]

theorem text_below_of_no_parts {root : Path} {location : Location} (named : location ≠ [])
    (parts : root.parts = []) :
    (root.below location).text = Path.anchorText root.anchor ++ Text.join '/' location := by
  simp [Path.text, Path.below, parts, named]

theorem text_below_cases (root : Path) {location : Location} (named : location ≠ []) :
    (root.below location).text = Text.join '/' location ∨
      ∃ front, (root.below location).text = front ++ "/" ++ Text.join '/' location := by
  by_cases parts : root.parts = []
  · rw [text_below_of_no_parts named parts]
    cases root.anchor with
    | none => exact .inl (by simp [Path.anchorText])
    | root => exact .inr ⟨"", by rw [Path.anchorText]; rfl⟩
    | doubleRoot => exact .inr ⟨"/", by rw [Path.anchorText]; rfl⟩
  · exact .inr ⟨_, text_below named parts⟩

theorem reach_of_no_parts {root : Entry} {links : Nat} {here place : Location} {e : Entry}
    {parts : List String} (any : parts ≠ []) (stay : ∀ part ∈ parts, isHere part = true)
    (led : reach root links here parts = .ok (place, some e)) (more : List String)
    {front : List String} (stayFront : ∀ part ∈ front, isHere part = true) :
    reach root links here (front ++ more) = reach root links place more := by
  obtain ⟨part, rest, rfl⟩ := List.exists_cons_of_ne_nil any
  obtain ⟨children, found⟩ := directory_of_reach led
  have whole : reach root links here ((part :: rest) ++ []) = reach root links here [] :=
    reach_all_here found stay []
  rw [List.append_nil, led, reach] at whole
  obtain ⟨rfl, -⟩ := Prod.mk.inj (Except.ok.inj whole)
  exact reach_all_here found stayFront more

namespace FileSystem

theorem locate_eq_ok_iff {fs : FileSystem} {text : String} {place : Location} {e : Entry} :
    fs.locate text = .ok (place, e) ↔
      checkText text = .ok () ∧
        reach fs.root maxLinks (fs.start text) (rawParts text) = .ok (place, some e) := by
  unfold locate follow
  cases checkText text with
  | error fault => simp [bind, Except.bind]
  | ok u =>
    simp only [bind, Except.bind, true_and]
    cases reach fs.root maxLinks (fs.start text) (rawParts text) with
    | error fault => simp
    | ok result =>
      obtain ⟨location, _ | d⟩ := result <;> simp

theorem start_append {fs : FileSystem} {text : String} (filled : text ≠ "") (more : String) :
    fs.start (text ++ more) = fs.start text := by
  obtain ⟨c, cs, letters⟩ := List.exists_cons_of_ne_nil (mt String.toList_eq_nil_iff.1 filled)
  simp [start, Text.startsWith, letters, List.isPrefixOf]

theorem reach_below {fs : FileSystem} {root : Path} {place : Location} {e : Entry}
    (located : fs.locate root.text = .ok (place, e)) {location : Location} (named : location ≠ [])
    (proper : ∀ name ∈ location, ProperName name) :
    ∃ left, reach fs.root maxLinks (fs.start (root.below location).text)
        (rawParts (root.below location).text) = reach fs.root left place location := by
  obtain ⟨checked, led⟩ := locate_eq_ok_iff.1 located
  by_cases parts : root.parts = []
  · rw [text_of_no_parts parts] at led
    rw [text_below_of_no_parts named parts]
    refine ⟨maxLinks, ?_⟩
    cases anchor : root.anchor with
    | none =>
      rw [anchor, if_pos rfl] at led
      have text : Path.anchorText .none ++ Text.join '/' location = Text.join '/' location := by
        simp [Path.anchorText]
      have relative : Text.startsWith "." "/" = false := by decide
      have start : fs.start (Text.join '/' location) = fs.start "." := by
        simp only [FileSystem.start, startsWith_slash_join named proper, relative]
      rw [text, start, rawParts_join named proper]
      exact reach_of_no_parts (by decide) (by decide) led location (List.forall_mem_nil _)
    | root =>
      rw [anchor, if_neg (by decide)] at led
      have spelt : Path.anchorText .root = "" ++ "/" := by decide
      rw [start_append (by decide), spelt, rawParts_slash "" named proper, ← spelt]
      exact reach_of_no_parts (by decide) (by decide) led location (by decide)
    | doubleRoot =>
      rw [anchor, if_neg (by decide)] at led
      have spelt : Path.anchorText .doubleRoot = "/" ++ "/" := by decide
      rw [start_append (by decide), spelt, rawParts_slash "/" named proper, ← spelt]
      exact reach_of_no_parts (by decide) (by decide) led location (by decide)
  · have nonempty : root.text ≠ "" := by
      intro empty
      simp [empty, checkText] at checked
    obtain ⟨left, goesOn⟩ := reach_append led
    refine ⟨left, ?_⟩
    rw [text_below named parts, rawParts_slash _ named proper, String.append_assoc, start_append nonempty,
      goesOn]

theorem locate_below {fs : FileSystem} {root : Path} {place : Location} {e d : Entry}
    (located : fs.locate root.text = .ok (place, e)) (plain : e.Plain) {location : Location}
    (named : location ≠ []) (found : e.entryAt location = some d)
    (checked : checkText (root.below location).text = .ok ()) :
    fs.locate (root.below location).text = .ok (place ++ location, d) := by
  obtain ⟨left, goesOn⟩ := reach_below located named (plain.entryAt found).1
  have start := entryAt_of_reach (locate_eq_ok_iff.1 located).2
  exact locate_eq_ok_iff.2 ⟨checked, goesOn.trans (reach_of_plain start plain found)⟩

theorem read_below {fs : FileSystem} {root : Path} {place : Location} {e : Entry}
    (located : fs.locate root.text = .ok (place, e)) (plain : e.Plain) {location : Location}
    (named : location ≠ []) {bytes : List UInt8} (found : e.entryAt location = some (.file bytes))
    (checked : checkText (root.below location).text = .ok ()) :
    fs.read (root.below location).text = .ok bytes := by
  rw [read, locate_below located plain named found checked]

end FileSystem

/-! ## Listings -/

namespace Entry

variable {f g : Location → Bool} {excluded : String → Bool}

theorem fileNames_congr {p q : String → Bool} {children : List (String × Entry)}
    (same : ∀ name target, (name, Entry.link target) ∈ children → p name = q name) :
    fileNames p children = fileNames q children := by
  induction children with
  | nil => rfl
  | cons c rest ih =>
    obtain ⟨name, e⟩ := c
    have others := ih fun name target member => same name target (List.mem_cons_of_mem _ member)
    cases e with
    | file content => rw [fileNames, fileNames, others]
    | link target => rw [fileNames, fileNames, others, same name target List.mem_cons_self]
    | directory inner => rw [fileNames, fileNames, others]

theorem walkChildren_congr {below : Location} {children : List (String × Entry)}
    (same : ∀ c ∈ children,
      walk f excluded (below ++ [c.1]) c.2 = walk g excluded (below ++ [c.1]) c.2) :
    walkChildren f excluded below children = walkChildren g excluded below children := by
  induction children with
  | nil => rfl
  | cons c rest ih =>
    obtain ⟨first, others⟩ := List.forall_mem_cons.1 same
    rw [walkChildren, walkChildren, ih others, first]

theorem walk_congr {e : Entry} (plain : e.Plain) (below : Location) :
    walk f excluded below e = walk g excluded below e := by
  induction plain generalizing below with
  | file content => rfl
  | @directory children distinct names plain ih =>
    have files (p q : String → Bool) : fileNames p children = fileNames q children :=
      fileNames_congr fun name target member => nomatch plain _ member
    rw [walk, walk, walkChildren_congr fun c member => ih c member _,
      files _ fun name => g (below ++ [name])]

theorem mem_walkChildren_iff {below : Location} {children : List (String × Entry)}
    {group : String × List Listing} :
    group ∈ walkChildren f excluded below children ↔
      ∃ e, (group.1, e) ∈ children ∧ e.isDirectory = true ∧ excluded group.1 = false ∧
        group.2 = walk f excluded (below ++ [group.1]) e := by
  induction children with
  | nil => simp [walkChildren]
  | cons c rest ih =>
    obtain ⟨name, e⟩ := c
    obtain ⟨groupName, listings⟩ := group
    simp only [walkChildren, List.mem_cons, Prod.mk.injEq, or_and_right, exists_or] at ih ⊢
    split
    · next entered =>
      rw [Bool.and_eq_true, Bool.not_eq_true'] at entered
      rw [List.mem_cons, ih]
      refine or_congr_left ⟨?_, ?_⟩
      · intro same
        cases same
        exact ⟨e, ⟨rfl, rfl⟩, entered.1, entered.2, rfl⟩
      · rintro ⟨_, ⟨rfl, rfl⟩, -, -, rfl⟩
        rfl
    · next skipped =>
      rw [ih]
      refine (or_iff_right ?_).symm
      rintro ⟨_, ⟨rfl, rfl⟩, directory, kept, -⟩
      exact skipped (by simp [directory, kept])

theorem exists_entryAt_of_mem_walk {e : Entry} (plain : e.Plain) {below : Location} {listing : Listing}
    (member : listing ∈ walk f excluded below e) :
    ∃ location d, listing.1 = below ++ location ∧ e.entryAt location = some d := by
  induction plain generalizing below with
  | file content => cases member
  | @directory children distinct names plain ih =>
    rw [walk] at member
    rcases List.mem_cons.1 member with rfl | deeper
    · exact ⟨[], .directory children, (List.append_nil below).symm, rfl⟩
    · obtain ⟨group, inside, member⟩ := List.mem_flatMap.1 deeper
      obtain ⟨c, child, -, -, same⟩ := mem_walkChildren_iff.1 (List.mem_mergeSort.1 inside)
      obtain ⟨location, d, place, found⟩ := ih _ child (same ▸ member)
      refine ⟨group.1 :: location, d, by simpa using place, ?_⟩
      simpa [entryAt, child?, childIn_of_mem distinct child] using found

theorem entryAt_of_mem_walk {e : Entry} (plain : e.Plain) {below : Location} {listing : Listing}
    (member : listing ∈ walk f excluded below e) {name : String} (listed : name ∈ listing.2) :
    ∃ location bytes, listing.1 = below ++ location ∧
      e.entryAt (location ++ [name]) = some (.file bytes) := by
  induction plain generalizing below with
  | file content => cases member
  | @directory children distinct names plain ih =>
    rw [walk] at member
    rcases List.mem_cons.1 member with rfl | deeper
    · rw [sortNames, List.mem_mergeSort, mem_names] at listed
      rcases listed with ⟨bytes, here⟩ | ⟨target, here, -⟩
      · refine ⟨[], bytes, (List.append_nil below).symm, ?_⟩
        simp [entryAt, child?, childIn_of_mem distinct here]
      · cases plain _ here
    · obtain ⟨group, inside, member⟩ := List.mem_flatMap.1 deeper
      obtain ⟨c, child, -, -, same⟩ := mem_walkChildren_iff.1 (List.mem_mergeSort.1 inside)
      obtain ⟨location, bytes, place, found⟩ := ih _ child (same ▸ member)
      refine ⟨group.1 :: location, bytes, by simpa using place, ?_⟩
      simpa [entryAt, child?, childIn_of_mem distinct child] using found

end Entry

/-! ## Content -/

namespace FileSystem

/-- The files below a directory, by the names that lead to them, with what is read from each. -/
def content (fs : FileSystem) (excluded : List String) (root : Path) :
    List (Location × Except PathFault (List UInt8)) :=
  (fs.walk (excluded.contains ·) root).flatMap fun listing =>
    listing.2.map fun name => (listing.1 ++ [name], fs.read (root.below (listing.1 ++ [name])).text)

theorem filesBelow_eq_map_content (fs : FileSystem) (excluded : List String) (root : Path) :
    fs.filesBelow excluded root = (fs.content excluded root).map fun e => root.below e.1 := by
  simp only [filesBelow, content, List.map_flatMap, List.map_map]
  rfl

theorem mem_content {fs : FileSystem} {excluded : List String} {root : Path}
    {e : Location × Except PathFault (List UInt8)} (member : e ∈ fs.content excluded root) :
    e.1 ≠ [] ∧ fs.read (root.below e.1).text = e.2 := by
  obtain ⟨listing, -, member⟩ := List.mem_flatMap.1 member
  obtain ⟨name, -, rfl⟩ := List.mem_map.1 member
  exact ⟨by simp, rfl⟩

theorem content_of_plain {fs : FileSystem} {root : Path} {place : Location} {e : Entry}
    (located : fs.locate root.text = .ok (place, e)) (plain : e.Plain) (excluded : List String)
    (checked : ∀ location d, e.entryAt location = some d →
      checkText (root.below location).text = .ok () ∧ withinLimit root location = true) :
    fs.content excluded root =
      (e.walk (fun _ => false) (excluded.contains ·) []).flatMap fun listing =>
        listing.2.map fun name => (listing.1 ++ [name],
          match e.entryAt (listing.1 ++ [name]) with
          | some (.file bytes) => .ok bytes
          | _ => .error .missing) := by
  have short : ∀ listing ∈ e.walk (fun _ => false) (excluded.contains ·) [],
      withinLimit root listing.1 = true := by
    intro listing member
    obtain ⟨location, d, place, found⟩ := exists_entryAt_of_mem_walk plain member
    rw [place, List.nil_append]
    exact (checked location d found).2
  rw [content, walk, located]
  dsimp only
  rw [walk_congr plain (g := fun _ => false), List.filter_eq_self.2 short]
  refine List.flatMap_congr fun listing member => List.map_congr_left fun name listed => ?_
  obtain ⟨location, bytes, place, found⟩ := entryAt_of_mem_walk plain member listed
  rw [place, List.nil_append, found, read_below located plain (by simp) found (checked _ _ found).1]

theorem entryAt_of_mem_content {fs : FileSystem} {excluded : List String} {root : Path} {place : Location}
    {e : Entry} (located : fs.locate root.text = .ok (place, e)) (plain : e.Plain)
    {file : Location × Except PathFault (List UInt8)} (member : file ∈ fs.content excluded root) :
    ∃ bytes, e.entryAt file.1 = some (.file bytes) := by
  rw [content, walk, located] at member
  obtain ⟨listing, walked, member⟩ := List.mem_flatMap.1 member
  obtain ⟨name, listed, rfl⟩ := List.mem_map.1 member
  obtain ⟨location, bytes, place, found⟩ := entryAt_of_mem_walk plain (List.mem_filter.1 walked).1 listed
  rw [place, List.nil_append]
  exact ⟨bytes, found⟩

theorem content_eq_of_plain {fs : FileSystem} {before after : Path} {place place' : Location} {e : Entry}
    (atBefore : fs.locate before.text = .ok (place, e)) (atAfter : fs.locate after.text = .ok (place', e))
    (plain : e.Plain)
    (checked : ∀ location d, e.entryAt location = some d →
      (checkText (before.below location).text = .ok () ∧ withinLimit before location = true) ∧
        checkText (after.below location).text = .ok () ∧ withinLimit after location = true)
    (excluded : List String) : fs.content excluded before = fs.content excluded after := by
  rw [content_of_plain atBefore plain excluded fun location d found => (checked location d found).1,
    content_of_plain atAfter plain excluded fun location d found => (checked location d found).2]

end FileSystem

end ReleaseImpact
