import ReleaseImpact.Proofs.RemovedFiles
import ReleaseImpact.Proofs.Shapes
import Mathlib.Data.List.Nodup
import Mathlib.Data.List.Perm.Subperm

/-!
Paths without links. The two ways in which links are followed agree: where a path leads somewhere, it
resolves to the place where it leads. Main statements:

- `exists_of_reach_append`: a path that leads somewhere leads there by way of its first parts.
- `length_le_linkCount`: there are no more links than are counted.
- `resolve_of_reach`: no link that a path leads through stays in the resolved path.
- `FileSystem.resolve_of_leads`: a path that leads somewhere resolves to the place.
-/

namespace ReleaseImpact

namespace Entry

variable {root e : Entry} {links : Nat} {here location : Location}

/-! ## Paths in two parts -/

theorem reach_more {parts : List String} {result : Location × Option Entry} {more : Nat}
    (led : reach root links here parts = .ok result) (enough : links ≤ more) :
    reach root more here parts = .ok result := by
  fun_induction reach root links here parts generalizing more with
  | case1 links here =>
    rw [reach]
    exact led
  | case3 links here part rest children found stays ih =>
    rw [reach_here found stays]
    exact ih led enough
  | case4 links here rest children found moves ih =>
    rw [reach_above found]
    exact ih led enough
  | case6 links here part rest children found moves down short inside last =>
    rw [reach_absent found ⟨moves, down, short⟩ inside, if_pos last]
    exact led
  | case9 here part rest children found moves down short target inside links ih =>
    cases more with
    | zero => exact absurd enough (Nat.not_succ_le_zero _)
    | succ more =>
      rw [reach_link found ⟨moves, down, short⟩ inside]
      exact ih led (Nat.le_of_succ_le_succ enough)
  | case10 links here part rest children found moves down short child noLink inside ih =>
    rw [reach_child found ⟨moves, down, short⟩ inside noLink]
    exact ih led enough
  | _ => cases led

theorem exists_of_reach_append {front back : List String}
    (led : reach root links here (front ++ back) = .ok (location, some e)) :
    ∃ between d left, left ≤ links ∧ reach root links here front = .ok (between, some d) ∧
      reach root left between back = .ok (location, some e) := by
  -- A fault on the way of the front is a fault of the whole path, so only the steps that go on are left.
  fun_induction reach root links here front with
  | case1 links here =>
    cases back with
    | nil =>
      rw [List.append_nil, reach] at led
      obtain ⟨rfl, found⟩ := Prod.mk.inj (Except.ok.inj led)
      exact ⟨here, e, links, Nat.le_refl _, by rw [found], by rw [reach, found]⟩
    | cons part rest =>
      obtain ⟨children, found⟩ := directory_of_reach led
      exact ⟨here, _, links, Nat.le_refl _, by rw [found], led⟩
  | case3 links here part rest children found stays ih =>
    rw [List.cons_append, reach_here found stays] at led
    exact ih led
  | case4 links here rest children found moves ih =>
    rw [List.cons_append, reach_above found] at led
    exact ih led
  | case9 here part rest children found moves down short target inside links ih =>
    rw [List.cons_append, reach_link found ⟨moves, down, short⟩ inside, ← List.append_assoc] at led
    obtain ⟨between, d, left, fewer, first, further⟩ := ih led
    exact ⟨between, d, left, Nat.le_succ_of_le fewer, first, further⟩
  | case10 links here part rest children found moves down short child noLink inside ih =>
    rw [List.cons_append, reach_child found ⟨moves, down, short⟩ inside noLink] at led
    exact ih led
  | case2 links here part rest missing =>
    rw [List.cons_append, reach_of_missing missing] at led
    cases led
  | case5 links here part rest children found moves down long =>
    rw [List.cons_append, reach_long found moves down long] at led
    cases led
  | case6 links here part rest children found moves down short inside
  | case7 links here part rest children found moves down short inside =>
    rw [List.cons_append, reach_absent found ⟨moves, down, short⟩ inside] at led
    split at led <;> cases led
  | case8 here part rest children found moves down short target inside =>
    rw [List.cons_append, reach_link_of_none_left found ⟨moves, down, short⟩ inside] at led
    cases led
  | case11 links here part rest other noDirectory found =>
    rw [List.cons_append, reach_of_leaf found noDirectory] at led
    cases led

/-- One step on the way of a path: how many links are left, where it leads, and which parts follow. -/
inductive Steps (root : Entry) (here : Location) (part : String) (rest : List String) :
    Nat → Nat → Location → List String → Prop
  | stays {links : Nat} (stays : isHere part = true) : Steps root here part rest links links here rest
  | up {links : Nat} (moves : isHere part = false) (up : part = "..") :
      Steps root here part rest links links here.dropLast rest
  | down {links : Nat} {c : Entry} (moves : isHere part = false) (down : part ≠ "..")
      (child : (root.entryAt here).bind (child? part) = some c) (noLink : ∀ target, c ≠ .link target) :
      Steps root here part rest links links (here ++ [part]) rest
  | link {links : Nat} {target : String} (moves : isHere part = false) (down : part ≠ "..")
      (child : (root.entryAt here).bind (child? part) = some (.link target)) :
      Steps root here part rest (links + 1) links (if Text.startsWith target "/" then [] else here)
        (rawParts target ++ rest)

theorem exists_steps {part : String} {rest : List String}
    (led : reach root links here (part :: rest) = .ok (location, some e)) :
    ∃ left next parts, Steps root here part rest links left next parts ∧
      reach root left next parts = .ok (location, some e) := by
  obtain ⟨children, found⟩ := directory_of_reach led
  have child : (root.entryAt here).bind (child? part) = childIn part children := by
    rw [found]
    rfl
  rw [reach, found] at led
  dsimp only at led
  split at led
  · next stays => exact ⟨links, here, rest, .stays stays, led⟩
  · next moves =>
    rw [Bool.not_eq_true] at moves
    split at led
    · next up => exact ⟨links, _, rest, .up moves up, led⟩
    · next down =>
      split at led
      · cases led
      · split at led
        · split at led <;> cases led
        · next target inside =>
          split at led
          · cases led
          · next links => exact ⟨links, _, _, .link moves down (child.trans inside), led⟩
        · next c noLink inside =>
          exact ⟨links, _, rest, .down moves down (child.trans inside) noLink, led⟩

/-! ## The number of links -/

mutual

/-- The locations of the links in an entry. -/
def linkPlaces : Entry → List Location
  | .file _ => []
  | .link _ => [[]]
  | .directory children => linkPlacesAmong children

def linkPlacesAmong : List (String × Entry) → List Location
  | [] => []
  | (name, e) :: rest => (linkPlaces e).map (name :: ·) ++ linkPlacesAmong rest

end

theorem length_linkPlaces (e : Entry) : e.linkPlaces.length = e.linkCount := by
  induction e using inductOn with
  | file content => rfl
  | link target => rfl
  | directory children ih =>
    rw [linkPlaces, linkCount]
    induction children with
    | nil => rfl
    | cons c rest others =>
      obtain ⟨first, later⟩ := List.forall_mem_cons.mp ih
      rw [linkPlacesAmong, linkCountAll, List.length_append, List.length_map, first, others later]

theorem mem_linkPlacesAmong {children : List (String × Entry)} {name : String} {c : Entry}
    (inside : (name, c) ∈ children) {rest : Location} (listed : rest ∈ c.linkPlaces) :
    name :: rest ∈ linkPlacesAmong children := by
  induction children with
  | nil => cases inside
  | cons first others ih =>
    unfold linkPlacesAmong
    rcases List.mem_cons.mp inside with rfl | inside
    · exact List.mem_append_left _ (List.mem_map_of_mem listed)
    · exact List.mem_append_right _ (ih inside)

theorem mem_linkPlaces {place : Location} {target : String}
    (found : e.entryAt place = some (.link target)) : place ∈ e.linkPlaces := by
  induction place generalizing e with
  | nil =>
    cases found
    exact List.mem_singleton_self _
  | cons name rest ih =>
    obtain ⟨children, c, rfl, child, further⟩ := exists_of_entryAt_cons found
    exact mem_linkPlacesAmong (mem_of_childIn child) (ih further)

theorem length_le_linkCount {places : List Location} (distinct : places.Nodup)
    (links : ∀ place ∈ places, ∃ target, e.entryAt place = some (.link target)) :
    places.length ≤ e.linkCount := by
  rw [← length_linkPlaces]
  refine (distinct.subperm fun place member => ?_).length_le
  obtain ⟨target, found⟩ := links place member
  exact mem_linkPlaces found

/-! ## Links that are followed -/

/-- The link at a place leads somewhere, by way of so many other links. -/
def Leads (root : Entry) (links : Nat) (place : Location) : Prop :=
  ∃ target location e, root.entryAt place = some (.link target) ∧
    reach root links (if Text.startsWith target "/" then [] else place.dropLast) (rawParts target) =
      .ok (location, some e)

/-- The links that are being followed are different ones, none of which leads somewhere by way of fewer
links than are left. -/
structure Opened (root : Entry) (workingDirectory : Location) (links : Nat) (opened : List Spelling) :
    Prop where
  distinct : (opened.map (·.location workingDirectory)).Nodup
  link : ∀ place ∈ opened, ∃ target, root.entryAt (place.location workingDirectory) = some (.link target)
  needed : ∀ place ∈ opened, ∀ fewer < links, ¬Leads root fewer (place.location workingDirectory)

theorem opened_nil (root : Entry) (workingDirectory : Location) (links : Nat) :
    Opened root workingDirectory links [] :=
  ⟨List.nodup_nil, List.forall_mem_nil _, List.forall_mem_nil _⟩

variable {workingDirectory : Location} {opened : List Spelling}

theorem Opened.fewer {fewer : Nat} (holds : Opened root workingDirectory links opened)
    (le : fewer ≤ links) : Opened root workingDirectory fewer opened where
  distinct := holds.distinct
  link := holds.link
  needed place member n small := holds.needed place member n (Nat.lt_of_lt_of_le small le)

theorem Opened.not_mem (holds : Opened root workingDirectory (links + 1) opened) {place : Spelling}
    (leads : Leads root links (place.location workingDirectory)) :
    place.location workingDirectory ∉ opened.map (·.location workingDirectory) := by
  intro member
  obtain ⟨other, inside, same⟩ := List.mem_map.mp member
  exact holds.needed other inside links (Nat.lt_succ_self links) (same ▸ leads)

/-- A link that leads somewhere can be followed with the fewest links that it needs. -/
theorem Opened.cons (holds : Opened root workingDirectory (links + 1) opened) {place : Spelling}
    (leads : Leads root links (place.location workingDirectory)) :
    ∃ fewest ≤ links, Leads root fewest (place.location workingDirectory) ∧
      Opened root workingDirectory fewest (place :: opened) := by
  classical
  have some : ∃ n, Leads root n (place.location workingDirectory) := ⟨links, leads⟩
  have least : Nat.find some ≤ links := Nat.find_min' some leads
  refine ⟨Nat.find some, least, Nat.find_spec some, ?_, ?_, ?_⟩
  · exact List.nodup_cons.mpr ⟨holds.not_mem leads, holds.distinct⟩
  · obtain ⟨target, _, _, found, -⟩ := leads
    exact List.forall_mem_cons.mpr ⟨⟨target, found⟩, holds.link⟩
  · refine List.forall_mem_cons.mpr ⟨fun n small => Nat.find_min some small, fun other member n small => ?_⟩
    exact holds.needed other member n (Nat.lt_of_lt_of_le small (Nat.le_succ_of_le least))

/-! ## Spellings -/

theorem location_below (s : Spelling) (name : String) :
    (s.below name).location workingDirectory = s.location workingDirectory ++ [name] := by
  obtain ⟨_ | n, names⟩ := s
  · rfl
  · exact (List.append_assoc _ _ _).symm

theorem location_up (s : Spelling) :
    s.up.location workingDirectory = (s.location workingDirectory).dropLast := by
  obtain ⟨ups, names⟩ := s
  cases names with
  | nil =>
    cases ups with
    | none => rfl
    | some n =>
      simp only [Spelling.up, List.isEmpty_nil, if_true, Option.map_some, Spelling.location,
        List.append_nil, List.dropLast_eq_take, List.take_take, List.length_take]
      congr 1
      omega
  | cons name rest =>
    cases ups with
    | none => rfl
    | some n =>
      exact (List.dropLast_append_of_ne_nil (List.cons_ne_nil name rest)).symm

theorem Opened.room (holds : Opened root workingDirectory links opened) :
    opened.length ≤ root.linkCount := by
  rw [← List.length_map (·.location workingDirectory)]
  refine length_le_linkCount holds.distinct fun place member => ?_
  obtain ⟨spelt, inside, rfl⟩ := List.mem_map.mp member
  exact holds.link spelt inside

theorem resolve_of_reach {depth : Nat} {here : Spelling} {parts : List String}
    (led : reach root links (here.location workingDirectory) parts = .ok (location, some e))
    (holds : Opened root workingDirectory links opened) (room : root.linkCount ≤ depth + opened.length) :
    ∃ found, resolve root workingDirectory depth opened here parts = (found, true) ∧
      found.location workingDirectory = location := by
  -- What a link leads to needs fewer links than are left, and so does the rest of the path behind it.
  induction links using Nat.strong_induction_on generalizing depth opened here parts location e with
  | _ links deeper =>
    induction parts generalizing here with
    | nil =>
      rw [reach] at led
      exact ⟨here, by rw [resolve], (Prod.mk.inj (Except.ok.inj led)).1⟩
    | cons part rest ih =>
      have below : (here.below part).location workingDirectory = here.location workingDirectory ++ [part] :=
        location_below here part
      obtain ⟨left, next, parts, step, led⟩ := exists_steps led
      rw [resolve]
      cases step with
      | stays stays =>
        rw [if_pos stays]
        exact ih led
      | up moves up =>
        rw [if_neg (Bool.not_eq_true _ ▸ moves), if_pos up]
        exact ih (by rwa [location_up])
      | @down _ c moves down child noLink =>
        rw [if_neg (Bool.not_eq_true _ ▸ moves), if_neg down, child]
        cases c with
        | link target => exact absurd rfl (noLink target)
        | file content => exact ih (by rwa [below])
        | directory inner => exact ih (by rwa [below])
      | @link _ target moves down child =>
        rw [if_neg (Bool.not_eq_true _ ▸ moves), if_neg down, child]
        obtain ⟨between, d, last, fewer, first, further⟩ := exists_of_reach_append led
        have standing : root.entryAt ((here.below part).location workingDirectory) =
            some (.link target) := by
          rwa [below, ← bind_child?]
        have leads : Leads root left ((here.below part).location workingDirectory) :=
          ⟨target, between, d, standing, by rwa [below, List.dropLast_concat]⟩
        have fresh : here.below part ∉ opened := fun member =>
          holds.not_mem leads (List.mem_map_of_mem member)
        obtain ⟨fewest, le, ⟨_, _, _, same, least⟩, opens⟩ := holds.cons leads
        cases standing.symm.trans same
        rw [below, List.dropLast_concat] at least
        cases (reach_more least le).symm.trans first
        have start : (if Text.startsWith target "/" then Spelling.fromRoot else here).location
            workingDirectory =
              if Text.startsWith target "/" then [] else here.location workingDirectory := by
          split <;> rfl
        have more := opens.room
        rw [List.length_cons] at more
        cases depth with
        | zero => omega
        | succ depth =>
          have room' : root.linkCount ≤ depth + (here.below part :: opened).length := by
            rw [List.length_cons]
            omega
          obtain ⟨middle, resolved, rfl⟩ := deeper fewest (Nat.lt_succ_of_le le) (start ▸ least) opens room'
          dsimp only
          rw [if_neg fresh, resolved]
          exact deeper last (Nat.lt_succ_of_le fewer) further (holds.fewer (Nat.le_succ_of_le fewer)) room

end Entry

open Entry

/-! ## Resolved paths -/

theorem Location.normalized_of_proper {location : Location} (proper : ∀ name ∈ location, ProperName name) :
    Location.normalized location = location := by
  unfold normalized
  suffices append : ∀ done : Location, location.foldl (fun done part =>
      if Entry.isHere part then done else if part = ".." then done.dropLast else done ++ [part]) done =
        done ++ location from append []
  induction location with
  | nil => exact fun done => (List.append_nil done).symm
  | cons name rest ih =>
    obtain ⟨first, others⟩ := List.forall_mem_cons.mp proper
    intro done
    rw [List.foldl_cons, isHere_of_proper first, if_neg Bool.false_ne_true, if_neg first.notAbove, ih others,
      List.append_assoc, List.singleton_append]

namespace FileSystem

variable {fs : FileSystem} {location : Location} {e : Entry}

theorem parts_pathOf (fs : FileSystem) (names : ∀ name ∈ location, ProperName name)
    (filled : location ≠ []) :
    fs.start (pathOf location).text = [] ∧ rawParts (pathOf location).text = "" :: location := by
  have text : (pathOf location).text = "" ++ "/" ++ Text.join '/' location := by
    simp [pathOf, Path.text, Path.anchorText]
  rw [text]
  refine ⟨?_, ?_⟩
  · rw [String.empty_append, start_append (by decide)]
    simp [start, Text.startsWith]
  · rw [rawParts_slash "" filled names]
    rfl

theorem locate_pathOf_nil (fs : FileSystem) : fs.locate (pathOf []).text ≠ .error .tooManyLinks := by
  have text : (pathOf []).text = "/" := by decide
  have checked : checkText "/" = .ok () := by decide
  have parts : rawParts "/" = ["", ""] := by decide
  have start : fs.start "/" = [] := by simp [start, Text.startsWith]
  rw [text, locate, checked, parts, start]
  show follow _ _ _ _ ≠ _
  cases root : fs.root <;> simp [follow, reach, entryAt, isHere]

theorem checkText_ne (text : String) : checkText text ≠ .error .tooManyLinks := by
  unfold checkText
  split
  · nofun
  · split
    · nofun
    · split <;> nofun

theorem locate_pathOf (proper : fs.root.Proper) (filled : location ≠ [])
    (found : fs.root.entryAt location = some e) (noLink : ∀ target, e ≠ .link target)
    (checked : checkText (pathOf location).text = .ok ()) :
    fs.locate (pathOf location).text = .ok (location, e) := by
  have names := (proper.entryAt found).1
  obtain ⟨start, parts⟩ := parts_pathOf fs names filled
  have top : ∃ children, fs.root.entryAt [] = some (.directory children) := by
    obtain ⟨name, rest, rfl⟩ := List.exists_cons_of_ne_nil filled
    obtain ⟨children, _, root, -⟩ := exists_of_entryAt_cons found
    exact ⟨children, congrArg some root⟩
  obtain ⟨children, top⟩ := top
  refine locate_eq_ok_iff.mpr ⟨checked, ?_⟩
  rw [start, parts, reach_here top rfl]
  exact reach_down rfl names found noLink

theorem locate_pathOf_ne (proper : fs.root.Proper) (found : fs.root.entryAt location = some e)
    (noLink : ∀ target, e ≠ .link target) :
    fs.locate (pathOf location).text ≠ .error .tooManyLinks := by
  by_cases filled : location = []
  · subst filled
    exact locate_pathOf_nil fs
  · cases checked : checkText (pathOf location).text with
    | ok u =>
      rw [locate_pathOf proper filled found noLink checked]
      exact nofun
    | error fault =>
      rw [locate, checked]
      rintro ⟨⟩
      exact checkText_ne _ checked

theorem resolve_of_leads {p : Path} (proper : fs.root.Proper) (noNul : '\x00' ∉ p.text.toList)
    (led : reach fs.root maxLinks (fs.start p.text) (rawParts p.text) = .ok (location, some e))
    (noLink : ∀ target, e ≠ .link target) : fs.resolve p = .ok (pathOf location) := by
  have found := entryAt_of_reach led
  have start : (Spelling.ofText p.text).location fs.workingDirectory = fs.start p.text := by
    unfold Spelling.ofText FileSystem.start
    split
    · rfl
    · simp [Spelling.location]
  have room : fs.root.linkCount ≤ fs.root.linkCount * (fs.workingDirectory.length + 2) + 1 +
      ([] : List Spelling).length :=
    Nat.le_succ_of_le (Nat.le_mul_of_pos_right _ (Nat.succ_pos _))
  obtain ⟨spelt, resolved, rfl⟩ := resolve_of_reach (start ▸ led) (opened_nil ..) room
  have normal := Location.normalized_of_proper (proper.entryAt found).1
  have straight := locate_pathOf_ne proper found noLink
  rw [resolve, if_neg noNul]
  simp only [resolved, normal]

end FileSystem

end ReleaseImpact
