import ReleaseImpact.FileSystem.Edit
import ReleaseImpact.Proofs.RemovedFiles
import ReleaseImpact.Proofs.Shapes

/-!
File trees to which directories, files and text are added. Main statements:

- `Entry.reach_grows`: what a path led to before, it leads to afterwards.
- `Entry.face_changeAt`: a change at one location leaves all others alone.
- `FileSystem.adds_append`: what is appended stands at the end of one file and nowhere else.
- `FileSystem.adds_makeDirectories`: new directories add nothing to any file.
-/

namespace ReleaseImpact

theorem childIn_setChild_of_isSome {name other : String} {change : Option Entry → Option Entry}
    (keeps : ∀ e, (change (some e)).isSome = true) (children : List (String × Entry)) :
    childIn other (setChild name change children) =
      if name = other then change (childIn name children) else childIn other children := by
  induction children with
  | nil => cases made : change none <;> by_cases same : name = other <;> simp [setChild, childIn, made, same]
  | cons c rest ih =>
    obtain ⟨n, d⟩ := c
    by_cases here : n = name
    · subst here
      obtain ⟨d', changed⟩ := Option.isSome_iff_exists.mp (keeps d)
      by_cases same : n = other <;> simp [setChild, childIn, changed, same]
    · by_cases same : name = other
      · subst same
        simp [setChild, childIn, here, ih]
      · by_cases found : n = other
        · subst found
          simp [setChild, childIn, here, same]
        · simp [setChild, childIn, here, found, ih, same]

namespace Entry

/-- An entry by itself, without what a directory holds. -/
def face : Entry → Entry
  | .directory _ => .directory []
  | e => e

theorem sort_face (e : Entry) : e.face.sort = e.sort := by cases e <;> rfl

/-- All that is in one tree is in the other one too, where files may have other content. -/
def Grows (root root' : Entry) : Prop :=
  ∀ place e, root.entryAt place = some e → (root'.entryAt place).map sort = some e.sort

variable {root root' : Entry} {links : Nat} {here place front : Location} {parts : List String} {name : String}
  {e : Entry} {children : List (String × Entry)} {change : Option Entry → Option Entry}

theorem Grows.refl (root : Entry) : Grows root root := fun _ _ found => by rw [found]; rfl

theorem Grows.trans {root'' : Entry} (first : Grows root root') (second : Grows root' root'') :
    Grows root root'' := by
  intro place e found
  obtain ⟨e', there, same⟩ := Option.map_eq_some_iff.mp (first place e found)
  rw [second place e' there, same]

/-! ## Following paths -/

theorem Grows.directory (grows : Grows root root') (found : root.entryAt here = some (.directory children)) :
    ∃ children', root'.entryAt here = some (.directory children') := by
  obtain ⟨e', there, same⟩ := Option.map_eq_some_iff.mp (grows here _ found)
  obtain ⟨children', rfl⟩ := exists_directory_of_sort same
  exact ⟨children', there⟩

theorem Grows.childIn (grows : Grows root root') {children' : List (String × Entry)}
    (found : root.entryAt here = some (.directory children))
    (found' : root'.entryAt here = some (.directory children')) (inside : childIn name children = some e) :
    ∃ e', ReleaseImpact.childIn name children' = some e' ∧ e'.sort = e.sort := by
  rw [← entryAt_concat found] at inside
  have there := grows _ _ inside
  rw [entryAt_concat found'] at there
  exact Option.map_eq_some_iff.mp there

theorem reach_grows {r : Option Entry} (grows : Grows root root')
    (led : reach root links here parts = .ok (place, r))
    (noLink : r = none → ∀ target, root'.entryAt place ≠ some (.link target)) :
    reach root' links here parts = .ok (place, root'.entryAt place) := by
  fun_induction reach root links here parts with
  | case1 links here =>
    obtain ⟨rfl, -⟩ := Prod.mk.inj (Except.ok.inj led)
    rw [reach]
  | case3 links here part rest children found stays ih =>
    obtain ⟨children', found'⟩ := grows.directory found
    rw [reach_here found' stays, ih led]
  | case4 links here rest children found moves ih =>
    obtain ⟨children', found'⟩ := grows.directory found
    rw [reach_above found', ih led]
  | case6 links here part rest children found moves down short missing last =>
    obtain ⟨rfl, rfl⟩ := Prod.mk.inj (Except.ok.inj led)
    obtain ⟨children', found'⟩ := grows.directory found
    obtain rfl := List.isEmpty_iff.mp last
    cases inside' : childIn part children' with
    | none => rw [reach_absent found' ⟨moves, down, short⟩ inside', entryAt_concat found', inside']; rfl
    | some c =>
      have noLink' (target : String) : c ≠ .link target := by
        rintro rfl
        exact noLink rfl target ((entryAt_concat found' part).trans inside')
      rw [reach_child found' ⟨moves, down, short⟩ inside' noLink', reach]
  | case9 here part rest children found moves down short target inside links ih =>
    obtain ⟨children', found'⟩ := grows.directory found
    obtain ⟨child, inside', sorted⟩ := grows.childIn found found' inside
    obtain rfl := sort_eq_link_iff.mp sorted
    rw [reach_link found' ⟨moves, down, short⟩ inside']
    exact ih led
  | case10 links here part rest children found moves down short child leads inside ih =>
    obtain ⟨children', found'⟩ := grows.directory found
    obtain ⟨child', inside', sorted⟩ := grows.childIn found found' inside
    have noLink' (target : String) : child' ≠ .link target := fun linked =>
      leads target (sort_eq_link_iff.mp (sorted ▸ sort_eq_link_iff.mpr linked))
    rw [reach_child found' ⟨moves, down, short⟩ inside' noLink', ih led]
  | _ => simp_all

/-! ## Changing one location -/

theorem changeAt_cons {rest : Location} (further : rest ≠ []) :
    changeAt change (name :: rest) (.directory children) =
      .directory (setChild name (Option.map (changeAt change rest)) children) := by
  cases rest with
  | nil => exact absurd rfl further
  | cons next rest => rfl

theorem entryAt_changeAt (found : root.entryAt front = some (.directory children))
    (keeps : ∀ e, (change (some e)).isSome = true) :
    (root.changeAt change (front ++ [name])).entryAt (front ++ [name]) = change (childIn name children) := by
  induction front generalizing root with
  | nil =>
    cases found
    show ((childIn name (setChild name change children)).bind fun e => e.entryAt []) = _
    rw [childIn_setChild_of_isSome keeps, if_pos rfl]
    cases change (childIn name children) <;> rfl
  | cons n front ih =>
    obtain ⟨inner, c, rfl, inside, further⟩ := exists_of_entryAt_cons found
    rw [List.cons_append, changeAt_cons (by simp)]
    show ((childIn n (setChild n _ inner)).bind fun e => e.entryAt (front ++ [name])) = _
    rw [childIn_setChild_of_isSome (fun _ => rfl), if_pos rfl, inside]
    exact ih further

theorem face_changeAt (found : root.entryAt front = some (.directory children))
    (keeps : ∀ e, (change (some e)).isSome = true) (apart : ¬ front ++ [name] <+: place) :
    ((root.changeAt change (front ++ [name])).entryAt place).map face = (root.entryAt place).map face := by
  induction front generalizing root place with
  | nil =>
    cases found
    cases place with
    | nil => rfl
    | cons m more =>
      have other : name ≠ m := fun same => apart (by simp [same])
      show ((childIn m (setChild name change children)).bind fun e => e.entryAt more).map face = _
      rw [childIn_setChild_of_isSome keeps, if_neg other]
      rfl
  | cons n front ih =>
    obtain ⟨inner, c, rfl, inside, further⟩ := exists_of_entryAt_cons found
    rw [List.cons_append, changeAt_cons (by simp)]
    cases place with
    | nil => rfl
    | cons m more =>
      show ((childIn m (setChild n _ inner)).bind fun e => e.entryAt more).map face =
        ((childIn m inner).bind fun e => e.entryAt more).map face
      rw [childIn_setChild_of_isSome (fun _ => rfl)]
      by_cases same : n = m
      · subst same
        rw [if_pos rfl, inside]
        exact ih further fun within => apart (by simpa using within)
      · rw [if_neg same]

/-! ## Contents -/

def contentOf : Option Entry → List UInt8
  | some (.file content) => content
  | _ => []

/-- The content of the file at a location, empty if no file is there. -/
def contentAt (root : Entry) (place : Location) : List UInt8 := contentOf (root.entryAt place)

theorem contentOf_face (e : Option Entry) : contentOf (e.map face) = contentOf e := by
  cases e with
  | none => rfl
  | some e => cases e <;> rfl

/-- What is not there yet, and what is a file, has nothing below. -/
theorem entryAt_below_eq_none {more : Location} (found : root.entryAt front = some (.directory children))
    (leaf : ∀ inner, childIn name children ≠ some (.directory inner)) (below : more ≠ []) :
    root.entryAt (front ++ [name] ++ more) = none := by
  obtain ⟨next, more, rfl⟩ := List.exists_cons_of_ne_nil below
  rw [entryAt_append, entryAt_concat found]
  cases inside : childIn name children with
  | none => rfl
  | some c =>
    cases c with
    | directory inner => exact absurd inside (leaf inner)
    | _ => rfl

theorem grows_changeAt (found : root.entryAt front = some (.directory children))
    (keeps : ∀ e, (change (some e)).isSome = true)
    (leaf : ∀ inner, childIn name children ≠ some (.directory inner))
    (sorted : ∀ e, childIn name children = some e → (change (some e)).map sort = some e.sort) :
    Grows root (root.changeAt change (front ++ [name])) := by
  intro place e there
  by_cases within : front ++ [name] <+: place
  · obtain ⟨more, rfl⟩ := within
    by_cases last : more = []
    · subst last
      rw [List.append_nil, entryAt_concat found] at there
      rw [List.append_nil, entryAt_changeAt found keeps, there, sorted e there]
    · rw [entryAt_below_eq_none found leaf last] at there
      cases there
  · have same := congrArg (Option.map sort) (face_changeAt found keeps within)
    simp only [Option.map_map, Function.comp_def, sort_face, there] at same
    exact same

theorem contentAt_changeAt_of_ne (found : root.entryAt front = some (.directory children))
    (keeps : ∀ e, (change (some e)).isSome = true)
    (leaf : ∀ inner, childIn name children ≠ some (.directory inner))
    (hollow : ∀ inner, change (childIn name children) = some (.directory inner) → inner = [])
    (apart : place ≠ front ++ [name]) :
    (root.changeAt change (front ++ [name])).contentAt place = root.contentAt place := by
  by_cases within : front ++ [name] <+: place
  · obtain ⟨more, rfl⟩ := within
    have below : more ≠ [] := by
      rintro rfl
      exact apart (List.append_nil _)
    obtain ⟨next, more, rfl⟩ := List.exists_cons_of_ne_nil below
    rw [contentAt, contentAt, entryAt_below_eq_none found leaf below, entryAt_append, entryAt_changeAt found keeps]
    cases made : change (childIn name children) with
    | none => rfl
    | some c =>
      cases c with
      | directory inner =>
        rw [hollow inner made]
        rfl
      | _ => rfl
  · rw [contentAt, contentAt, ← contentOf_face, face_changeAt found keeps within, contentOf_face]

/-! ## Where a file is written -/

/-- A file has a directory around it, and a directory has directories around it. -/
def Standing (root : Entry) (here : Location) : Prop :=
  ∃ e, root.entryAt here = some e ∧
    (e.isDirectory = true ∨ e.isFile = true ∧
      ∃ front name children, here = front ++ [name] ∧ root.entryAt front = some (.directory children))

theorem standing_of_directory (found : root.entryAt here = some (.directory children)) : Standing root here :=
  ⟨_, found, .inl rfl⟩

theorem standing_dropLast (found : root.entryAt here = some (.directory children)) :
    Standing root here.dropLast := by
  rcases List.eq_nil_or_concat here with rfl | ⟨front, name, rfl⟩
  · exact standing_of_directory found
  · rw [List.concat_eq_append] at found ⊢
    rw [List.dropLast_concat]
    rw [entryAt_append] at found
    obtain ⟨d, above, found⟩ := Option.bind_eq_some_iff.mp found
    obtain ⟨inner, c, rfl, -, -⟩ := exists_of_entryAt_cons found
    exact standing_of_directory above

theorem standing_root (found : root.entryAt here = some (.directory children)) : Standing root [] := by
  cases here with
  | nil => exact standing_of_directory found
  | cons name rest =>
    obtain ⟨inner, c, rfl, -, -⟩ := exists_of_entryAt_cons found
    exact standing_of_directory rfl

/-- A path to what is no directory leads to a name in a directory, under which a file stands or nothing. -/
theorem exists_of_reach_leaf {r : Option Entry} (standing : Standing root here)
    (led : reach root links here parts = .ok (place, r)) (leaf : ∀ inner, r ≠ some (.directory inner)) :
    ∃ front name children, place = front ++ [name] ∧ root.entryAt front = some (.directory children) ∧
      childIn name children = r ∧ ∀ target, r ≠ some (.link target) := by
  fun_induction reach root links here parts with
  | case1 links here =>
    obtain ⟨rfl, rfl⟩ := Prod.mk.inj (Except.ok.inj led)
    obtain ⟨e, found, sorted⟩ := standing
    rw [found] at leaf ⊢
    rcases sorted with directory | ⟨file, front, name, children, rfl, above⟩
    · cases e with
      | directory inner => exact absurd rfl (leaf inner)
      | _ => cases directory
    · refine ⟨front, name, children, rfl, above, (entryAt_concat above name).symm.trans found, ?_⟩
      rintro target ⟨⟩
      cases file
  | case3 links here part rest children found stays ih => exact ih standing led
  | case4 links here rest children found moves ih => exact ih (standing_dropLast found) led
  | case6 links here part rest children found moves down short missing last =>
    obtain ⟨rfl, rfl⟩ := Prod.mk.inj (Except.ok.inj led)
    exact ⟨here, part, children, rfl, found, missing, fun target => (Option.some_ne_none _).symm⟩
  | case9 here part rest children found moves down short target inside links ih =>
    refine ih ?_ led
    split
    · exact standing_root found
    · exact standing
  | case10 links here part rest children found moves down short child noLink inside ih =>
    refine ih ⟨child, (entryAt_concat found part).trans inside, ?_⟩ led
    cases child with
    | link target => exact absurd rfl (noLink target)
    | file content => exact .inr ⟨rfl, here, part, children, rfl, found⟩
    | directory inner => exact .inl rfl
  | _ => cases led

end Entry

namespace FileSystem

open Entry

variable {fs fs' fs'' : FileSystem} {text : String} {bytes : List UInt8} {place : Location}

def contentAt (fs : FileSystem) (place : Location) : List UInt8 := fs.root.contentAt place

/-- The location of the file that a path leads to. -/
def placeOf? (fs : FileSystem) (text : String) : Option Location :=
  match fs.locate text with
  | .ok (place, .file _) => some place
  | _ => none

/-- A file system after which another one has the same entries and more, with more content at the end of
its files. -/
structure Adds (fs fs' : FileSystem) (more : Location → List UInt8) : Prop where
  workingDirectory : fs'.workingDirectory = fs.workingDirectory
  grows : Grows fs.root fs'.root
  content : ∀ place, fs'.contentAt place = fs.contentAt place ++ more place

theorem Adds.refl (fs : FileSystem) : Adds fs fs fun _ => [] :=
  ⟨rfl, .refl _, fun _ => (List.append_nil _).symm⟩

theorem Adds.trans {more more' : Location → List UInt8} (first : Adds fs fs' more) (second : Adds fs' fs'' more') :
    Adds fs fs'' fun place => more place ++ more' place where
  workingDirectory := second.workingDirectory.trans first.workingDirectory
  grows := first.grows.trans second.grows
  content place := by rw [second.content, first.content, List.append_assoc]

theorem Adds.congr {more more' : Location → List UInt8} (adds : Adds fs fs' more)
    (same : ∀ place, more place = more' place) : Adds fs fs' more' := funext same ▸ adds

theorem placeOf?_eq_some_iff :
    fs.placeOf? text = some place ↔ ∃ content, fs.locate text = .ok (place, .file content) := by
  unfold placeOf?
  split
  · next found content located => simp [located]
  · next other =>
    refine ⟨nofun, fun ⟨content, located⟩ => absurd located ?_⟩
    exact other place content

theorem start_of_adds {more : Location → List UInt8} (adds : Adds fs fs' more) (text : String) :
    fs'.start text = fs.start text := by rw [start, start, adds.workingDirectory]

theorem Adds.placeOf? {more : Location → List UInt8} (adds : Adds fs fs' more)
    (leads : fs.placeOf? text = some place) : fs'.placeOf? text = some place := by
  obtain ⟨content, located⟩ := placeOf?_eq_some_iff.mp leads
  obtain ⟨checked, led⟩ := locate_eq_ok_iff.mp located
  have led' := reach_grows adds.grows led nofun
  obtain ⟨e, there, sorted⟩ := Option.map_eq_some_iff.mp (adds.grows _ _ (entryAt_of_reach led))
  cases e <;> cases sorted
  rw [there, ← start_of_adds adds] at led'
  exact placeOf?_eq_some_iff.mpr ⟨_, locate_eq_ok_iff.mpr ⟨checked, led'⟩⟩

theorem exists_of_writeLocation (goes : fs.writeLocation text = .ok place) :
    checkText text = .ok () ∧ ∃ r, reach fs.root maxLinks (fs.start text) (rawParts text) = .ok (place, r) ∧
      ∃ front name children, place = front ++ [name] ∧ fs.root.entryAt front = some (.directory children) ∧
        childIn name children = r ∧ (r = none ∨ ∃ content, r = some (.file content)) := by
  unfold writeLocation at goes
  cases checked : checkText text with
  | error fault =>
    rw [checked] at goes
    cases goes
  | ok u =>
    simp only [checked, bind, Except.bind] at goes
    refine ⟨rfl, ?_⟩
    have filled : rawParts text ≠ [] := by simpa [rawParts, Text.split] using Text.splitOn_ne_nil '/' text.toList
    obtain ⟨part, rest, parts⟩ := List.exists_cons_of_ne_nil filled
    rw [parts] at goes ⊢
    split at goes
    · cases goes
    · next location r noDirectory led =>
      cases goes
      have leaf : ∀ inner, r ≠ some (.directory inner) := by
        rintro inner rfl
        exact noDirectory _ rfl
      obtain ⟨children, found⟩ := directory_of_reach led
      obtain ⟨front, name, inner, here, above, child, noLink⟩ :=
        exists_of_reach_leaf (standing_of_directory found) led leaf
      refine ⟨r, led, front, name, inner, here, above, child, ?_⟩
      cases r with
      | none => exact .inl rfl
      | some e =>
        cases e with
        | file content => exact .inr ⟨content, rfl⟩
        | link target => exact absurd rfl (noLink target)
        | directory inner => exact absurd rfl (leaf inner)
    · cases goes

/-- What becomes of an entry when content is added to it. -/
def extended (bytes : List UInt8) : Option Entry → Option Entry
  | some (.file old) => some (.file (old ++ bytes))
  | _ => some (.file bytes)

theorem append_eq_ok_iff :
    fs.append text bytes = .ok fs' ↔
      ∃ place, fs.writeLocation text = .ok place ∧ fs.changeAt place (extended bytes) = fs' := by
  unfold append
  cases fs.writeLocation text with
  | error fault => simp [bind, Except.bind]
  | ok place =>
    simp only [bind, Except.bind, Except.ok.injEq, exists_eq_left']
    rfl

theorem extended_isSome (bytes : List UInt8) (e : Option Entry) : (extended bytes e).isSome = true := by
  unfold extended
  split <;> rfl

theorem adds_append (appended : fs.append text bytes = .ok fs') :
    ∃ place, fs'.placeOf? text = some place ∧ (fs.placeOf? text).all (· = place) = true ∧
      Adds fs fs' fun p => if p = place then bytes else [] := by
  obtain ⟨place, goes, rfl⟩ := append_eq_ok_iff.mp appended
  obtain ⟨checked, r, led, front, name, children, rfl, above, child, leaf⟩ := exists_of_writeLocation goes
  have keeps : ∀ e, (extended bytes (some e)).isSome = true := fun e => extended_isSome bytes (some e)
  have noDirectory : ∀ inner, childIn name children ≠ some (.directory inner) := by
    rw [child]
    rintro inner rfl
    rcases leaf with leaf | ⟨content, leaf⟩ <;> cases leaf
  have made : ∃ content, extended bytes r = some (.file (content ++ bytes)) ∧ contentOf r = content := by
    obtain rfl | ⟨content, rfl⟩ := leaf
    · exact ⟨[], rfl, rfl⟩
    · exact ⟨content, rfl, rfl⟩
  obtain ⟨content, made, before⟩ := made
  have there : (fs.changeAt (front ++ [name]) (extended bytes)).root.entryAt (front ++ [name]) =
      some (.file (content ++ bytes)) := by
    rw [← made, ← child]
    exact entryAt_changeAt above keeps
  have adds : Adds fs (fs.changeAt (front ++ [name]) (extended bytes)) fun p =>
      if p = front ++ [name] then bytes else [] := by
    refine ⟨rfl, grows_changeAt above keeps noDirectory ?_, fun place => ?_⟩
    · intro e inside
      rw [child] at inside
      obtain rfl | ⟨content, rfl⟩ := leaf <;> cases inside
      rfl
    · by_cases same : place = front ++ [name]
      · subst same
        show contentOf (entryAt _ _) = contentOf (entryAt _ _) ++ _
        rw [there, entryAt_concat above, child, before, if_pos rfl]
        rfl
      · rw [if_neg same, List.append_nil]
        refine contentAt_changeAt_of_ne above keeps noDirectory ?_ same
        rw [child, made]
        rintro inner ⟨⟩
  have led' := reach_grows adds.grows led (by rw [there]; rintro - target ⟨⟩)
  rw [there, ← start_of_adds adds] at led'
  refine ⟨_, placeOf?_eq_some_iff.mpr ⟨_, locate_eq_ok_iff.mpr ⟨checked, led'⟩⟩, ?_, adds⟩
  cases leads : fs.placeOf? text with
  | none => rfl
  | some place =>
    obtain ⟨content, located⟩ := placeOf?_eq_some_iff.mp leads
    cases (locate_eq_ok_iff.mp located).2.symm.trans led
    simp

theorem append_of_placeOf? (leads : fs.placeOf? text = some place) (bytes : List UInt8) :
    ∃ fs', fs.append text bytes = .ok fs' ∧ Adds fs fs' fun p => if p = place then bytes else [] := by
  obtain ⟨content, located⟩ := placeOf?_eq_some_iff.mp leads
  obtain ⟨checked, led⟩ := locate_eq_ok_iff.mp located
  have goes : fs.writeLocation text = .ok place := by simp only [writeLocation, checked, led, bind, Except.bind]
  have appended : fs.append text bytes = .ok (fs.changeAt place (extended bytes)) :=
    append_eq_ok_iff.mpr ⟨place, goes, rfl⟩
  obtain ⟨place', -, same, adds⟩ := adds_append appended
  rw [leads] at same
  obtain rfl : place = place' := by simpa using same
  exact ⟨_, appended, adds⟩

/-! ## Making directories -/

theorem exists_of_splitLast {p : Path} {result : Location × String} (split : fs.splitLast p = .ok result) :
    ∃ children, fs.root.entryAt result.1 = some (.directory children) := by
  unfold splitLast at split
  cases checked : checkText p.text with
  | error fault =>
    rw [checked] at split
    cases split
  | ok u =>
    simp only [checked, bind, Except.bind] at split
    split at split
    · cases split
    · split at split
      · cases split
      · split at split
        · next location children located =>
          split at split
          · cases split
          · cases split
            exact ⟨children, entryAt_of_reach (locate_eq_ok_iff.mp located).2⟩
        · cases split
        · cases split

theorem adds_makeDirectory {p : Path} (made : fs.makeDirectory p = .ok fs') : Adds fs fs' fun _ => [] := by
  unfold makeDirectory at made
  cases split : fs.splitLast p with
  | error fault =>
    rw [split] at made
    cases made
  | ok result =>
    obtain ⟨front, name⟩ := result
    obtain ⟨children, above⟩ := exists_of_splitLast split
    simp only [split, bind, Except.bind, above, Option.bind_some, child?] at made
    cases inside : childIn name children with
    | some e =>
      rw [inside] at made
      cases made
    | none =>
      rw [inside] at made
      cases made
      have missing (e : Entry) : childIn name children ≠ some e := by
        rw [inside]
        exact (Option.some_ne_none e).symm
      have there : (fs.root.changeAt (fun _ => some (.directory [])) (front ++ [name])).contentAt (front ++ [name]) =
          fs.root.contentAt (front ++ [name]) := by
        rw [Entry.contentAt, Entry.contentAt, entryAt_changeAt above fun _ => rfl, entryAt_concat above, inside]
        rfl
      refine ⟨rfl, grows_changeAt above (fun _ => rfl) (fun _ => missing _) (fun e found => absurd found (missing e)),
        fun place => ?_⟩
      rw [List.append_nil]
      by_cases same : place = front ++ [name]
      · subst same
        exact there
      · refine contentAt_changeAt_of_ne above (fun _ => rfl) (fun _ => missing _) ?_ same
        rintro inner ⟨⟩
        rfl

theorem adds_acceptDirectory {p : Path} {fault : PathFault} (accepted : fs.acceptDirectory p fault = .ok fs') :
    Adds fs fs' fun _ => [] := by
  unfold acceptDirectory at accepted
  split at accepted
  · cases accepted
    exact .refl fs
  · cases accepted

theorem adds_makeDirectoriesFrom {anchor : Anchor} {parts : List String}
    (made : fs.makeDirectoriesFrom anchor parts = .ok fs') : Adds fs fs' fun _ => [] := by
  induction parts generalizing fs' with
  | nil => exact adds_acceptDirectory made
  | cons last above ih =>
    rw [makeDirectoriesFrom] at made
    split at made
    · next one =>
      cases made
      exact adds_makeDirectory one
    · split at made
      · next fs'' further =>
        split at made
        · next one =>
          cases made
          exact (ih further).trans (adds_makeDirectory one)
        · exact (ih further).trans (adds_acceptDirectory made)
      · cases made
    · exact adds_acceptDirectory made

theorem adds_makeDirectories {p : Path} (made : fs.makeDirectories p = .ok fs') : Adds fs fs' fun _ => [] :=
  adds_makeDirectoriesFrom made

end FileSystem

end ReleaseImpact
