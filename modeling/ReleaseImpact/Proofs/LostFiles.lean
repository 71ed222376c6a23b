import ReleaseImpact.Proofs.RemovedFiles
import ReleaseImpact.Proofs.Shapes

/-!
A tree that lost some of its files. What it is asked for is answered as before, apart from these files. Main
statements:

- `Entry.reach_lost` and `FileSystem.locate_lost`: where a path leads after the loss.
- `FileSystem.hasFile_lost` and its siblings: which questions about a path are answered as before.
- `FileSystem.resolve_lost`: a path resolves as before.
- `FileSystem.walk_lost`: the listings are those from before without the files.
-/

namespace ReleaseImpact

namespace Entry

variable {gone : Location → Bool}

/-- Only files are gone, and not the top. -/
structure OnlyFiles (root : Entry) (gone : Location → Bool) : Prop where
  file : ∀ location, gone location = true → ∃ content, root.entryAt location = some (.file content)
  top : gone [] = false

variable {root : Entry} (proper : root.Proper) (only : OnlyFiles root gone)

/-! ## What stands where without some files -/

theorem childIn_of_gone {here : Location} {children : List (String × Entry)} {name : String} {e : Entry}
    (inner : Proper (.directory children)) (found : childIn name children = some e)
    (falls : ¬(e.isDirectory || !gone (here ++ [name])) = true) :
    childIn name (withoutAmong gone here children) = none := by
  cases left : childIn name (withoutAmong gone here children) with
  | none => rfl
  | some e' =>
    obtain ⟨d, member, stays, -⟩ := mem_withoutAmong_iff.mp (mem_of_childIn left)
    cases (inner.childIn_of_mem member).symm.trans found
    exact absurd stays falls

include proper only in
theorem entryAt_lost (location : Location) :
    (root.without gone []).entryAt location =
      if gone location then none else (root.entryAt location).map (without gone location) := by
  have found {d : Entry} (stands : root.entryAt location = some d) (stays : gone location = false) :
      (root.without gone []).entryAt location = some (d.without gone location) := by
    have kept : (root.without gone []).entryAt location = some (d.without gone ([] ++ location)) :=
      entryAt_without stands (by simp [stays])
    exact kept
  cases removed : gone location with
  | false =>
    cases stands : root.entryAt location with
    | some d => exact found stands removed
    | none =>
      cases left : (root.without gone []).entryAt location with
      | none => rfl
      | some d' =>
        obtain ⟨d, there, -⟩ := entryAt_of_without proper left
        cases stands.symm.trans there
  | true =>
    obtain ⟨content, stands⟩ := only.file location removed
    rcases List.eq_nil_or_concat location with rfl | ⟨front, name, rfl⟩
    · cases only.top.symm.trans removed
    · rw [List.concat_eq_append] at removed stands ⊢
      obtain ⟨children, above, child⟩ := entryAt_concat_eq_some_iff.mp stands
      have there : (root.without gone []).entryAt front =
          some (.directory (withoutAmong gone ([] ++ front) children)) := entryAt_without above rfl
      rw [entryAt_concat there, if_pos rfl]
      exact childIn_of_gone (proper.entryAt above).2 child (by simp [isDirectory, removed])

/-! ## Paths without some files -/

/-- What a path leads to, and what it leads to without some files. -/
inductive Lost (gone : Location → Bool) :
    Except PathFault (Location × Option Entry) → Except PathFault (Location × Option Entry) → Prop
  | stays (location : Location) (e : Entry) (kept : gone location = false) :
      Lost gone (.ok (location, some e)) (.ok (location, some (e.without gone location)))
  | removed (location : Location) (content : List UInt8) (falls : gone location = true) :
      Lost gone (.ok (location, some (.file content))) (.ok (location, none))
  | nothing (location : Location) : Lost gone (.ok (location, none)) (.ok (location, none))
  | fault (fault : PathFault) : Lost gone (.error fault) (.error fault)
  | beyond : Lost gone (.error .notDirectory) (.error .missing)

theorem OnlyFiles.kept {location : Location} {e : Entry} (only : OnlyFiles root gone)
    (found : root.entryAt location = some e) (noFile : ∀ content, e ≠ .file content) :
    gone location = false := by
  by_contra falls
  obtain ⟨content, same⟩ := only.file location (by simpa using falls)
  cases found.symm.trans same
  exact noFile content rfl

include proper only

theorem directory_lost {here : Location} {children : List (String × Entry)}
    (found : root.entryAt here = some (.directory children)) :
    (root.without gone []).entryAt here = some (.directory (withoutAmong gone here children)) := by
  rw [entryAt_lost proper only, only.kept found nofun, found]
  rfl

theorem childIn_lost {here : Location} {children : List (String × Entry)}
    (found : root.entryAt here = some (.directory children)) (name : String) :
    childIn name (withoutAmong gone here children) =
      if gone (here ++ [name]) then none else (childIn name children).map (without gone (here ++ [name])) := by
  have left := entryAt_lost proper only (here ++ [name])
  rwa [entryAt_concat (directory_lost proper only found), entryAt_concat found] at left

theorem link_lost {here : Location} {children : List (String × Entry)} {name target : String}
    (found : root.entryAt here = some (.directory children))
    (inside : childIn name children = some (.link target)) :
    childIn name (withoutAmong gone here children) = some (.link target) := by
  have stands : root.entryAt (here ++ [name]) = some (.link target) := (entryAt_concat found name).trans inside
  rw [childIn_lost proper only found, only.kept stands nofun, inside]
  rfl

theorem lost_here (here : Location) :
    Lost gone (.ok (here, root.entryAt here)) (.ok (here, (root.without gone []).entryAt here)) := by
  rw [entryAt_lost proper only]
  cases removed : gone here with
  | true =>
    obtain ⟨content, stands⟩ := only.file here removed
    rw [stands]
    exact .removed here content removed
  | false =>
    cases root.entryAt here with
    | none => exact .nothing here
    | some e => exact .stays here e removed

theorem absent_lost {here : Location} {children : List (String × Entry)} {name : String}
    (found : root.entryAt here = some (.directory children)) (absent : childIn name children = none) :
    childIn name (withoutAmong gone here children) = none := by
  rw [childIn_lost proper only found, absent]
  exact ite_self none

theorem reach_lost (links : Nat) (here : Location) (parts : List String) :
    Lost gone (reach root links here parts) (reach (root.without gone []) links here parts) := by
  -- A file that is gone is met as the last part of a path (`case10`) or where a path starts (`case1`,
  -- `case11`). In all other cases the same step is taken, since directories and links are kept.
  fun_induction reach root links here parts with
  | case1 links here =>
    rw [reach]
    exact lost_here proper only here
  | case2 links here part rest missing =>
    have lost : (root.without gone []).entryAt here = none := by
      rw [entryAt_lost proper only, missing]
      exact ite_self none
    rw [reach_of_missing lost]
    exact .fault _
  | case3 links here part rest children found stays ih =>
    rw [reach_here (directory_lost proper only found) stays]
    exact ih
  | case4 links here rest children found moves ih =>
    rw [reach_above (directory_lost proper only found)]
    exact ih
  | case5 links here part rest children found moves down long =>
    rw [reach_long (directory_lost proper only found) moves down long]
    exact .fault _
  | case6 links here part rest children found moves down short inside last =>
    rw [reach_absent (directory_lost proper only found) ⟨moves, down, short⟩ (absent_lost proper only found inside),
      if_pos last]
    exact .nothing _
  | case7 links here part rest children found moves down short inside further =>
    rw [reach_absent (directory_lost proper only found) ⟨moves, down, short⟩ (absent_lost proper only found inside),
      if_neg further]
    exact .fault _
  | case8 here part rest children found moves down short target inside =>
    rw [reach_link_of_none_left (directory_lost proper only found) ⟨moves, down, short⟩
      (link_lost proper only found inside)]
    exact .fault _
  | case9 here part rest children found moves down short target inside links ih =>
    rw [reach_link (directory_lost proper only found) ⟨moves, down, short⟩ (link_lost proper only found inside)]
    exact ih
  | case10 links here part rest children found moves down short child noLink inside ih =>
    have stands : root.entryAt (here ++ [part]) = some child := (entryAt_concat found part).trans inside
    have left := childIn_lost proper only found part
    rw [inside] at left
    cases falls : gone (here ++ [part]) with
    | false =>
      rw [falls] at left
      have noLink' (target : String) : child.without gone (here ++ [part]) ≠ .link target := fun linked =>
        noLink target (without_eq_link_iff.mp linked)
      rw [reach_child (directory_lost proper only found) ⟨moves, down, short⟩ left noLink']
      exact ih
    | true =>
      obtain ⟨content, same⟩ := only.file _ falls
      cases stands.symm.trans same
      rw [falls] at left
      rw [reach_absent (directory_lost proper only found) ⟨moves, down, short⟩ left]
      cases rest with
      | nil =>
        rw [reach, stands]
        exact .removed _ content falls
      | cons next more =>
        rw [reach_of_leaf stands fun _ => Entry.noConfusion]
        exact .beyond
  | case11 links here part rest other noDirectory found =>
    have left := entryAt_lost proper only here
    rw [found] at left
    cases falls : gone here with
    | true =>
      rw [falls] at left
      rw [reach_of_missing left]
      exact .beyond
    | false =>
      rw [falls] at left
      have noDirectory' (children : List (String × Entry)) : other.without gone here ≠ .directory children := by
        cases other with
        | directory inner => exact absurd rfl (noDirectory inner)
        | file content => exact Entry.noConfusion
        | link target => exact Entry.noConfusion
      rw [reach_of_leaf left noDirectory']
      exact .fault _

theorem resolve_lost (workingDirectory : Location) (depth : Nat) (opened : List Spelling) (here : Spelling)
    (parts : List String) :
    resolve (root.without gone []) workingDirectory depth opened here parts =
      resolve root workingDirectory depth opened here parts := by
  refine resolve_congr (fun place target => ?_) workingDirectory depth opened here parts
  rw [entryAt_lost proper only]
  cases stands : root.entryAt place with
  | none => simp
  | some e =>
    cases falls : gone place with
    | true =>
      obtain ⟨content, same⟩ := only.file place falls
      cases stands.symm.trans same
      simp
    | false => simp [without_eq_link_iff]

omit only in
theorem linkCount_without {here : Location}
    (kept : ∀ place target, root.entryAt place = some (.link target) → gone (here ++ place) = false) :
    (root.without gone here).linkCount = root.linkCount := by
  induction proper generalizing here with
  | file content => rfl
  | link target => rfl
  | @directory children distinct names below ih =>
    have inside (c : String × Entry) (member : c ∈ children) (place : Location) (target : String)
        (found : c.2.entryAt place = some (.link target)) : gone (here ++ [c.1] ++ place) = false := by
      rw [List.append_assoc]
      refine kept (c.1 :: place) target ?_
      show (childIn c.1 children).bind _ = _
      rw [childIn_of_mem distinct member]
      exact found
    have among (some : List (String × Entry)) (sub : ∀ c ∈ some, c ∈ children) :
        linkCountAll (withoutAmong gone here some) = linkCountAll some := by
      induction some with
      | nil => rfl
      | cons c rest others =>
        obtain ⟨name, e⟩ := c
        obtain ⟨first, later⟩ := List.forall_mem_cons.mp sub
        unfold withoutAmong
        split
        · rw [linkCountAll, linkCountAll, ih _ first (inside _ first), others later]
        · next falls =>
          rw [linkCountAll, others later]
          cases e with
          | file content => exact (Nat.zero_add _).symm
          | directory inner => exact absurd rfl falls
          | link target =>
            have stays := inside _ first [] target rfl
            rw [List.append_nil] at stays
            simp [stays] at falls
    exact among children fun _ member => member

end Entry

namespace FileSystem

variable {fs : FileSystem} {gone : Location → Bool} (proper : fs.root.Proper)
  (only : fs.root.OnlyFiles gone)

/-- Where a path leads, and where it leads without some files. -/
inductive Lost (gone : Location → Bool) :
    Except PathFault (Location × Entry) → Except PathFault (Location × Entry) → Prop
  | stays (location : Location) (e : Entry) (kept : gone location = false) :
      Lost gone (.ok (location, e)) (.ok (location, e.without gone location))
  | removed (location : Location) (content : List UInt8) (falls : gone location = true) :
      Lost gone (.ok (location, .file content)) (.error .missing)
  | fault (fault : PathFault) : Lost gone (.error fault) (.error fault)
  | beyond : Lost gone (.error .notDirectory) (.error .missing)

include proper only

theorem locate_lost (text : String) : Lost gone (fs.locate text) ((fs.without gone).locate text) := by
  unfold locate Entry.follow
  cases checkText text with
  | error fault => exact .fault fault
  | ok u =>
    have lost := Entry.reach_lost proper only maxLinks (fs.start text) (Entry.rawParts text)
    have start : (fs.without gone).start text = fs.start text := rfl
    have root : (fs.without gone).root = fs.root.without gone [] := rfl
    simp only [bind, Except.bind, start, root]
    generalize fs.root.reach maxLinks (fs.start text) (Entry.rawParts text) = before,
      (fs.root.without gone []).reach maxLinks (fs.start text) (Entry.rawParts text) = after at lost
    cases lost with
    | stays location e kept => exact .stays location e kept
    | removed location content falls => exact .removed location content falls
    | nothing location => exact .fault .missing
    | fault fault => exact .fault fault
    | beyond => exact .beyond

theorem hasDirectory_lost (text : String) : (fs.without gone).hasDirectory text = fs.hasDirectory text := by
  have lost := locate_lost proper only text
  unfold hasDirectory probe
  generalize fs.locate text = before, (fs.without gone).locate text = after at lost
  cases lost with
  | stays location e kept => exact congrArg Except.ok Entry.isDirectory_without
  | removed location content falls => rfl
  | fault fault => cases fault <;> rfl
  | beyond => rfl

theorem isDirectory_lost (text : String) : (fs.without gone).isDirectory text = fs.isDirectory text := by
  have lost := locate_lost proper only text
  unfold isDirectory
  generalize fs.locate text = before, (fs.without gone).locate text = after at lost
  cases lost with
  | stays location e kept => exact Entry.isDirectory_without
  | removed location content falls => rfl
  | fault fault => rfl
  | beyond => rfl

theorem hasFile_lost {text : String}
    (kept : ∀ location content, fs.locate text = .ok (location, .file content) → gone location = false) :
    (fs.without gone).hasFile text = fs.hasFile text := by
  have lost := locate_lost proper only text
  unfold hasFile probe
  generalize fs.locate text = before, (fs.without gone).locate text = after at lost kept
  cases lost with
  | stays location e stays => cases e <;> rfl
  | removed location content falls => cases (kept location content rfl).symm.trans falls
  | fault fault => cases fault <;> rfl
  | beyond => rfl

theorem resolve_lost (p : Path) : (fs.without gone).resolve p = fs.resolve p := by
  have count : (fs.without gone).root.linkCount = fs.root.linkCount :=
    Entry.linkCount_without proper fun _ _ found => only.kept found nofun
  have spelt (depth : Nat) : (fs.without gone).root.resolve fs.workingDirectory depth =
      fs.root.resolve fs.workingDirectory depth := by
    funext opened here parts
    exact Entry.resolve_lost proper only fs.workingDirectory depth opened here parts
  have start : (fs.without gone).workingDirectory = fs.workingDirectory := rfl
  unfold resolve
  simp only [count, spelt, start]
  split
  · rfl
  · generalize pathOf _ = resolved
    have lost := locate_lost proper only resolved.text
    generalize fs.locate resolved.text = before, (fs.without gone).locate resolved.text = after at lost
    cases lost with
    | stays location e kept => rfl
    | removed location content falls => rfl
    | fault fault => rfl
    | beyond => rfl

theorem walk_lost {top : Path} {place : Location} {e : Entry}
    (located : fs.locate top.text = .ok (place, e)) (directory : e.isDirectory = true)
    (excluded : String → Bool) :
    (fs.without gone).walk excluded top =
      (fs.walk excluded top).map (Entry.keepOnly fun names => !gone (place ++ names)) := by
  have stands := Entry.entryAt_of_reach (locate_eq_ok_iff.mp located).2
  have kept : gone place = false := only.kept stands fun content same => by cases same ▸ directory
  have after : (fs.without gone).locate top.text = .ok (place, e.without gone place) := by
    have lost := locate_lost proper only top.text
    rw [located] at lost
    generalize (fs.without gone).locate top.text = after at lost
    cases lost with
    | stays location e kept => rfl
    | removed location content falls => cases kept.symm.trans falls
  have agree (names : Location) (_ : true = true) :
      (withinLimit top names && (fs.without gone).isDirectory (top.below names).text) =
        (withinLimit top names && fs.isDirectory (top.below names).text) :=
    congrArg _ (isDirectory_lost proper only _)
  have all : (Entry.keepOnly fun _ => true) = id := by
    funext listing
    exact congrArg (listing.1, ·) (List.filter_true listing.2)
  have walked := Entry.walk_without excluded gone agree (proper.entryAt stands).2 place []
  rw [List.append_nil, all, List.map_id] at walked
  unfold walk
  rw [located, after]
  dsimp only
  rw [map_keepOnly_filter, walked]
  simp only [Bool.true_and]

end FileSystem

end ReleaseImpact
