import ReleaseImpact.Proofs.GrownTrees
import ReleaseImpact.Proofs.Shapes

/-!
Trees whose directories are enumerated in another order. Main statements:

- `Entry.Reordered.samePlaces`: what stands at a place does not depend on how directories are enumerated.
- `Entry.SamePlaces.reach`: where a path leads depends on what stands at the places alone.
- `FileSystem.isDirectory_of_samePlaces`: so does whether it leads to a directory.
-/

namespace ReleaseImpact

namespace Entry

variable {e e' root root' : Entry}

/-- The same tree, where directories may be enumerated in another order. -/
inductive Reordered : Entry → Entry → Prop
  | file (content : List UInt8) : Reordered (.file content) (.file content)
  | link (target : String) : Reordered (.link target) (.link target)
  | directory {children children' : List (String × Entry)}
      (names : (children.map Prod.fst).Perm (children'.map Prod.fst))
      (inside : ∀ name e e', (name, e) ∈ children → (name, e') ∈ children' → Reordered e e') :
      Reordered (.directory children) (.directory children')

/-- Both trees have the same at each place. -/
def SamePlaces (e e' : Entry) : Prop :=
  ∀ location, (e'.entryAt location).map face = (e.entryAt location).map face

theorem isDirectory_face (e : Entry) : e.face.isDirectory = e.isDirectory := by cases e <;> rfl

theorem face_eq_link_iff {target : String} : e.face = .link target ↔ e = .link target := by
  cases e <;> simp [face]

theorem exists_of_face_eq_directory {children : List (String × Entry)}
    (same : e.face = (directory children).face) : ∃ children', e = .directory children' := by
  cases e with
  | directory children' => exact ⟨children', rfl⟩
  | file content => cases same
  | link target => cases same

theorem mem_names_iff_childIn {name : String} {children : List (String × Entry)} :
    name ∈ children.map Prod.fst ↔ ∃ e, childIn name children = some e := by
  induction children with
  | nil => simp [childIn]
  | cons c rest ih =>
    obtain ⟨n, d⟩ := c
    by_cases same : n = name
    · simp [childIn, same]
    · simpa [childIn, same, Ne.symm same] using ih

theorem Reordered.proper (reordered : e.Reordered e') (proper : e.Proper) : e'.Proper := by
  induction reordered with
  | file content => exact proper
  | link target => exact proper
  | @directory children children' names inside ih =>
    obtain _ | _ | ⟨distinct, properNames, inner⟩ := proper
    have other {c' : String × Entry} (member : c' ∈ children') : ∃ e, (c'.1, e) ∈ children := by
      obtain ⟨c, member, same⟩ := List.mem_map.mp (names.mem_iff.mpr (List.mem_map_of_mem member))
      exact ⟨c.2, by rw [← same]; exact member⟩
    refine .directory (names.nodup distinct) (fun c' member => ?_) fun c' member => ?_
    · obtain ⟨e, child⟩ := other member
      exact properNames (c'.1, e) child
    · obtain ⟨e, child⟩ := other member
      exact ih _ _ _ child member (inner _ child)

theorem Reordered.samePlaces (reordered : e.Reordered e') : e.SamePlaces e' := by
  intro location
  induction location generalizing e e' with
  | nil => cases reordered <;> rfl
  | cons name rest ih =>
    obtain _ | _ | @⟨children, children', names, inside⟩ := reordered
    · rfl
    · rfl
    · show ((childIn name children').bind (entryAt · rest)).map face =
        ((childIn name children).bind (entryAt · rest)).map face
      have known := names.mem_iff (a := name)
      rw [mem_names_iff_childIn, mem_names_iff_childIn] at known
      cases there : childIn name children with
      | none =>
        have missing : childIn name children' = none := by
          simpa [there, Option.eq_none_iff_forall_ne_some] using known
        rw [missing]
      | some d =>
        obtain ⟨d', there'⟩ := known.mp ⟨d, there⟩
        rw [there']
        exact ih (inside name d d' (mem_of_childIn there) (mem_of_childIn there'))

theorem SamePlaces.within (same : root.SamePlaces root') {place : Location}
    {children children' : List (String × Entry)}
    (found : root.entryAt place = some (.directory children))
    (found' : root'.entryAt place = some (.directory children')) :
    (directory children).SamePlaces (.directory children') := by
  intro location
  have whole := same (place ++ location)
  rwa [entryAt_append, entryAt_append, found, found'] at whole

/-- Where a path leads, told without a look into what stands there. -/
def seen (led : Location × Option Entry) : Location × Option Entry := (led.1, led.2.map face)

theorem SamePlaces.reach (same : root.SamePlaces root') (links : Nat) (here : Location) (parts : List String) :
    (Entry.reach root' links here parts).map seen = (Entry.reach root links here parts).map seen := by
  have sorted (place : Location) : (root'.entryAt place).map sort = (root.entryAt place).map sort := by
    simpa only [Option.map_map, Function.comp_def, sort_face] using congrArg (Option.map sort) (same place)
  rw [reach_congr sorted]
  cases led : Entry.reach root links here parts with
  | error fault => rfl
  | ok found => simp only [Except.map, seen, same found.1, entryAt_of_reach led]

end Entry

open Entry

namespace FileSystem

def withRoot (fs : FileSystem) (root : Entry) : FileSystem := { fs with root := root }

variable {fs : FileSystem} {tree : Entry}

theorem locate_of_samePlaces (same : fs.root.SamePlaces tree) (text : String) :
    ((fs.withRoot tree).locate text).map (fun led => (led.1, led.2.face)) =
      (fs.locate text).map fun led => (led.1, led.2.face) := by
  have led : ((fs.withRoot tree).root.reach maxLinks ((fs.withRoot tree).start text) (rawParts text)).map seen =
      (fs.root.reach maxLinks (fs.start text) (rawParts text)).map seen := same.reach _ _ _
  unfold locate follow
  cases checkText text with
  | error fault => rfl
  | ok u =>
    simp only [bind, Except.bind]
    generalize (fs.withRoot tree).root.reach maxLinks ((fs.withRoot tree).start text) (rawParts text) = after,
      fs.root.reach maxLinks (fs.start text) (rawParts text) = before at led
    cases before with
    | error fault =>
      cases after with
      | error fault' =>
        cases led
        rfl
      | ok found => cases led
    | ok found =>
      cases after with
      | error fault => cases led
      | ok found' =>
        obtain ⟨location, e⟩ := found
        obtain ⟨location', e'⟩ := found'
        obtain ⟨rfl, faces⟩ := Prod.mk.inj (Except.ok.inj led)
        cases e with
        | none =>
          obtain rfl := Option.map_eq_none_iff.mp faces
          rfl
        | some d =>
          obtain ⟨d', rfl, sameFace⟩ := Option.map_eq_some_iff.mp faces
          simp only [Except.map, sameFace]

theorem isDirectory_eq_of_face (fs : FileSystem) (text : String) :
    fs.isDirectory text = match (fs.locate text).map fun led => (led.1, led.2.face) with
      | .ok (_, e) => e.isDirectory
      | .error _ => false := by
  unfold isDirectory
  cases fs.locate text with
  | error fault => rfl
  | ok led => exact (isDirectory_face led.2).symm

theorem isDirectory_of_samePlaces (same : fs.root.SamePlaces tree) (text : String) :
    (fs.withRoot tree).isDirectory text = fs.isDirectory text := by
  rw [isDirectory_eq_of_face, locate_of_samePlaces same, ← isDirectory_eq_of_face]

end FileSystem

end ReleaseImpact
