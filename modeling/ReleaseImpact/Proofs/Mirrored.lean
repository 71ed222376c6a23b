import ReleaseImpact.Proofs.OnceReported
import ReleaseImpact.Proofs.RefusedLookUps

/-!
Two registries compared in both directions. What one comparison calls added, the other calls removed: the
files always, and the nodes where none is looked up. Main statements:

- `ChangeKind.mirror_mirror`: the mirror image of a mirror image.
- `filter_files_compareForms`: the changes of files in what a comparison reports, however it ends.
- `answeredChanges_mirrored`: the expected changes of fixtures, in the other direction.
- `additions_mirror_removals`: the reports of both directions.
-/

namespace ReleaseImpact

/-! ## Mirror images -/

/-- An addition for a removal of the same kind of thing, and conversely. -/
def ChangeKind.mirror : ChangeKind → ChangeKind
  | .fileAdded => .fileRemoved
  | .fileRemoved => .fileAdded
  | .sectionAdded => .sectionRemoved
  | .sectionRemoved => .sectionAdded
  | .groupAdded => .groupRemoved
  | .groupRemoved => .groupAdded
  | .fieldAdded => .fieldRemoved
  | .fieldRemoved => .fieldAdded
  | kind => kind

@[simp] theorem ChangeKind.mirror_mirror (kind : ChangeKind) : kind.mirror.mirror = kind := by
  cases kind <;> rfl

/-- The mirror image of a reported change: location and target stay. -/
def mirrored (e : String × Change) : String × Change := (e.1, { e.2 with kind := e.2.kind.mirror })

@[simp] theorem mirrored_mirrored (e : String × Change) : mirrored (mirrored e) = e := by simp [mirrored]

theorem map_mirrored_mirrored (changes : List (String × Change)) :
    (changes.map mirrored).map mirrored = changes := by
  rw [List.map_map]
  exact List.map_id'' mirrored_mirrored changes

namespace FormComparison

open Trail Registry

variable {rules : FormRules} {before after : Registry}

theorem addedKind?_eq_mirror (n : Node) : addedKind? n = (removedKind? n).map ChangeKind.mirror := by
  cases n <;> rfl

theorem nodeChanges_mirrored (file : String) (nodes : List Node) :
    (nodeChanges removedKind? file nodes).map mirrored = nodeChanges addedKind? file nodes := by
  rw [nodeChanges, nodeChanges, List.map_filterMap]
  refine List.filterMap_congr fun n _ => ?_
  rw [addedKind?_eq_mirror, Option.map_map, Option.map_map]
  rfl

theorem fileChanges_mirrored (kind : ChangeKind) (rules : FormRules) (r other : Registry) :
    (fileChanges kind rules r other).map mirrored = fileChanges kind.mirror rules r other := by
  rw [fileChanges, fileChanges, List.map_map]
  rfl

/-! ## Files -/

theorem filter_fileChanges (kind other : ChangeKind) (rules : FormRules) (r r' : Registry) :
    (fileChanges kind rules r r').filter (·.2.kind = other) =
      if kind = other then fileChanges kind rules r r' else [] := by
  rw [fileChanges, List.filter_map]
  split
  · next same => simp [Function.comp_def, same]
  · next apart => simp [Function.comp_def, apart]

theorem fileChanges_of_sameIndex (same : sameIndex (before.index some) (after.index some) = true) :
    fileChanges .fileAdded rules after before = [] ∧ fileChanges .fileRemoved rules before after = [] := by
  have silent := expectedFormChanges_of_sameIndex (fun _ => .unique) rules same
  rw [expectedFormChanges, List.append_eq_nil_iff, List.append_eq_nil_iff] at silent
  exact silent.1

theorem not_file_of_mem_common {δ : Type} (ask : δ → Inquiry → Reply δ) (rules : FormRules) (d : δ)
    (before after : Registry) {c : String × Change}
    (member : c ∈ (fold (fun d m => compareModule ask rules before after d
      (m, .ofKeys (before.bucket m).keys (after.bucket m).keys)) d (changedModules before after)).changes) :
    c.2.kind ≠ .fileAdded ∧ c.2.kind ≠ .fileRemoved := by
  let keeps (s : Step) : Prop :=
    ∀ c, s.change? = some c → c.2.kind ≠ .fileAdded ∧ c.2.kind ≠ .fileRemoved
  have every (m : String) (d : δ) : Every keeps (compareModule ask rules before after d
      (m, .ofKeys (before.bucket m).keys (after.bucket m).keys)) := by
    refine ⟨fun s inside c reported => ?_⟩
    have changed := (owns_compareModule ask rules before after d m).owned c
    exact (changed (List.mem_filterMap.mpr ⟨s, inside, reported⟩)).not_file
  obtain ⟨s, inside, reported⟩ := List.mem_filterMap.mp member
  exact (every_fold (fun m _ d => every m d) d).holds s inside c reported

/-- Changes of files are told first, those that were added before those that were removed. -/
theorem filter_files_compareForms {δ : Type} (ask : δ → Inquiry → Reply δ) (rules : FormRules) (d : δ)
    (sourcedBefore : before.Sourced) (sourcedAfter : after.Sourced) :
    let reported := (compareForms ask rules d before after).changes
    reported.filter (·.2.kind = .fileAdded) = fileChanges .fileAdded rules after before ∧
      reported.filter (·.2.kind = .fileRemoved) = fileChanges .fileRemoved rules before after := by
  rw [compareForms_eq]
  split
  · next same =>
    rw [(fileChanges_of_sameIndex same).1, (fileChanges_of_sameIndex same).2]
    exact ⟨rfl, rfl⟩
  have added := reportFiles_reports .fileAdded rules sourcedAfter before
  have removed := reportFiles_reports .fileRemoved rules sourcedBefore after
  rw [changes_bind_of_ok _ added.outcome, changes_bind_of_ok _ removed.outcome, added.changes,
    removed.changes]
  have rest (c : String × Change) := not_file_of_mem_common ask rules d before after (c := c)
  constructor
  · rw [List.filter_append, List.filter_append, filter_fileChanges, filter_fileChanges,
      List.filter_eq_nil_iff.mpr fun c member => by simpa using (rest c member).1]
    simp
  · rw [List.filter_append, List.filter_append, filter_fileChanges, filter_fileChanges,
      List.filter_eq_nil_iff.mpr fun c member => by simpa using (rest c member).2]
    simp

/-! ## Nodes of fixtures -/

/-- Every source file is a fixture. -/
def OnlyFixtures (rules : FormRules) (r : Registry) : Prop :=
  ∀ m ∈ r.modules, ∃ marker ∈ rules.fixtureMarkers, marker.toList <:+: (r.fileOf m).toList

theorem OnlyFixtures.not_asked (fixtures : OnlyFixtures rules after) {m : String}
    (member : m ∈ after.modules) (n : Node) : ¬IsAsked rules (after.fileOf m) n := by
  rintro ⟨-, up, -⟩
  rw [looksUp_eq_false_iff.mpr (fixtures m member)] at up
  cases up

theorem OnlyFixtures.moduleChanges (fixtures : OnlyFixtures rules after) {m : String}
    (member : m ∈ after.modules) (verdict : Inquiry → Verdict) (before : Registry) :
    expectedModuleChanges verdict rules before after m =
      nodeChanges removedKind? (before.fileOf m) (missingNodes before after m) ++
        nodeChanges addedKind? (after.fileOf m) (missingNodes after before m) := by
  rw [expectedModuleChanges]
  congr 1
  refine nodeChanges_congr fun n _ => ?_
  rw [expectedAddedKind?, if_pos (fixtures m member)]

theorem moduleChanges_mirrored (fixturesBefore : OnlyFixtures rules before)
    (fixturesAfter : OnlyFixtures rules after) (verdict verdict' : Inquiry → Verdict) {m : String}
    (inBefore : m ∈ before.modules) (inAfter : m ∈ after.modules) :
    (expectedModuleChanges verdict rules before after m).Perm
      ((expectedModuleChanges verdict' rules after before m).map mirrored) := by
  rw [fixturesAfter.moduleChanges inAfter, fixturesBefore.moduleChanges inBefore, List.map_append,
    nodeChanges_mirrored, ← nodeChanges_mirrored (before.fileOf m), map_mirrored_mirrored]
  exact List.perm_append_comm

theorem common_perm_swap (before after : Registry) :
    (before.modules.filter (· ∈ after.modules)).Perm (after.modules.filter (· ∈ before.modules)) := by
  have distinct (r other : Registry) : (r.modules.filter (· ∈ other.modules)).Nodup :=
    r.nodes.nodup_keys.filter _
  refine (List.perm_ext_iff_of_nodup (distinct before after) (distinct after before)).mpr fun m => ?_
  simp only [List.mem_filter, decide_eq_true_eq, and_comm]

theorem answeredChanges_mirrored (fixturesBefore : OnlyFixtures rules before)
    (fixturesAfter : OnlyFixtures rules after) (answers answers' : String → Node → Verdict) :
    (answeredChanges rules before after answers).Perm
      ((answeredChanges rules after before answers').map mirrored) := by
  have nodes : ((before.modules.filter (· ∈ after.modules)).flatMap fun m =>
        expectedModuleChanges (fun q => answers m q.node) rules before after m).Perm
      (((after.modules.filter (· ∈ before.modules)).flatMap fun m =>
        expectedModuleChanges (fun q => answers' m q.node) rules after before m).map mirrored) := by
    rw [List.map_flatMap]
    refine (List.Perm.flatMap_left _ fun m member => ?_).trans
      (List.Perm.flatMap_right _ (common_perm_swap before after))
    obtain ⟨inBefore, inAfter⟩ := List.mem_filter.mp member
    exact moduleChanges_mirrored fixturesBefore fixturesAfter _ _ inBefore (of_decide_eq_true inAfter)
  simp only [answeredChanges, List.map_append, fileChanges_mirrored, ChangeKind.mirror]
  calc
    _ = (fileChanges .fileAdded rules after before ++ fileChanges .fileRemoved rules before after) ++ _ :=
      (List.append_assoc ..).symm
    _ |>.Perm ((fileChanges .fileRemoved rules before after ++ fileChanges .fileAdded rules after before) ++ _) :=
      List.perm_append_comm.append nodes
    _ = _ := List.append_assoc ..

/-- In a comparison of fixtures no detector is asked. -/
theorem exists_changes_of_fixtures {δ : Type} (ask : δ → Inquiry → Reply δ) (d : δ)
    (sourcedBefore : before.Sourced) (sourcedAfter : after.Sourced) (fixtures : OnlyFixtures rules after) :
    (∃ last, (compareForms ask rules d before after).outcome = .ok last) ∧
      ∃ answers, (compareForms ask rules d before after).changes =
        answeredChanges rules before after answers := by
  have kept (d : δ) (q : Inquiry) (_ : True) : True := trivial
  obtain ⟨last, ends, -⟩ := compareForms_ends (fun _ => True) kept sourcedBefore sourcedAfter trivial
    fun m _ inAfter n _ asked => absurd asked (fixtures.not_asked inAfter n)
  obtain ⟨-, answers, -, reported⟩ :=
    compareForms_answered (fun _ => True) kept sourcedBefore sourcedAfter trivial ends
  exact ⟨⟨last, ends⟩, answers, reported⟩

/-! ## Both directions -/

/-- The added files of a comparison are, in order, the removed files of the other direction, whatever the
detectors and however the comparisons end. Where all files are fixtures, both end, and their whole reports
are mirror images but for the order. -/
theorem additions_mirror_removals (sourcedBefore : before.Sourced) (sourcedAfter : after.Sourced)
    (rules : FormRules) {δ δ' : Type} (ask : δ → Inquiry → Reply δ) (d : δ) (ask' : δ' → Inquiry → Reply δ')
    (d' : δ') :
    let forth := compareForms ask rules d before after
    let back := compareForms ask' rules d' after before
    forth.changes.filter (·.2.kind = .fileAdded) =
        (back.changes.filter (·.2.kind = .fileRemoved)).map mirrored ∧
      (OnlyFixtures rules before → OnlyFixtures rules after →
        (∃ last, forth.outcome = .ok last) ∧ (∃ last, back.outcome = .ok last) ∧
          forth.changes.Perm (back.changes.map mirrored)) := by
  intro forth back
  constructor
  · rw [(filter_files_compareForms ask rules d sourcedBefore sourcedAfter).1,
      (filter_files_compareForms ask' rules d' sourcedAfter sourcedBefore).2, fileChanges_mirrored]
    rfl
  · intro fixturesBefore fixturesAfter
    obtain ⟨ends, answers, reported⟩ :=
      exists_changes_of_fixtures ask d sourcedBefore sourcedAfter fixturesAfter
    obtain ⟨ends', answers', reported'⟩ :=
      exists_changes_of_fixtures ask' d' sourcedAfter sourcedBefore fixturesBefore
    refine ⟨ends, ends', ?_⟩
    rw [reported, reported']
    exact answeredChanges_mirrored fixturesBefore fixturesAfter answers answers'

/-! ## Two fixtures -/

def fixtureBefore : Registry := .ofModules
  [("Acme_Old", "old/_files/system.xml", [.configSection ⟨"old", none⟩]),
   ("Acme_Shop", "shop/_files/system.xml",
    [.configField ⟨"label", "shop/main", none, none⟩, .configGroup ⟨"main", "shop", none⟩,
     .virtualType ⟨"Pool", "T", "global", none⟩])]

def fixtureAfter : Registry := .ofModules
  [("Acme_New", "new/_files/system.xml", [.configSection ⟨"new", none⟩]),
   ("Acme_Shop", "moved/_files/system.xml",
    [.configField ⟨"title", "shop/main", none, none⟩, .configGroup ⟨"main", "shop", none⟩])]

def fixtureRules : FormRules := ⟨"system.xml", ["_files"]⟩

theorem additions_mirror_removals_fixtures :
    fixtureBefore.Sourced ∧ fixtureAfter.Sourced ∧ OnlyFixtures fixtureRules fixtureBefore ∧
      OnlyFixtures fixtureRules fixtureAfter ∧
      (compareForms askForms fixtureRules () fixtureBefore fixtureAfter).changes.Perm
        ((compareForms askForms fixtureRules () fixtureAfter fixtureBefore).changes.map mirrored) ∧
      (compareForms askForms fixtureRules () fixtureBefore fixtureAfter).changes.map
          (fun e => (e.2.code, e.2.location, e.2.target)) =
        [("M300", "new/_files/system.xml", "system.xml"), ("M301", "old/_files/system.xml", "system.xml"),
          ("M307", "shop/_files/system.xml", "shop/main/label"),
          ("M306", "moved/_files/system.xml", "shop/main/title")] := by
  have sourcedBefore : fixtureBefore.Sourced := by decide
  have sourcedAfter : fixtureAfter.Sourced := by decide
  have fixturesBefore : OnlyFixtures fixtureRules fixtureBefore := by
    unfold OnlyFixtures
    decide +kernel
  have fixturesAfter : OnlyFixtures fixtureRules fixtureAfter := by
    unfold OnlyFixtures
    decide +kernel
  obtain ⟨-, mirror⟩ :=
    additions_mirror_removals sourcedBefore sourcedAfter fixtureRules askForms () askForms ()
  obtain ⟨-, -, perm⟩ := mirror fixturesBefore fixturesAfter
  exact ⟨sourcedBefore, sourcedAfter, fixturesBefore, fixturesAfter, perm, by cbv⟩

end FormComparison

end ReleaseImpact
