import ReleaseImpact.Proofs.Forms
import Mathlib.Data.List.Nodup

/-!
What the comparison of settings forms reports when the detector may remember what it was asked and may
fail. If the comparison comes to its end, its report is the expected one for the answers that were given.
Main statements:

- `compareAdded_answered`: what is reported of one added node, by the answer on it.
- `compareModule_answered` and `compareForms_answered`: one answer for each added node explains what is
  reported of a module, and of a snapshot.
- `compareForms_ends`: a comparison ends where each question is answered.
- `mem_removed_iff` and `mem_added_iff`: the changes of nodes that a report holds, by the nodes.
-/

namespace ReleaseImpact

theorem Registry.nodup_nodesOf (r : Registry) (moduleName : String) : (r.nodesOf moduleName).Nodup := by
  have distinct : (r.bucket moduleName).keys.Nodup := (r.bucket moduleName).nodup_keys
  rw [r.keys_bucket] at distinct
  exact distinct.of_map

namespace FormComparison

open Trail Registry

variable {δ : Type} {ask : δ → Inquiry → Reply δ} {rules : FormRules} {before after : Registry}
variable {inv : δ → Prop}

instance : Nonempty Verdict := ⟨.unique⟩

/-- The answers on the added nodes of a module come from detectors with some property. -/
def Given (ask : δ → Inquiry → Reply δ) (inv : δ → Prop) (rules : FormRules) (before after : Registry)
    (moduleName : String) (answer : Node → Verdict) : Prop :=
  ∀ n ∈ missingNodes after before moduleName, IsAsked rules (after.fileOf moduleName) n →
    ∃ d, inv d ∧
      (ask d ⟨n, after.fileOf moduleName, before.bucket moduleName⟩).verdict = .ok (answer n)

/-- The expected changes of a snapshot where the answers may differ from one module to the other. -/
def answeredChanges (rules : FormRules) (before after : Registry) (answers : String → Node → Verdict) :
    List (String × Change) :=
  fileChanges .fileAdded rules after before ++ (fileChanges .fileRemoved rules before after ++
    (before.modules.filter (· ∈ after.modules)).flatMap fun moduleName =>
      expectedModuleChanges (fun q => answers moduleName q.node) rules before after moduleName)

theorem compareAdded_answered {existing : Nodes} {file : String} {d d' : δ} {n : Node}
    {reported : List (String × Change)}
    (run : (compareAdded ask (looksUp rules file) existing file d n).Reports d' reported) :
    (d' = d ∨ d' = (ask d ⟨n, file, existing⟩).next) ∧
      ∃ v, (IsAsked rules file n → (ask d ⟨n, file, existing⟩).verdict = .ok v) ∧
        reported =
          nodeChange (expectedAddedKind? (fun _ => v) rules.fixtureMarkers file existing n) file n := by
  by_cases asked : IsAsked rules file n
  · cases answer : (ask d ⟨n, file, existing⟩).verdict with
    | error f =>
      -- the run would have failed with the detector
      rw [compareAdded_of_asked asked, answer] at run
      obtain ⟨_, _, _, _, run, -⟩ := run.exists_of_bind
      obtain ⟨_, _, _, _, run, -⟩ := run.exists_of_bind
      obtain ⟨_, _, _, failed, -, -⟩ := run.exists_of_bind
      cases failed.outcome
    | ok v =>
      have answered := compareAdded_of_answer asked (fun _ => v) answer
      obtain ⟨rfl, rfl⟩ := run.unique answered
      exact ⟨.inr rfl, v, fun _ => rfl, rfl⟩
  · have silent : (compareAdded ask (looksUp rules file) existing file d n).Reports d _ :=
      compareAdded_of_not_asked asked fun _ => .unique
    obtain ⟨rfl, rfl⟩ := run.unique silent
    exact ⟨.inl rfl, .unique, fun here => absurd here asked, rfl⟩

theorem compareModule_answered (kept : ∀ d q, inv d → inv (ask d q).next)
    (sourcedBefore : before.Sourced) (sourcedAfter : after.Sourced) {d d' : δ} (holds : inv d)
    {moduleName : String} (inBefore : moduleName ∈ before.modules) (inAfter : moduleName ∈ after.modules)
    {reported : List (String × Change)}
    (run : (compareModule ask rules before after d
      (moduleName, .ofKeys (before.bucket moduleName).keys (after.bucket moduleName).keys)).Reports d'
        reported) :
    inv d' ∧ ∃ answer, Given ask inv rules before after moduleName answer ∧
      reported = expectedModuleChanges (fun q => answer q.node) rules before after moduleName := by
  rw [compareModule_eq rules sourcedBefore sourcedAfter d inBefore inAfter] at run
  obtain ⟨_, gone, new, first, rest, rfl⟩ := run.exists_of_bind
  obtain ⟨-, rfl⟩ := first.unique (reportRemoved_reports _ _)
  have distinct : (missingNodes after before moduleName).Nodup := (nodup_nodesOf after moduleName).filter _
  have step (n : Node) (_ : n ∈ missingNodes after before moduleName) (d d' : δ)
      (reported : List (String × Change)) (holds : inv d)
      (run : (compareAdded ask (looksUp rules (after.fileOf moduleName)) (before.bucket moduleName)
        (after.fileOf moduleName) d n).Reports d' reported) :
      inv d' ∧ ∃ v, (IsAsked rules (after.fileOf moduleName) n → ∃ d, inv d ∧
          (ask d ⟨n, after.fileOf moduleName, before.bucket moduleName⟩).verdict = .ok v) ∧
        reported = nodeChange (expectedAddedKind? (fun _ => v) rules.fixtureMarkers
          (after.fileOf moduleName) (before.bucket moduleName) n) (after.fileOf moduleName) n := by
    obtain ⟨next, v, answered, rfl⟩ := compareAdded_answered run
    refine ⟨?_, v, fun asked => ⟨d, holds, answered asked⟩, rfl⟩
    rcases next with rfl | rfl
    · exact holds
    · exact kept d _ holds
  obtain ⟨holds, answer, given, rfl⟩ := exists_choice_of_reports distinct step holds rest
  refine ⟨holds, answer, given, ?_⟩
  rw [expectedModuleChanges, nodeChanges_eq (expectedAddedKind? _ _ _ _)]
  rfl

theorem given_of_keys {moduleName : String} (answer : Node → Verdict)
    (same : ∀ key, key ∈ (before.bucket moduleName).keys ↔ key ∈ (after.bucket moduleName).keys) :
    Given ask inv rules before after moduleName answer := by
  intro n member _
  rw [missingNodes_eq_nil_iff.2 fun key => (same key).2] at member
  cases member

/-- A comparison that comes to its end reports the expected changes for some answers, each of which the
detector gave to a question about the node. -/
theorem compareForms_answered (inv : δ → Prop) (kept : ∀ d q, inv d → inv (ask d q).next)
    (sourcedBefore : before.Sourced) (sourcedAfter : after.Sourced) {d d' : δ} (holds : inv d)
    (run : (compareForms ask rules d before after).outcome = .ok d') :
    inv d' ∧ ∃ answers : String → Node → Verdict,
      (∀ moduleName ∈ before.modules, moduleName ∈ after.modules →
        Given ask inv rules before after moduleName (answers moduleName)) ∧
      (compareForms ask rules d before after).changes = answeredChanges rules before after answers := by
  obtain ⟨reported, run⟩ := exists_of_ends run
  rw [run.changes]
  rw [compareForms_eq] at run
  split at run
  · next same =>
    obtain ⟨rfl, rfl⟩ := run.unique (reports_pure d)
    refine ⟨holds, fun _ _ => .unique, ?_, ?_⟩
    · intro m inBefore inAfter
      exact given_of_keys _ (mem_keys_iff_of_sameIndex same inBefore inAfter)
    · have silent := expectedFormChanges_of_sameIndex (fun _ => .unique) rules same
      rw [← silent, expectedFormChanges, List.append_assoc]
      rfl
  · obtain ⟨_, _, _, added, rest, rfl⟩ := run.exists_of_bind
    obtain ⟨_, _, _, removed, common, rfl⟩ := rest.exists_of_bind
    obtain ⟨-, rfl⟩ := added.unique (reportFiles_reports .fileAdded rules sourcedAfter before)
    obtain ⟨-, rfl⟩ := removed.unique (reportFiles_reports .fileRemoved rules sourcedBefore after)
    have distinct : (changedModules before after).Nodup := (before.nodes.nodup_keys.filter _).filter _
    have step (m : String) (member : m ∈ changedModules before after) (d d' : δ)
        (reported : List (String × Change)) (holds : inv d)
        (run : (compareModule ask rules before after d
          (m, .ofKeys (before.bucket m).keys (after.bucket m).keys)).Reports d' reported) :=
      compareModule_answered kept sourcedBefore sourcedAfter holds (mem_of_mem_changed member).1
        (mem_of_mem_changed member).2 run
    obtain ⟨holds, answers, given, rfl⟩ := exists_choice_of_reports distinct step holds common
    refine ⟨holds, answers, ?_, ?_⟩
    · intro m inBefore inAfter
      by_cases changed : m ∈ changedModules before after
      · exact given m changed
      · exact given_of_keys _ (mem_keys_iff_of_not_changed inBefore inAfter changed)
    · rw [flatMap_changed fun m q => answers m q.node]
      rfl

/-! ## Comparisons that come to their end -/

/-- The detectors with some property tell of every added node of a module for which they are asked. -/
def Answering (ask : δ → Inquiry → Reply δ) (inv : δ → Prop) (rules : FormRules) (before after : Registry)
    (moduleName : String) : Prop :=
  ∀ n ∈ missingNodes after before moduleName, IsAsked rules (after.fileOf moduleName) n →
    ∀ d, inv d →
      ∃ v, (ask d ⟨n, after.fileOf moduleName, before.bucket moduleName⟩).verdict = .ok v

theorem compareAdded_ends {existing : Nodes} {file : String} {d : δ} {n : Node}
    (answered : IsAsked rules file n → ∃ v, (ask d ⟨n, file, existing⟩).verdict = .ok v) :
    ∃ d', (compareAdded ask (looksUp rules file) existing file d n).outcome = .ok d' ∧
      (d' = d ∨ d' = (ask d ⟨n, file, existing⟩).next) := by
  by_cases asked : IsAsked rules file n
  · obtain ⟨v, answer⟩ := answered asked
    exact ⟨_, (compareAdded_of_answer asked (fun _ => v) answer).outcome, .inr rfl⟩
  · exact ⟨d, (compareAdded_of_not_asked asked fun _ => .unique).outcome, .inl rfl⟩

theorem compareModule_ends (kept : ∀ d q, inv d → inv (ask d q).next)
    (sourcedBefore : before.Sourced) (sourcedAfter : after.Sourced) {d : δ} (holds : inv d)
    {moduleName : String} (inBefore : moduleName ∈ before.modules) (inAfter : moduleName ∈ after.modules)
    (answering : Answering ask inv rules before after moduleName) :
    ∃ d', (compareModule ask rules before after d
      (moduleName, .ofKeys (before.bucket moduleName).keys (after.bucket moduleName).keys)).outcome =
        .ok d' ∧ inv d' := by
  rw [compareModule_eq rules sourcedBefore sourcedAfter d inBefore inAfter]
  have gone := reportRemoved_reports (missingNodes before after moduleName) (before.fileOf moduleName)
  rw [outcome_bind_of_ok _ gone.outcome]
  refine exists_fold_of_ends (fun n member d holds => ?_) holds
  obtain ⟨d', ends, next⟩ := compareAdded_ends fun asked => answering n member asked d holds
  refine ⟨d', ends, ?_⟩
  rcases next with rfl | rfl
  · exact holds
  · exact kept d _ holds

theorem compareForms_ends (inv : δ → Prop) (kept : ∀ d q, inv d → inv (ask d q).next)
    (sourcedBefore : before.Sourced) (sourcedAfter : after.Sourced) {d : δ} (holds : inv d)
    (answering : ∀ m ∈ before.modules, m ∈ after.modules → Answering ask inv rules before after m) :
    ∃ d', (compareForms ask rules d before after).outcome = .ok d' ∧ inv d' := by
  rw [compareForms_eq]
  split
  · exact ⟨d, rfl, holds⟩
  · have added := reportFiles_reports .fileAdded rules sourcedAfter before
    have removed := reportFiles_reports .fileRemoved rules sourcedBefore after
    rw [outcome_bind_of_ok _ added.outcome, outcome_bind_of_ok _ removed.outcome]
    refine exists_fold_of_ends (fun m member d holds => ?_) holds
    obtain ⟨inBefore, inAfter⟩ := mem_of_mem_changed member
    exact compareModule_ends kept sourcedBefore sourcedAfter holds inBefore inAfter
      (answering m inBefore inAfter)

/-! ## What is in a report -/

/-- The kinds of change that a removed node may be. -/
def IsRemoval (kind : ChangeKind) : Prop :=
  kind = .sectionRemoved ∨ kind = .groupRemoved ∨ kind = .fieldRemoved

/-- The kinds of change that an added node may be. -/
def IsAddition (kind : ChangeKind) : Prop :=
  kind = .sectionAdded ∨ kind = .groupAdded ∨ kind = .fieldAdded ∨ kind = .duplicateFieldAdded

theorem isRemoval_of_removedKind? {n : Node} {kind : ChangeKind} (h : removedKind? n = some kind) :
    IsRemoval kind := by cases n <;> simp [removedKind?] at h <;> simp [← h, IsRemoval]

theorem isAddition_of_addedKind? {n : Node} {kind : ChangeKind} (h : addedKind? n = some kind) :
    IsAddition kind := by cases n <;> simp [addedKind?] at h <;> simp [← h, IsAddition]

theorem isAddition_of_judgedKind? {n : Node} {v : Verdict} {kind : ChangeKind}
    (h : judgedKind? n v = some kind) : IsAddition kind := by
  cases v with
  | unresolved => cases h
  | duplicate => cases n <;> simp [judgedKind?] at h; simp [← h, IsAddition]
  | unique => exact isAddition_of_addedKind? h
  | unavailable => exact isAddition_of_addedKind? h

theorem isAddition_of_expected {verdict : Inquiry → Verdict} {markers : List String} {file : String}
    {existing : Nodes} {n : Node} {kind : ChangeKind}
    (h : expectedAddedKind? verdict markers file existing n = some kind) : IsAddition kind := by
  unfold expectedAddedKind? at h
  split at h
  · exact isAddition_of_addedKind? h
  · split at h
    · cases h
    · exact isAddition_of_judgedKind? h

theorem not_isAddition_of_isRemoval {kind : ChangeKind} (removal : IsRemoval kind) : ¬IsAddition kind := by
  rcases removal with rfl | rfl | rfl <;> simp [IsAddition]

theorem mem_nodeChanges_iff {kind? : Node → Option ChangeKind} {file : String} {nodes : List Node}
    {c : Change} :
    (systemDomain, c) ∈ nodeChanges kind? file nodes ↔
      c.location = file ∧ ∃ n ∈ nodes, kind? n = some c.kind ∧ n.path = c.target := by
  obtain ⟨kind, location, target⟩ := c
  simp only [nodeChanges, List.mem_filterMap, Option.map_eq_some_iff, Prod.mk.injEq, Change.mk.injEq,
    true_and]
  constructor
  · rintro ⟨n, member, _, found, rfl, rfl, rfl⟩
    exact ⟨rfl, n, member, found, rfl⟩
  · rintro ⟨rfl, n, member, found, rfl⟩
    exact ⟨n, member, kind, found, rfl, rfl, rfl⟩

theorem not_mem_fileChanges {kind : ChangeKind} {r other : Registry} {c : Change} (apart : c.kind ≠ kind) :
    (systemDomain, c) ∉ fileChanges kind rules r other := by
  intro member
  obtain ⟨_, -, same⟩ := List.mem_map.1 member
  cases same
  exact apart rfl

theorem mem_answeredChanges_iff {answers : String → Node → Verdict} {c : Change}
    (apart : c.kind ≠ .fileAdded ∧ c.kind ≠ .fileRemoved) :
    (systemDomain, c) ∈ answeredChanges rules before after answers ↔
      ∃ m, m ∈ before.modules ∧ m ∈ after.modules ∧
        (systemDomain, c) ∈ expectedModuleChanges (fun q => answers m q.node) rules before after m := by
  simp only [answeredChanges, List.mem_append, not_mem_fileChanges apart.1, not_mem_fileChanges apart.2,
    List.mem_flatMap, List.mem_filter, decide_eq_true_eq, false_or, and_assoc]

theorem mem_removed_iff {answers : String → Node → Verdict} {c : Change} (removal : IsRemoval c.kind) :
    (systemDomain, c) ∈ answeredChanges rules before after answers ↔
      ∃ m, m ∈ before.modules ∧ m ∈ after.modules ∧ c.location = before.fileOf m ∧
        ∃ n ∈ missingNodes before after m, removedKind? n = some c.kind ∧ n.path = c.target := by
  have apart : c.kind ≠ .fileAdded ∧ c.kind ≠ .fileRemoved := by
    rcases removal with kind | kind | kind <;> simp [kind]
  rw [mem_answeredChanges_iff apart]
  refine exists_congr fun m => and_congr_right fun _ => and_congr_right fun _ => ?_
  rw [expectedModuleChanges, List.mem_append, mem_nodeChanges_iff, mem_nodeChanges_iff, or_iff_left]
  rintro ⟨-, n, -, found, -⟩
  exact not_isAddition_of_isRemoval removal (isAddition_of_expected found)

theorem mem_added_iff {answers : String → Node → Verdict} {c : Change} (addition : IsAddition c.kind) :
    (systemDomain, c) ∈ answeredChanges rules before after answers ↔
      ∃ m, m ∈ before.modules ∧ m ∈ after.modules ∧ c.location = after.fileOf m ∧
        ∃ n ∈ missingNodes after before m,
          expectedAddedKind? (fun q => answers m q.node) rules.fixtureMarkers (after.fileOf m)
            (before.bucket m) n = some c.kind ∧ n.path = c.target := by
  have apart : c.kind ≠ .fileAdded ∧ c.kind ≠ .fileRemoved := by
    rcases addition with kind | kind | kind | kind <;> simp [kind]
  rw [mem_answeredChanges_iff apart]
  refine exists_congr fun m => and_congr_right fun _ => and_congr_right fun _ => ?_
  rw [expectedModuleChanges, List.mem_append, mem_nodeChanges_iff, mem_nodeChanges_iff, or_iff_right]
  rintro ⟨-, n, -, found, -⟩
  exact not_isAddition_of_isRemoval (isRemoval_of_removedKind? found) addition

end FormComparison

end ReleaseImpact
