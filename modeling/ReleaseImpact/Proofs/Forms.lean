import ReleaseImpact.Comparison.Forms
import ReleaseImpact.Proofs.Registry
import ReleaseImpact.Proofs.Reports
import Mathlib.Data.List.Infix

/-!
What the comparison of settings forms reports, as a list that mentions neither shortcuts nor logs. The
detector may be any whose verdict depends on the inquiry alone. Main statements:

- `compareAdded_reports`: what is reported of one added node.
- `compareModule_reports`: what is reported of a module that both snapshots have.
- `expectedFormChanges_of_sameIndex`: of registries with equal indexes there is nothing to report.
- `compareForms_appends`: the comparison reports the expected changes, behind all earlier ones.
-/

namespace ReleaseImpact.FormComparison

open Trail Registry

def addedKind? : Node → Option ChangeKind
  | .configSection _ => some .sectionAdded
  | .configGroup _ => some .groupAdded
  | .configField _ => some .fieldAdded
  | .virtualType _ => none

def removedKind? : Node → Option ChangeKind
  | .configSection _ => some .sectionRemoved
  | .configGroup _ => some .groupRemoved
  | .configField _ => some .fieldRemoved
  | .virtualType _ => none

def isSection : Node → Bool
  | .configSection _ => true
  | _ => false

/-- What an added node is that was looked up. -/
def judgedKind? (n : Node) : Verdict → Option ChangeKind
  | .unresolved => none
  | .duplicate =>
    match n with
    | .configField _ => some .duplicateFieldAdded
    | _ => none
  | .unique => addedKind? n
  | .unavailable => addedKind? n

/-- What is reported of an added node. -/
def expectedAddedKind? (verdict : Inquiry → Verdict) (markers : List String) (file : String)
    (existing : Nodes) (n : Node) : Option ChangeKind :=
  if ∃ marker ∈ markers, marker.toList <:+: file.toList then addedKind? n
  else if isSection n ∨ (Address.pathParts n.path).length < 3 then none
  else judgedKind? n (verdict ⟨n, file, existing⟩)

/-- The nodes of a module whose keys another registry does not have in it. -/
def missingNodes (r other : Registry) (moduleName : String) : List Node :=
  (r.nodesOf moduleName).filter fun n => n.key ∉ (other.nodesOf moduleName).map Node.key

def nodeChanges (kind? : Node → Option ChangeKind) (file : String) (nodes : List Node) :
    List (String × Change) :=
  nodes.filterMap fun n => (kind? n).map fun kind => (systemDomain, ⟨kind, file, n.path⟩)

def expectedModuleChanges (verdict : Inquiry → Verdict) (rules : FormRules) (before after : Registry)
    (moduleName : String) : List (String × Change) :=
  nodeChanges removedKind? (before.fileOf moduleName) (missingNodes before after moduleName) ++
    nodeChanges
      (expectedAddedKind? verdict rules.fixtureMarkers (after.fileOf moduleName)
        (before.bucket moduleName))
      (after.fileOf moduleName) (missingNodes after before moduleName)

def fileChanges (kind : ChangeKind) (rules : FormRules) (r other : Registry) : List (String × Change) :=
  (r.modules.filter (· ∉ other.modules)).map fun moduleName =>
    (systemDomain, ⟨kind, r.fileOf moduleName, rules.schemaFileName⟩)

def expectedFormChanges (verdict : Inquiry → Verdict) (rules : FormRules) (before after : Registry) :
    List (String × Change) :=
  fileChanges .fileAdded rules after before ++ fileChanges .fileRemoved rules before after ++
    (before.modules.filter (· ∈ after.modules)).flatMap
      (expectedModuleChanges verdict rules before after)

/-! ## One node -/

theorem added?_kind (n : Node) : ChangeKind.added? n.kind = addedKind? n := by cases n <;> rfl

theorem removed?_kind (n : Node) : ChangeKind.removed? n.kind = removedKind? n := by cases n <;> rfl

theorem looksUp_eq_false_iff {rules : FormRules} {file : String} :
    looksUp rules file = false ↔ ∃ marker ∈ rules.fixtureMarkers, marker.toList <:+: file.toList := by
  simp [looksUp, Text.contains, Text.occursIn_iff_infix]

theorem address?_eq_none_iff {n : Node} (form : n.kind ≠ .virtualType) :
    n.address? = none ↔ isSection n ∨ (Address.pathParts n.path).length < 3 := by
  cases n with
  | virtualType v => exact absurd rfl form
  | configSection s => simp [Node.address?, isSection]
  | configGroup g => exact Address.ofParts?_eq_none_iff.trans (by simp [isSection, Address.minLength])
  | configField f => exact Address.ofParts?_eq_none_iff.trans (by simp [isSection, Address.minLength])

theorem expectedAddedKind?_virtualType (verdict : Inquiry → Verdict) (markers : List String)
    (file : String) (existing : Nodes) (v : VirtualType) :
    expectedAddedKind? verdict markers file existing (.virtualType v) = none := by
  unfold expectedAddedKind?
  split
  · rfl
  · split
    · rfl
    · cases verdict ⟨.virtualType v, file, existing⟩ <;> rfl

/-- The change that a node is, if it is one. -/
def nodeChange (kind? : Option ChangeKind) (file : String) (n : Node) : List (String × Change) :=
  (kind?.map fun kind => (systemDomain, ⟨kind, file, n.path⟩)).toList

theorem nodeChanges_eq (kind? : Node → Option ChangeKind) (file : String) (nodes : List Node) :
    nodeChanges kind? file nodes = nodes.flatMap fun n => nodeChange (kind? n) file n :=
  List.filterMap_eq_flatMap_toList _ _

theorem reportNode_reports (kind? : Kind → Option ChangeKind) (n : Node) (file : String) :
    (reportNode kind? n file).Reports () (nodeChange (kind? n.kind) file n) := by
  unfold reportNode
  cases kind? n.kind with
  | none => exact reports_pure ()
  | some kind => exact reports_report ..

theorem judge_reports (n : Node) (file : String) (v : Verdict) :
    (judge n file v).Reports () (nodeChange (judgedKind? n v) file n) := by
  have added := reportNode_reports ChangeKind.added? n file
  rw [added?_kind] at added
  cases v with
  | unique => exact added
  | unavailable => exact added
  | unresolved => exact reports_log ..
  | duplicate => cases n <;> first | exact reports_report .. | exact reports_log ..

variable {δ : Type} {ask : δ → Inquiry → Reply δ} {verdict : Inquiry → Verdict}

/-- Whether a detector is asked about a node that is added in a file. -/
def IsAsked (rules : FormRules) (file : String) (n : Node) : Prop :=
  n.kind ≠ .virtualType ∧ looksUp rules file = true ∧ n.address? ≠ none

section Asking

variable {rules : FormRules} {existing : Nodes} {file : String} {d : δ} {n : Node}

theorem compareAdded_of_asked (asked : IsAsked rules file n) :
    compareAdded ask (looksUp rules file) existing file d n = (do
      .step (.question n.path)
      Trail.each (ask d ⟨n, file, existing⟩).events fun e => .step (.event e)
      judge n file (← .ofExcept (ask d ⟨n, file, existing⟩).verdict)
      return (ask d ⟨n, file, existing⟩).next) := by
  obtain ⟨form, up, long⟩ := asked
  rw [compareAdded, if_neg form, up, if_neg long]
  rfl

theorem compareAdded_of_answer (asked : IsAsked rules file n) (verdict : Inquiry → Verdict)
    (answer : (ask d ⟨n, file, existing⟩).verdict = .ok (verdict ⟨n, file, existing⟩)) :
    (compareAdded ask (looksUp rules file) existing file d n).Reports (ask d ⟨n, file, existing⟩).next
      (nodeChange (expectedAddedKind? verdict rules.fixtureMarkers file existing n) file n) := by
  rw [compareAdded_of_asked asked]
  obtain ⟨form, up, long⟩ := asked
  have noMarker : ¬∃ marker ∈ rules.fixtureMarkers, marker.toList <:+: file.toList :=
    fun marked => by simp [looksUp_eq_false_iff.2 marked] at up
  rw [expectedAddedKind?, if_neg noMarker, if_neg (mt (address?_eq_none_iff form).2 long)]
  have silent : (Trail.each (ask d ⟨n, file, existing⟩).events fun e => .step (.event e)).Reports ()
      ((ask d ⟨n, file, existing⟩).events.flatMap fun _ => []) :=
    reports_each fun _ _ => reports_step rfl
  rw [List.flatMap_eq_nil_iff.2 fun _ _ => rfl] at silent
  have judged := judge_reports n file (verdict ⟨n, file, existing⟩)
  refine (reports_step rfl).bind_silent (silent.bind_silent ?_)
  exact (reports_ofExcept answer).bind_silent (judged.bind_return _)

theorem compareAdded_of_not_asked (unasked : ¬IsAsked rules file n) (verdict : Inquiry → Verdict) :
    (compareAdded ask (looksUp rules file) existing file d n).Reports d
      (nodeChange (expectedAddedKind? verdict rules.fixtureMarkers file existing n) file n) := by
  unfold compareAdded
  by_cases form : n.kind = .virtualType
  · rw [if_pos form]
    cases n with
    | virtualType v => simpa [nodeChange, expectedAddedKind?_virtualType] using reports_pure d
    | _ => cases form
  rw [if_neg form]
  unfold expectedAddedKind?
  cases up : looksUp rules file with
  | false =>
    have added := reportNode_reports ChangeKind.added? n file
    rw [added?_kind] at added
    rw [if_pos (looksUp_eq_false_iff.1 up)]
    exact added.bind_return d
  | true =>
    have noMarker : ¬∃ marker ∈ rules.fixtureMarkers, marker.toList <:+: file.toList :=
      fun marked => by simp [looksUp_eq_false_iff.2 marked] at up
    have short : n.address? = none := by
      by_contra long
      exact unasked ⟨form, up, long⟩
    rw [if_neg noMarker, if_pos short, if_pos ((address?_eq_none_iff form).1 short)]
    exact (reports_log ..).bind_silent (reports_pure d)

end Asking

theorem compareAdded_reports (answers : ∀ d q, (ask d q).verdict = .ok (verdict q)) (rules : FormRules)
    (existing : Nodes) (file : String) (d : δ) (n : Node) :
    ∃ d', (compareAdded ask (looksUp rules file) existing file d n).Reports d'
      (nodeChange (expectedAddedKind? verdict rules.fixtureMarkers file existing n) file n) := by
  by_cases asked : IsAsked rules file n
  · exact ⟨_, compareAdded_of_answer asked verdict (answers d _)⟩
  · exact ⟨d, compareAdded_of_not_asked asked verdict⟩

/-! ## Modules -/

theorem keysOf_index {r : Registry} {moduleName : String} (member : moduleName ∈ r.modules) :
    SnapshotMatch.keysOf moduleName (r.index some) = (r.bucket moduleName).keys := by
  have keys : ∀ nodes : Nodes, (nodes.filterMap some).keys = nodes.keys := by
    intro nodes
    simp [OrderedMap.keys, OrderedMap.filterMap]
  rw [SnapshotMatch.keysOf, get?_index member]
  exact keys _

theorem missing_keys (r other : Registry) (moduleName : String) :
    ((r.bucket moduleName).keys.filter (· ∉ (other.bucket moduleName).keys)).filterMap
      (r.bucket moduleName).get? = missingNodes r other moduleName := by
  rw [filterMap_get?_bucket, missingNodes, ← keys_bucket]

theorem reportRemoved_reports (nodes : List Node) (file : String) :
    (Trail.each nodes (reportNode ChangeKind.removed? · file)).Reports ()
      (nodeChanges removedKind? file nodes) := by
  rw [nodeChanges_eq]
  refine reports_each fun n _ => ?_
  rw [← removed?_kind]
  exact reportNode_reports ..

theorem compareModule_eq (rules : FormRules) {before after : Registry} (sourcedBefore : before.Sourced)
    (sourcedAfter : after.Sourced) (d : δ) {moduleName : String} (inBefore : moduleName ∈ before.modules)
    (inAfter : moduleName ∈ after.modules) :
    compareModule ask rules before after d
        (moduleName, .ofKeys (before.bucket moduleName).keys (after.bucket moduleName).keys) = (do
      Trail.each (missingNodes before after moduleName)
        (reportNode ChangeKind.removed? · (before.fileOf moduleName))
      Trail.fold (compareAdded ask (looksUp rules (after.fileOf moduleName)) (before.bucket moduleName)
        (after.fileOf moduleName)) d (missingNodes after before moduleName)) := by
  have fileBefore : Trail.ofExcept (before.sourceFile moduleName) = pure (before.fileOf moduleName) :=
    congrArg ofExcept (sourceFile_of_sourced sourcedBefore inBefore)
  have fileAfter : Trail.ofExcept (after.sourceFile moduleName) = pure (after.fileOf moduleName) :=
    congrArg ofExcept (sourceFile_of_sourced sourcedAfter inAfter)
  have removed := missing_keys before after moduleName
  have added := missing_keys after before moduleName
  simp only [compareModule, KeyMatch.ofKeys, fileBefore, fileAfter, pure_bind]
  rw [removed, added]
  split
  · next noneRemoved =>
    rw [List.isEmpty_iff.1 noneRemoved] at removed
    rw [← removed]
    split
    · next noneAdded =>
      rw [List.isEmpty_iff.1 noneAdded] at added
      rw [← added]
      rfl
    · rfl
  · split
    · next noneAdded =>
      rw [List.isEmpty_iff.1 noneAdded] at added
      rw [← added]
      rfl
    · rfl

theorem compareModule_reports (answers : ∀ d q, (ask d q).verdict = .ok (verdict q)) (rules : FormRules)
    {before after : Registry} (sourcedBefore : before.Sourced) (sourcedAfter : after.Sourced) (d : δ)
    {moduleName : String} (inBefore : moduleName ∈ before.modules)
    (inAfter : moduleName ∈ after.modules) :
    ∃ d', (compareModule ask rules before after d
        (moduleName, .ofKeys (before.bucket moduleName).keys (after.bucket moduleName).keys)).Reports d'
      (expectedModuleChanges verdict rules before after moduleName) := by
  have gone := reportRemoved_reports (missingNodes before after moduleName) (before.fileOf moduleName)
  have step (d : δ) (n : Node) (_ : n ∈ missingNodes after before moduleName) :=
    compareAdded_reports answers rules (before.bucket moduleName) (after.fileOf moduleName) d n
  obtain ⟨d', new⟩ := reports_fold step d
  rw [← nodeChanges_eq] at new
  rw [compareModule_eq rules sourcedBefore sourcedAfter d inBefore inAfter]
  exact ⟨d', gone.bind new⟩

/-! ## Snapshots -/

theorem reportFiles_reports (kind : ChangeKind) (rules : FormRules) {r : Registry} (sourced : r.Sourced)
    (other : Registry) :
    (reportFiles kind rules r (r.modules.filter (· ∉ other.modules))).Reports ()
      (fileChanges kind rules r other) := by
  rw [fileChanges, List.map_eq_flatMap]
  refine reports_each fun moduleName member => ?_
  have file := reports_ofExcept (sourceFile_of_sourced sourced (List.mem_filter.1 member).1)
  exact file.bind_silent (reports_report ..)

theorem missingNodes_eq_nil_iff {r other : Registry} {moduleName : String} :
    missingNodes r other moduleName = [] ↔
      (r.bucket moduleName).keys ⊆ (other.bucket moduleName).keys := by
  rw [missingNodes, List.filter_eq_nil_iff, keys_bucket, keys_bucket]
  simp [List.subset_def]

theorem expectedModuleChanges_of_keys (verdict : Inquiry → Verdict) (rules : FormRules)
    {before after : Registry} {moduleName : String}
    (same : ∀ key, key ∈ (before.bucket moduleName).keys ↔ key ∈ (after.bucket moduleName).keys) :
    expectedModuleChanges verdict rules before after moduleName = [] := by
  have removed := missingNodes_eq_nil_iff.2 fun key => (same key).1
  have added := missingNodes_eq_nil_iff.2 fun key => (same key).2
  rw [expectedModuleChanges, removed, added]
  rfl

theorem mem_keys_iff_of_unchanged {before after : List String}
    (unchanged : (KeyMatch.ofKeys before after).unchanged = true) (key : String) :
    key ∈ before ↔ key ∈ after := by
  simp only [KeyMatch.unchanged, Bool.and_eq_true, List.isEmpty_iff] at unchanged
  have removed := mt KeyMatch.mem_removed_iff.2 (unchanged.2 ▸ List.not_mem_nil : key ∉ _)
  have added := mt KeyMatch.mem_added_iff.2 (unchanged.1 ▸ List.not_mem_nil : key ∉ _)
  tauto

/-- The modules that both snapshots have and whose keys are not the same in both. -/
def changedModules (before after : Registry) : List String :=
  (before.modules.filter (· ∈ after.modules)).filter fun m =>
    !(KeyMatch.ofKeys (before.bucket m).keys (after.bucket m).keys).unchanged

theorem changed_common (before after : Registry) :
    (SnapshotMatch.ofIndexes (before.index some) (after.index some)).common.filter (!·.2.unchanged) =
      (changedModules before after).map fun m =>
        (m, .ofKeys (before.bucket m).keys (after.bucket m).keys) := by
  have common : (SnapshotMatch.ofIndexes (before.index some) (after.index some)).common =
      (before.modules.filter (· ∈ after.modules)).map fun m =>
        (m, .ofKeys (before.bucket m).keys (after.bucket m).keys) := by
    simp only [SnapshotMatch.ofIndexes, KeyMatch.ofKeys, keys_index]
    refine List.map_congr_left fun m member => ?_
    obtain ⟨inBefore, inAfter⟩ := List.mem_filter.1 member
    rw [keysOf_index inBefore, keysOf_index (of_decide_eq_true inAfter)]
  rw [common, List.filter_map]
  rfl

theorem mem_of_mem_changed {before after : Registry} {m : String} (member : m ∈ changedModules before after) :
    m ∈ before.modules ∧ m ∈ after.modules := by
  obtain ⟨inBefore, inAfter⟩ := List.mem_filter.1 (List.mem_filter.1 member).1
  exact ⟨inBefore, of_decide_eq_true inAfter⟩

theorem mem_keys_iff_of_not_changed {before after : Registry} {m : String} (inBefore : m ∈ before.modules)
    (inAfter : m ∈ after.modules) (same : m ∉ changedModules before after) (key : String) :
    key ∈ (before.bucket m).keys ↔ key ∈ (after.bucket m).keys := by
  have both : m ∈ before.modules.filter (· ∈ after.modules) :=
    List.mem_filter.2 ⟨inBefore, decide_eq_true inAfter⟩
  have unchanged : (KeyMatch.ofKeys (before.bucket m).keys (after.bucket m).keys).unchanged = true := by
    by_contra changed
    exact same (List.mem_filter.2 ⟨both, by simp [changed]⟩)
  exact mem_keys_iff_of_unchanged unchanged key

/-- A module with the same keys on both sides is left out, and there is nothing to report of it. -/
theorem flatMap_changed {before after : Registry} (verdicts : String → Inquiry → Verdict)
    (rules : FormRules) :
    (changedModules before after).flatMap
        (fun m => expectedModuleChanges (verdicts m) rules before after m) =
      (before.modules.filter (· ∈ after.modules)).flatMap fun m =>
        expectedModuleChanges (verdicts m) rules before after m := by
  rw [changedModules, flatMap_filter]
  refine List.flatMap_congr fun m _ => ?_
  split
  · rfl
  · next unchanged =>
    rw [Bool.not_eq_true', Bool.not_eq_false] at unchanged
    exact (expectedModuleChanges_of_keys (verdicts m) rules (mem_keys_iff_of_unchanged unchanged)).symm

theorem compareCommon_reports (answers : ∀ d q, (ask d q).verdict = .ok (verdict q)) (rules : FormRules)
    {before after : Registry} (sourcedBefore : before.Sourced) (sourcedAfter : after.Sourced) (d : δ) :
    ∃ d', (fold (fun d m => compareModule ask rules before after d
        (m, .ofKeys (before.bucket m).keys (after.bucket m).keys)) d (changedModules before after)).Reports d'
      ((before.modules.filter (· ∈ after.modules)).flatMap
        (expectedModuleChanges verdict rules before after)) := by
  rw [← flatMap_changed (fun _ => verdict)]
  refine reports_fold (fun d m member => ?_) d
  obtain ⟨inBefore, inAfter⟩ := mem_of_mem_changed member
  exact compareModule_reports answers rules sourcedBefore sourcedAfter d inBefore inAfter

theorem fileChanges_eq_nil (kind : ChangeKind) (rules : FormRules) {r other : Registry}
    (known : r.modules ⊆ other.modules) : fileChanges kind rules r other = [] := by
  rw [fileChanges, List.map_eq_nil_iff, List.filter_eq_nil_iff]
  intro m member
  simpa using known member

theorem mem_keys_iff_of_sameIndex {before after : Registry}
    (same : sameIndex (before.index some) (after.index some) = true) {m : String}
    (inBefore : m ∈ before.modules) (inAfter : m ∈ after.modules) (key : String) :
    key ∈ (before.bucket m).keys ↔ key ∈ (after.bucket m).keys := by
  obtain ⟨nodes, found, agree⟩ := OrderedMap.get?_of_agreesBy same (get?_index inBefore some)
  rw [← keysOf_index inBefore, ← keysOf_index inAfter, SnapshotMatch.keysOf, SnapshotMatch.keysOf, found,
    get?_index inBefore]
  exact OrderedMap.mem_keys_iff_of_agreesBy agree key

theorem expectedFormChanges_of_sameIndex (verdict : Inquiry → Verdict) (rules : FormRules)
    {before after : Registry} (same : sameIndex (before.index some) (after.index some) = true) :
    expectedFormChanges verdict rules before after = [] := by
  have modules : ∀ m, m ∈ before.modules ↔ m ∈ after.modules := by
    intro m
    rw [← keys_index before some, ← keys_index after some]
    exact OrderedMap.mem_keys_iff_of_agreesBy same m
  have common : (before.modules.filter (· ∈ after.modules)).flatMap
      (expectedModuleChanges verdict rules before after) = [] := by
    refine List.flatMap_eq_nil_iff.2 fun m member => ?_
    obtain ⟨inBefore, inAfter⟩ := List.mem_filter.1 member
    have keys := mem_keys_iff_of_sameIndex same inBefore (of_decide_eq_true inAfter)
    exact expectedModuleChanges_of_keys verdict rules keys
  rw [expectedFormChanges, common, fileChanges_eq_nil _ _ fun m => (modules m).2,
    fileChanges_eq_nil _ _ fun m => (modules m).1]
  rfl

theorem compareForms_eq (ask : δ → Inquiry → Reply δ) (rules : FormRules) (d : δ)
    (before after : Registry) :
    compareForms ask rules d before after =
      if sameIndex (before.index some) (after.index some) then pure d
      else (do
        reportFiles .fileAdded rules after (after.modules.filter (· ∉ before.modules))
        reportFiles .fileRemoved rules before (before.modules.filter (· ∉ after.modules))
        fold (fun d m => compareModule ask rules before after d
          (m, .ofKeys (before.bucket m).keys (after.bucket m).keys)) d (changedModules before after)) := by
  rw [← fold_map, ← changed_common, ← keys_index before some, ← keys_index after some]
  rfl

theorem compareForms_reports (answers : ∀ d q, (ask d q).verdict = .ok (verdict q)) (rules : FormRules)
    {before after : Registry} (sourcedBefore : before.Sourced) (sourcedAfter : after.Sourced) (d : δ) :
    ∃ d', (compareForms ask rules d before after).Reports d'
      (expectedFormChanges verdict rules before after) := by
  rw [compareForms_eq]
  by_cases same : sameIndex (before.index some) (after.index some) = true
  · rw [if_pos same, expectedFormChanges_of_sameIndex verdict rules same]
    exact ⟨d, reports_pure d⟩
  · rw [if_neg same]
    have added := reportFiles_reports .fileAdded rules sourcedAfter before
    have removed := reportFiles_reports .fileRemoved rules sourcedBefore after
    obtain ⟨d', common⟩ := compareCommon_reports answers rules sourcedBefore sourcedAfter d
    refine ⟨d', ?_⟩
    rw [expectedFormChanges, List.append_assoc]
    exact added.bind (removed.bind common)

theorem compareForms_appends (answers : ∀ d q, (ask d q).verdict = .ok (verdict q)) (rules : FormRules)
    {before after : Registry} (sourcedBefore : before.Sourced) (sourcedAfter : after.Sourced) (d : δ)
    (report : Report) :
    (∃ d', (compareForms ask rules d before after).outcome = .ok d') ∧
      (report.append (compareForms ask rules d before after).changes).entries =
        report.entries ++ expectedFormChanges verdict rules before after := by
  obtain ⟨d', outcome, changes⟩ := compareForms_reports answers rules sourcedBefore sourcedAfter d
  exact ⟨⟨d', outcome⟩, congrArg (report.entries ++ ·) changes⟩

def formsBefore : Registry := .ofModules
  [("Acme_Old", "old/etc/system.xml", [.configSection ⟨"old", none⟩]),
   ("Acme_Shop", "shop/etc/system.xml",
    [.configSection ⟨"shop", none⟩, .configGroup ⟨"main", "shop", none⟩,
      .configField ⟨"name", "shop/main", none, none⟩]),
   ("Acme_Test", "test/_files/etc/system.xml", [])]

def formsAfter : Registry := .ofModules
  [("Acme_Test", "test/_files/etc/system.xml", [.configSection ⟨"test", none⟩]),
   ("Acme_Shop", "shop/etc/system.xml",
    [.configSection ⟨"other", none⟩, .configGroup ⟨"main", "shop", none⟩,
      .configField ⟨"title", "shop/main", none, none⟩, .configField ⟨"code", "shop/main", none, none⟩,
      .configGroup ⟨"seo", "shop/main", none⟩, .configField ⟨"lost", "shop/main", none, none⟩]),
   ("Acme_New", "new/etc/system.xml", [])]

def formVerdict (q : Inquiry) : Verdict :=
  if q.node.path = "shop/main/code" ∨ q.node.path = "shop/main/seo" then .duplicate
  else if q.node.path = "shop/main/lost" then .unresolved
  else .unavailable

theorem compareForms_appends_shop :
    (∀ d q, (Reply.plain (formVerdict q) d : Reply Unit).verdict = .ok (formVerdict q)) ∧
      formsBefore.Sourced ∧ formsAfter.Sourced ∧
      (∃ d', (compareForms (fun d q => .plain (formVerdict q) d) ⟨"system.xml", ["_files"]⟩ ()
        formsBefore formsAfter).outcome = .ok d') ∧
      (Report.append ⟨[("di", ⟨.virtualTypeRemoved, "f", "V"⟩)]⟩
        (compareForms (fun d q => .plain (formVerdict q) d) ⟨"system.xml", ["_files"]⟩ ()
          formsBefore formsAfter).changes).entries =
        [("di", ⟨.virtualTypeRemoved, "f", "V"⟩),
          ("system", ⟨.fileAdded, "new/etc/system.xml", "system.xml"⟩),
          ("system", ⟨.fileRemoved, "old/etc/system.xml", "system.xml"⟩),
          ("system", ⟨.sectionRemoved, "shop/etc/system.xml", "shop"⟩),
          ("system", ⟨.fieldRemoved, "shop/etc/system.xml", "shop/main/name"⟩),
          ("system", ⟨.fieldAdded, "shop/etc/system.xml", "shop/main/title"⟩),
          ("system", ⟨.duplicateFieldAdded, "shop/etc/system.xml", "shop/main/code"⟩),
          ("system", ⟨.sectionAdded, "test/_files/etc/system.xml", "test"⟩)] := by
  have answers : ∀ d q, (Reply.plain (formVerdict q) d : Reply Unit).verdict = .ok (formVerdict q) :=
    fun _ _ => rfl
  have sourcedBefore : formsBefore.Sourced := by decide
  have sourcedAfter : formsAfter.Sourced := by decide
  obtain ⟨outcome, entries⟩ := compareForms_appends answers ⟨"system.xml", ["_files"]⟩ sourcedBefore
    sourcedAfter () ⟨[("di", ⟨.virtualTypeRemoved, "f", "V"⟩)]⟩
  exact ⟨answers, sourcedBefore, sourcedAfter, outcome, entries.trans (by decide +kernel)⟩

end ReleaseImpact.FormComparison
