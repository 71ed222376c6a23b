import ReleaseImpact.Duplicate.Address
import ReleaseImpact.Duplicate.Verdict
import ReleaseImpact.Report
import ReleaseImpact.Snapshot

/-!
Changes to the sections, groups and fields of settings forms, and to the files that declare them. An
added node is looked up first: a field that is declared elsewhere is reported as a duplicate, and a
group that is declared elsewhere is not reported. Main statements:

- `added?_none_iff` and `removed?_none_iff`: only virtual types are not reported.
- `compareAdded_skipped`: a node without an address is never asked about.
-/

namespace ReleaseImpact

/-- The kind of change that an added node of a kind is. -/
def ChangeKind.added? : Kind → Option ChangeKind
  | .virtualType => none
  | .configSection => some .sectionAdded
  | .configGroup => some .groupAdded
  | .configField => some .fieldAdded

def ChangeKind.removed? : Kind → Option ChangeKind
  | .virtualType => none
  | .configSection => some .sectionRemoved
  | .configGroup => some .groupRemoved
  | .configField => some .fieldRemoved

/-- The kind of change that an added node is which is declared elsewhere. -/
def ChangeKind.duplicated? : Kind → Option ChangeKind
  | .configField => some .duplicateFieldAdded
  | _ => none

theorem ChangeKind.added?_none_iff {k : Kind} : added? k = none ↔ k = .virtualType := by
  cases k <;> simp [added?]

theorem ChangeKind.removed?_none_iff {k : Kind} : removed? k = none ↔ k = .virtualType := by
  cases k <;> simp [removed?]

structure FormRules where
  schemaFileName : String
  /-- Added nodes of files whose path holds one of these are reported without being looked up. -/
  fixtureMarkers : List String
  deriving DecidableEq, Repr

namespace FormComparison

variable {δ : Type}

def logger : String := "bumpcheck.analysis.system"

def reportNode (kind? : Kind → Option ChangeKind) (node : Node) (file : String) : Trail Unit :=
  match kind? node.kind with
  | none => pure ()
  | some kind => .report systemDomain ⟨kind, file, node.path⟩

/-- Tells the log that an added node is not reported. -/
def skip (reason : String) (node : Node) (file : String) : Trail Unit :=
  .log .warning logger "added_node_skipped"
    [("reason", .text reason), ("path", .text node.path), ("file", .text file)]

/-- What is reported of an added node after it was looked up. -/
def judge (node : Node) (file : String) : Verdict → Trail Unit
  | .unresolved => skip "unresolved_address" node file
  | .duplicate =>
    match ChangeKind.duplicated? node.kind with
    | some kind => .report systemDomain ⟨kind, file, node.path⟩
    | none =>
      .log .debug logger "added_node_merged" [("path", .text node.path), ("file", .text file)]
  | _ => reportNode ChangeKind.added? node file

/-- Reports an added node, which is looked up unless its file is a fixture. -/
def compareAdded (ask : δ → Inquiry → Reply δ) (lookUp : Bool) (existing : Nodes) (file : String)
    (d : δ) (node : Node) : Trail δ :=
  if node.kind = .virtualType then pure d
  else if !lookUp then do
    reportNode ChangeKind.added? node file
    return d
  else if node.address? = none then do
    skip "short_address" node file
    return d
  else do
    .step (.question node.path)
    let reply := ask d ⟨node, file, existing⟩
    Trail.each reply.events fun e => .step (.event e)
    judge node file (← .ofExcept reply.verdict)
    return reply.next

theorem compareAdded_skipped {ask : δ → Inquiry → Reply δ} {existing : Nodes} {file : String} {d : δ}
    {node : Node} (h : node.address? = none) :
    (compareAdded ask true existing file d node).questions = [] := by
  unfold compareAdded
  by_cases hk : node.kind = .virtualType
  · simp [hk, Trail.questions, pure, Trail.done]
  · simp [hk, h, Trail.questions, bind, Trail.andThen, skip, Trail.log, Trail.step, pure, Trail.done,
      Step.question?]

def looksUp (rules : FormRules) (file : String) : Bool :=
  !rules.fixtureMarkers.any (Text.contains file)

def compareModule (ask : δ → Inquiry → Reply δ) (rules : FormRules) (before after : Registry) (d : δ)
    (pairing : String × KeyMatch) : Trail δ := do
  let (moduleName, keys) := pairing
  let nodesBefore := before.bucket moduleName
  let nodesAfter := after.bucket moduleName
  if keys.removed.isEmpty then pure ()
  else
    let file ← .ofExcept (before.sourceFile moduleName)
    Trail.each (keys.removed.filterMap nodesBefore.get?) (reportNode ChangeKind.removed? · file)
  if keys.added.isEmpty then pure d
  else
    let file ← .ofExcept (after.sourceFile moduleName)
    Trail.fold (compareAdded ask (looksUp rules file) nodesBefore file) d
      (keys.added.filterMap nodesAfter.get?)

def reportFiles (kind : ChangeKind) (rules : FormRules) (registry : Registry) (modules : List String) :
    Trail Unit :=
  .each modules fun moduleName => do
    let file ← .ofExcept (registry.sourceFile moduleName)
    .report systemDomain ⟨kind, file, rules.schemaFileName⟩

end FormComparison

open FormComparison in
/-- Reports what happened to the settings forms of a snapshot. -/
def compareForms {δ : Type} (ask : δ → Inquiry → Reply δ) (rules : FormRules) (d : δ)
    (registryBefore registryAfter : Registry) : Trail δ :=
  let before := registryBefore.index some
  let after := registryAfter.index some
  if sameIndex before after then pure d
  else do
    let pairing := SnapshotMatch.ofIndexes before after
    reportFiles .fileAdded rules registryAfter pairing.modules.added
    reportFiles .fileRemoved rules registryBefore pairing.modules.removed
    Trail.fold (compareModule ask rules registryBefore registryAfter) d
      (pairing.common.filter (!·.2.unchanged))

end ReleaseImpact
