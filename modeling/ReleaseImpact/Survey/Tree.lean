import ReleaseImpact.Settings.Model
import ReleaseImpact.Survey.Scan
import ReleaseImpact.Text.Glob

/-!
Reading a source tree into one registry for each kind of file. Main statements:

- `accepts_iff`: a kind of file accepts one name.
- `scanTree_missing`: a path that is no directory is not read.
-/

namespace ReleaseImpact

def matchesAny (patterns : List String) (name : String) : Bool := patterns.any (Text.glob · name)

namespace ReportType

def patterns : ReportType → List String
  | di => ["di.xml"]
  | system => ["system.xml"]

def collector : ReportType → Collector
  | di => .virtualTypes
  | system => .forms

theorem accepts_iff {name : String} :
    (matchesAny (patterns di) name = true ↔ name = "di.xml") ∧
      (matchesAny (patterns system) name = true ↔ name = "system.xml") := by
  constructor
  · rw [patterns, matchesAny, List.any_cons, List.any_nil, Bool.or_false]
    exact Text.glob_iff_of_literal (by simp [Text.isLiteral])
  · rw [patterns, matchesAny, List.any_cons, List.any_nil, Bool.or_false]
    exact Text.glob_iff_of_literal (by simp [Text.isLiteral])

end ReportType

namespace Survey

/-- The registries of a tree so far, and the number of files taken in. -/
structure Progress where
  registries : List (ReportType × Registry)
  taken : Nat

def start (types : List ReportType) : Progress :=
  ⟨types.map fun t => (t, .empty (some t.name)), 0⟩

/-- Reads a file into each registry whose kind has its name. -/
def readInto (fs : FileSystem) (file : Path) :
    Nat → List (ReportType × Registry) → Trail Progress
  | taken, [] => pure ⟨[], taken⟩
  | taken, (type, r) :: rest => do
    if matchesAny type.patterns file.name then
      let scan ← scanFile fs type.collector file r
      let new ← .ofExcept scan.outcome
      let others ← readInto fs file (if new then taken + 1 else taken) rest
      return ⟨(type, scan.registry) :: others.registries, others.taken⟩
    else
      let others ← readInto fs file taken rest
      return ⟨(type, r) :: others.registries, others.taken⟩

def summaries (registries : List (ReportType × Registry)) : Value :=
  .record (registries.map fun e => (e.1.name, .text e.2.summary))

end Survey

open Survey in
/-- Reads the files below a directory. -/
def scanDirectory (fs : FileSystem) (settings : ScanSettings) (root : Path) :
    Trail (List (ReportType × Registry)) := do
  let types := ReportType.all.filter (· ∈ settings.reportTypes)
  let progress ← Trail.fold (fun p file => readInto fs file p.taken p.registries) (start types)
    (fs.filesBelow settings.excludedDirs root)
  .log .info "bumpcheck.scanner.factory" "tree_scanned"
    [("root", .text root.text), ("files", .nat progress.taken),
     ("registries", summaries progress.registries)]
  return progress.registries

def scanTree (fs : FileSystem) (settings : ScanSettings) (root : Path) :
    Trail (List (ReportType × Registry)) :=
  match fs.hasDirectory root.text with
  | .error fault => .fail (.fileFault fault)
  | .ok false => .fail (.problem (.treeMissing root.text))
  | .ok true => scanDirectory fs settings root

theorem scanTree_missing {fs : FileSystem} {settings : ScanSettings} {root : Path}
    (h : fs.hasDirectory root.text = .ok false) :
    scanTree fs settings root = .fail (.problem (.treeMissing root.text)) := by
  simp [scanTree, h]

end ReleaseImpact
