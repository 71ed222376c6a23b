import ReleaseImpact.Duplicate.Search
import ReleaseImpact.Registry
import ReleaseImpact.Survey.Finding
import ReleaseImpact.Survey.Place

/-!
Reading one file into a registry. Main statements:

- `scanFile_unresolved`: a file of no module changes nothing.
- `register_before_findings`: a file that is read has its module registered.
-/

namespace ReleaseImpact

/-- What is looked for in a file. -/
inductive Collector
  | virtualTypes
  | forms
  /-- Nothing is known of what such files declare. -/
  | undefined
  deriving DecidableEq, Repr

structure Scan where
  registry : Registry
  outcome : Except Failure Bool

namespace Survey

def logger : String := "bumpcheck.scanner.base"

/-- Adds a finding; what has no name is left to the log. -/
def addFinding (collector : Collector) (moduleName file : String) (r : Registry) : Finding → Trail Registry
  | .node n => r.addNode moduleName n
  | .nameless tag => do
    match collector with
    | .virtualTypes =>
      .log .warning "bumpcheck.scanner.di" "virtual_type_without_name" [("file", .text file)]
    | _ =>
      .log .warning "bumpcheck.scanner.system" "node_without_id"
        [("element", .text tag), ("file", .text file)]
    return r

def findings (collector : Collector) (file : Path) (root : Xml.Element) : Except Failure (List Finding) :=
  match collector with
  | .virtualTypes => .ok (virtualTypes (areaScope file) root)
  | .forms => .ok (formNodes root)
  | .undefined => .error .notCollected

/-- Reads a file into a registry. Files of no module and files that cannot be read are left to the
log. -/
def scanFile (fs : FileSystem) (collector : Collector) (file : Path) (r : Registry) : Trail Scan :=
  match moduleOfFile? file.text with
  | none => do
    .log .warning logger "module_unresolved" [("file", .text file.text)]
    return ⟨r, .ok false⟩
  | some moduleName =>
    match readDocument fs file.text with
    | .error f => pure ⟨r, .error f⟩
    | .ok (.error reason) => do
      .log .warning logger "xml_unreadable" [("file", .text file.text), ("error", .text reason)]
      return ⟨r, .ok false⟩
    | .ok (.ok root) =>
      let registered := r.register moduleName file.text
      match findings collector file root with
      | .error f => pure ⟨registered, .error f⟩
      | .ok found => do
        let filled ← Trail.fold (addFinding collector moduleName file.text) registered found
        return ⟨filled, .ok true⟩

theorem scanFile_unresolved {fs : FileSystem} {collector : Collector} {file : Path} {r : Registry}
    (h : moduleOfFile? file.text = none) :
    (scanFile fs collector file r).outcome.toOption.map Scan.registry = some r := by
  simp [scanFile, h, bind, Trail.andThen, Trail.log, Trail.step, pure, Trail.done, Except.toOption]

theorem register_before_findings {fs : FileSystem} {file : Path} {r : Registry} {moduleName : String}
    {root : Xml.Element} (h : moduleOfFile? file.text = some moduleName)
    (hr : readDocument fs file.text = .ok (.ok root)) :
    (scanFile fs .undefined file r).outcome =
      .ok ⟨r.register moduleName file.text, .error .notCollected⟩ := by
  simp [scanFile, h, hr, findings, pure, Trail.done]

end Survey

end ReleaseImpact
