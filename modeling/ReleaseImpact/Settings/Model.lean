import ReleaseImpact.Trail

/-!
The settings of a comparison: how it is logged, how changes are looked for, and which files are read.
Main statements:

- `ReportType.ofName?_name` and `DuplicateStrategy.ofName?_name`: choices are found by their names.
- `outputs_initial`: unless told otherwise, the log goes to the standard error stream.
-/

namespace ReleaseImpact

inductive OutputFormat
  | json
  | console
  deriving DecidableEq, Repr

namespace OutputFormat

def all : List OutputFormat := [json, console]

def name : OutputFormat → String
  | json => "json"
  | console => "console"

end OutputFormat

/-- One output of the log: a standard stream or a file. Without a level of its own it has that of the
log. -/
structure LogOutput where
  format : OutputFormat
  destination : String
  level : Option Level
  deriving DecidableEq, Repr

def LogOutput.initial : LogOutput := ⟨.console, "stderr", none⟩

structure LogSettings where
  level : Level
  outputs : List LogOutput
  deriving DecidableEq, Repr

def LogSettings.initial : LogSettings := ⟨.warning, [.initial]⟩

/-- How added nodes are looked up. -/
inductive DuplicateStrategy
  | auto
  | crossFile
  | structural
  deriving DecidableEq, Repr

namespace DuplicateStrategy

def all : List DuplicateStrategy := [auto, crossFile, structural]

def name : DuplicateStrategy → String
  | auto => "auto"
  | crossFile => "cross_file"
  | structural => "structural"

def ofName? (name : String) : Option DuplicateStrategy := all.find? (·.name = name)

theorem ofName?_name (s : DuplicateStrategy) : ofName? s.name = some s := by cases s <;> decide

end DuplicateStrategy

structure AnalysisSettings where
  duplicateStrategy : DuplicateStrategy
  projectRootMarker : String
  /-- The directories below the root of a project in which schema files are looked for. -/
  schemaSearchDirs : List String
  schemaFileName : String
  classFileExtension : String
  /-- Schema files whose path holds one of these are not looked up. -/
  fixtureMarkers : List String
  deriving DecidableEq, Repr

def AnalysisSettings.initial : AnalysisSettings :=
  ⟨.auto, "SECURITY.md", ["app/code", "vendor"], "system.xml", ".php", ["_files"]⟩

inductive ReportType
  | di
  | system
  deriving DecidableEq, Repr

namespace ReportType

def all : List ReportType := [di, system]

def name : ReportType → String
  | di => "di"
  | system => "system"

def ofName? (name : String) : Option ReportType := all.find? (·.name = name)

theorem ofName?_name (t : ReportType) : ofName? t.name = some t := by cases t <;> decide

end ReportType

structure ScanSettings where
  reportTypes : List ReportType
  /-- The names of directories that are not entered. -/
  excludedDirs : List String
  deriving DecidableEq, Repr

def ScanSettings.initial : ScanSettings :=
  ⟨ReportType.all, [".git", ".svn", ".hg", "node_modules", "generated", "var"]⟩

structure Settings where
  logging : LogSettings
  analysis : AnalysisSettings
  scan : ScanSettings
  deriving DecidableEq, Repr

def Settings.initial : Settings := ⟨.initial, .initial, .initial⟩

theorem outputs_initial : Settings.initial.logging.outputs = [.initial] := rfl

/-! ## As values -/

def LogOutput.toValue (o : LogOutput) : Value :=
  .record
    [("format", .text o.format.name), ("destination", .text o.destination),
     ("level", .optionText (o.level.map Level.name))]

def LogSettings.toValue (s : LogSettings) : Value :=
  .record [("level", .text s.level.name), ("outputs", .list (s.outputs.map LogOutput.toValue))]

def AnalysisSettings.toValue (s : AnalysisSettings) : Value :=
  .record
    [("duplicate_strategy", .text s.duplicateStrategy.name),
     ("project_root_marker", .text s.projectRootMarker),
     ("schema_search_dirs", .texts s.schemaSearchDirs),
     ("schema_file_name", .text s.schemaFileName),
     ("class_file_extension", .text s.classFileExtension),
     ("fixture_markers", .texts s.fixtureMarkers)]

def ScanSettings.toValue (s : ScanSettings) : Value :=
  .record
    [("report_types", .texts (s.reportTypes.map ReportType.name)), ("excluded_dirs", .texts s.excludedDirs)]

def Settings.toValue (s : Settings) : Value :=
  .record
    [("logging", s.logging.toValue), ("analysis", s.analysis.toValue), ("scan", s.scan.toValue)]

end ReleaseImpact
