import ReleaseImpact.Settings.Checked
import ReleaseImpact.Settings.Environment
import ReleaseImpact.Settings.Model
import ReleaseImpact.Value.Loop

/-!
From values to settings. Main statements:

- `text_valid_iff`: only texts, and bytes that are one, are accepted where a text is asked for.
- `choice_of_name`: a choice is accepted by its name.
- `onlyKnown_valid_iff`: names of groups are accepted, and no other names.
- `scan_of_empty`: settings that are left out have their initial values.
-/

namespace ReleaseImpact.Validation

variable {α : Type}

def fault (kind message : String) (input : Value) : Checked α := .faulty [⟨[], kind, message, input⟩]

def text : Value → Checked String
  | .text s => .valid s
  | .scalar (.bytes data) =>
    match String.fromUTF8? ⟨data.toArray⟩ with
    | some s => .valid s
    | none =>
      fault "string_unicode"
        "Input should be a valid string, unable to parse raw data as a unicode string"
        (.scalar (.bytes data))
  | v => fault "string_type" "Input should be a valid string" v

/-- The names of choices, as they are listed in a message. -/
def choices : List String → String
  | [] => ""
  | [a] => "'" ++ a ++ "'"
  | [a, b] => "'" ++ a ++ "' or '" ++ b ++ "'"
  | a :: rest => "'" ++ a ++ "', " ++ choices rest

/-- One of some values, by its name. -/
def choice (name : α → String) (all : List α) (v : Value) : Checked α :=
  let found := match v with
    | .text s => all.find? (name · = s)
    | _ => none
  match found with
  | some a => .valid a
  | none => fault "literal_error" ("Input should be " ++ choices (all.map name)) v

def list (check : Value → Checked α) (v : Value) : Checked (List α) :=
  match v.opened with
  | .list items => Checked.items check 0 items
  | .tuple items => Checked.items check 0 items
  | .set items => Checked.items check 0 (items.map .scalar)
  | _ => fault "list_type" "Input should be a valid list" v

/-- The value of a setting, or what it is initially. -/
def setting (entries : List (Scalar × Value)) (name : String) (initial : α) (check : Value → Checked α) :
    Checked α :=
  match field? name entries with
  | none => .valid initial
  | some v => (check v).atPlace (.name name)

def group (model : String) (check : List (Scalar × Value) → Checked α) (v : Value) : Checked α :=
  match v.opened with
  | .map entries => check entries
  | _ => fault "model_type" ("Input should be a valid dictionary or instance of " ++ model) v

/-- What a check makes of a text, or a fault for the value that it was given as. -/
def checkedText (check : String → Except Failure (Except String String)) (v : Value) : Checked String :=
  match text v with
  | .valid s =>
    match check s with
    | .ok (.ok s) => .valid s
    | .ok (.error message) => fault "value_error" ("Value error, " ++ message) v
    | .error f => .failed f
  | other => other

/-- A destination of the log: a standard stream by its name, else an absolute path. -/
def destinationOf (env : Environment) (s : String) : Except Failure (Except String String) :=
  if s = "stderr" ∨ s = "stdout" then .ok (.ok s)
  else
    match env.expandHome (.ofText s) with
    | .error (.fileFault .containsNul) => .ok (.error "embedded null byte")
    | .error f => .error f
    | .ok p =>
      if p.isAbsolute then .ok (.ok p.text)
      else .ok (.error ("File destination must be absolute path: " ++ s))

def destination (env : Environment) : Value → Checked String := checkedText (destinationOf env)

def level : Value → Checked Level := choice Level.name Level.all

def optionalLevel : Value → Checked (Option Level)
  | .null => .valid none
  | v => (level v).map some

def logOutput (env : Environment) : Value → Checked LogOutput :=
  group "LogOutputConfig" fun entries =>
    LogOutput.mk
      <$> setting entries "format" LogOutput.initial.format (choice OutputFormat.name OutputFormat.all)
      <*> setting entries "destination" LogOutput.initial.destination (destination env)
      <*> setting entries "level" none optionalLevel

def logSettings (env : Environment) : Value → Checked LogSettings :=
  group "LoggingConfig" fun entries =>
    LogSettings.mk
      <$> setting entries "level" LogSettings.initial.level level
      <*> setting entries "outputs" LogSettings.initial.outputs (list (logOutput env))

/-- The extension of class files: empty, or with a point in front. -/
def fileExtension : Value → Checked String :=
  checkedText fun s =>
    if s = "" ∨ Text.startsWith s "." then .ok (.ok s)
    else .ok (.error ("Extension must start with '.', got " ++ s))

def analysisSettings : Value → Checked AnalysisSettings :=
  group "AnalysisConfig" fun entries =>
    let initial := AnalysisSettings.initial
    AnalysisSettings.mk
      <$> setting entries "duplicate_strategy" initial.duplicateStrategy
        (choice DuplicateStrategy.name DuplicateStrategy.all)
      <*> setting entries "project_root_marker" initial.projectRootMarker text
      <*> setting entries "schema_search_dirs" initial.schemaSearchDirs (list text)
      <*> setting entries "schema_file_name" initial.schemaFileName text
      <*> setting entries "class_file_extension" initial.classFileExtension fileExtension
      <*> setting entries "fixture_markers" initial.fixtureMarkers (list text)

def scanSettings : Value → Checked ScanSettings :=
  group "ScanConfig" fun entries =>
    ScanSettings.mk
      <$> setting entries "report_types" ScanSettings.initial.reportTypes
        (list (choice ReportType.name ReportType.all))
      <*> setting entries "excluded_dirs" ScanSettings.initial.excludedDirs (list text)

def sections (env : Environment) (entries : List (Scalar × Value)) : Checked Settings :=
  Settings.mk
    <$> setting entries "logging" .initial (logSettings env)
    <*> setting entries "analysis" .initial analysisSettings
    <*> setting entries "scan" .initial scanSettings

def settings (env : Environment) : Value → Checked Settings := group "BumpCheckConfig" (sections env)

def sectionNames : List String := ["logging", "analysis", "scan"]

/-- Refuses names that no group of settings has. -/
def onlyKnown (entries : List (Scalar × Value)) : Checked Unit :=
  let unknown := entries.filterMap fun e =>
    match e.1 with
    | .text name =>
      if name ∈ sectionNames then none
      else some ⟨[.name name], "extra_forbidden", "Extra inputs are not permitted", e.2⟩
    | _ => none
  if unknown.isEmpty then .valid () else .faulty unknown

/-- Settings among which nothing unknown may be; faults of known settings come first. -/
def closedSettings (env : Environment) (entries : List (Scalar × Value)) : Checked Settings :=
  ((sections env entries).pair (onlyKnown entries)).map Prod.fst

/-! ## What is accepted -/

theorem text_valid_iff {v : Value} {s : String} :
    text v = .valid s ↔
      v = .text s ∨ ∃ data, v = .scalar (.bytes data) ∧ String.fromUTF8? ⟨data.toArray⟩ = some s := by
  constructor
  · intro h
    unfold text at h
    split at h
    · cases h; exact .inl rfl
    · next data =>
      split at h
      · next e => cases h; exact .inr ⟨data, rfl, e⟩
      · simp [fault] at h
    · simp [fault] at h
  · rintro (rfl | ⟨data, rfl, e⟩)
    · rfl
    · simp [text, e]

theorem choice_of_name (s : DuplicateStrategy) :
    choice DuplicateStrategy.name DuplicateStrategy.all (.text s.name) = .valid s := by
  cases s <;> rfl

theorem onlyKnown_valid_iff {entries : List (Scalar × Value)} :
    onlyKnown entries = .valid () ↔ ∀ name v, (.text name, v) ∈ entries → name ∈ sectionNames := by
  unfold onlyKnown
  simp only [List.isEmpty_iff, List.filterMap_eq_nil_iff]
  constructor
  · intro h name v hv
    split at h
    · next known =>
      have hn := known _ hv
      simpa using hn
    · cases h
  · intro h
    rw [if_pos]
    rintro ⟨k, v⟩ hv
    cases k with
    | text name => simp [h name v hv]
    | _ => rfl

theorem scan_of_empty : scanSettings (.map []) = .valid .initial := rfl

end ReleaseImpact.Validation
