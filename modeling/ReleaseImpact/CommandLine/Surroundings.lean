import ReleaseImpact.FileSystem.Manifest
import ReleaseImpact.Settings.Environment

/-!
Where a run of the program takes place: the files, the variables, and the time. Main statements:

- `files_ofValue_null`: with nothing described there is only the root directory.
-/

namespace ReleaseImpact.CommandLine

structure Surroundings where
  environment : Environment
  files : FileSystem
  globalFile : Path
  time : String
  freshRunId : String

/-- Where the settings file of a user is, from the home directory on. -/
def globalFileParts : List String := [".config", "bumpcheck", "config.yaml"]

def entriesOf (v : Value) (name : String) : List (String × Value) :=
  match v with
  | .map entries =>
    match field? name entries with
    | some (.map inner) => inner.filterMap fun e =>
      match e.1 with
      | .text key => some (key, e.2)
      | _ => none
    | _ => []
  | _ => []

def textOf (v : Value) (name default : String) : String :=
  match v with
  | .map entries =>
    match field? name entries with
    | some (.text s) => s
    | _ => default
  | _ => default

/-- Surroundings from their description: the working directory with the files in it, variables, home
directories, the time and an id. -/
def Surroundings.ofValue (v : Value) : Surroundings :=
  let texts (name : String) := (entriesOf v name).map fun e => (e.1, e.2.display)
  let environment : Environment := ⟨texts "variables", texts "homes"⟩
  { environment
    files := .ofPaths (.ofText (textOf v "directory" "/")) (entriesOf v "files")
    globalFile := (Path.ofText ((environment.valueOf? "HOME").getD "/")).below globalFileParts
    time := textOf v "time" ""
    freshRunId := textOf v "run" "run" }

theorem files_ofValue_null :
    (Surroundings.ofValue .null).files = .ofWorkingDirectory (.ofText "/") := rfl

end ReleaseImpact.CommandLine
