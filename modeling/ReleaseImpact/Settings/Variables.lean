import ReleaseImpact.Json.Reader
import ReleaseImpact.OrderedMap
import ReleaseImpact.Settings.Environment
import ReleaseImpact.Settings.Validation
import ReleaseImpact.Text.LowerCase
import ReleaseImpact.Value.Merge

/-!
Settings in environment variables. A variable named after a group of settings holds the whole group;
one with further names after it holds a single setting. Main statements:

- `place_nil`: without names nothing is set.
- `groupValue_none`: without variables a group is left alone.
-/

namespace ReleaseImpact.Variables

/-- What the names of all variables with settings begin with. -/
def front : String := "bumpcheck__"

/-- The settings of a group whose values are lists. -/
def listSettings : String → List String
  | "logging" => ["outputs"]
  | "analysis" => ["schema_search_dirs", "fixture_markers"]
  | "scan" => ["report_types", "excluded_dirs"]
  | _ => []

def settingNames : String → List String
  | "logging" => ["level", "outputs"]
  | "analysis" =>
    ["duplicate_strategy", "project_root_marker", "schema_search_dirs", "schema_file_name",
     "class_file_extension", "fixture_markers"]
  | "scan" => ["report_types", "excluded_dirs"]
  | _ => []

def parts : List Char → List (List Char)
  | [] => [[]]
  | '_' :: '_' :: rest => [] :: parts rest
  | c :: rest =>
    match parts rest with
    | [] => [[c]]
    | p :: ps => (c :: p) :: ps

/-- Variables by their names in lower case; of two that differ in case only the later one counts. -/
def lowered (env : Environment) : List (String × String) :=
  (OrderedMap.ofList (env.vars.map fun v => (Text.lowered v.1, v.2))).entries

def json (name text : String) : Except Failure Value :=
  match Json.parse? text with
  | some v => .ok v
  | none => .error (.settingNotJson name)

/-- Sets a value under names one inside of the other. What is there and is no map stays. -/
def place (v : Value) : List String → List (Scalar × Value) → List (Scalar × Value)
  | [], m => m
  | [last], m => putKey (.text last) v m
  | name :: rest, m =>
    match valueAt? (.text name) m with
    | none => putKey (.text name) (.map (place v rest [])) m
    | some (.map inner) => putKey (.text name) (.map (place v rest inner)) m
    | some _ => m

theorem place_nil (v : Value) (m : List (Scalar × Value)) : place v [] m = m := rfl

/-- The value of a single setting: a list is written as such, everything else is text. -/
def single (group : String) (names : List String) (text : String) : Except Failure Value :=
  match names with
  | [name] => if name ∈ listSettings group ∧ text ≠ "" then json name text else .ok (.text text)
  | _ => .ok (.text text)

/-- The single settings of a group. -/
def singles (group : String) (vars : List (String × String)) :
    Except Failure (List (Scalar × Value)) :=
  let start := (front ++ group ++ "__").toList
  vars.foldlM (fun m v =>
    if start.isPrefixOf v.1.toList then do
      let names := (parts (v.1.toList.drop start.length)).map String.ofList
      return place (← single group names v.2) names m
    else .ok m) []

/-- The entries of a group under the names of its settings, whatever their case. -/
def properNames (group : String) (entries : List (Scalar × Value)) : List (Scalar × Value) :=
  entries.foldl (fun m e =>
    match e.1 with
    | .text name =>
      match (settingNames group).find? (· = Text.lowered name) with
      | some proper => putKey (.text proper) e.2 m
      | none => putKey e.1 e.2 m
    | k => putKey k e.2 m) []

def groupValue (vars : List (String × String)) (group : String) : Except Failure (Option Value) := do
  match (vars.find? (·.1 = front ++ group)).map Prod.snd with
  | none => do
    let entries ← singles group vars
    return if entries.isEmpty then none else some (.map (properNames group entries))
  | some text =>
    match ← json group text with
    | .map entries => return some (.map (properNames group (merge entries (← singles group vars))))
    | .null => return none
    | v => return some v

theorem groupValue_none (group : String) : groupValue [] group = .ok none := rfl

def settings (env : Environment) : Except Failure (List (Scalar × Value)) :=
  Validation.sectionNames.foldlM (fun m group => do
    match ← groupValue (lowered env) group with
    | some v => return m ++ [(.text group, v)]
    | none => return m) []

end ReleaseImpact.Variables
