import ReleaseImpact.FileSystem.Basic
import ReleaseImpact.Settings.Variables
import ReleaseImpact.Yaml.Load

/-!
Settings from all places that may have them: a file for the user, a file for the tree or one that is
named, environment variables, and what is given directly, each over those before it. Main statements:

- `read_missing`: a file that is not there says nothing.
- `load_missing`: a file that is named has to be there.
-/

namespace ReleaseImpact

namespace SettingsFile

/-- Where the settings of a tree are. -/
def name : String := ".bumpcheck.yaml"

def unreadable : String := "not a document in the configuration language"

def notMapping : String := "top-level value must be a mapping"

/-- How a fault of a document ends a run. -/
def failureOf (path : String) : Yaml.Fault → Failure
  | .malformed => .problem (.unparsable path unreadable)
  | .unfinished => .problem (.unparsable path unreadable)
  | .undecodable => .undecodable
  | .unknownCharacter => .invalidScalar
  | .numberTooLarge => .numberTooLarge
  | .notNumeral => .invalidScalar
  | .emptyNumeral => .emptyNumeral
  | .notTruth => .unknownTruth
  | .notDate => .unknownDate
  | .noSuchDay => .invalidScalar
  | .dateInMapping => .misplacedDate
  | .tooDeep => .tooDeep

/-- The entries of a document; an empty one has none. -/
def parse (path : String) (bytes : List UInt8) : Except Failure (List (Scalar × Value)) :=
  match (Yaml.load (.ofBytes bytes)).map Value.opened with
  | .error fault => .error (failureOf path fault)
  | .ok (.map entries) => .ok entries
  | .ok v => if v.isEmpty then .ok [] else .error (.problem (.unparsable path notMapping))

/-- The entries of a file, none if it is not there. -/
def read (fs : FileSystem) (path : Path) : Except Failure (List (Scalar × Value)) :=
  match fs.hasEntry path.text with
  | .error fault => .error (.fileFault fault)
  | .ok false => .ok []
  | .ok true =>
    match fs.read path.text with
    | .ok bytes => parse path.text bytes
    | .error fault => .error (.fileFault fault)

theorem read_missing {fs : FileSystem} {path : Path} (h : fs.hasEntry path.text = .ok false) :
    read fs path = .ok [] := by simp [read, h]

end SettingsFile

structure SettingsPlaces where
  globalFile : Path
  /-- The tree whose file is read unless another one is named. -/
  tree : Path
  namedFile : Option Path

/-- The entries of two sources, the second one over the first. -/
def mergeSources (base upper : List (Scalar × Value)) : Except Failure (List (Scalar × Value)) :=
  match mergeOpened maxDepth base upper with
  | some entries => .ok entries
  | none => .error .tooDeep

/-- The entries of the files, the user's under the others. -/
def SettingsPlaces.entries (places : SettingsPlaces) (fs : FileSystem) :
    Except Failure (List (Scalar × Value)) := do
  let own ← match places.namedFile with
    | some file =>
      match fs.hasEntry file.text with
      | .error fault => .error (.fileFault fault)
      | .ok false => .error (.problem (.configMissing file.text))
      | .ok true => SettingsFile.read fs file
    | none => SettingsFile.read fs (places.tree.below [SettingsFile.name])
  mergeSources (← SettingsFile.read fs places.globalFile) own

/-- Settings, or the problem with the first fault in them. -/
def settingsOfChecked (checked : Checked Settings) : Except Failure Settings :=
  match checked with
  | .valid s => .ok s
  | .failed f => .error f
  | .faulty [] => .error (.invalidSettings [])
  | .faulty (f :: _) =>
    if f.input.canDisplay then
      .error (.problem (.invalidValue (Text.join '.' (f.path.map Place.text)) f.input f.message))
    else .error .longNumeral

def isTextKey (e : Scalar × Value) : Bool :=
  match e.1 with
  | .text _ => true
  | _ => false

/-- The groups of settings that are given, whatever the case of their names; of two that differ in case
only the first one counts. -/
def givenGroups (given : List (Scalar × Value)) : List (Scalar × Value) :=
  given.foldl (fun groups e =>
    match e.1 with
    | .text name =>
      let proper := Text.lowered name
      if proper ∉ Validation.sectionNames then putKey e.1 e.2 groups
      else if (field? proper groups).isSome then groups
      else putKey (.text proper) e.2 groups
    | k => putKey k e.2 groups) []

def loadSettings (fs : FileSystem) (env : Environment) (places : SettingsPlaces)
    (given : List (Scalar × Value)) : Except Failure Settings := do
  let inFiles ← places.entries fs
  let inVariables ← Variables.settings env
  let all ← mergeSources inFiles (← mergeSources inVariables (givenGroups given))
  if all.all isTextKey then settingsOfChecked (Validation.closedSettings env all)
  else .error .keyNotText

theorem load_missing {fs : FileSystem} {env : Environment} {globalFile tree file : Path}
    {given : List (Scalar × Value)} (h : fs.hasEntry file.text = .ok false) :
    loadSettings fs env ⟨globalFile, tree, some file⟩ given =
      .error (.problem (.configMissing file.text)) := by
  simp [loadSettings, SettingsPlaces.entries, h, bind, Except.bind]

end ReleaseImpact
