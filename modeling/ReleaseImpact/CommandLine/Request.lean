import ReleaseImpact.CommandLine.Options
import ReleaseImpact.FileSystem.Basic

/-!
What a command line asks for. Main statements:

- `read_nil`: nothing asked for is a fault.
- `checkDirectory_ok_iff`: a directory is accepted just if something other than a file is there.
-/

namespace ReleaseImpact.CommandLine

inductive Command
  | program
  | compare
  deriving DecidableEq, Repr

structure CompareRequest where
  before : String
  after : String
  configFile : Option String
  currentVersion : Option String
  asJson : Bool
  verbose : Bool
  deriving DecidableEq, Repr

inductive Request
  | version
  | help (command : Command)
  | compare (request : CompareRequest)
  deriving DecidableEq, Repr

/-- A command line that is not understood, and the command in which it is not. -/
structure Refusal where
  command : Command
  fault : UsageFault
  deriving DecidableEq, Repr

namespace Command

def options : Command → List OptionForm
  | program =>
    [⟨"version", ["--version"], false⟩, ⟨"verbose", ["-v", "--verbose"], false⟩,
     ⟨"help", ["--help"], false⟩]
  | compare =>
    [⟨"config", ["--config"], true⟩, ⟨"current-version", ["--current-version"], true⟩,
     ⟨"json", ["--json"], false⟩, ⟨"help", ["--help"], false⟩]

/-- Whether options may stand between and after operands. -/
def mixesOperands : Command → Bool
  | program => false
  | compare => true

def read (c : Command) (words : List String) : Except Refusal Words :=
  (readWords c.options c.mixesOperands words).mapError (⟨c, ·⟩)

/-- The information that is asked for first, in place of anything else. -/
def information? (c : Command) (w : Words) : Option Request :=
  w.settings.findSome? fun s =>
    match s.1 with
    | "version" => some .version
    | "help" => some (.help c)
    | _ => none

end Command

def checkDirectory (fs : FileSystem) (holder path : String) : Except UsageFault Unit :=
  match fs.locate path with
  | .error .containsNul => .error (.brokenPath .containsNul)
  | .error _ => .error (.unsuitablePath holder "Directory" path "does not exist")
  | .ok (_, e) => if e.isFile then .error (.unsuitablePath holder "Directory" path "is a file") else .ok ()

/-- Accepts the path of a file, even if nothing is there. -/
def checkFile (fs : FileSystem) (holder path : String) : Except UsageFault Unit :=
  match fs.locate path with
  | .error .containsNul => .error (.brokenPath .containsNul)
  | .error _ => .ok ()
  | .ok (_, e) =>
    if e.isDirectory then .error (.unsuitablePath holder "File" path "is a directory") else .ok ()

theorem checkDirectory_ok_iff {fs : FileSystem} {holder path : String} :
    checkDirectory fs holder path = .ok () ↔ fs.exists? path = true ∧ fs.isFile path = false := by
  unfold checkDirectory FileSystem.exists? FileSystem.isFile
  cases fs.locate path with
  | error fault => cases fault <;> simp [Except.isOk, Except.toBool]
  | ok found =>
    cases h : found.2.isFile <;> simp [h, Except.isOk, Except.toBool]

def operands (fs : FileSystem) (words : List String) : Except UsageFault (String × String) := do
  match words with
  | [] => .error (.operandMissing "BEFORE")
  | [before] =>
    checkDirectory fs "BEFORE" before
    .error (.operandMissing "AFTER")
  | before :: after :: rest =>
    checkDirectory fs "BEFORE" before
    checkDirectory fs "AFTER" after
    if rest.isEmpty then .ok (before, after) else .error (.operandsLeft rest)

def compareRequest (fs : FileSystem) (verbose : Bool) (w : Words) : Except UsageFault CompareRequest := do
  match w.value? "config" with
  | some path => checkFile fs "--config" path
  | none => pure ()
  let (before, after) ← operands fs w.operands
  return ⟨before, after, w.value? "config", w.value? "current-version", w.has "json", verbose⟩

def Request.readCompare (fs : FileSystem) (verbose : Bool) (words : List String) :
    Except Refusal Request := do
  let w ← Command.compare.read words
  match Command.compare.information? w with
  | some request => return request
  | none => ((compareRequest fs verbose w).map .compare).mapError (⟨.compare, ·⟩)

def compareName : String := "compare"

def Request.read (fs : FileSystem) (words : List String) : Except Refusal Request := do
  if words.isEmpty then throw ⟨.program, .nothingAsked⟩
  let w ← Command.program.read words
  match Command.program.information? w, w.operands with
  | some request, _ => return request
  | none, [] => throw ⟨.program, .commandMissing⟩
  | none, name :: rest =>
    if name = compareName then Request.readCompare fs (w.has "verbose") rest
    else
      let again ← Command.program.read w.operands
      match Command.program.information? again with
      | some request => return request
      | none => throw ⟨.program, .unknownCommand name (Text.closest [compareName] name)⟩

theorem read_nil (fs : FileSystem) : Request.read fs [] = .error ⟨.program, .nothingAsked⟩ := rfl

end ReleaseImpact.CommandLine
