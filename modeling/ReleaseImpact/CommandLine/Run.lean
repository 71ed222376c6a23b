import ReleaseImpact.CommandLine.Surroundings
import ReleaseImpact.CommandLine.Wording
import ReleaseImpact.Comparison.Trees
import ReleaseImpact.Journal.Basic
import ReleaseImpact.Settings.Load
import ReleaseImpact.Version

/-!
The program as a whole: from its words to what it writes and its exit code. Main statements:

- `run_of_refusal`: a command line that is not understood ends with exit code 2.
- `close_of_problem`: a reported problem ends with exit code 1.
-/

namespace ReleaseImpact.CommandLine

/-- What was written, and the exit code unless the run was broken off. -/
abbrev Ending := Journal × Except Failure Nat

def usageExitCode : Nat := 2

def say (j : Journal) (target : Target) (text : String) : Journal :=
  { j with outputs := j.outputs.write target text }

/-- Ends with a failure. A problem is told to the user, with the place of the log if that is a file. -/
def close (j : Journal) (f : Failure) : Ending :=
  match f.problem? with
  | none => (j, .error f)
  | some p =>
    let hint := (j.logFile.map fun file => "See log file: " ++ file.text).toList
    (say j .standardError (unlines (("Error: " ++ p.text) :: hint)), .ok 1)

def givenSettings (r : CompareRequest) : List (Scalar × Value) :=
  if r.verbose then [(.text "logging", .record [("level", .text Level.debug.name)])] else []

def versionAfter (r : CompareRequest) (report : Report) : Except Failure (Option String) :=
  match r.currentVersion with
  | none => .ok none
  | some current => if current.isEmpty then .ok none else (nextVersion current report).map some

def reportText (r : CompareRequest) (report : Report) (next : Option String) : String :=
  unlines (if r.asJson then [reportJson report next] else reportLines report next)

/-- Compares two trees, whose paths are given without links. -/
def compareWith (s : Surroundings) (r : CompareRequest) (settings : Settings) (before after : Path)
    (j : Journal) : Ending :=
  let files := j.outputs.files
  let trail := compareTrees files (.ofFiles files) settings before after
  let j := j.follow s.time s.freshRunId trail.steps
  match trail.outcome with
  | .error f => close j f
  | .ok report =>
    match versionAfter r report with
    | .error f => close j f
    | .ok next => (say j .standardOutput (reportText r report next), .ok 0)

def compare (s : Surroundings) (r : CompareRequest) (j : Journal) : Ending :=
  match s.files.resolve (.ofText r.after) with
  | .error fault => close j (.fileFault fault)
  | .ok after =>
    let places : SettingsPlaces := ⟨s.globalFile, after, r.configFile.map Path.ofText⟩
    match loadSettings s.files s.environment places (givenSettings r) with
    | .error f => close j f
    | .ok settings =>
      match j.configure settings.logging with
      | (j, .error f) => close j f
      | (j, .ok ()) =>
        match j.outputs.files.resolve (.ofText r.before) with
        | .error fault => close j (.fileFault fault)
        | .ok before => compareWith s r settings before after j

/-- Carries out what a command line asks for. -/
def run (s : Surroundings) (words : List String) : Ending :=
  let j := Journal.start (.ofFiles s.files)
  match Request.read s.files words with
  | .error ⟨_, .brokenPath fault⟩ => (j, .error (.fileFault fault))
  | .error refusal => (say j .standardError (unlines refusal.lines), .ok usageExitCode)
  | .ok .version => (say j .standardOutput (unlines [versionLine]), .ok 0)
  | .ok (.help c) => (say j .standardOutput (unlines c.helpLines), .ok 0)
  | .ok (.compare r) => compare s r j

theorem run_of_refusal {s : Surroundings} {words : List String} {refusal : Refusal}
    (h : Request.read s.files words = .error refusal) (hp : ∀ fault, refusal.fault ≠ .brokenPath fault) :
    (run s words).2 = .ok usageExitCode := by
  obtain ⟨command, fault⟩ := refusal
  cases fault with
  | brokenPath fault => exact absurd rfl (hp fault)
  | _ => simp [run, h]

theorem close_of_problem (j : Journal) (p : Problem) : (close j (.problem p)).2 = .ok 1 := rfl

end ReleaseImpact.CommandLine
