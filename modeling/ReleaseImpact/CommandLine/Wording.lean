import ReleaseImpact.CommandLine.Request
import ReleaseImpact.Json.Writer
import ReleaseImpact.Report
import ReleaseImpact.Value.Display

/-!
What the program says: how it is used, what is wrong with a command line, and what a comparison found.
Main statements:

- `text_of_valueMissing`: an option without its value is reported without the usage.
- `lines_empty`: an empty report is one line.
-/

namespace ReleaseImpact.CommandLine

def programName : String := "bumpcheck"

def versionLine : String := programName ++ ", version 0.1.0"

def unlines (lines : List String) : String := String.join (lines.map (· ++ "\n"))

namespace Command

/-- How a command is called. -/
def call : Command → String
  | program => programName
  | compare => programName ++ " " ++ compareName

def usage (c : Command) : String :=
  "Usage: " ++ c.call ++ match c with
    | program => " [OPTIONS] COMMAND [ARGS]..."
    | compare => " [OPTIONS] BEFORE AFTER"

def helpLines (c : Command) : List String :=
  c.usage :: match c with
    | program =>
      ["", "  bumpcheck - Detect semantic-versioning-relevant changes between two code", "  snapshots.", "",
       "Options:",
       "  --version      Show the version and exit.",
       "  -v, --verbose  Enable debug logging",
       "  --help         Show this message and exit.", "",
       "Commands:",
       "  compare  Compare BEFORE and AFTER source trees and report..."]
    | compare =>
      ["", "  Compare BEFORE and AFTER source trees and report versioning-relevant changes.", "",
       "Options:",
       "  --config FILE           YAML config file (default: AFTER/.bumpcheck.yaml if",
       "                          present)",
       "  --current-version TEXT  Current version (X.Y.Z) to bump",
       "  --json                  Output as JSON",
       "  --help                  Show this message and exit."]

end Command

/-! ## Faults -/

/-- The question after an unknown name that has close names. -/
def proposalText (names : List String) : String :=
  match names.map Text.quoted with
  | [] => ""
  | [name] => " Did you mean " ++ name ++ "?"
  | names => " (Did you mean one of: " ++ commaList names ++ "?)"

namespace UsageFault

def message : UsageFault → String
  | nothingAsked => "Missing command."
  | unknownOption spelling proposals =>
    "No such option " ++ Text.quoted spelling ++ "." ++ proposalText proposals
  | valueMissing spelling => "Option " ++ Text.quoted spelling ++ " requires an argument."
  | valueRefused spelling => "Option " ++ Text.quoted spelling ++ " does not take a value."
  | commandMissing => "Missing command."
  | unknownCommand name proposals =>
    "No such command " ++ Text.quoted name ++ "." ++ proposalText proposals
  | operandMissing name => "Missing argument '" ++ name ++ "'."
  | operandsLeft words =>
    "Got unexpected extra argument" ++ (if words.length = 1 then "" else "s") ++ " (" ++
      Text.join ' ' words ++ ")"
  | unsuitablePath holder noun path reason =>
    "Invalid value for '" ++ holder ++ "': " ++ noun ++ " " ++ Text.quoted path ++ " " ++ reason ++ "."
  | brokenPath fault => fault.text

def showsUsage : UsageFault → Bool
  | valueMissing _ => false
  | valueRefused _ => false
  | _ => true

end UsageFault

def Refusal.lines (r : Refusal) : List String :=
  if r.fault = .nothingAsked then r.command.helpLines
  else
    (if r.fault.showsUsage then
      [r.command.usage, "Try '" ++ r.command.call ++ " --help' for help.", ""]
    else []) ++ ["Error: " ++ r.fault.message]

theorem text_of_valueMissing (c : Command) (spelling : String) :
    (⟨c, .valueMissing spelling⟩ : Refusal).lines =
      ["Error: " ++ (UsageFault.valueMissing spelling).message] := by
  simp [Refusal.lines, UsageFault.showsUsage]

/-! ## Reports -/

def severityWidth : Nat := 5

def changeLine (c : Change) : String :=
  "  " ++ Text.padRight severityWidth c.severity.name ++ " " ++ c.code ++ " " ++ c.location ++ " " ++ c.detail

def changeLines (r : Report) : List String :=
  r.byDomain.entries.flatMap fun e => ("[" ++ e.1 ++ "]") :: e.2.map changeLine

def reportLines (r : Report) (next : Option String) : List String :=
  (match r.level? none with
    | none => ["No versioning-relevant changes detected."]
    | some level => changeLines r ++ ["Overall level: " ++ level.name]) ++
  (next.map ("Next version: " ++ ·)).toList

def reportJson (r : Report) (next : Option String) : String :=
  Json.write (.indented 2) 0 <|
    .record
      ([("level", levelValue (r.level? none)),
        ("domains", .record (r.byDomain.entries.map fun e => (e.1, domainValue e.2)))] ++
       (next.map fun v => ("next_version", Value.text v)).toList)

theorem lines_empty : reportLines .empty none = ["No versioning-relevant changes detected."] := rfl

end ReleaseImpact.CommandLine
