import ReleaseImpact.Journal.Line
import ReleaseImpact.Journal.Outputs

/-!
The log of a program: the outputs that are open, the run that is under way, and what was written. Main
statements:

- `write_of_below`: an event below the level of the log is not written.
- `level_configure`: the log has the level of its last settings, even if an output cannot be opened.
- `sinks_follow`: a run opens and closes no output.
-/

namespace ReleaseImpact

/-- An open output and the lowest level that is written to it. -/
structure Sink where
  format : OutputFormat
  target : Target
  threshold : Level
  deriving DecidableEq, Repr

structure Journal where
  /-- The lowest level that is written anywhere. -/
  level : Level
  sinks : List Sink
  /-- The id of the run that is under way. -/
  runId : Option String
  /-- The first file that the log goes to. -/
  logFile : Option Path
  outputs : Outputs

namespace Journal

def start (outputs : Outputs) : Journal := ⟨.warning, [], none, none, outputs⟩

/-! ## Opening outputs -/

/-- Opens the target of a destination. A file is made if it is not there, and so are the directories
above it. -/
def openTarget (j : Journal) (destination : String) : Journal × Except Failure Target :=
  match destination with
  | "stderr" => (j, .ok .standardError)
  | "stdout" => (j, .ok .standardOutput)
  | _ =>
    let file := Path.ofText destination
    match j.outputs.files.makeDirectories file.parent with
    | .error fault => (j, .error (.fileFault fault))
    | .ok files =>
      let j := { j with outputs := { j.outputs with files }, logFile := j.logFile.or (some file) }
      let opened := files.absolute file
      match files.append opened.text [] with
      | .error fault => (j, .error (.fileFault fault))
      | .ok files => ({ j with outputs := { j.outputs with files } }, .ok (.file opened))

/-- Opens outputs one after the other, up to the first that cannot be opened. -/
def openAll (level : Level) : List LogOutput → Journal → Journal × Except Failure Unit
  | [], j => (j, .ok ())
  | o :: rest, j =>
    match j.openTarget o.destination with
    | (j, .error f) => (j, .error f)
    | (j, .ok target) =>
      openAll level rest { j with sinks := j.sinks ++ [⟨o.format, target, o.level.getD level⟩] }

/-- Closes all outputs and opens those of the settings. -/
def configure (j : Journal) (settings : LogSettings) : Journal × Except Failure Unit :=
  openAll settings.level settings.outputs { j with level := settings.level, sinks := [], logFile := none }

theorem level_openTarget (j : Journal) (destination : String) :
    (j.openTarget destination).1.level = j.level := by
  unfold openTarget
  split
  · rfl
  · rfl
  · dsimp only
    split
    · rfl
    · split <;> rfl

theorem level_openAll (level : Level) (outputs : List LogOutput) (j : Journal) :
    (openAll level outputs j).1.level = j.level := by
  induction outputs generalizing j with
  | nil => rfl
  | cons o rest ih =>
    have h := level_openTarget j o.destination
    simp only [openAll]
    split
    · next h' => rw [h'] at h; exact h
    · next h' => rw [ih]; rw [h'] at h; exact h

theorem level_configure (j : Journal) (settings : LogSettings) :
    (j.configure settings).1.level = settings.level := by
  simp [configure, level_openAll]

/-! ## Writing -/

/-- Whether an event of a level is written to an output. -/
def passes (j : Journal) (level : Level) (s : Sink) : Bool :=
  decide (j.level.rank ≤ level.rank) && decide (s.threshold.rank ≤ level.rank)

/-- The lines for an event, one for every output that takes it. Without any output, grave events go to
the standard error stream in a bare form. -/
def linesFor (j : Journal) (stamp : Stamp) (e : Event) (bare : String) : List (Target × String) :=
  if j.sinks.isEmpty then
    if j.level.rank ≤ e.level.rank ∧ Level.warning.rank ≤ e.level.rank then
      [(.standardError, bare ++ "\n")]
    else []
  else
    (j.sinks.filter (j.passes e.level)).filterMap fun s =>
      (e.line? stamp s.format).map fun line => (s.target, line ++ "\n")

def put (j : Journal) (stamp : Stamp) (e : Event) (bare : String) : Journal :=
  { j with outputs := j.outputs.writeAll (j.linesFor stamp e bare) }

def write (j : Journal) (time : String) (e : Event) : Journal :=
  j.put ⟨time, j.runId⟩ e (e.asValue ⟨time, j.runId⟩).literal

/-- The names that no field of an event may have. -/
def takenNames : List String := ["event", "self"]

/-- Writes an event that comes from elsewhere, whose fields may have names that the log needs itself. -/
def writeChecked (j : Journal) (time : String) (e : Event) : Journal × Except Failure Unit :=
  let taken := e.fields.find? fun f =>
    f.1 ∈ takenNames ∨ (f.1 = "method_name" ∧ j.level.rank ≤ e.level.rank)
  let isRecord (f : String × Value) : Bool :=
    f.1 = "_record" && match f.2 with
      | .null => false
      | _ => true
  match taken with
  | some f => (j, .error (.fieldNameTaken f.1))
  | none =>
    if j.level.rank ≤ e.level.rank ∧ e.fields.any isRecord then (j, .error .noLogRecord)
    else (j.write time e, .ok ())

def writeMessage (j : Journal) (time : String) (level : Level) (logger message : String) : Journal :=
  j.put ⟨time, j.runId⟩ ⟨level, logger, message, []⟩ message

theorem linesFor_of_below {j : Journal} {e : Event} (stamp : Stamp) (bare : String)
    (h : e.level.rank < j.level.rank) : j.linesFor stamp e bare = [] := by
  have hn : ¬ j.level.rank ≤ e.level.rank := Nat.not_le.2 h
  have none_passes : j.sinks.filter (j.passes e.level) = [] := by simp [passes, hn]
  simp [linesFor, none_passes, hn]

theorem write_of_below {j : Journal} {e : Event} (time : String) (h : e.level.rank < j.level.rank) :
    j.write time e = j := by
  simp [write, put, linesFor_of_below _ _ h, Outputs.writeAll_nil]

/-! ## Runs -/

/-- Begins a run under a given id, or under a fresh one if none or an empty one is given. -/
def beginRun (j : Journal) (given : Option String) (fresh : String) : Journal × String :=
  let id := match given with
    | some id => if id.isEmpty then fresh else id
    | none => fresh
  ({ j with runId := some id }, id)

def endRun (j : Journal) : Journal := { j with runId := none }

/-- Writes what one step of a run leaves behind. -/
def followStep (time fresh : String) (j : Journal) : Step → Journal
  | .event e => j.write time e
  | .mark true => (j.beginRun none fresh).1
  | .mark false => j.endRun
  | _ => j

def follow (j : Journal) (time fresh : String) (steps : List Step) : Journal :=
  steps.foldl (followStep time fresh) j

theorem sinks_followStep (time fresh : String) (j : Journal) (s : Step) :
    (followStep time fresh j s).sinks = j.sinks := by
  cases s with
  | mark on => cases on <;> rfl
  | _ => rfl

theorem sinks_follow (j : Journal) (time fresh : String) (steps : List Step) :
    (j.follow time fresh steps).sinks = j.sinks := by
  induction steps generalizing j with
  | nil => rfl
  | cons s rest ih => exact (ih _).trans (sinks_followStep time fresh j s)

end Journal

end ReleaseImpact
