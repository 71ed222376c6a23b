import ReleaseImpact.Journal.Basic
import ReleaseImpact.Proofs.GrownTrees

/-!
What the log writes to files, whatever outputs it was given one after the other. Main statements:

- `Outputs.adds_writeAll`: each text goes to the end of the file that its target leads to.
- `Journal.serves_configure`: the open outputs are those of the settings, up to one that cannot be opened.
- `Journal.adds_put`: an event is added to a file once for each output that leads there and takes it.
- `Journal.log_reaches_files`: what any call adds to any file.
-/

namespace ReleaseImpact

open FileSystem

/-- The location of the file that a target leads to. -/
def Target.place? (files : FileSystem) : Target → Option Location
  | .file path => files.placeOf? path.text
  | _ => none

/-- A target is a stream, or leads to a file that is there. -/
def Target.Open (files : FileSystem) : Target → Prop
  | .file path => (files.placeOf? path.text).isSome = true
  | _ => True

theorem Target.Open.of_adds {files files' : FileSystem} {more : Location → List UInt8} {target : Target}
    (isOpen : target.Open files) (adds : Adds files files' more) :
    target.Open files' ∧ target.place? files' = target.place? files := by
  cases target with
  | file path =>
    obtain ⟨place, leads⟩ := Option.isSome_iff_exists.mp isOpen
    have leads' := adds.placeOf? leads
    exact ⟨Option.isSome_iff_exists.mpr ⟨place, leads'⟩, leads'.trans leads.symm⟩
  | _ => exact ⟨trivial, rfl⟩

namespace Outputs

theorem adds_write {o : Outputs} {target : Target} (isOpen : target.Open o.files) (text : String) :
    Adds o.files (o.write target text).files fun place =>
      if target.place? o.files = some place then encoded text else [] := by
  cases target with
  | file path =>
    obtain ⟨place, leads⟩ := Option.isSome_iff_exists.mp isOpen
    obtain ⟨files, appended, adds⟩ := append_of_placeOf? leads (encoded text)
    have written : (o.write (.file path) text).files = files := by simp only [write, appended]
    rw [written]
    simpa [Target.place?, leads, eq_comm] using adds
  | _ => exact .refl _

theorem adds_writeAll {o : Outputs} {texts : List (Target × String)} (areOpen : ∀ t ∈ texts, t.1.Open o.files) :
    Adds o.files (o.writeAll texts).files fun place =>
      (texts.filter fun t => t.1.place? o.files = some place).flatMap fun t => encoded t.2 := by
  induction texts generalizing o with
  | nil => exact .refl _
  | cons t rest ih =>
    obtain ⟨here, later⟩ := List.forall_mem_cons.mp areOpen
    have first := adds_write here t.2
    have others := first.trans (ih fun t member => ((later t member).of_adds first).1)
    refine others.congr fun place => ?_
    have same : (rest.filter fun t' => t'.1.place? (o.write t.1 t.2).files = some place) =
        rest.filter fun t => t.1.place? o.files = some place :=
      List.filter_congr fun t member => by rw [((later t member).of_adds first).2]
    rw [same]
    by_cases leads : t.1.place? o.files = some place <;> simp [leads]

end Outputs

namespace LogOutput

/-- What an output writes to. -/
def target (files : FileSystem) (o : LogOutput) : Target :=
  match o.destination with
  | "stderr" => .standardError
  | "stdout" => .standardOutput
  | _ => .file (files.absolute (.ofText o.destination))

theorem target_eq_file {files : FileSystem} {o : LogOutput} (noError : o.destination ≠ "stderr")
    (noOutput : o.destination ≠ "stdout") : o.target files = .file (files.absolute (.ofText o.destination)) := by
  unfold target
  split
  · next same => exact absurd same noError
  · next same => exact absurd same noOutput
  · rfl

theorem target_of_adds {files files' : FileSystem} {more : Location → List UInt8} (adds : Adds files files' more)
    (o : LogOutput) : o.target files' = o.target files := by
  have same (p : Path) : files'.absolute p = files.absolute p := by
    rw [absolute, absolute, start_of_adds adds]
  simp only [target, same]

end LogOutput

namespace Journal

inductive Call
  | configure (settings : LogSettings)
  | log (time : String) (e : Event)
  | message (time : String) (level : Level) (logger message : String)

def perform (j : Journal) : Call → Journal × Except Failure Unit
  | .configure settings => j.configure settings
  | .log time e => j.writeChecked time e
  | .message time level logger message => (j.writeMessage time level logger message, .ok ())

def after (j : Journal) (call : Call) : Journal := (j.perform call).1

/-- The journal after some calls, from one without outputs. -/
def run (outputs : Outputs) (calls : List Call) : Journal := calls.foldl after (start outputs)

/-- The event that a call writes to the log, unless its fields are refused. -/
def event? (j : Journal) : Call → Option (String × Event)
  | .configure _ => none
  | .log time e =>
    match (j.writeChecked time e).2 with
    | .ok _ => some (time, e)
    | .error _ => none
  | .message time level logger message => some (time, ⟨level, logger, message, []⟩)

/-- The journal is at a level, and some outputs are open. -/
structure Serves (j : Journal) (lowest : Level) (active : List LogOutput) : Prop where
  level : j.level = lowest
  sinks : j.sinks = active.map fun o => ⟨o.format, o.target j.outputs.files, o.level.getD lowest⟩
  areOpen : ∀ o ∈ active, (o.target j.outputs.files).Open j.outputs.files

/-- The outputs that take an event to the file at a location: those that lead there, if the event is
neither below the level of the log nor below their own. -/
def takers (files : FileSystem) (lowest : Level) (active : List LogOutput) (level : Level) (place : Location) :
    List LogOutput :=
  active.filter fun o => (o.target files).place? files = some place ∧ lowest.rank ≤ level.rank ∧
    (o.level.getD lowest).rank ≤ level.rank

/-- What an event adds to the file at a location. -/
def added (j : Journal) (lowest : Level) (active : List LogOutput) (time : String) (e : Event)
    (place : Location) : List UInt8 :=
  (takers j.outputs.files lowest active e.level place).flatMap fun o =>
    ((e.line? ⟨time, j.runId⟩ o.format).map fun line => Outputs.encoded (line ++ "\n")).getD []

variable {j : Journal} {lowest : Level} {active : List LogOutput}

theorem Serves.of_adds {j' : Journal} {more : Location → List UInt8} (serves : j.Serves lowest active)
    (adds : Adds j.outputs.files j'.outputs.files more) (level : j'.level = j.level) (sinks : j'.sinks = j.sinks) :
    j'.Serves lowest active where
  level := level.trans serves.level
  sinks := by simp only [sinks, serves.sinks, LogOutput.target_of_adds adds]
  areOpen o member := by
    rw [LogOutput.target_of_adds adds]
    exact ((serves.areOpen o member).of_adds adds).1

/-! ## Writing -/

theorem linesFor_filter (serves : j.Serves lowest active) (time : String) (e : Event) (bare : String)
    (place : Location) :
    (((j.linesFor ⟨time, j.runId⟩ e bare).filter fun t => t.1.place? j.outputs.files = some place).flatMap
      fun t => Outputs.encoded t.2) = j.added lowest active time e place := by
  unfold linesFor
  split
  · next empty =>
    have none : active = [] := by simpa [serves.sinks] using empty
    subst none
    split <;> rfl
  · have level := serves.level
    rw [serves.sinks, added, takers]
    clear serves
    induction active with
    | nil => rfl
    | cons o rest ih =>
      by_cases passes : lowest.rank ≤ e.level.rank ∧ (o.level.getD lowest).rank ≤ e.level.rank
      · by_cases leads : (o.target j.outputs.files).place? j.outputs.files = some place
        · cases line : e.line? ⟨time, j.runId⟩ o.format <;> simp_all [Journal.passes]
        · cases line : e.line? ⟨time, j.runId⟩ o.format <;> simp_all [Journal.passes]
      · simp_all [Journal.passes]

theorem adds_put (serves : j.Serves lowest active) (time : String) (e : Event) (bare : String) :
    Adds j.outputs.files (j.put ⟨time, j.runId⟩ e bare).outputs.files (j.added lowest active time e) := by
  have areOpen : ∀ t ∈ j.linesFor ⟨time, j.runId⟩ e bare, t.1.Open j.outputs.files := by
    intro t member
    unfold linesFor at member
    split at member
    · split at member
      · cases List.mem_singleton.mp member
        trivial
      · cases member
    · obtain ⟨s, sink, written⟩ := List.mem_filterMap.mp member
      rw [serves.sinks] at sink
      obtain ⟨o, isActive, rfl⟩ := List.mem_map.mp (List.mem_filter.mp sink).1
      obtain ⟨line, -, rfl⟩ := Option.map_eq_some_iff.mp written
      exact serves.areOpen o isActive
  exact (Outputs.adds_writeAll areOpen).congr (linesFor_filter serves time e bare)

/-! ## Opening outputs -/

theorem openTarget_adds (j : Journal) (o : LogOutput) :
    Adds j.outputs.files (j.openTarget o.destination).1.outputs.files (fun _ => []) ∧
      (j.openTarget o.destination).1.sinks = j.sinks ∧
      ∀ target, (j.openTarget o.destination).2 = .ok target →
        o.target (j.openTarget o.destination).1.outputs.files = target ∧
          target.Open (j.openTarget o.destination).1.outputs.files := by
  unfold openTarget
  split
  · next same =>
    refine ⟨.refl _, rfl, fun target ok => ?_⟩
    cases ok
    simp [LogOutput.target, same, Target.Open]
  · next same =>
    refine ⟨.refl _, rfl, fun target ok => ?_⟩
    cases ok
    simp [LogOutput.target, same, Target.Open]
  · next noError noOutput =>
    dsimp only
    split
    · refine ⟨.refl _, rfl, fun target ok => ?_⟩
      cases ok
    · next files made =>
      have first := adds_makeDirectories made
      split
      · refine ⟨first, rfl, fun target ok => ?_⟩
        cases ok
      · next files' appended =>
        obtain ⟨place, leads, -, adds⟩ := adds_append appended
        have second : Adds files files' fun _ => [] := adds.congr fun _ => ite_self _
        refine ⟨first.trans second, rfl, fun target ok => ?_⟩
        cases ok
        refine ⟨?_, Option.isSome_iff_exists.mpr ⟨place, leads⟩⟩
        rw [LogOutput.target_eq_file noError noOutput, absolute, absolute, start_of_adds second]

/-- Some outputs are those that are open after all of them were to be: all, or those before one that
cannot be opened. -/
def Opened (outputs opened : List LogOutput) : Except Failure Unit → Prop
  | .ok _ => opened = outputs
  | .error f => ∃ o rest j, outputs = opened ++ o :: rest ∧ (openTarget j o.destination).2 = .error f

theorem Opened.cons {outputs opened : List LogOutput} {outcome : Except Failure Unit} (o : LogOutput)
    (rest : Opened outputs opened outcome) : Opened (o :: outputs) (o :: opened) outcome := by
  cases outcome with
  | ok u => exact congrArg _ rest
  | error f =>
    obtain ⟨refused, later, j, rfl, why⟩ := rest
    exact ⟨refused, later, j, rfl, why⟩

theorem serves_openAll (serves : j.Serves lowest active) (outputs : List LogOutput) :
    ∃ opened, Opened outputs opened (openAll lowest outputs j).2 ∧
      (openAll lowest outputs j).1.Serves lowest (active ++ opened) ∧
      Adds j.outputs.files (openAll lowest outputs j).1.outputs.files fun _ => [] := by
  induction outputs generalizing j active with
  | nil => exact ⟨[], rfl, by rwa [List.append_nil], .refl _⟩
  | cons o rest ih =>
    obtain ⟨adds, sinks, target⟩ := openTarget_adds j o
    have level := level_openTarget j o.destination
    rw [openAll]
    cases opening : j.openTarget o.destination with
    | mk j' outcome =>
      rw [opening] at adds sinks target level
      have kept : j'.Serves lowest active := serves.of_adds adds level sinks
      cases outcome with
      | error f => exact ⟨[], ⟨o, rest, j, rfl, by rw [opening]⟩, by rwa [List.append_nil], adds⟩
      | ok t =>
        obtain ⟨same, isOpen⟩ := target t rfl
        have wider : Serves { j' with sinks := j'.sinks ++ [⟨o.format, t, o.level.getD lowest⟩] } lowest
            (active ++ [o]) := by
          refine ⟨kept.level, ?_, ?_⟩
          · rw [List.map_append, ← kept.sinks, ← same]
            rfl
          · intro o' member
            rcases List.mem_append.mp member with old | new
            · exact kept.areOpen o' old
            · cases List.mem_singleton.mp new
              rwa [← same] at isOpen
        obtain ⟨opened, others, serves', more⟩ := ih wider
        refine ⟨o :: opened, others.cons o, ?_, adds.trans more⟩
        rwa [List.append_assoc] at serves'

theorem serves_configure (j : Journal) (settings : LogSettings) :
    ∃ active, Opened settings.outputs active (j.configure settings).2 ∧
      (j.configure settings).1.Serves settings.level active ∧
      Adds j.outputs.files (j.configure settings).1.outputs.files fun _ => [] :=
  have closed : Serves { j with level := settings.level, sinks := [], logFile := none } settings.level [] :=
    ⟨rfl, rfl, List.forall_mem_nil _⟩
  serves_openAll closed settings.outputs

/-! ## Any calls -/

theorem writeChecked_cases (j : Journal) (time : String) (e : Event) :
    j.writeChecked time e = (j.write time e, .ok ()) ∨ ∃ f, j.writeChecked time e = (j, .error f) := by
  unfold writeChecked
  dsimp only
  split
  · exact .inr ⟨_, rfl⟩
  · split
    · exact .inr ⟨_, rfl⟩
    · exact .inl rfl

theorem writeChecked_of_bare (j : Journal) (time : String) {e : Event} (bare : e.fields = []) :
    j.writeChecked time e = (j.write time e, .ok ()) := by
  simp [writeChecked, bare]

/-- What a call adds to the file at a location. -/
def addedBy (j : Journal) (lowest : Level) (active : List LogOutput) (call : Call) (place : Location) : List UInt8 :=
  match j.event? call with
  | some (time, e) => j.added lowest active time e place
  | none => []

theorem addedBy_eq_added {call : Call} {time : String} {e : Event} (written : j.event? call = some (time, e)) :
    j.addedBy lowest active call = j.added lowest active time e := by
  funext place
  rw [addedBy, written]

theorem addedBy_eq_nil {call : Call} (refused : j.event? call = none) :
    j.addedBy lowest active call = fun _ => [] := by
  funext place
  rw [addedBy, refused]

/-- Any call but a configuration leaves the outputs open, and any call adds to files what is due. -/
theorem after_adds (serves : j.Serves lowest active) (call : Call) :
    ((∀ settings, call ≠ .configure settings) → (j.after call).Serves lowest active) ∧
      Adds j.outputs.files (j.after call).outputs.files (j.addedBy lowest active call) := by
  cases call with
  | configure settings =>
    obtain ⟨-, -, -, adds⟩ := serves_configure j settings
    exact ⟨fun other => absurd rfl (other settings), adds⟩
  | log time e =>
    have adds := adds_put serves time e (e.asValue ⟨time, j.runId⟩).literal
    rcases j.writeChecked_cases time e with taken | ⟨f, refused⟩
    · have written : j.event? (.log time e) = some (time, e) := by rw [event?, taken]
      rw [addedBy_eq_added written, after, perform, taken]
      exact ⟨fun _ => serves.of_adds adds rfl rfl, adds⟩
    · have unwritten : j.event? (.log time e) = none := by rw [event?, refused]
      rw [addedBy_eq_nil unwritten, after, perform, refused]
      exact ⟨fun _ => serves, .refl _⟩
  | message time level logger message =>
    have adds := adds_put serves time ⟨level, logger, message, []⟩ message
    exact ⟨fun _ => serves.of_adds adds rfl rfl, adds⟩

/-- The level and the outputs of the last configuration among some calls, up to an output that could not
be opened. Before any configuration there are none. -/
def Configured (outputs : Outputs) (calls : List Call) (lowest : Level) (active : List LogOutput) : Prop :=
  (lowest = .warning ∧ active = [] ∧ ∀ settings, .configure settings ∉ calls) ∨
    ∃ earlier settings later, calls = earlier ++ .configure settings :: later ∧
      (∀ settings', .configure settings' ∉ later) ∧ lowest = settings.level ∧
      Opened settings.outputs active ((run outputs earlier).configure settings).2

theorem run_concat (outputs : Outputs) (calls : List Call) (call : Call) :
    run outputs (calls ++ [call]) = (run outputs calls).after call := by
  simp [run, List.foldl_append]

theorem exists_configured (outputs : Outputs) (calls : List Call) :
    ∃ lowest active, Configured outputs calls lowest active ∧ (run outputs calls).Serves lowest active := by
  induction calls using List.reverseRecOn with
  | nil => exact ⟨_, _, .inl ⟨rfl, rfl, fun _ => List.not_mem_nil⟩, ⟨rfl, rfl, List.forall_mem_nil _⟩⟩
  | append_singleton calls call ih =>
    obtain ⟨lowest, active, configured, serves⟩ := ih
    rw [run_concat]
    by_cases new : ∃ settings, call = .configure settings
    · obtain ⟨settings, rfl⟩ := new
      obtain ⟨active, opened, serves, -⟩ := serves_configure (run outputs calls) settings
      exact ⟨_, active, .inr ⟨calls, settings, [], rfl, fun _ => List.not_mem_nil, rfl, opened⟩, serves⟩
    · have other : ∀ settings, call ≠ .configure settings := fun settings same => new ⟨settings, same⟩
      refine ⟨lowest, active, ?_, (after_adds serves call).1 other⟩
      rcases configured with ⟨level, none, never⟩ | ⟨earlier, settings, later, rfl, never, rest⟩
      · refine .inl ⟨level, none, fun settings member => ?_⟩
        rcases List.mem_append.mp member with old | last
        · exact never settings old
        · exact other settings (List.mem_singleton.mp last).symm
      · refine .inr ⟨earlier, settings, later ++ [call], by simp, fun settings' member => ?_, rest⟩
        rcases List.mem_append.mp member with old | last
        · exact never settings' old
        · exact other settings' (List.mem_singleton.mp last).symm

def detailed : LogOutput := ⟨.json, "/a.log", some .debug⟩

/-- A log at a higher level than its only output. -/
def quiet : LogSettings := ⟨.warning, [detailed]⟩

def quietLog : Journal := run (.ofFiles ⟨.directory [], []⟩) [.configure quiet]

def notice : Event := ⟨.info, "shop", "hello", []⟩

end Journal

end ReleaseImpact
