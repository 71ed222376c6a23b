import ReleaseImpact.Proofs.MergedMaps
import ReleaseImpact.Settings.Load

/-!
Where settings come from, and what can come of them. Main statement:

- `ends_loadSettings`: a source is refused, two sources are nested too deep, or the entries of all sources
  are checked together.
-/

namespace ReleaseImpact

/-- What may say something about settings, from the weakest to the strongest. -/
inductive SettingsSource
  | globalFile
  | ownFile
  | environment
  | given
  deriving DecidableEq

namespace SettingsFile

theorem read_of_load {fs : FileSystem} {path : Path} {bytes : List UInt8} {v : Value} {entries : List (Scalar × Value)}
    (there : fs.hasEntry path.text = .ok true) (holds : fs.read path.text = .ok bytes)
    (loaded : Yaml.load (.ofBytes bytes) = .ok v) (opened : v.opened = .map entries) : read fs path = .ok entries := by
  have shown : (Yaml.load (.ofBytes bytes)).map Value.opened = .ok (.map entries) := by
    rw [loaded, ← opened]
    rfl
  simp only [read, there, holds]
  unfold parse
  rw [shown]

end SettingsFile

namespace SettingsPlaces

/-- The file for the tree, or the one that is named in its place. -/
def ownFile (places : SettingsPlaces) : Path :=
  places.namedFile.getD (places.tree.below [SettingsFile.name])

/-- The entries of the file for the tree, or of the one that is named in its place. -/
def own (places : SettingsPlaces) (fs : FileSystem) : Except Failure (List (Scalar × Value)) :=
  match places.namedFile with
  | some file =>
    match fs.hasEntry file.text with
    | .error fault => .error (.fileFault fault)
    | .ok false => .error (.problem (.configMissing file.text))
    | .ok true => SettingsFile.read fs file
  | none => SettingsFile.read fs (places.tree.below [SettingsFile.name])

theorem own_of_named {places : SettingsPlaces} {fs : FileSystem} {file : Path} (named : places.namedFile = some file)
    (there : fs.hasEntry file.text = .ok true) : places.own fs = SettingsFile.read fs file := by
  simp only [own, named, there]

theorem entries_eq (places : SettingsPlaces) (fs : FileSystem) :
    places.entries fs = places.own fs >>= fun inOwn =>
      SettingsFile.read fs places.globalFile >>= fun inGlobal => mergeSources inGlobal inOwn := by
  unfold entries own
  cases places.namedFile with
  | none => rfl
  | some file =>
    dsimp only
    cases fs.hasEntry file.text with
    | error fault => rfl
    | ok found => cases found <;> rfl

end SettingsPlaces

namespace SettingsSource

section

variable (fs : FileSystem) (env : Environment) (places : SettingsPlaces) (given : List (Scalar × Value))

def entries : SettingsSource → Except Failure (List (Scalar × Value))
  | globalFile => SettingsFile.read fs places.globalFile
  | ownFile => places.own fs
  | environment => Variables.settings env
  | .given => .ok (givenGroups given)

/-- The entries of all sources, each source over those before it. -/
inductive Combined : List (Scalar × Value) → Prop
  | intro {inGlobal inOwn inVariables inFiles upper all : List (Scalar × Value)}
      (fromGlobal : globalFile.entries fs env places given = .ok inGlobal)
      (fromOwn : ownFile.entries fs env places given = .ok inOwn)
      (fromEnv : environment.entries fs env places given = .ok inVariables)
      (files : mergeOpened maxDepth inGlobal inOwn = some inFiles)
      (others : mergeOpened maxDepth inVariables (givenGroups given) = some upper)
      (whole : mergeOpened maxDepth inFiles upper = some all) : Combined all

/-- Two sources are nested so deep that there may be no end to merging them. -/
def Endless : Prop :=
  ∃ a b inA inB, a ≠ b ∧ entries fs env places given a = .ok inA ∧ entries fs env places given b = .ok inB ∧
    Deep maxDepth inA ∧ Deep maxDepth inB

/-- What can come of the sources. -/
inductive Ends : Except Failure Settings → Prop
  | refused {source : SettingsSource} {f : Failure} (fails : source.entries fs env places given = .error f) :
      Ends (.error f)
  | endless (deep : Endless fs env places given) : Ends (.error .tooDeep)
  | oddKey {all : List (Scalar × Value)} {e : Scalar × Value} (combined : Combined fs env places given all)
      (member : e ∈ all) (odd : isTextKey e = false) : Ends (.error .keyNotText)
  | checked {all : List (Scalar × Value)} (combined : Combined fs env places given all)
      (named : ∀ e ∈ all, isTextKey e = true) :
      Ends (settingsOfChecked (Validation.closedSettings env all))

end

variable {fs : FileSystem} {env : Environment} {places : SettingsPlaces} {given : List (Scalar × Value)}

theorem mergeSources_cases (base upper : List (Scalar × Value)) :
    (∃ merged, mergeOpened maxDepth base upper = some merged ∧ mergeSources base upper = .ok merged) ∨
      mergeOpened maxDepth base upper = none ∧ mergeSources base upper = .error .tooDeep := by
  unfold mergeSources
  cases ends : mergeOpened maxDepth base upper with
  | some merged => exact .inl ⟨merged, rfl, rfl⟩
  | none => exact .inr ⟨rfl, rfl⟩

theorem endless_of_files {inGlobal inOwn inVariables inFiles upper : List (Scalar × Value)}
    (fromGlobal : globalFile.entries fs env places given = .ok inGlobal)
    (fromOwn : ownFile.entries fs env places given = .ok inOwn)
    (fromEnv : environment.entries fs env places given = .ok inVariables)
    (files : mergeOpened maxDepth inGlobal inOwn = some inFiles)
    (others : mergeOpened maxDepth inVariables (givenGroups given) = some upper)
    (endless : mergeOpened maxDepth inFiles upper = none) : Endless fs env places given := by
  obtain ⟨deepFiles, deepUpper⟩ := deep_of_endless endless
  rcases deep_mergeOpened files deepFiles with deep | deep <;>
    rcases deep_mergeOpened others deepUpper with deep' | deep'
  · exact ⟨.globalFile, .environment, _, _, nofun, fromGlobal, fromEnv, deep, deep'⟩
  · exact ⟨.globalFile, .given, _, _, nofun, fromGlobal, rfl, deep, deep'⟩
  · exact ⟨.ownFile, .environment, _, _, nofun, fromOwn, fromEnv, deep, deep'⟩
  · exact ⟨.ownFile, .given, _, _, nofun, fromOwn, rfl, deep, deep'⟩

theorem ends_loadSettings (fs : FileSystem) (env : Environment) (places : SettingsPlaces)
    (given : List (Scalar × Value)) : Ends fs env places given (loadSettings fs env places given) := by
  unfold loadSettings
  rw [SettingsPlaces.entries_eq]
  cases fromOwn : places.own fs with
  | error f =>
    have fails : ownFile.entries fs env places given = .error f := fromOwn
    exact .refused fails
  | ok inOwn =>
    cases fromGlobal : SettingsFile.read fs places.globalFile with
    | error f =>
      have fails : globalFile.entries fs env places given = .error f := fromGlobal
      exact .refused fails
    | ok inGlobal =>
      rcases mergeSources_cases inGlobal inOwn with ⟨inFiles, files, ends⟩ | ⟨endless, ends⟩
      · simp only [bind, Except.bind, ends]
        cases fromEnv : Variables.settings env with
        | error f =>
          have fails : environment.entries fs env places given = .error f := fromEnv
          exact .refused fails
        | ok inVariables =>
          rcases mergeSources_cases inVariables (givenGroups given) with ⟨upper, others, ends⟩ | ⟨endless, ends⟩
          · rcases mergeSources_cases inFiles upper with ⟨all, whole, ends'⟩ | ⟨endless, ends'⟩
            · simp only [ends, ends']
              have combined : Combined fs env places given all := ⟨fromGlobal, fromOwn, fromEnv, files, others, whole⟩
              split
              · next named => exact .checked combined (List.all_eq_true.mp named)
              · next odd =>
                simp only [List.all_eq_true, not_forall, Bool.not_eq_true] at odd
                obtain ⟨e, member, odd⟩ := odd
                exact .oddKey combined member odd
            · simp only [ends, ends']
              exact .endless (endless_of_files fromGlobal fromOwn fromEnv files others endless)
          · simp only [ends]
            obtain ⟨deep, deep'⟩ := deep_of_endless endless
            exact .endless ⟨.environment, .given, _, _, nofun, fromEnv, rfl, deep, deep'⟩
      · simp only [bind, Except.bind, ends]
        obtain ⟨deep, deep'⟩ := deep_of_endless endless
        exact .endless ⟨.globalFile, .ownFile, _, _, nofun, fromGlobal, fromOwn, deep, deep'⟩

end SettingsSource

end ReleaseImpact
