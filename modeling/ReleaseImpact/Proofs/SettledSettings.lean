import ReleaseImpact.Proofs.PathTexts
import ReleaseImpact.Proofs.Precedence

/-!
Settings that are checked once more. What was accepted is accepted again as it is. Main statements:

- `Validation.destinationOf_again`: a destination of the log stays where it was put.
- `Setting.check_dump`: what a setting was accepted as is accepted as its value.
- `Setting.settled_of_sections`: so is each setting of those that were accepted together.
- `settings_settled`: to check settings that were had neither fails nor changes them.
-/

namespace ReleaseImpact

namespace Environment

variable {env : Environment} {p q : Path}

theorem normal_homePath (home : String) : (homePath home).Normal := by
  unfold homePath
  split
  · exact nofun
  · exact Path.normal_ofText home

theorem normal_expandHome (normal : p.Normal) (expands : env.expandHome p = .ok q) : q.Normal := by
  unfold expandHome at expands
  split at expands
  · dsimp only at expands
    split at expands
    · cases expands
    · split at expands
      · next home _ =>
        split at expands <;> cases expands
        exact (normal_homePath home).below fun part member => normal part (List.mem_of_mem_drop member)
      · cases expands
  · cases expands
    exact normal

end Environment

namespace Checked

variable {α β : Type} {c : Checked α} {d : Checked β} {a : α} {b : β}

theorem map_eq_valid_iff {g : α → β} : c.map g = .valid b ↔ ∃ a, c = .valid a ∧ g a = b := by
  cases c <;> simp [map]

theorem pair_eq_valid_iff : c.pair d = .valid (a, b) ↔ c = .valid a ∧ d = .valid b := by
  cases c <;> cases d <;> simp [pair]

theorem seq_eq_valid_iff {f : Checked (α → β)} :
    f <*> c = .valid b ↔ ∃ g a, f = .valid g ∧ c = .valid a ∧ g a = b := by
  cases f <;> cases c <;> simp [Seq.seq, pair, map]

theorem atPlace_eq_valid_iff {place : Place} : c.atPlace place = .valid a ↔ c = .valid a := by
  cases c <;> simp [atPlace]

theorem items_eq_valid_iff {check : Value → Checked α} {first : Nat} {vs : List Value} {items : List α} :
    Checked.items check first vs = .valid items ↔ List.Forall₂ (fun v a => check v = .valid a) vs items := by
  induction vs generalizing first items with
  | nil => simp [Checked.items, eq_comm]
  | cons v rest ih =>
    rw [Checked.items, map_eq_valid_iff, List.forall₂_cons_left_iff]
    simp only [Prod.exists, pair_eq_valid_iff, atPlace_eq_valid_iff, ih]
    constructor
    · rintro ⟨a, later, ⟨here, others⟩, rfl⟩
      exact ⟨a, later, here, others, rfl⟩
    · rintro ⟨a, later, here, others, rfl⟩
      exact ⟨a, later, ⟨here, others⟩, rfl⟩

theorem items_again {check : Value → Checked α} {first : Nat} {vs : List Value} {items : List α} (dump : α → Value)
    (again : ∀ v a, check v = .valid a → check (dump a) = .valid a)
    (valid : Checked.items check first vs = .valid items) : Checked.items check first (items.map dump) = .valid items := by
  rw [items_eq_valid_iff] at valid ⊢
  induction valid with
  | nil => exact .nil
  | cons here _ ih => exact .cons (again _ _ here) ih

end Checked

namespace Validation

variable {α : Type} {env : Environment} {v : Value}

theorem destinationOf_again {s t : String} (accepted : destinationOf env s = .ok (.ok t)) :
    destinationOf env t = .ok (.ok t) := by
  by_cases standard : t = "stderr" ∨ t = "stdout"
  · rw [destinationOf, if_pos standard]
  · unfold destinationOf at accepted
    split at accepted
    · next given =>
      cases accepted
      exact absurd given standard
    · split at accepted
      · cases accepted
      · cases accepted
      · next p expands =>
        split at accepted
        · next absolute =>
          cases accepted
          -- The text is that of a path which is absolute, so no home is put in for anything, and in normal form.
          have normal := Environment.normal_expandHome (Path.normal_ofText s) expands
          rw [destinationOf, if_neg standard, Path.ofText_text normal, Environment.expandHome_of_absolute absolute]
          exact if_pos absolute
        · cases accepted

theorem exists_of_checkedText {check : String → Except Failure (Except String String)} {t : String}
    (valid : checkedText check v = .valid t) : ∃ s, check s = .ok (.ok t) := by
  unfold checkedText at valid
  split at valid
  · next s _ =>
    split at valid
    · next accepted =>
      cases valid
      exact ⟨s, accepted⟩
    · cases valid
    · cases valid
  · next other =>
    exact absurd valid (other t)

theorem checkedText_text {check : String → Except Failure (Except String String)} {t : String}
    (accepted : check t = .ok (.ok t)) : checkedText check (.text t) = .valid t := by
  simp only [checkedText, text, accepted]

theorem choice_name {name : α → String} {all : List α} {a : α} (valid : choice name all v = .valid a) :
    choice name all (.text (name a)) = .valid a := by
  unfold choice at valid
  dsimp only at valid
  split at valid
  · next found =>
    cases valid
    split at found
    · next s =>
      have named : name a = s := by simpa using List.find?_some found
      simp only [choice, named, found]
    · cases found
  · cases valid

theorem list_again {check : Value → Checked α} {items : List α} (dump : α → Value)
    (again : ∀ v a, check v = .valid a → check (dump a) = .valid a) (valid : list check v = .valid items) :
    list check (.list (items.map dump)) = .valid items := by
  unfold list at valid
  split at valid
  · exact Checked.items_again dump again valid
  · exact Checked.items_again dump again valid
  · exact Checked.items_again dump again valid
  · cases valid

theorem choices_again {name : α → String} {all items : List α} (valid : list (choice name all) v = .valid items) :
    list (choice name all) (.texts (items.map name)) = .valid items := by
  rw [Value.texts, List.map_map]
  exact list_again _ (fun _ _ => choice_name) valid

theorem fileExtension_again {t : String} (valid : fileExtension v = .valid t) : fileExtension (.text t) = .valid t := by
  obtain ⟨s, accepted⟩ := exists_of_checkedText valid
  refine checkedText_text ?_
  split at accepted
  · next good =>
    cases accepted
    exact if_pos good
  · cases accepted

theorem destination_again {t : String} (valid : destination env v = .valid t) : destination env (.text t) = .valid t := by
  obtain ⟨_, accepted⟩ := exists_of_checkedText valid
  exact checkedText_text (destinationOf_again accepted)

theorem optionalLevel_again {level : Option Level} (valid : optionalLevel v = .valid level) :
    optionalLevel (.optionText (level.map Level.name)) = .valid level := by
  unfold optionalLevel at valid
  split at valid
  · cases valid
    rfl
  · obtain ⟨level, accepted, rfl⟩ := Checked.map_eq_valid_iff.mp valid
    exact Checked.map_eq_valid_iff.mpr ⟨level, choice_name accepted, rfl⟩

section

variable {entries : List (Scalar × Value)} {check : Value → Checked α} {a initial : α}

theorem exists_of_group {model : String} {inner : List (Scalar × Value) → Checked α}
    (valid : group model inner v = .valid a) : ∃ entries, inner entries = .valid a := by
  unfold group at valid
  split at valid
  · next entries _ => exact ⟨entries, valid⟩
  · cases valid

theorem setting_cases {name : String} (valid : setting entries name initial check = .valid a) :
    a = initial ∨ ∃ v, check v = .valid a := by
  unfold setting at valid
  split at valid
  · cases valid
    exact .inl rfl
  · next v _ => exact .inr ⟨v, Checked.atPlace_eq_valid_iff.mp valid⟩

theorem setting_of_field {name : String} (found : field? name entries = some v) (accepted : check v = .valid a) :
    setting entries name initial check = .valid a := by
  unfold setting
  simp only [found, accepted, Checked.atPlace_valid]

theorem setting_again {name : String} (dump : α → Value) (valid : setting entries name initial check = .valid a)
    (initially : check (dump initial) = .valid initial) (again : ∀ v, check v = .valid a → check (dump a) = .valid a) :
    check (dump a) = .valid a := by
  rcases setting_cases valid with rfl | ⟨v, accepted⟩
  · exact initially
  · exact again v accepted

end

theorem logOutput_again {output : LogOutput} (valid : logOutput env v = .valid output) :
    logOutput env output.toValue = .valid output := by
  obtain ⟨entries, accepted⟩ := exists_of_group valid
  obtain ⟨_, level, others, ofLevel, rfl⟩ := Checked.seq_eq_valid_iff.mp accepted
  obtain ⟨_, destination, first, ofDestination, rfl⟩ := Checked.seq_eq_valid_iff.mp others
  obtain ⟨format, ofFormat, rfl⟩ := Checked.map_eq_valid_iff.mp first
  have onFormat : choice OutputFormat.name OutputFormat.all (.text format.name) = .valid format :=
    setting_again (fun format => .text format.name) ofFormat rfl fun _ => choice_name
  have onDestination : Validation.destination env (.text destination) = .valid destination :=
    setting_again .text ofDestination rfl fun _ => destination_again
  have onLevel : optionalLevel (.optionText (level.map Level.name)) = .valid level :=
    setting_again (fun level => .optionText (level.map Level.name)) ofLevel rfl fun _ => optionalLevel_again
  refine Setting.seq_valid (Setting.seq_valid (Setting.map_valid _ ?_) ?_) ?_
  · exact setting_of_field rfl onFormat
  · exact setting_of_field rfl onDestination
  · exact setting_of_field rfl onLevel

end Validation

namespace Setting

variable {env : Environment} {s : Setting} {v : Value}

/-- The content of a setting as a value. -/
def dump : (s : Setting) → s.Content → Value
  | logLevel => fun level => .text (Level.name level)
  | logOutputs => fun outputs => .list (outputs.map LogOutput.toValue)
  | duplicateStrategy => fun strategy => .text (DuplicateStrategy.name strategy)
  | reportTypes => fun types => .texts (types.map ReportType.name)
  | schemaSearchDirs | fixtureMarkers | excludedDirs => Value.texts
  | projectRootMarker | schemaFileName | classFileExtension => Value.text

theorem check_dump {c : s.Content} (valid : s.check env v = .valid c) : s.check env (s.dump c) = .valid c := by
  cases s with
  | logLevel | duplicateStrategy => exact Validation.choice_name valid
  | logOutputs => exact Validation.list_again _ (fun _ _ => Validation.logOutput_again) valid
  | projectRootMarker | schemaFileName => rfl
  | classFileExtension => exact Validation.fileExtension_again valid
  | schemaSearchDirs | fixtureMarkers | excludedDirs => exact Validation.list_again .text (fun _ _ _ => rfl) valid
  | reportTypes => exact Validation.choices_again valid

/-- A content that is accepted as itself when it is checked. -/
def Settled (env : Environment) (s : Setting) (c : s.Content) : Prop := s.check env (s.dump c) = .valid c

theorem settled_initial (s : Setting) : Settled env s (of .initial s) := by
  cases s <;> rfl

def assembled (content : (s : Setting) → s.Content) : Settings :=
  ⟨⟨content logLevel, content logOutputs⟩,
    ⟨content duplicateStrategy, content projectRootMarker, content schemaSearchDirs, content schemaFileName,
      content classFileExtension, content fixtureMarkers⟩,
    ⟨content reportTypes, content excludedDirs⟩⟩

theorem ext {a b : Settings} (alike : ∀ s, of a s = of b s) : a = b := congrArg assembled (funext alike)

section

open Checked Validation

variable {entries : List (Scalar × Value)} {settings : Settings}

theorem sections_of_closed (valid : closedSettings env entries = .valid settings) :
    sections env entries = .valid settings := by
  obtain ⟨⟨_, _⟩, both, rfl⟩ := map_eq_valid_iff.mp valid
  exact (pair_eq_valid_iff.mp both).1

theorem settled_of_setting {c : s.Content}
    (valid : Validation.setting entries s.name (of .initial s) (s.check env) = .valid c) : Settled env s c :=
  setting_again s.dump valid (settled_initial s) fun _ => check_dump

theorem settled_of_logging {logging : LogSettings}
    (valid : setting entries "logging" .initial (logSettings env) = .valid logging) :
    Settled env logLevel logging.level ∧ Settled env logOutputs logging.outputs := by
  rcases setting_cases valid with rfl | ⟨v, accepted⟩
  · exact ⟨settled_initial logLevel, settled_initial logOutputs⟩
  · obtain ⟨entries, inside⟩ := exists_of_group accepted
    obtain ⟨_, outputs, first, ofOutputs, rfl⟩ := seq_eq_valid_iff.mp inside
    obtain ⟨level, ofLevel, rfl⟩ := map_eq_valid_iff.mp first
    exact ⟨settled_of_setting ofLevel, settled_of_setting ofOutputs⟩

theorem settled_of_analysis {analysis : AnalysisSettings}
    (valid : setting entries "analysis" .initial analysisSettings = .valid analysis) :
    Settled env duplicateStrategy analysis.duplicateStrategy ∧ Settled env projectRootMarker analysis.projectRootMarker ∧
      Settled env schemaSearchDirs analysis.schemaSearchDirs ∧ Settled env schemaFileName analysis.schemaFileName ∧
      Settled env classFileExtension analysis.classFileExtension ∧ Settled env fixtureMarkers analysis.fixtureMarkers := by
  rcases setting_cases valid with rfl | ⟨v, accepted⟩
  · exact ⟨settled_initial duplicateStrategy, settled_initial projectRootMarker, settled_initial schemaSearchDirs,
      settled_initial schemaFileName, settled_initial classFileExtension, settled_initial fixtureMarkers⟩
  · obtain ⟨entries, inside⟩ := exists_of_group accepted
    obtain ⟨_, fixtures, upToExtension, ofFixtures, rfl⟩ := seq_eq_valid_iff.mp inside
    obtain ⟨_, extension, upToFile, ofExtension, rfl⟩ := seq_eq_valid_iff.mp upToExtension
    obtain ⟨_, file, upToSearched, ofFile, rfl⟩ := seq_eq_valid_iff.mp upToFile
    obtain ⟨_, searched, upToMarker, ofSearched, rfl⟩ := seq_eq_valid_iff.mp upToSearched
    obtain ⟨_, marker, first, ofMarker, rfl⟩ := seq_eq_valid_iff.mp upToMarker
    obtain ⟨strategy, ofStrategy, rfl⟩ := map_eq_valid_iff.mp first
    exact ⟨settled_of_setting ofStrategy, settled_of_setting ofMarker, settled_of_setting ofSearched,
      settled_of_setting ofFile, settled_of_setting ofExtension, settled_of_setting ofFixtures⟩

theorem settled_of_scan {scan : ScanSettings} (valid : setting entries "scan" .initial scanSettings = .valid scan) :
    Settled env reportTypes scan.reportTypes ∧ Settled env excludedDirs scan.excludedDirs := by
  rcases setting_cases valid with rfl | ⟨v, accepted⟩
  · exact ⟨settled_initial reportTypes, settled_initial excludedDirs⟩
  · obtain ⟨entries, inside⟩ := exists_of_group accepted
    obtain ⟨_, excluded, first, ofExcluded, rfl⟩ := seq_eq_valid_iff.mp inside
    obtain ⟨types, ofTypes, rfl⟩ := map_eq_valid_iff.mp first
    exact ⟨settled_of_setting ofTypes, settled_of_setting ofExcluded⟩

theorem settled_of_sections (valid : sections env entries = .valid settings) (s : Setting) :
    Settled env s (of settings s) := by
  obtain ⟨_, scan, others, ofScan, rfl⟩ := seq_eq_valid_iff.mp valid
  obtain ⟨_, analysis, first, ofAnalysis, rfl⟩ := seq_eq_valid_iff.mp others
  obtain ⟨logging, ofLogging, rfl⟩ := map_eq_valid_iff.mp first
  obtain ⟨level, outputs⟩ := settled_of_logging ofLogging
  obtain ⟨strategy, marker, searched, file, extension, fixtures⟩ := settled_of_analysis ofAnalysis
  obtain ⟨types, excluded⟩ := settled_of_scan ofScan
  cases s <;> assumption

def dumped (settings : Settings) : List (Scalar × Value) :=
  [(.text "logging", settings.logging.toValue), (.text "analysis", settings.analysis.toValue),
    (.text "scan", settings.scan.toValue)]

theorem inEntries_dumped (settings : Settings) (s : Setting) :
    s.inEntries (dumped settings) = some (s.dump (of settings s)) := by
  cases s <;> rfl

theorem fits_dumped (settled : ∀ s, Settled env s (of settings s)) : Fits env (dumped settings) where
  known := by
    simp [dumped, sectionNames]
  maps := by
    simp only [dumped, List.forall_mem_cons]
    exact ⟨⟨_, rfl⟩, ⟨_, rfl⟩, ⟨_, rfl⟩, List.forall_mem_nil _⟩
  valid s v found := by
    cases (inEntries_dumped settings s).symm.trans found
    exact ⟨_, settled s⟩

theorem settings_toValue (settled : ∀ s, Settled env s (of settings s)) :
    Validation.settings env settings.toValue = .valid settings := by
  obtain ⟨made, closed, decided⟩ := closedSettings_of_fits (fits_dumped settled)
  have same : made = settings := ext fun s => by
    have again := decided s
    rw [inEntries_dumped] at again
    exact Checked.valid.inj (again.symm.trans (settled s))
  rw [same] at closed
  have written : settings.toValue = .map (dumped settings) := rfl
  rw [written]
  exact sections_of_closed closed

end

end Setting

open Setting

/-- Loads settings, and checks those that were had once more. -/
def loadSettingsAgain (fs : FileSystem) (env : Environment) (places : SettingsPlaces)
    (given : List (Scalar × Value)) : Except Failure Settings := do
  let settings ← loadSettings fs env places given
  (Validation.settings env settings.toValue).toExcept

/-- Settings that were accepted, among others or alone, are accepted again and stay what they are. So to check
them once more when they were loaded makes no difference. -/
theorem settings_settled (env : Environment) :
    (∀ entries settings, Validation.closedSettings env entries = .valid settings →
      Validation.settings env settings.toValue = .valid settings) ∧
    (∀ v settings, Validation.settings env v = .valid settings →
      Validation.settings env settings.toValue = .valid settings) ∧
    ∀ fs places given, loadSettingsAgain fs env places given = loadSettings fs env places given := by
  have closed {entries : List (Scalar × Value)} {settings : Settings}
      (valid : Validation.closedSettings env entries = .valid settings) :
      Validation.settings env settings.toValue = .valid settings :=
    settings_toValue (settled_of_sections (sections_of_closed valid))
  refine ⟨fun _ _ => closed, fun v settings valid => ?_, fun fs places given => ?_⟩
  · obtain ⟨entries, accepted⟩ := Validation.exists_of_group valid
    exact settings_toValue (settled_of_sections accepted)
  · have ends := SettingsSource.ends_loadSettings fs env places given
    unfold loadSettingsAgain
    generalize loadSettings fs env places given = result at ends
    cases ends with
    | refused | endless | oddKey => rfl
    | @checked all =>
      unfold settingsOfChecked
      split
      · next settings valid =>
        show Checked.toExcept _ = _
        rw [closed valid]
        rfl
      · rfl
      · rfl
      · split <;> rfl

/-- A file in a home directory that is not written in the shortest way, and class files without an extension. -/
def untidyEntries : List (Scalar × Value) :=
  [(.text "logging", .map [(.text "outputs", .list [.map [(.text "destination", .text "~//logs/./../x.log")]])]),
    (.text "analysis", .map [(.text "class_file_extension", .text "")])]

def tidySettings : Settings :=
  ⟨⟨.warning, [⟨.console, "/home/u/logs/../x.log", none⟩]⟩, { AnalysisSettings.initial with classFileExtension := "" },
    .initial⟩

def homeVariables : Environment := ⟨[("HOME", "/home/u/")], []⟩

theorem settings_settled_untidy :
    Validation.closedSettings homeVariables untidyEntries = .valid tidySettings ∧
      Validation.settings homeVariables tidySettings.toValue = .valid tidySettings ∧
      Validation.settings homeVariables (.map []) = .valid .initial ∧
      Validation.settings homeVariables Settings.initial.toValue = .valid .initial := by
  have closed : Validation.closedSettings homeVariables untidyEntries = .valid tidySettings := rfl
  have alone : Validation.settings homeVariables (.map []) = .valid .initial := rfl
  obtain ⟨among, kept, -⟩ := settings_settled homeVariables
  exact ⟨closed, among _ _ closed, alone, kept _ _ alone⟩

end ReleaseImpact
