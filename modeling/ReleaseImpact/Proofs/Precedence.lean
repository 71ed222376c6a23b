import ReleaseImpact.Proofs.DistinctKeys
import ReleaseImpact.Proofs.SettingVariables
import ReleaseImpact.Proofs.SettingsSources
import ReleaseImpact.Value.Same
import Mathlib

/-!
Which source decides on a setting. Main statements:

- `Setting.inEntries_mergeOpened`: of two sources the upper one decides on what it speaks about, and the
  lower one on everything else.
- `Setting.closedSettings_of_fits`: what fits is accepted, setting by setting.
- `fits_combined`: what all sources come to fits, and each setting in it is as the strongest source says that
  speaks about it.
- `loadSettings_decided`: so are the settings that are had in the end.
- `endless_files`: files that fit may hold themselves under names that are no settings, and then there is no
  end to merging them.
-/

namespace ReleaseImpact

inductive Setting
  | logLevel
  | logOutputs
  | duplicateStrategy
  | projectRootMarker
  | schemaSearchDirs
  | schemaFileName
  | classFileExtension
  | fixtureMarkers
  | reportTypes
  | excludedDirs
  deriving DecidableEq

namespace Setting

def group : Setting → String
  | logLevel | logOutputs => "logging"
  | reportTypes | excludedDirs => "scan"
  | _ => "analysis"

def name : Setting → String
  | logLevel => "level"
  | logOutputs => "outputs"
  | duplicateStrategy => "duplicate_strategy"
  | projectRootMarker => "project_root_marker"
  | schemaSearchDirs => "schema_search_dirs"
  | schemaFileName => "schema_file_name"
  | classFileExtension => "class_file_extension"
  | fixtureMarkers => "fixture_markers"
  | reportTypes => "report_types"
  | excludedDirs => "excluded_dirs"

def Content : Setting → Type
  | logLevel => Level
  | logOutputs => List LogOutput
  | duplicateStrategy => DuplicateStrategy
  | reportTypes => List ReportType
  | schemaSearchDirs | fixtureMarkers | excludedDirs => List String
  | projectRootMarker | schemaFileName | classFileExtension => String

/-- The content of a setting among all settings. -/
def of (settings : Settings) : (s : Setting) → s.Content
  | logLevel => settings.logging.level
  | logOutputs => settings.logging.outputs
  | duplicateStrategy => settings.analysis.duplicateStrategy
  | projectRootMarker => settings.analysis.projectRootMarker
  | schemaSearchDirs => settings.analysis.schemaSearchDirs
  | schemaFileName => settings.analysis.schemaFileName
  | classFileExtension => settings.analysis.classFileExtension
  | fixtureMarkers => settings.analysis.fixtureMarkers
  | reportTypes => settings.scan.reportTypes
  | excludedDirs => settings.scan.excludedDirs

def check (env : Environment) : (s : Setting) → Value → Checked s.Content
  | logLevel => Validation.level
  | logOutputs => Validation.list (Validation.logOutput env)
  | duplicateStrategy => Validation.choice DuplicateStrategy.name DuplicateStrategy.all
  | projectRootMarker | schemaFileName => Validation.text
  | classFileExtension => Validation.fileExtension
  | reportTypes => Validation.list (Validation.choice ReportType.name ReportType.all)
  | schemaSearchDirs | fixtureMarkers | excludedDirs => Validation.list Validation.text

/-- What a setting is if its value is given, or if none is. -/
def decided (env : Environment) (s : Setting) : Option Value → Checked s.Content
  | some v => s.check env v
  | none => .valid (of .initial s)

/-- What entries say about a setting. -/
def inEntries (s : Setting) (entries : List (Scalar × Value)) : Option Value :=
  match (field? s.group entries).map Value.opened with
  | some (.map inner) => field? s.name inner
  | _ => none

def inVariables (s : Setting) (env : Environment) : Option Value := Variables.value? env s.group s.name

/-- Groups of settings, each of them a map in which the settings have values that are accepted. -/
structure Fits (env : Environment) (entries : List (Scalar × Value)) : Prop where
  known : ∀ e ∈ entries, ∃ group ∈ Validation.sectionNames, e.1 = .text group
  maps : ∀ e ∈ entries, ∃ inner, e.2.opened = .map inner
  valid : ∀ (s : Setting) v, s.inEntries entries = some v → ∃ c, s.check env v = .valid c

/-- No group is there twice, and no setting in a group. -/
structure Neat (entries : List (Scalar × Value)) : Prop where
  groups : (names entries).Nodup
  settings : ∀ e ∈ entries, ∀ inner, e.2.opened = .map inner → (names inner).Nodup

variable {env : Environment} {s : Setting} {v : Value} {base upper merged entries : List (Scalar × Value)} {depth : Nat}

theorem neat_of_distinct (distinct : (Value.map entries).Distinct) : Neat entries where
  groups := by
    rw [Value.Distinct] at distinct
    exact distinct.1
  settings e member inner opened := by
    have inside := Value.distinct_opened (Value.distinct_of_mem distinct member)
    rw [opened, Value.Distinct] at inside
    exact inside.1

/-! ## Values -/

theorem scalar_of_text {t : String} (valid : Validation.text v = .valid t) : ∃ k, v = .scalar k := by
  rcases Validation.text_valid_iff.mp valid with rfl | ⟨data, rfl, -⟩
  · exact ⟨_, rfl⟩
  · exact ⟨_, rfl⟩

theorem scalar_of_choice {α : Type} {nameOf : α → String} {all : List α} {a : α}
    (valid : Validation.choice nameOf all v = .valid a) : ∃ k, v = .scalar k := by
  unfold Validation.choice at valid
  dsimp only at valid
  split at valid
  · next found =>
    split at found
    · exact ⟨_, rfl⟩
    · cases found
  · cases valid

theorem scalar_of_checkedText {change : String → Except Failure (Except String String)} {t : String}
    (valid : Validation.checkedText change v = .valid t) : ∃ k, v = .scalar k := by
  unfold Validation.checkedText at valid
  split at valid
  · next t given => exact scalar_of_text given
  · exact scalar_of_text valid

theorem not_map_of_list {α : Type} {item : Value → Checked α} {items : List α}
    (valid : Validation.list item v = .valid items) (inner : List (Scalar × Value)) : v.opened ≠ .map inner := by
  intro opened
  rw [Validation.list, opened] at valid
  cases valid

/-- The value of a setting is no map. -/
theorem not_map_of_check {c : s.Content} (valid : s.check env v = .valid c) (inner : List (Scalar × Value)) :
    v.opened ≠ .map inner := by
  have scalar (isScalar : ∃ k, v = .scalar k) : v.opened ≠ .map inner := by
    obtain ⟨k, rfl⟩ := isScalar
    exact nofun
  cases s with
  | logLevel | duplicateStrategy => exact scalar (scalar_of_choice valid)
  | projectRootMarker | schemaFileName => exact scalar (scalar_of_text valid)
  | classFileExtension => exact scalar (scalar_of_checkedText valid)
  | logOutputs | reportTypes | schemaSearchDirs | fixtureMarkers | excludedDirs => exact not_map_of_list valid inner

theorem inEntries_of_map {inner : List (Scalar × Value)} (found : field? s.group entries = some v)
    (opened : v.opened = .map inner) : s.inEntries entries = field? s.name inner := by
  rw [inEntries, found, Option.map_some, opened]

theorem inEntries_of_none (missing : field? s.group entries = none) : s.inEntries entries = none := by
  rw [inEntries, missing, Option.map_none]

/-! ## Merging -/

theorem inEntries_mergeOpened (s : Setting) (lower : Fits env base) (higher : Fits env upper) (neat : Neat upper)
    (ends : mergeOpened (depth + 2) base upper = some merged) :
    s.inEntries merged = (s.inEntries upper).or (s.inEntries base) := by
  have outer := field?_mergeOpened neat.groups ends s.group
  cases inUpper : field? s.group upper with
  | none =>
    rw [inUpper] at outer
    rw [inEntries_of_none inUpper, Option.none_or, inEntries, outer, inEntries]
  | some v =>
    rw [inUpper] at outer
    obtain ⟨v', made, found⟩ := outer
    obtain ⟨entries, above⟩ := higher.maps _ (mem_of_field? inUpper)
    rw [inEntries_of_map inUpper above]
    cases inBase : field? s.group base with
    | none =>
      rw [inBase, mergedValue_of_not_maps (fun _ _ none => by cases none)] at made
      cases made
      rw [inEntries_of_none inBase, Option.or_none, inEntries_of_map found above]
    | some w =>
      obtain ⟨inner, below⟩ := lower.maps _ (mem_of_field? inBase)
      rw [inBase, mergedValue_of_maps (by rw [Option.map_some, below]) above] at made
      obtain ⟨m, ends', rfl⟩ := Option.map_eq_some_iff.mp made
      rw [inEntries_of_map inBase below, inEntries_of_map found rfl]
      have named := field?_mergeOpened (neat.settings _ (mem_of_field? inUpper) entries above) ends' s.name
      cases inEntries : field? s.name entries with
      | none =>
        rw [inEntries] at named
        rw [named, Option.none_or]
      | some x =>
        rw [inEntries] at named
        obtain ⟨x', made, found⟩ := named
        obtain ⟨c, valid⟩ := higher.valid s x ((inEntries_of_map inUpper above).trans inEntries)
        rw [mergedValue_of_not_maps fun _ inner _ opened => not_map_of_check valid inner opened] at made
        cases made
        rw [found, Option.some_or]

theorem fits_mergeOpened (lower : Fits env base) (higher : Fits env upper) (neat : Neat upper)
    (ends : mergeOpened (depth + 2) base upper = some merged) : Fits env merged where
  known := by
    rintro ⟨k, v⟩ member
    rcases key_of_mem_mergeOpened ends member with ⟨w, there⟩ | ⟨w, there⟩
    · exact lower.known (k, w) there
    · exact higher.known (k, w) there
  maps := by
    rintro ⟨k, v⟩ member
    cases mergedFrom_of_mem ends member with
    | @below k' _ there => exact lower.maps (k', v) there
    | @above k' _ there => exact higher.maps (k', v) there
    | both => exact ⟨_, rfl⟩
  valid s v found := by
    rw [inEntries_mergeOpened s lower higher neat ends] at found
    rcases Option.or_eq_some_iff.mp found with said | ⟨-, said⟩
    · exact higher.valid s v said
    · exact lower.valid s v said

theorem neat_mergeOpened (lower : Neat base) (higher : Neat upper)
    (ends : mergeOpened (depth + 2) base upper = some merged) : Neat merged where
  groups := nodup_names_mergeOpened lower.groups ends
  settings := by
    rintro ⟨k, v⟩ member inside opened
    cases mergedFrom_of_mem ends member with
    | below there => exact lower.settings (_, v) there inside opened
    | above there => exact higher.settings (_, v) there inside opened
    | both inBase openedOld _ _ ends' =>
      cases opened
      exact nodup_names_mergeOpened (lower.settings _ inBase _ openedOld) ends'

/-! ## Variables -/

/-- The groups that have something in them, each as a map. -/
def groupsOf (inner : String → List (Scalar × Value)) (groups : List String) : List (Scalar × Value) :=
  groups.filterMap fun group => if (inner group).isEmpty then none else some (.text group, .map (inner group))

theorem mem_groupsOf {inner : String → List (Scalar × Value)} {groups : List String} {e : Scalar × Value}
    (member : e ∈ groupsOf inner groups) : ∃ group ∈ groups, e = (.text group, .map (inner group)) := by
  obtain ⟨group, there, made⟩ := List.mem_filterMap.mp member
  split at made <;> cases made
  exact ⟨group, there, rfl⟩

theorem names_groupsOf (inner : String → List (Scalar × Value)) (groups : List String) :
    names (groupsOf inner groups) = groups.filter fun group => !(inner group).isEmpty := by
  induction groups with
  | nil => rfl
  | cons group rest ih =>
    unfold groupsOf at ih ⊢
    cases empty : (inner group).isEmpty with
    | true =>
      rw [List.filterMap_cons_none (by rw [empty]; rfl), ih, List.filter_cons_of_neg (by simp [empty])]
    | false =>
      simp only [List.filterMap_cons, empty, Bool.false_eq_true, if_false, names_cons, ih]
      rw [List.filter_cons_of_pos (by simp [empty])]
      rfl

theorem inEntries_groupsOf {inner : String → List (Scalar × Value)} {groups : List String} (nodup : groups.Nodup)
    (known : s.group ∈ groups) : s.inEntries (groupsOf inner groups) = field? s.name (inner s.group) := by
  cases empty : (inner s.group).isEmpty with
  | true =>
    have missing : field? s.group (groupsOf inner groups) = none := by
      rw [field?_eq_none_iff, names_groupsOf]
      simp [empty]
    rw [inEntries_of_none missing, List.isEmpty_iff.mp empty]
    rfl
  | false =>
    have nodup' : (names (groupsOf inner groups)).Nodup := by
      rw [names_groupsOf]
      exact nodup.filter _
    have member : (.text s.group, .map (inner s.group)) ∈ groupsOf inner groups :=
      List.mem_filterMap.mpr ⟨s.group, known, by rw [empty]; rfl⟩
    exact inEntries_of_map ((field?_eq_some_iff nodup').mpr member) rfl

theorem group_mem_sectionNames (s : Setting) : s.group ∈ Validation.sectionNames := by
  cases s <;> decide

/-- Settings that are lists have values that are no texts. -/
theorem exists_of_mem_listSettings : ∀ group ∈ Validation.sectionNames, ∀ name ∈ Variables.listSettings group,
    ∃ s : Setting, s.group = group ∧ s.name = name ∧ ∀ env t c, s.check env (.text t) ≠ .valid c := by
  intro group known name listed
  simp only [Validation.sectionNames, List.mem_cons, List.not_mem_nil, or_false] at known
  rcases known with rfl | rfl | rfl <;>
    simp only [Variables.listSettings, List.mem_cons, List.not_mem_nil, or_false] at listed
  · exact ⟨logOutputs, rfl, listed.symm, fun _ _ _ => nofun⟩
  · rcases listed with rfl | rfl
    · exact ⟨schemaSearchDirs, rfl, rfl, fun _ _ _ => nofun⟩
    · exact ⟨fixtureMarkers, rfl, rfl, fun _ _ _ => nofun⟩
  · rcases listed with rfl | rfl
    · exact ⟨reportTypes, rfl, rfl, fun _ _ _ => nofun⟩
    · exact ⟨excludedDirs, rfl, rfl, fun _ _ _ => nofun⟩

theorem exists_of_settings (plain : Variables.Plain env)
    (valid : ∀ (s : Setting) v, s.inVariables env = some v → ∃ c, s.check env v = .valid c) :
    ∃ entries, Variables.settings env = .ok entries ∧ Fits env entries ∧ Neat entries ∧
      (∀ s : Setting, s.inEntries entries = s.inVariables env) ∧ ¬ Deep 2 entries := by
  have readable : ∀ group ∈ Validation.sectionNames, ∀ name ∈ Variables.listSettings group, ∀ text,
      OrderedMap.last? (Variables.nameOf group name) (env.vars.map fun v => (Text.lowered v.1, v.2)) = some text →
        text ≠ "" → (Json.parse? text).isSome = true := by
    intro group known name listed text last _
    obtain ⟨s, rfl, rfl, noText⟩ := exists_of_mem_listSettings group known name listed
    by_contra broken
    have unread : Json.parse? text = none := by simpa using broken
    have said : s.inVariables env = some (.text text) := by
      rw [inVariables, Variables.value?, last, Option.map_some, Variables.valueOf, if_pos listed, unread, Option.getD_none]
    obtain ⟨c, accepted⟩ := valid s _ said
    exact noText env text c accepted
  obtain ⟨inner, ran, tells⟩ := Variables.settings_of_plain plain readable
  have said (s : Setting) : s.inEntries (groupsOf inner Validation.sectionNames) = s.inVariables env := by
    have known := group_mem_sectionNames s
    rw [inEntries_groupsOf (by decide) known, (tells _ known).found, Variables.last?_lowered]
    rfl
  refine ⟨groupsOf inner Validation.sectionNames, ran, ⟨?_, ?_, ?_⟩, ⟨?_, ?_⟩, said, ?_⟩
  · intro e member
    obtain ⟨group, known, rfl⟩ := mem_groupsOf member
    exact ⟨group, known, rfl⟩
  · intro e member
    obtain ⟨group, known, rfl⟩ := mem_groupsOf member
    exact ⟨inner group, rfl⟩
  · intro s v found
    exact valid s v ((said s).symm.trans found)
  · rw [names_groupsOf]
    exact List.Nodup.filter _ (by decide)
  · intro e member inside opened
    obtain ⟨group, known, rfl⟩ := mem_groupsOf member
    cases opened
    exact (tells group known).nodup
  · rintro ⟨k, v, inside, member, opened, k', v', inside', member', opened', -⟩
    obtain ⟨group, known, same⟩ := mem_groupsOf member
    cases same
    cases opened
    obtain ⟨name, rfl⟩ := (tells group known).named _ member'
    have found := (field?_eq_some_iff (tells group known).nodup).mpr member'
    have told := (tells group known).found name
    rw [found, Variables.last?_lowered] at told
    obtain ⟨text, last, value⟩ := Option.map_eq_some_iff.mp told.symm
    by_cases listed : name ∈ Variables.listSettings group
    · obtain ⟨s, rfl, rfl, -⟩ := exists_of_mem_listSettings group known name listed
      obtain ⟨c, accepted⟩ := valid s v' told.symm
      exact not_map_of_check accepted inside' opened'
    · rw [Variables.valueOf, if_neg listed] at value
      rw [← value] at opened'
      cases opened'

/-! ## Checking -/

theorem map_valid {α β : Type} {c : Checked α} {a : α} (g : α → β) (valid : c = .valid a) :
    g <$> c = .valid (g a) := by
  rw [valid]
  rfl

theorem seq_valid {α β : Type} {f : Checked (α → β)} {c : Checked α} {g : α → β} {a : α} (first : f = .valid g)
    (second : c = .valid a) : f <*> c = .valid (g a) := by
  rw [first, second]
  rfl

theorem setting_of_decided {inner : List (Scalar × Value)} {c : s.Content}
    (valid : s.decided env (field? s.name inner) = .valid c) :
    Validation.setting inner s.name (of .initial s) (s.check env) = .valid c := by
  unfold Validation.setting
  cases found : field? s.name inner with
  | none => rwa [found] at valid
  | some v =>
    rw [found] at valid
    show (s.check env v).atPlace _ = _
    rw [show s.check env v = .valid c from valid, Checked.atPlace_valid]

/-- A group is accepted whose settings are, whether it is there or not. -/
theorem setting_of_group {α : Type} {group model : String} {initial made : α} {inner : List (Scalar × Value) → Checked α}
    (fits : Fits env entries) (missing : field? group entries = none → made = initial)
    (there : ∀ es, (∀ s : Setting, s.group = group → s.inEntries entries = field? s.name es) → inner es = .valid made) :
    Validation.setting entries group initial (Validation.group model inner) = .valid made := by
  unfold Validation.setting
  cases found : field? group entries with
  | none => rw [missing found]
  | some v =>
    obtain ⟨es, opened⟩ := fits.maps _ (mem_of_field? found)
    have accepted := there es fun s same => inEntries_of_map (same ▸ found) opened
    simp only [Validation.group, opened, accepted, Checked.atPlace_valid]

theorem closedSettings_of_fits (fits : Fits env entries) :
    ∃ settings, Validation.closedSettings env entries = .valid settings ∧
      ∀ s : Setting, s.decided env (s.inEntries entries) = .valid (of settings s) := by
  have each (s : Setting) : ∃ c, s.decided env (s.inEntries entries) = .valid c := by
    cases found : s.inEntries entries with
    | none => exact ⟨_, rfl⟩
    | some v => exact fits.valid s v found
  choose content accepted using each
  have initially {group : String} (missing : field? group entries = none) (s : Setting) (same : s.group = group) :
      content s = of .initial s := by
    have chosen := accepted s
    rw [inEntries_of_none (same ▸ missing)] at chosen
    exact (Checked.valid.inj chosen).symm
  have inside {es : List (Scalar × Value)} {s : Setting} (same : s.inEntries entries = field? s.name es) :
      Validation.setting es s.name (of .initial s) (s.check env) = .valid (content s) :=
    setting_of_decided (same ▸ accepted s)
  have logging : Validation.setting entries "logging" .initial (Validation.logSettings env) =
      .valid ⟨content logLevel, content logOutputs⟩ := by
    refine setting_of_group fits (fun missing => ?_) fun es same => ?_
    · rw [initially missing logLevel rfl, initially missing logOutputs rfl]
      rfl
    · exact seq_valid (map_valid _ (inside (same logLevel rfl))) (inside (same logOutputs rfl))
  have analysis : Validation.setting entries "analysis" .initial Validation.analysisSettings =
      .valid ⟨content duplicateStrategy, content projectRootMarker, content schemaSearchDirs,
        content schemaFileName, content classFileExtension, content fixtureMarkers⟩ := by
    refine setting_of_group fits (fun missing => ?_) fun es same => ?_
    · rw [initially missing duplicateStrategy rfl, initially missing projectRootMarker rfl,
        initially missing schemaSearchDirs rfl, initially missing schemaFileName rfl,
        initially missing classFileExtension rfl, initially missing fixtureMarkers rfl]
      rfl
    · exact seq_valid (seq_valid (seq_valid (seq_valid (seq_valid (map_valid _
        (inside (same duplicateStrategy rfl))) (inside (same projectRootMarker rfl)))
        (inside (same schemaSearchDirs rfl))) (inside (same schemaFileName rfl)))
        (inside (same classFileExtension rfl))) (inside (same fixtureMarkers rfl))
  have scan : Validation.setting entries "scan" .initial Validation.scanSettings =
      .valid ⟨content reportTypes, content excludedDirs⟩ := by
    refine setting_of_group fits (fun missing => ?_) fun es same => ?_
    · rw [initially missing reportTypes rfl, initially missing excludedDirs rfl]
      rfl
    · exact seq_valid (map_valid _ (inside (same reportTypes rfl))) (inside (same excludedDirs rfl))
  have known : Validation.onlyKnown entries = .valid () := by
    refine Validation.onlyKnown_valid_iff.mpr fun name v member => ?_
    obtain ⟨group, listed, same⟩ := fits.known _ member
    cases same
    exact listed
  have all := seq_valid (seq_valid (map_valid Settings.mk logging) analysis) scan
  refine ⟨⟨⟨content logLevel, content logOutputs⟩, ⟨content duplicateStrategy, content projectRootMarker,
    content schemaSearchDirs, content schemaFileName, content classFileExtension, content fixtureMarkers⟩,
    ⟨content reportTypes, content excludedDirs⟩⟩, ?_, fun s => ?_⟩
  · rw [Validation.closedSettings, Validation.sections, all, known]
    rfl
  · rw [accepted s]
    cases s <;> rfl

/-! ## All sources -/

theorem lowered_of_mem_sectionNames : ∀ group ∈ Validation.sectionNames, Text.lowered group = group := by
  decide +kernel

theorem givenGroups_of_known (known : ∀ e ∈ entries, ∃ group ∈ Validation.sectionNames, e.1 = .text group)
    (nodup : (names entries).Nodup) : givenGroups entries = entries := by
  induction entries using List.reverseRecOn with
  | nil => rfl
  | append_singleton earlier e ih =>
    obtain ⟨k, v⟩ := e
    obtain ⟨group, listed, same⟩ := known (k, v) (by simp)
    cases same
    have whole : names (earlier ++ [(.text group, v)]) = names earlier ++ [group] := List.filterMap_append
    rw [whole] at nodup
    obtain ⟨nodup, -, apart⟩ := List.nodup_append.mp nodup
    have fresh : group ∉ names earlier := fun there => apart group there group (List.mem_singleton_self group) rfl
    have before := ih (fun e member => known e (List.mem_append_left _ member)) nodup
    unfold givenGroups at before ⊢
    rw [List.foldl_append, before, List.foldl_cons, List.foldl_nil]
    simp only [lowered_of_mem_sectionNames group listed, listed, not_true_eq_false, if_false,
      field?_eq_none_iff.mpr fresh, Option.isSome_none, Bool.false_eq_true]
    exact putKey_of_fresh fresh v

theorem own_distinct {fs : FileSystem} {places : SettingsPlaces} (said : places.own fs = .ok entries) :
    (Value.map entries).Distinct := by
  unfold SettingsPlaces.own at said
  split at said
  · split at said
    · cases said
    · cases said
    · exact SettingsFile.read_distinct said
  · exact SettingsFile.read_distinct said

end Setting

open Setting SettingsSource

variable {fs : FileSystem} {env : Environment} {places : SettingsPlaces} {given : List (Scalar × Value)}

/-- Two of what files say and of what is given are nested so deep that there may be no end to merging them. -/
def Bottomless (inGlobal inOwn given : List (Scalar × Value)) : Prop :=
  Deep maxDepth inGlobal ∧ Deep maxDepth inOwn ∨ Deep maxDepth inGlobal ∧ Deep maxDepth given ∨
    Deep maxDepth inOwn ∧ Deep maxDepth given

variable {inGlobal inOwn inVariables all : List (Scalar × Value)}

theorem deep_two {entries : List (Scalar × Value)} (deep : Deep maxDepth entries) : Deep 2 entries := by
  obtain ⟨k, v, inner, member, opened, k', v', inner', member', opened', -⟩ := deep
  exact ⟨k, v, inner, member, opened, k', v', inner', member', opened', trivial⟩

theorem bottomless_of_endless (fromGlobal : SettingsFile.read fs places.globalFile = .ok inGlobal)
    (fromOwn : places.own fs = .ok inOwn) (fromEnv : Variables.settings env = .ok inVariables)
    (shallow : ¬ Deep 2 inVariables) (alike : givenGroups given = given) (endless : Endless fs env places given) :
    Bottomless inGlobal inOwn given := by
  obtain ⟨a, b, inA, inB, apart, fromA, fromB, deepA, deepB⟩ := endless
  have said {source : SettingsSource} {entries : List (Scalar × Value)}
      (told : SettingsSource.entries fs env places given source = .ok entries) (deep : Deep maxDepth entries) :
      source = .globalFile ∧ Deep maxDepth inGlobal ∨ source = .ownFile ∧ Deep maxDepth inOwn ∨
        source = .given ∧ Deep maxDepth given := by
    cases source with
    | globalFile =>
      cases fromGlobal.symm.trans told
      exact .inl ⟨rfl, deep⟩
    | ownFile =>
      cases fromOwn.symm.trans told
      exact .inr (.inl ⟨rfl, deep⟩)
    | environment =>
      cases fromEnv.symm.trans told
      exact absurd (deep_two deep) shallow
    | given =>
      cases told
      rw [alike] at deep
      exact .inr (.inr ⟨rfl, deep⟩)
  unfold Bottomless
  rcases said fromA deepA with ⟨rfl, deep⟩ | ⟨rfl, deep⟩ | ⟨rfl, deep⟩ <;>
    rcases said fromB deepB with ⟨rfl, deep'⟩ | ⟨rfl, deep'⟩ | ⟨rfl, deep'⟩ <;> simp_all

theorem fits_combined (fromGlobal : SettingsFile.read fs places.globalFile = .ok inGlobal)
    (fromOwn : places.own fs = .ok inOwn) (fromEnv : Variables.settings env = .ok inVariables)
    (fitsGlobal : Fits env inGlobal) (fitsOwn : Fits env inOwn) (fitsEnv : Fits env inVariables) (fitsGiven : Fits env given)
    (neatOwn : Neat inOwn) (neatEnv : Neat inVariables) (neatGiven : Neat given)
    (combined : Combined fs env places given all) :
    Fits env all ∧ ∀ s : Setting, s.inEntries all =
      [s.inEntries given, s.inEntries inVariables, s.inEntries inOwn, s.inEntries inGlobal].findSome? id := by
  obtain ⟨fromGlobal', fromOwn', fromEnv', files, others, whole⟩ := combined
  cases fromGlobal.symm.trans fromGlobal'
  cases fromOwn.symm.trans fromOwn'
  cases fromEnv.symm.trans fromEnv'
  rw [givenGroups_of_known fitsGiven.known neatGiven.groups] at others
  have fitsFiles := fits_mergeOpened fitsGlobal fitsOwn neatOwn files
  have fitsOthers := fits_mergeOpened fitsEnv fitsGiven neatGiven others
  have neatOthers := neat_mergeOpened neatEnv neatGiven others
  refine ⟨fits_mergeOpened fitsFiles fitsOthers neatOthers whole, fun s => ?_⟩
  rw [inEntries_mergeOpened s fitsFiles fitsOthers neatOthers whole,
    inEntries_mergeOpened s fitsEnv fitsGiven neatGiven others,
    inEntries_mergeOpened s fitsGlobal fitsOwn neatOwn files]
  cases s.inEntries given <;> cases s.inEntries inVariables <;> cases s.inEntries inOwn <;>
    cases s.inEntries inGlobal <;> rfl

/-- Settings that are accepted wherever they stand become one, unless there is no end to merging them. Each
setting is as the strongest source says that speaks about it, and as it is initially if none does. -/
theorem loadSettings_decided
    (fromGlobal : SettingsFile.read fs places.globalFile = .ok inGlobal) (fromOwn : places.own fs = .ok inOwn)
    (fitsGlobal : Fits env inGlobal) (fitsOwn : Fits env inOwn) (fitsGiven : Fits env given)
    (distinct : (Value.map given).Distinct) (plain : Variables.Plain env)
    (valid : ∀ (s : Setting) v, s.inVariables env = some v → ∃ c, s.check env v = .valid c) :
    (∃ settings, loadSettings fs env places given = .ok settings ∧ ∀ s : Setting,
      s.decided env ([s.inEntries given, s.inVariables env, s.inEntries inOwn, s.inEntries inGlobal].findSome? id) =
        .valid (of settings s)) ∨
      loadSettings fs env places given = .error .tooDeep ∧ Bottomless inGlobal inOwn given := by
  obtain ⟨inVariables, fromEnv, fitsEnv, neatEnv, told, shallow⟩ := exists_of_settings plain valid
  have neatGlobal := neat_of_distinct (SettingsFile.read_distinct fromGlobal)
  have neatOwn := neat_of_distinct (own_distinct fromOwn)
  have neatGiven := neat_of_distinct distinct
  have alike := givenGroups_of_known fitsGiven.known neatGiven.groups
  have combined_fits {all : List (Scalar × Value)} (combined : Combined fs env places given all) :=
    fits_combined fromGlobal fromOwn fromEnv fitsGlobal fitsOwn fitsEnv fitsGiven neatOwn neatEnv neatGiven combined
  have ends := ends_loadSettings fs env places given
  generalize loadSettings fs env places given = result at ends
  cases ends with
  | @refused source f fails =>
    cases source with
    | globalFile => cases fromGlobal.symm.trans fails
    | ownFile => cases fromOwn.symm.trans fails
    | environment => cases fromEnv.symm.trans fails
    | given => cases fails
  | endless deep => exact .inr ⟨rfl, bottomless_of_endless fromGlobal fromOwn fromEnv shallow alike deep⟩
  | oddKey combined member odd =>
    obtain ⟨group, -, named⟩ := (combined_fits combined).1.known _ member
    rw [isTextKey, named] at odd
    cases odd
  | checked combined named =>
    obtain ⟨fits, decides⟩ := combined_fits combined
    obtain ⟨settings, accepted, each⟩ := closedSettings_of_fits fits
    refine .inl ⟨settings, by rw [accepted]; rfl, fun s => ?_⟩
    rw [← told, ← decides]
    exact each s

/-! ## Two files -/

/-- A file for the user, and one that is named in place of the file for the tree. -/
def twoFiles : SettingsPlaces := ⟨.ofText "/g", .ofText "/", some (.ofText "/o")⟩

def diskOf (user tree : List UInt8) : FileSystem := ⟨.directory [("g", .file user), ("o", .file tree)], []⟩

section

variable {user tree : List UInt8} {v : Value} {entries : List (Scalar × Value)}

theorem read_diskOf (loaded : Yaml.load (.ofBytes user) = .ok v) (opened : v.opened = .map entries) :
    SettingsFile.read (diskOf user tree) twoFiles.globalFile = .ok entries := by
  have there : (diskOf user tree).hasEntry twoFiles.globalFile.text = .ok true := by cbv
  have holds : (diskOf user tree).read twoFiles.globalFile.text = .ok user := by cbv
  exact SettingsFile.read_of_load there holds loaded opened

theorem own_diskOf (loaded : Yaml.load (.ofBytes tree) = .ok v) (opened : v.opened = .map entries) :
    twoFiles.own (diskOf user tree) = .ok entries := by
  have there : (diskOf user tree).hasEntry (Path.ofText "/o").text = .ok true := by cbv
  have holds : (diskOf user tree).read (Path.ofText "/o").text = .ok tree := by cbv
  rw [SettingsPlaces.own_of_named rfl there]
  exact SettingsFile.read_of_load there holds loaded opened

end

/-- Types and a directory to leave out, for all trees. -/
def userText : List UInt8 := "scan: {report_types: [di], excluded_dirs: [a]}".toUTF8.toList

/-- Another directory to leave out. -/
def treeText : List UInt8 := "scan: {excluded_dirs: [b]}".toUTF8.toList

def quietVariables : Environment := ⟨[("BUMPCHECK__LOGGING__LEVEL", "ERROR")], []⟩

def userEntries : List (Scalar × Value) :=
  [(.text "scan", .map [(.text "report_types", .list [.text "di"]), (.text "excluded_dirs", .list [.text "a"])])]

def treeEntries : List (Scalar × Value) := [(.text "scan", .map [(.text "excluded_dirs", .list [.text "b"])])]

def givenTypes : List (Scalar × Value) := [(.text "scan", .map [(.text "report_types", .list [.text "system"])])]

theorem load_userText : Yaml.load (.ofBytes userText) = .ok (.map userEntries) := by decide +kernel

theorem load_treeText : Yaml.load (.ofBytes treeText) = .ok (.map treeEntries) := by decide +kernel

theorem fits_userEntries : Fits env userEntries where
  known := by simp [userEntries, Validation.sectionNames]
  maps := by simp [userEntries, Value.opened]
  valid s v found := by
    cases s <;> cases found
    · exact ⟨_, rfl⟩
    · exact ⟨_, rfl⟩

theorem fits_treeEntries : Fits env treeEntries where
  known := by simp [treeEntries, Validation.sectionNames]
  maps := by simp [treeEntries, Value.opened]
  valid s v found := by
    cases s <;> cases found
    exact ⟨_, rfl⟩

theorem fits_givenTypes : Fits env givenTypes where
  known := by simp [givenTypes, Validation.sectionNames]
  maps := by simp [givenTypes, Value.opened]
  valid s v found := by
    cases s <;> cases found
    exact ⟨_, rfl⟩

theorem lowered_quiet : Text.lowered "BUMPCHECK__LOGGING__LEVEL" = Variables.nameOf "logging" "level" := by
  decide +kernel

theorem plain_quietVariables : Variables.Plain quietVariables where
  noGroup v member group known := by
    cases List.mem_singleton.mp member
    rw [lowered_quiet]
    exact (by decide : ∀ group ∈ Validation.sectionNames,
      Variables.nameOf "logging" "level" ≠ Variables.front ++ group) group known
  oneName v member group known name named := by
    cases List.mem_singleton.mp member
    rw [lowered_quiet] at named
    by_cases same : group = "logging"
    · subst same
      rw [← Variables.nameOf_injective named]
      decide
    · have apart : ∀ group ∈ Validation.sectionNames, group ≠ "logging" →
          (Variables.front ++ group ++ "__").toList.isPrefixOf (Variables.nameOf "logging" "level").toList = false := by
        decide
      have starts := List.prefix_append (Variables.front ++ group ++ "__").toList name.toList
      rw [← Variables.toList_nameOf, ← named, ← List.isPrefixOf_iff_prefix, apart group known same] at starts
      cases starts

theorem inVariables_quiet (s : Setting) : s.inVariables quietVariables =
    (if s = logLevel then some "ERROR" else none).map (Variables.valueOf s.group s.name) := by
  have last : OrderedMap.last? (Variables.nameOf s.group s.name) [(Variables.nameOf "logging" "level", "ERROR")] =
      if s = logLevel then some "ERROR" else none := by
    cases s <;> decide
  rw [← last, ← lowered_quiet]
  rfl

theorem valid_quietVariables (s : Setting) (v : Value) (said : s.inVariables quietVariables = some v) :
    ∃ c, s.check quietVariables v = .valid c := by
  rw [inVariables_quiet] at said
  split at said
  · next same =>
    subst same
    cases said
    exact ⟨_, rfl⟩
  · cases said

theorem distinct_givenTypes : (Value.map givenTypes).Distinct := by
  simp [givenTypes, Value.Distinct, Value.DistinctEntries, Value.DistinctItems, names, Scalar.text?]

theorem not_deep_userEntries : ¬ Deep maxDepth userEntries := by
  intro deep
  obtain ⟨_, _, _, member, opened, _, _, _, member', opened', -⟩ := deep_two deep
  cases List.mem_singleton.mp member
  cases opened
  simp only [List.mem_cons, List.not_mem_nil, or_false, Prod.mk.injEq] at member'
  rcases member' with ⟨-, rfl⟩ | ⟨-, rfl⟩ <;> cases opened'

theorem not_deep_treeEntries : ¬ Deep maxDepth treeEntries := by
  intro deep
  obtain ⟨_, _, _, member, opened, _, _, _, member', opened', -⟩ := deep_two deep
  cases List.mem_singleton.mp member
  cases opened
  cases List.mem_singleton.mp member'
  cases opened'

/-- The types are as given, the directories as in the file that is named, the level as in the variable, and
the rest as it is initially. -/
theorem loadSettings_decided_layered : ∃ settings,
    loadSettings (diskOf userText treeText) quietVariables twoFiles givenTypes = .ok settings ∧
      of settings reportTypes = [.system] ∧ of settings excludedDirs = ["b"] ∧ of settings logLevel = .error ∧
      of settings fixtureMarkers = of .initial fixtureMarkers := by
  rcases loadSettings_decided (read_diskOf load_userText rfl) (own_diskOf load_treeText rfl) fits_userEntries
    fits_treeEntries fits_givenTypes distinct_givenTypes plain_quietVariables valid_quietVariables with
    ⟨settings, loaded, decides⟩ | ⟨-, bottomless⟩
  · simp only [inVariables_quiet] at decides
    exact ⟨settings, loaded, (Checked.valid.inj (decides reportTypes)).symm,
      (Checked.valid.inj (decides excludedDirs)).symm, (Checked.valid.inj (decides logLevel)).symm,
      (Checked.valid.inj (decides fixtureMarkers)).symm⟩
  · rcases bottomless with ⟨deep, -⟩ | ⟨deep, -⟩ | ⟨deep, -⟩
    · exact absurd deep not_deep_userEntries
    · exact absurd deep not_deep_userEntries
    · exact absurd deep not_deep_treeEntries

/-! ## No end -/

/-- A group that holds itself under a name that is no setting. -/
def selfText : List UInt8 := "scan: &s\n  more: *s\n".toUTF8.toList

def selfHolder : Value := .loop 2 (.map [(.text "more", .again 2)])

theorem opened_selfHolder : selfHolder.opened = .map [(.text "more", selfHolder)] := by
  simp [selfHolder, Value.opened, Value.fill, Value.fillEntries]

theorem load_selfText : Yaml.load (.ofBytes selfText) = .ok (.map [(.text "scan", selfHolder)]) := by decide +kernel

/-- There is no end to merging what holds itself with itself. -/
theorem mergeOpened_self {v : Value} {name : String} (opened : v.opened = .map [(.text name, v)]) (group : String)
    (depth : Nat) : mergeOpened depth [(.text group, v)] [(.text group, v)] = none := by
  induction depth generalizing group with
  | zero => rfl
  | succ depth ih =>
    have inside : mergedValue depth (some v) v = none := by
      rw [mergedValue_of_maps (by rw [Option.map_some, opened]) opened, ih name]
      rfl
    have found : valueAt? (.text group) [(.text group, v)] = some v := if_pos (sameKey_refl _)
    rw [mergeOpened_succ, putEach, List.foldlM_cons, found, inside]
    rfl

theorem fits_selfHolder : Fits env [(.text "scan", selfHolder)] where
  known := by simp [Validation.sectionNames]
  maps := by simp [opened_selfHolder]
  valid s v found := by
    rw [inEntries, field?] at found
    cases s <;> simp [field?, Setting.group, opened_selfHolder, Setting.name] at found

/-- Two files are accepted in all they say about settings, but there is no end to merging them. -/
theorem endless_files :
    SettingsFile.read (diskOf selfText selfText) twoFiles.globalFile = .ok [(.text "scan", selfHolder)] ∧
      twoFiles.own (diskOf selfText selfText) = .ok [(.text "scan", selfHolder)] ∧
      Fits ⟨[], []⟩ [(.text "scan", selfHolder)] ∧
      loadSettings (diskOf selfText selfText) ⟨[], []⟩ twoFiles [] = .error .tooDeep := by
  have fromGlobal : SettingsFile.read (diskOf selfText selfText) twoFiles.globalFile = .ok [(.text "scan", selfHolder)] :=
    read_diskOf load_selfText rfl
  have fromOwn : twoFiles.own (diskOf selfText selfText) = .ok [(.text "scan", selfHolder)] :=
    own_diskOf load_selfText rfl
  have endless : mergeSources [(.text "scan", selfHolder)] [(.text "scan", selfHolder)] = .error .tooDeep := by
    rw [mergeSources, mergeOpened_self opened_selfHolder]
  refine ⟨fromGlobal, fromOwn, fits_selfHolder, ?_⟩
  rw [loadSettings, SettingsPlaces.entries_eq, fromOwn, fromGlobal]
  simp only [bind, Except.bind, endless]

end ReleaseImpact
