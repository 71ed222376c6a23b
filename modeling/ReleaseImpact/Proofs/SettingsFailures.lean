import ReleaseImpact.Proofs.SettingVariables
import ReleaseImpact.Proofs.SettingsSources
import Mathlib

/-!
Settings that cannot be had. Some problems are reported under numbers of their own, others end the run
as they come. Main statements:

- `Checked.FailsBy.seq`: a check of several parts fails only as its parts do.
- `Validation.failsBy_closedSettings`: a check of settings fails by destinations of the log alone.
- `Variables.notJson_of_settings`: variables are refused only if they are to be JSON and are not.
- `loadSettings_explained`: every way in which settings can be refused.
-/

namespace ReleaseImpact

/-- The kinds of problems with settings. -/
def Code.ofSettings : List Code := [configParseError, configInvalidValue, configFileNotFound]

theorem Code.startsWith_name_iff {c : Code} :
    Text.startsWith c.name "CONFIG_" = true ↔ c ∈ ofSettings := by cases c <;> decide

namespace Checked

variable {α β : Type} {sort sort' : Failure → Prop}

/-- A check that finds fault tells of one, and a check that fails does so in ways of one sort. -/
def FailsBy (sort : Failure → Prop) : Checked α → Prop
  | valid _ => True
  | faulty faults => faults ≠ []
  | failed f => sort f

theorem FailsBy.map {c : Checked α} (only : c.FailsBy sort) (g : α → β) : (c.map g).FailsBy sort := by
  cases c <;> exact only

theorem FailsBy.pair {c : Checked α} {d : Checked β} (first : c.FailsBy sort) (second : d.FailsBy sort) :
    (c.pair d).FailsBy sort := by
  cases c with
  | valid a => cases d <;> exact second
  | failed f => exact first
  | faulty faults =>
    cases d with
    | valid b => exact first
    | failed f => exact second
    | faulty more => exact List.append_ne_nil_of_left_ne_nil first more

theorem FailsBy.seq {g : Checked (α → β)} {c : Checked α} (first : g.FailsBy sort) (second : c.FailsBy sort) :
    (g <*> c).FailsBy sort := (first.pair second).map _

theorem FailsBy.atPlace {c : Checked α} (only : c.FailsBy sort) (place : Place) : (c.atPlace place).FailsBy sort := by
  cases c with
  | faulty faults => exact fun none => only (List.map_eq_nil_iff.mp none)
  | _ => exact only

theorem FailsBy.items {check : Value → Checked α} {items : List Value} (only : ∀ v ∈ items, (check v).FailsBy sort)
    (first : Nat) : (Checked.items check first items).FailsBy sort := by
  induction items generalizing first with
  | nil => trivial
  | cons v rest ih =>
    obtain ⟨here, later⟩ := List.forall_mem_cons.mp only
    exact ((here.atPlace _).pair (ih later _)).map _

end Checked

/-- The items of a value that counts as a list. -/
def Value.items (v : Value) : List Value :=
  match v.opened with
  | .list items => items
  | .tuple items => items
  | .set items => items.map .scalar
  | _ => []

namespace Environment

theorem expandHome_fails {env : Environment} {p : Path} {f : Failure} (fails : env.expandHome p = .error f) :
    f = .fileFault .containsNul ∨ ∃ name, f = .unknownUser name := by
  unfold expandHome at fails
  split at fails
  · dsimp only at fails
    split at fails
    · cases fails
      exact .inl rfl
    · split at fails
      · split at fails <;> cases fails
        exact .inr ⟨_, rfl⟩
      · cases fails
        exact .inr ⟨_, rfl⟩
  · cases fails

end Environment

namespace Validation

open Checked

variable {α : Type} {env : Environment} {sort : Failure → Prop} {v : Value} {entries all : List (Scalar × Value)}

theorem failsBy_fault (kind message : String) (input : Value) :
    (fault kind message input : Checked α).FailsBy sort := List.cons_ne_nil _ _

theorem failsBy_text (v : Value) : (text v).FailsBy sort := by
  unfold text
  split
  · trivial
  · split
    · trivial
    · exact failsBy_fault _ _ _
  · exact failsBy_fault _ _ _

theorem failsBy_choice (name : α → String) (all : List α) (v : Value) : (choice name all v).FailsBy sort := by
  unfold choice
  dsimp only
  split
  · trivial
  · exact failsBy_fault _ _ _

theorem failsBy_checkedText {check : String → Except Failure (Except String String)}
    (only : ∀ s f, text v = .valid s → check s = .error f → sort f) : (checkedText check v).FailsBy sort := by
  have texts : (text v).FailsBy sort := failsBy_text v
  unfold checkedText
  split
  · next s valid =>
    split
    · trivial
    · exact failsBy_fault _ _ _
    · next f fails => exact only s f valid fails
  · exact texts

theorem failsBy_list {check : Value → Checked α} (only : ∀ item ∈ v.items, (check item).FailsBy sort) :
    (list check v).FailsBy sort := by
  unfold list
  split
  · next opened => exact .items (by simpa [Value.items, opened] using only) 0
  · next opened => exact .items (by simpa [Value.items, opened] using only) 0
  · next opened => exact .items (by simpa [Value.items, opened] using only) 0
  · exact failsBy_fault _ _ _

theorem failsBy_setting {check : Value → Checked α} (name : String) (initial : α)
    (only : ∀ v, field? name entries = some v → (check v).FailsBy sort) :
    (setting entries name initial check).FailsBy sort := by
  unfold setting
  split
  · trivial
  · next v found => exact (only v found).atPlace _

theorem failsBy_group {check : List (Scalar × Value) → Checked α} (model : String)
    (only : ∀ entries, v.opened = .map entries → (check entries).FailsBy sort) : (group model check v).FailsBy sort := by
  unfold group
  split
  · next entries opened => exact only entries opened
  · exact failsBy_fault _ _ _

theorem failsBy_level (v : Value) : (level v).FailsBy sort := failsBy_choice _ _ v

theorem failsBy_optionalLevel (v : Value) : (optionalLevel v).FailsBy sort := by
  unfold optionalLevel
  split
  · trivial
  · exact (failsBy_level v).map _

theorem failsBy_fileExtension (v : Value) : (fileExtension v).FailsBy sort := by
  refine failsBy_checkedText fun s f _ fails => ?_
  split at fails <;> cases fails

theorem failsBy_destination (only : ∀ s name, text v = .valid s →
    env.expandHome (.ofText s) = .error (.unknownUser name) → sort (.unknownUser name)) :
    (destination env v).FailsBy sort := by
  refine failsBy_checkedText fun s f valid fails => ?_
  unfold destinationOf at fails
  split at fails
  · cases fails
  · split at fails
    · cases fails
    · next f' other expands =>
      cases fails
      rcases Environment.expandHome_fails expands with rfl | ⟨name, rfl⟩
      · exact (other rfl).elim
      · exact only s name valid expands
    · split at fails <;> cases fails

theorem failsBy_analysisSettings (v : Value) : (analysisSettings v).FailsBy sort := by
  refine failsBy_group _ fun entries _ => ?_
  refine .seq (.seq (.seq (.seq (.seq (.map ?_ _) ?_) ?_) ?_) ?_) ?_
  · exact failsBy_setting _ _ fun v _ => failsBy_choice _ _ v
  · exact failsBy_setting _ _ fun v _ => failsBy_text v
  · exact failsBy_setting _ _ fun v _ => failsBy_list fun item _ => failsBy_text item
  · exact failsBy_setting _ _ fun v _ => failsBy_text v
  · exact failsBy_setting _ _ fun v _ => failsBy_fileExtension v
  · exact failsBy_setting _ _ fun v _ => failsBy_list fun item _ => failsBy_text item

theorem failsBy_scanSettings (v : Value) : (scanSettings v).FailsBy sort := by
  refine failsBy_group _ fun entries _ => .seq (.map ?_ _) ?_
  · exact failsBy_setting _ _ fun v _ => failsBy_list fun item _ => failsBy_choice _ _ item
  · exact failsBy_setting _ _ fun v _ => failsBy_list fun item _ => failsBy_text item

/-- A destination of the log that is below the home directory of a user who has none. -/
inductive Homeless (env : Environment) (all : List (Scalar × Value)) : String → Prop
  | intro {logging outputs output destination : Value} {inLogging inOutput : List (Scalar × Value)} {s name : String}
      (logs : field? "logging" all = some logging) (opened : logging.opened = .map inLogging)
      (listed : field? "outputs" inLogging = some outputs) (member : output ∈ outputs.items)
      (opened' : output.opened = .map inOutput) (leads : field? "destination" inOutput = some destination)
      (written : text destination = .valid s) (lost : env.expandHome (.ofText s) = .error (.unknownUser name)) :
      Homeless env all name

theorem failsBy_closedSettings (env : Environment) (all : List (Scalar × Value)) :
    (closedSettings env all).FailsBy fun f => ∃ name, f = .unknownUser name ∧ Homeless env all name := by
  have unknown : (onlyKnown all).FailsBy fun f => ∃ name, f = .unknownUser name ∧ Homeless env all name := by
    unfold onlyKnown
    dsimp only
    split
    · trivial
    · next some => exact fun none => some (List.isEmpty_iff.mpr none)
  refine .map (.pair (.seq (.seq (.map ?_ _) ?_) ?_) unknown) _
  · refine failsBy_setting _ _ fun logging logs => failsBy_group _ fun inLogging opened => .seq (.map ?_ _) ?_
    · exact failsBy_setting _ _ fun v _ => failsBy_level v
    · refine failsBy_setting _ _ fun outputs listed => failsBy_list fun output member => ?_
      refine failsBy_group _ fun inOutput opened' => .seq (.seq (.map ?_ _) ?_) ?_
      · exact failsBy_setting _ _ fun v _ => failsBy_choice _ _ v
      · refine failsBy_setting _ _ fun destination leads => failsBy_destination fun s name written lost => ?_
        exact ⟨name, rfl, logs, opened, listed, member, opened', leads, written, lost⟩
      · exact failsBy_setting _ _ fun v _ => failsBy_optionalLevel v
  · exact failsBy_setting _ _ fun v _ => failsBy_analysisSettings v
  · exact failsBy_setting _ _ fun v _ => failsBy_scanSettings v

end Validation

/-! ## Variables -/

theorem bind_eq_error_iff {α β : Type} {t : Except Failure α} {next : α → Except Failure β} {f : Failure} :
    t >>= next = .error f ↔ t = .error f ∨ ∃ a, t = .ok a ∧ next a = .error f := by
  cases t <;> simp [bind, Except.bind]

theorem exists_of_foldlM_eq_error {α β : Type} {step : β → α → Except Failure β} {items : List α} {start : β}
    {f : Failure} (fails : items.foldlM step start = .error f) : ∃ a ∈ items, ∃ b, step b a = .error f := by
  induction items generalizing start with
  | nil => cases fails
  | cons a rest ih =>
    rw [List.foldlM_cons] at fails
    rcases bind_eq_error_iff.mp fails with here | ⟨next, -, later⟩
    · exact ⟨a, List.mem_cons_self, start, here⟩
    · obtain ⟨a', member, b, fails⟩ := ih later
      exact ⟨a', List.mem_cons_of_mem _ member, b, fails⟩

namespace Variables

variable {env : Environment} {group : String} {f : Failure} {vars : List (String × String)}

/-- A variable that is to be JSON is not: one for a whole group, or one for a setting that is a list. -/
inductive NotJson (env : Environment) : Failure → Prop
  | group {v : String × String} {group : String} (member : v ∈ env.vars) (known : group ∈ Validation.sectionNames)
      (named : Text.lowered v.1 = front ++ group) (broken : Json.parse? v.2 = none) : NotJson env (.settingNotJson group)
  | list {v : String × String} {group name : String} (member : v ∈ env.vars) (listed : name ∈ listSettings group)
      (named : Text.lowered v.1 = nameOf group name) (broken : Json.parse? v.2 = none) :
      NotJson env (.settingNotJson name)

theorem parts_ne_nil (cs : List Char) : parts cs ≠ [] := by
  fun_induction parts cs <;> exact List.cons_ne_nil _ _

theorem eq_of_parts_singleton {cs p : List Char} (single : parts cs = [p]) : p = cs := by
  fun_induction parts cs generalizing p with
  | case1 => simpa [eq_comm] using single
  | case2 rest ih => exact absurd (List.cons.inj single).2 (parts_ne_nil rest)
  | case3 c rest _ none ih => exact absurd none (parts_ne_nil rest)
  | case4 c rest _ p' ps found ih =>
    obtain ⟨rfl, rfl⟩ := List.cons.inj single
    rw [ih found]

theorem json_fails {name text : String} (fails : json name text = .error f) :
    f = .settingNotJson name ∧ Json.parse? text = none := by
  unfold json at fails
  split at fails
  · cases fails
  · next broken =>
    cases fails
    exact ⟨rfl, broken⟩

theorem single_fails {names : List String} {text : String} (fails : single group names text = .error f) :
    ∃ name ∈ listSettings group, names = [name] ∧ f = .settingNotJson name ∧ Json.parse? text = none := by
  unfold single at fails
  split at fails
  · next name =>
    split at fails
    · next listed => exact ⟨name, listed.1, rfl, json_fails fails⟩
    · cases fails
  · cases fails

theorem notJson_of_singles (fails : singles group (lowered env) = .error f) : NotJson env f := by
  obtain ⟨e, member, m, fails⟩ := exists_of_foldlM_eq_error fails
  obtain ⟨v, there, named, same⟩ := exists_of_mem_lowered member
  split at fails
  · next starts =>
    rcases bind_eq_error_iff.mp fails with refused | ⟨value, -, placed⟩
    · obtain ⟨name, listed, one, rfl, broken⟩ := single_fails refused
      obtain ⟨p, parted, rfl⟩ := List.map_eq_singleton_iff.mp one
      obtain ⟨rest, whole⟩ := List.isPrefixOf_iff_prefix.mp starts
      have last : p = rest := by rw [eq_of_parts_singleton parted, ← whole, List.drop_left]
      refine .list there listed ?_ (same ▸ broken)
      rw [named, ← String.toList_inj, toList_nameOf, String.toList_ofList, last, whole]
    · cases placed
  · cases fails

theorem notJson_of_groupValue (known : group ∈ Validation.sectionNames)
    (fails : groupValue (lowered env) group = .error f) : NotJson env f := by
  unfold groupValue at fails
  split at fails
  · rcases bind_eq_error_iff.mp fails with refused | ⟨entries, -, made⟩
    · exact notJson_of_singles refused
    · cases made
  · next text found =>
    obtain ⟨e, first, rfl⟩ := Option.map_eq_some_iff.mp found
    obtain ⟨v, there, named, same⟩ := exists_of_mem_lowered (List.mem_of_find?_eq_some first)
    have isGroup : e.1 = front ++ group := by simpa using List.find?_some first
    rcases bind_eq_error_iff.mp fails with refused | ⟨value, -, made⟩
    · obtain ⟨rfl, broken⟩ := json_fails refused
      exact .group there known (named.trans isGroup) (same ▸ broken)
    · split at made
      · rcases bind_eq_error_iff.mp made with refused | ⟨entries, -, made⟩
        · exact notJson_of_singles refused
        · cases made
      · cases made
      · cases made

theorem notJson_of_settings (fails : settings env = .error f) : NotJson env f := by
  obtain ⟨group, known, m, fails⟩ := exists_of_foldlM_eq_error fails
  rcases bind_eq_error_iff.mp fails with refused | ⟨value, -, made⟩
  · exact notJson_of_groupValue known refused
  · split at made <;> cases made

end Variables

/-! ## All sources -/

namespace SettingsFile

variable {fs : FileSystem} {path : Path} {f : Failure}

theorem read_fails (fails : read fs path = .error f) :
    (∃ fault, (fs.hasEntry path.text = .error fault ∨ fs.read path.text = .error fault) ∧ f = .fileFault fault) ∨
      ∃ bytes, fs.read path.text = .ok bytes ∧
        ((∃ fault, Yaml.load (.ofBytes bytes) = .error fault ∧ f = failureOf path.text fault) ∨
          f = .problem (.unparsable path.text notMapping)) := by
  unfold read at fails
  split at fails
  · next fault asked =>
    cases fails
    exact .inl ⟨fault, .inl asked, rfl⟩
  · cases fails
  · split at fails
    · next bytes opened =>
      refine .inr ⟨bytes, opened, ?_⟩
      unfold parse at fails
      split at fails
      · next fault loaded =>
        cases fails
        cases load : Yaml.load (.ofBytes bytes) with
        | error fault' =>
          rw [load] at loaded
          cases loaded
          exact .inl ⟨fault, rfl, rfl⟩
        | ok v =>
          rw [load] at loaded
          cases loaded
      · cases fails
      · split at fails
        · cases fails
        · cases fails
          exact .inr rfl
    · next fault opened =>
      cases fails
      exact .inl ⟨fault, .inr opened, rfl⟩

end SettingsFile

variable (fs : FileSystem) (env : Environment) (places : SettingsPlaces) (given : List (Scalar × Value))

/-- What ends a run without a report. -/
inductive Unreported : Failure → Prop
  | unreadable {path : Path} {fault : PathFault} (looked : path = places.globalFile ∨ path = places.ownFile)
      (fails : fs.hasEntry path.text = .error fault ∨ fs.read path.text = .error fault) :
      Unreported (.fileFault fault)
  | senseless {path : Path} {bytes : List UInt8} {fault : Yaml.Fault}
      (looked : path = places.globalFile ∨ path = places.ownFile) (opened : fs.read path.text = .ok bytes)
      (fails : Yaml.load (.ofBytes bytes) = .error fault) (grave : fault ≠ .malformed ∧ fault ≠ .unfinished) :
      Unreported (SettingsFile.failureOf path.text fault)
  | notJson {f : Failure} (fails : Variables.NotJson env f) : Unreported f
  | endless (deep : SettingsSource.Endless fs env places given) : Unreported .tooDeep
  | oddKey {source : SettingsSource} {entries : List (Scalar × Value)} {e : Scalar × Value}
      (told : source.entries fs env places given = .ok entries) (member : e ∈ entries) (odd : isTextKey e = false) :
      Unreported .keyNotText
  | homeless {all : List (Scalar × Value)} {name : String} (combined : SettingsSource.Combined fs env places given all)
      (lost : Validation.Homeless env all name) : Unreported (.unknownUser name)
  | longNumeral {all : List (Scalar × Value)} {fault : FieldFault} {more : List FieldFault}
      (combined : SettingsSource.Combined fs env places given all)
      (refused : Validation.closedSettings env all = .faulty (fault :: more)) (long : fault.input.canDisplay = false) :
      Unreported .longNumeral

/-- A failure is reported under a number for settings, or one of the things above is the matter. -/
def Explained (f : Failure) : Prop :=
  (∃ p, f = .problem p ∧ Text.startsWith p.code.name "CONFIG_" = true) ∨ Unreported fs env places given f

variable {fs env places given}

theorem explained_of_read {path : Path} {f : Failure} (looked : path = places.globalFile ∨ path = places.ownFile)
    (fails : SettingsFile.read fs path = .error f) : Explained fs env places given f := by
  rcases SettingsFile.read_fails fails with ⟨fault, refused, rfl⟩ | ⟨bytes, opened, ⟨fault, load, rfl⟩ | rfl⟩
  · exact .inr (.unreadable looked refused)
  · by_cases grave : fault ≠ .malformed ∧ fault ≠ .unfinished
    · exact .inr (.senseless looked opened load grave)
    · rcases not_and_or.mp grave with malformed | unfinished
      · rw [not_not.mp malformed]
        exact .inl ⟨_, rfl, Code.startsWith_name_iff.mpr (.head _)⟩
      · rw [not_not.mp unfinished]
        exact .inl ⟨_, rfl, Code.startsWith_name_iff.mpr (.head _)⟩
  · exact .inl ⟨_, rfl, Code.startsWith_name_iff.mpr (.head _)⟩

theorem explained_of_own {f : Failure} (fails : places.own fs = .error f) : Explained fs env places given f := by
  unfold SettingsPlaces.own at fails
  split at fails
  · next file named =>
    have own : places.ownFile = file := by rw [SettingsPlaces.ownFile, named, Option.getD_some]
    split at fails
    · next fault asked =>
      cases fails
      exact .inr (.unreadable (.inr rfl) (.inl (own ▸ asked)))
    · cases fails
      exact .inl ⟨_, rfl, Code.startsWith_name_iff.mpr (.tail _ (.tail _ (.head _)))⟩
    · exact explained_of_read (.inr own.symm) fails
  · next unnamed =>
    have own : places.ownFile = places.tree.below [SettingsFile.name] := by
      rw [SettingsPlaces.ownFile, unnamed, Option.getD_none]
    exact explained_of_read (.inr own.symm) fails

theorem explained_of_entries {source : SettingsSource} {f : Failure}
    (fails : source.entries fs env places given = .error f) : Explained fs env places given f := by
  cases source with
  | globalFile => exact explained_of_read (.inl rfl) fails
  | ownFile => exact explained_of_own fails
  | environment => exact .inr (.notJson (Variables.notJson_of_settings fails))
  | given => cases fails

theorem SettingsSource.Combined.exists_of_mem {all : List (Scalar × Value)} {e : Scalar × Value}
    (combined : Combined fs env places given all) (member : e ∈ all) :
    ∃ source entries v, SettingsSource.entries fs env places given source = .ok entries ∧ (e.1, v) ∈ entries := by
  obtain ⟨fromGlobal, fromOwn, fromEnv, files, others, whole⟩ := combined
  rcases key_of_mem_mergeOpened whole member with ⟨v, inFiles⟩ | ⟨v, inOthers⟩
  · rcases key_of_mem_mergeOpened files inFiles with ⟨v, there⟩ | ⟨v, there⟩
    · exact ⟨.globalFile, _, v, fromGlobal, there⟩
    · exact ⟨.ownFile, _, v, fromOwn, there⟩
  · rcases key_of_mem_mergeOpened others inOthers with ⟨v, there⟩ | ⟨v, there⟩
    · exact ⟨.environment, _, v, fromEnv, there⟩
    · exact ⟨.given, _, v, rfl, there⟩

theorem explained_of_checked {all : List (Scalar × Value)} {f : Failure}
    (combined : SettingsSource.Combined fs env places given all)
    (fails : settingsOfChecked (Validation.closedSettings env all) = .error f) : Explained fs env places given f := by
  have only := Validation.failsBy_closedSettings env all
  cases checked : Validation.closedSettings env all with
  | valid s =>
    rw [checked] at fails
    cases fails
  | failed f' =>
    rw [checked] at fails only
    cases fails
    obtain ⟨name, rfl, lost⟩ := only
    exact .inr (.homeless combined lost)
  | faulty faults =>
    cases faults with
    | nil =>
      rw [checked] at only
      exact absurd rfl only
    | cons fault more =>
      rw [checked] at fails
      cases long : fault.input.canDisplay with
      | true =>
        simp only [settingsOfChecked, long, if_true] at fails
        cases fails
        exact .inl ⟨_, rfl, Code.startsWith_name_iff.mpr (.tail _ (.head _))⟩
      | false =>
        simp only [settingsOfChecked, long, Bool.false_eq_true, if_false] at fails
        cases fails
        exact .inr (.longNumeral combined checked long)

def smallPlaces : SettingsPlaces := ⟨.ofText "/g", .ofText "/", none⟩

/-- A log that goes to the home directory of a user who is not there. -/
def homelessLog : List (Scalar × Value) :=
  [(.text "logging", .record [("outputs", .list [.record [("destination", .text "~x")]])])]

end ReleaseImpact
