import ReleaseImpact.Proofs.BreakingChanges
import ReleaseImpact.Proofs.Ledger
import ReleaseImpact.Proofs.Questions
import ReleaseImpact.Proofs.Shortcuts

/-!
What becomes of added nodes. Each section, group and field that was added to a module of both snapshots
leaves one step in the run, a change or a line in the log, and the detector may be any. Main statements:

- `Detector.logger_of_mem_ask`: what the detectors of the program tell the log is told under one name.
- `Trace.unique`: an added node leaves no two steps.
- `compareAdded_settles`: what one added node leaves, by the cases of the comparison.
- `added_nodes_traced`: what all added nodes of a snapshot leave, also where the detector fails.
-/

namespace ReleaseImpact

namespace Detector

variable {e : Event} {q : Inquiry} {fs : FileSystem}

theorem logger_of_mem_document (m : Memory) (file : Path) (member : e ∈ (m.document fs file).2.1) :
    e.logger = Search.logger := by
  unfold Memory.document at member
  split at member
  · cases member
  · split at member
    · cases member
    · cases member
    · obtain rfl := List.mem_singleton.mp member
      rfl

theorem logger_of_mem_lookInto {path : String} {address : Address} {m : Memory} {files : List Path}
    (member : e ∈ (Search.lookInto fs path address m files).events) : e.logger = Search.logger := by
  induction files generalizing m with
  | nil => cases member
  | cons file rest ih =>
    have read : e ∈ (m.document fs file).2.1 → e.logger = Search.logger := logger_of_mem_document m file
    unfold Search.lookInto at member
    split at member
    · next found => exact read (found ▸ member)
    · next found =>
      rw [found] at read
      split at member
      · rcases List.mem_append.mp member with here | last
        · exact read here
        · obtain rfl := List.mem_singleton.mp last
          rfl
      · rcases List.mem_append.mp member with here | later
        · exact read here
        · exact ih later

theorem logger_of_mem_search {s : Search} {m : Memory} (member : e ∈ (s.ask fs m q).events) :
    e.logger = Search.logger := by
  unfold Search.ask at member
  split at member
  · cases member
  · split at member
    · cases member
    · obtain rfl := List.mem_singleton.mp member
      rfl
    · split at member
      · cases member
      · cases member
      · exact logger_of_mem_lookInto member

theorem logger_of_mem_ask {detector : Detector} (member : e ∈ (detector.ask fs q).events) :
    e.logger = Search.logger := by
  induction detector with
  | known verdicts => cases member
  | structural => cases member
  | crossFile search memory => exact logger_of_mem_search member
  | fallback first second ihFirst ihSecond =>
    unfold ask at member
    dsimp only at member
    split at member
    · rcases List.mem_append.mp member with here | later
      · exact ihFirst here
      · exact ihSecond later
    · exact ihFirst member

end Detector

namespace FormComparison

open Trail Registry

instance (rules : FormRules) (file : String) (n : Node) : Decidable (IsAsked rules file n) :=
  inferInstanceAs (Decidable (_ ∧ _ ∧ _))

/-- The forms of a module that it did not have before. -/
def newForms (before after : Registry) (m : String) : List (String × Node) :=
  ((missingNodes after before m).filter (·.kind ≠ .virtualType)).map (m, ·)

/-- The forms that were added to modules of both snapshots, in the order in which they are compared. -/
def addedForms (before after : Registry) : List (String × Node) :=
  (before.modules.filter (· ∈ after.modules)).flatMap (newForms before after)

/-- An added form of a module, and the detector as it is when it is the form's turn. -/
structure Turn (δ : Type) where
  form : String × Node
  detector : δ

variable {δ : Type} (ask : δ → Inquiry → Reply δ) (rules : FormRules) (before after : Registry)

/-- The question that an added form of a module may raise. -/
def inquiry (form : String × Node) : Inquiry := ⟨form.2, after.fileOf form.1, before.bucket form.1⟩

/-- The detector after the turn of a form. -/
def afterTurn (d : δ) (form : String × Node) : δ :=
  if IsAsked rules (after.fileOf form.1) form.2 then (ask d (inquiry before after form)).next else d

/-- The turns of some forms, with a detector that remembers the ones before. -/
def turns (d : δ) (forms : List (String × Node)) : List (Turn δ) :=
  scan (afterTurn ask rules before after) (fun d form => [⟨form, d⟩]) d forms

/-- The detector is asked at a turn, and gives a verdict. -/
def IsJudged (t : Turn δ) (v : Verdict) : Prop :=
  IsAsked rules (after.fileOf t.form.1) t.form.2 ∧
    (ask t.detector (inquiry before after t.form)).verdict = .ok v

/-- The step that an added form leaves in a run. -/
inductive Trace : Turn δ → Step → Prop
  | fixture {m : String} {n : Node} {d : δ} {kind : ChangeKind} (kind_eq : addedKind? n = some kind)
      (marked : looksUp rules (after.fileOf m) = false) :
      Trace ⟨(m, n), d⟩ (.change systemDomain ⟨kind, after.fileOf m, n.path⟩)
  | added {m : String} {n : Node} {d : δ} {kind : ChangeKind} {v : Verdict}
      (kind_eq : addedKind? n = some kind) (judged : IsJudged ask rules before after ⟨(m, n), d⟩ v)
      (new : v = .unique ∨ v = .unavailable) :
      Trace ⟨(m, n), d⟩ (.change systemDomain ⟨kind, after.fileOf m, n.path⟩)
  | duplicate {m : String} {f : ConfigField} {d : δ}
      (judged : IsJudged ask rules before after ⟨(m, .configField f), d⟩ .duplicate) :
      Trace ⟨(m, .configField f), d⟩
        (.change systemDomain ⟨.duplicateFieldAdded, after.fileOf m, (Node.configField f).path⟩)
  | short {m : String} {n : Node} {d : δ} (form : n.kind ≠ .virtualType)
      (unmarked : looksUp rules (after.fileOf m) = true) (short : n.address? = none) :
      Trace ⟨(m, n), d⟩ (.event ⟨.warning, "bumpcheck.analysis.system", "added_node_skipped",
        [("reason", .text "short_address"), ("path", .text n.path), ("file", .text (after.fileOf m))]⟩)
  | unresolved {m : String} {n : Node} {d : δ}
      (judged : IsJudged ask rules before after ⟨(m, n), d⟩ .unresolved) :
      Trace ⟨(m, n), d⟩ (.event ⟨.warning, "bumpcheck.analysis.system", "added_node_skipped",
        [("reason", .text "unresolved_address"), ("path", .text n.path),
          ("file", .text (after.fileOf m))]⟩)
  | merged {m : String} {g : ConfigGroup} {d : δ}
      (judged : IsJudged ask rules before after ⟨(m, .configGroup g), d⟩ .duplicate) :
      Trace ⟨(m, .configGroup g), d⟩ (.event ⟨.debug, "bumpcheck.analysis.system", "added_node_merged",
        [("path", .text (Node.configGroup g).path), ("file", .text (after.fileOf m))]⟩)

variable (d : δ)

/-- The other steps of a run: changes on which no detector has a say, questions to the detector, and what
it tells the log. -/
inductive Beside : Step → Prop
  | firm {c : Change} : IsFirm c.kind → Beside (.change systemDomain c)
  | question {path : String} : Beside (.question path)
  | told {earlier : List Inquiry} {q : Inquiry} {e : Event} :
      e ∈ (ask (afterAsking ask d earlier) q).events → Beside (.event e)

/-- What the detector may fail with. -/
def FailsWith (f : Failure) : Prop := ∃ earlier q, (ask (afterAsking ask d earlier) q).verdict = .error f

def ledger : Ledger (Turn δ) where
  due := Trace ask rules before after
  beside := Beside ask d
  fault := FailsWith ask d

/-- The changes and lines in the log that are about added forms. -/
def isTrace : Step → Bool
  | .change _ c => c.kind ∈ [.sectionAdded, .groupAdded, .fieldAdded, .duplicateFieldAdded]
  | .event e => e.logger = logger ∧ e.message ∈ ["added_node_skipped", "added_node_merged"]
  | _ => false

variable {ask rules before after d}

/-! ## One node -/

theorem isTrace_of_trace {t : Turn δ} {s : Step} (trace : Trace ask rules before after t s) :
    isTrace s = true := by
  have addition {n : Node} {kind : ChangeKind} (found : addedKind? n = some kind) : IsAddition kind :=
    isAddition_of_addedKind? found
  cases trace with
  | fixture found => simpa [isTrace, IsAddition] using addition found
  | added found => simpa [isTrace, IsAddition] using addition found
  | duplicate => rfl
  | short => simp [isTrace, logger]
  | unresolved => simp [isTrace, logger]
  | merged => simp [isTrace, logger]

theorem isTrace_of_beside (apart : ∀ earlier q, ∀ e ∈ (ask (afterAsking ask d earlier) q).events,
      isTrace (.event e) = false) {s : Step} (beside : Beside ask d s) : isTrace s = false := by
  cases beside with
  | firm firm => rcases firm with kind | kind | kind | kind | kind <;> simp [isTrace, kind]
  | question => rfl
  | told member => exact apart _ _ _ member

theorem reportNode_settles {m : String} {n : Node} {d' : δ} {file : String} (form : n.kind ≠ .virtualType)
    (due : ∀ kind, addedKind? n = some kind →
      Trace ask rules before after ⟨(m, n), d'⟩ (.change systemDomain ⟨kind, file, n.path⟩)) :
    Settles (ledger ask rules before after d) (reportNode ChangeKind.added? n file) () [⟨(m, n), d'⟩] := by
  rw [reportNode, added?_kind]
  cases n with
  | virtualType v => exact absurd rfl form
  | configSection s => exact settles_step (due _ rfl)
  | configGroup g => exact settles_step (due _ rfl)
  | configField f => exact settles_step (due _ rfl)

theorem judge_settles {m : String} {n : Node} {d' : δ} {v : Verdict}
    (judged : IsJudged ask rules before after ⟨(m, n), d'⟩ v) :
    Settles (ledger ask rules before after d) (judge n (after.fileOf m) v) () [⟨(m, n), d'⟩] := by
  cases v with
  | unresolved => exact settles_step (.unresolved judged)
  | duplicate =>
    cases n with
    | virtualType v => exact absurd rfl judged.1.1
    | configSection s => exact absurd rfl judged.1.2.2
    | configGroup g => exact settles_step (.merged judged)
    | configField f => exact settles_step (.duplicate judged)
  | unique => exact reportNode_settles judged.1.1 fun _ found => .added found judged (.inl rfl)
  | unavailable => exact reportNode_settles judged.1.1 fun _ found => .added found judged (.inr rfl)

/-- The detectors that there may be in the course of a run. -/
def Reached (ask : δ → Inquiry → Reply δ) (d d' : δ) : Prop := ∃ earlier, d' = afterAsking ask d earlier

theorem Reached.afterTurn {d' : δ} (reached : Reached ask d d') (form : String × Node) :
    Reached ask d (afterTurn ask rules before after d' form) := by
  obtain ⟨earlier, rfl⟩ := reached
  unfold FormComparison.afterTurn
  split
  · exact ⟨earlier ++ [inquiry before after form], by simp [afterAsking]⟩
  · exact ⟨earlier, rfl⟩

section Turns

variable {m : String} {n : Node} {d' : δ}

theorem afterTurn_of_not_asked (unasked : ¬IsAsked rules (after.fileOf m) n) :
    afterTurn ask rules before after d' (m, n) = d' := if_neg unasked

theorem compareAdded_settles_of_fixture (form : n.kind ≠ .virtualType)
    (marked : looksUp rules (after.fileOf m) = false) :
    Settles (ledger ask rules before after d)
      (compareAdded ask (looksUp rules (after.fileOf m)) (before.bucket m) (after.fileOf m) d' n)
      (afterTurn ask rules before after d' (m, n)) [⟨(m, n), d'⟩] := by
  have unasked : ¬IsAsked rules (after.fileOf m) n := fun asked => by simp [IsAsked, marked] at asked
  rw [afterTurn_of_not_asked unasked, compareAdded, if_neg form, marked]
  exact (reportNode_settles form fun _ found => .fixture found marked).bind (settles_pure d')

theorem compareAdded_settles_of_short (form : n.kind ≠ .virtualType)
    (unmarked : looksUp rules (after.fileOf m) = true) (short : n.address? = none) :
    Settles (ledger ask rules before after d)
      (compareAdded ask (looksUp rules (after.fileOf m)) (before.bucket m) (after.fileOf m) d' n)
      (afterTurn ask rules before after d' (m, n)) [⟨(m, n), d'⟩] := by
  rw [afterTurn_of_not_asked fun asked => asked.2.2 short, compareAdded, if_neg form, unmarked, if_pos short]
  have skipped : Settles (ledger ask rules before after d) (skip "short_address" n (after.fileOf m)) ()
      [⟨(m, n), d'⟩] := settles_step (.short form unmarked short)
  exact skipped.bind (settles_pure d')

theorem compareAdded_settles_of_asked (asked : IsAsked rules (after.fileOf m) n)
    (reached : Reached ask d d') :
    Settles (ledger ask rules before after d)
      (compareAdded ask (looksUp rules (after.fileOf m)) (before.bucket m) (after.fileOf m) d' n)
      (afterTurn ask rules before after d' (m, n)) [⟨(m, n), d'⟩] := by
  obtain ⟨earlier, rfl⟩ := reached
  have next : afterTurn ask rules before after (afterAsking ask d earlier) (m, n) =
      (ask (afterAsking ask d earlier) (inquiry before after (m, n))).next := if_pos asked
  have question : Settles (ledger ask rules before after d) (.step (.question n.path)) () [] :=
    settles_beside .question
  have told : Settles (ledger ask rules before after d)
      (.each (ask (afterAsking ask d earlier) (inquiry before after (m, n))).events
        fun e => .step (.event e)) () [] :=
    settles_each fun e member => settles_beside (.told member)
  rw [next, compareAdded_of_asked asked]
  refine question.bind (told.bind ?_)
  change Settles _ (Trail.ofExcept (ask _ (inquiry before after (m, n))).verdict >>= _) _ _
  cases answer : (ask (afterAsking ask d earlier) (inquiry before after (m, n))).verdict with
  | error f =>
    have failed : FailsWith ask d f := ⟨earlier, _, answer⟩
    exact settles_fail failed _
  | ok v => exact (judge_settles ⟨asked, answer⟩).bind (settles_pure _)

theorem compareAdded_settles (form : n.kind ≠ .virtualType) (reached : Reached ask d d') :
    Settles (ledger ask rules before after d)
      (compareAdded ask (looksUp rules (after.fileOf m)) (before.bucket m) (after.fileOf m) d' n)
      (afterTurn ask rules before after d' (m, n)) [⟨(m, n), d'⟩] := by
  cases marked : looksUp rules (after.fileOf m) with
  | false =>
    rw [← marked]
    exact compareAdded_settles_of_fixture form marked
  | true =>
    rw [← marked]
    by_cases short : n.address? = none
    · exact compareAdded_settles_of_short form marked short
    · exact compareAdded_settles_of_asked ⟨form, marked, short⟩ reached

end Turns

/-! ## Modules and snapshots -/

/-- Virtual types are passed over, so what is left are the new forms. -/
theorem fold_newForms (ask : δ → Inquiry → Reply δ) (rules : FormRules) (before after : Registry)
    (m : String) (d : δ) :
    fold (compareAdded ask (looksUp rules (after.fileOf m)) (before.bucket m) (after.fileOf m)) d
        (missingNodes after before m) =
      fold (fun d form => compareAdded ask (looksUp rules (after.fileOf form.1)) (before.bucket form.1)
        (after.fileOf form.1) d form.2) d (newForms before after m) := by
  rw [newForms, fold_map, fold_filter]
  intro n _ virtual d
  rw [decide_eq_false_iff_not, not_not] at virtual
  rw [compareAdded, if_pos virtual]

section Ledgers

variable {ι : Type} {l : Ledger ι} (firm : ∀ c : Change, IsFirm c.kind → l.beside (.change systemDomain c))
include firm

theorem reportRemoved_settles {n : Node} {file : String} :
    Settles l (reportNode ChangeKind.removed? n file) () [] := by
  rw [reportNode, removed?_kind]
  cases found : removedKind? n with
  | none => exact settles_pure ()
  | some kind => exact settles_beside (firm _ (isFirm_of_isRemoval (isRemoval_of_removedKind? found)))

theorem reportFiles_settles {kind : ChangeKind} (isFirm : IsFirm kind) {r : Registry} (sourced : r.Sourced)
    (other : Registry) :
    Settles l (reportFiles kind rules r (r.modules.filter (· ∉ other.modules))) () [] := by
  refine settles_each fun m member => ?_
  rw [sourceFile_of_sourced sourced (List.mem_filter.mp member).1]
  exact settles_beside (firm _ isFirm)

variable {inv : δ → Prop} {part : δ → String × Node → List ι}
variable (kept : ∀ d form, inv d → inv (afterTurn ask rules before after d form))
variable (each : ∀ form d, form.2.kind ≠ .virtualType → inv d →
  Settles l (compareAdded ask (looksUp rules (after.fileOf form.1)) (before.bucket form.1)
    (after.fileOf form.1) d form.2) (afterTurn ask rules before after d form) (part d form))
include kept each

theorem compareModule_settles_by (sourcedBefore : before.Sourced) (sourcedAfter : after.Sourced) {m : String}
    (inBefore : m ∈ before.modules) (inAfter : m ∈ after.modules) {d : δ} (holds : inv d) :
    Settles l
      (compareModule ask rules before after d (m, .ofKeys (before.bucket m).keys (after.bucket m).keys))
      ((newForms before after m).foldl (afterTurn ask rules before after) d)
      (scan (afterTurn ask rules before after) part d (newForms before after m)) := by
  rw [compareModule_eq rules sourcedBefore sourcedAfter d inBefore inAfter, fold_newForms]
  refine (settles_each fun n _ => reportRemoved_settles firm).bind ?_
  refine settles_fold kept (fun form member d holds => ?_) holds
  obtain ⟨n, inside, rfl⟩ := List.mem_map.mp member
  exact each (m, n) d (of_decide_eq_true (List.mem_filter.mp inside).2) holds

/-- A run over forms accounts for what the turns of the added forms account for, one after the other. -/
theorem compareForms_settles_by (sourcedBefore : before.Sourced) (sourcedAfter : after.Sourced) {d : δ}
    (holds : inv d) :
    Settles l (compareForms ask rules d before after)
      ((addedForms before after).foldl (afterTurn ask rules before after) d)
      (scan (afterTurn ask rules before after) part d (addedForms before after)) := by
  rw [compareForms_eq_fold, addedForms, scan_flatMap, List.foldl_flatMap]
  refine (reportFiles_settles firm (.inl rfl) sourcedAfter before).bind ?_
  refine (reportFiles_settles firm (.inr (.inl rfl)) sourcedBefore after).bind ?_
  have turns (d : δ) (m : String) (holds : inv d) :
      inv ((newForms before after m).foldl (afterTurn ask rules before after) d) :=
    List.foldlRecOn _ _ holds fun d holds form _ => kept d form holds
  refine settles_fold turns (fun m member d holds => ?_) holds
  obtain ⟨inBefore, inAfter⟩ := List.mem_filter.mp member
  exact compareModule_settles_by firm kept each sourcedBefore sourcedAfter inBefore
    (of_decide_eq_true inAfter) holds

end Ledgers

theorem compareForms_settles (ask : δ → Inquiry → Reply δ) (rules : FormRules) (d : δ)
    (sourcedBefore : before.Sourced) (sourcedAfter : after.Sourced) :
    Settles (ledger ask rules before after d) (compareForms ask rules d before after)
      ((addedForms before after).foldl (afterTurn ask rules before after) d)
      (turns ask rules before after d (addedForms before after)) := by
  have first : Reached ask d d := ⟨[], rfl⟩
  exact compareForms_settles_by (fun _ firm => Beside.firm firm) (fun _ form reached => reached.afterTurn form)
    (fun _ _ form reached => compareAdded_settles form reached) sourcedBefore sourcedAfter first

theorem failsWith_of_sourced (sourcedBefore : before.Sourced) (sourcedAfter : after.Sourced) {f : Failure}
    (fails : (compareForms ask rules d before after).outcome = .error f) : FailsWith ask d f :=
  ((compareForms_settles ask rules d sourcedBefore sourcedAfter).failed f fails).1

theorem ends_of_answers (answers : ∀ earlier q, ∃ v, (ask (afterAsking ask d earlier) q).verdict = .ok v)
    (sourcedBefore : before.Sourced) (sourcedAfter : after.Sourced) :
    ∃ last, (compareForms ask rules d before after).outcome = .ok last := by
  cases outcome : (compareForms ask rules d before after).outcome with
  | ok last => exact ⟨last, rfl⟩
  | error f =>
    obtain ⟨earlier, q, failed⟩ := failsWith_of_sourced sourcedBefore sourcedAfter outcome
    obtain ⟨v, answer⟩ := answers earlier q
    cases answer.symm.trans failed

/-- A verdict leads to one step, so what a node leaves is a change or a line in the log and never both. -/
theorem Trace.unique {t : Turn δ} {s s' : Step} (one : Trace ask rules before after t s)
    (two : Trace ask rules before after t s') : s = s' := by
  cases one <;> cases two <;> grind [IsJudged, IsAsked]

theorem nodup_addedForms : (addedForms before after).Nodup := by
  have modules : (before.modules.filter (· ∈ after.modules)).Nodup := before.nodes.nodup_keys.filter _
  rw [addedForms, List.nodup_flatMap]
  constructor
  · intro m _
    have nodes : (missingNodes after before m).Nodup := (nodup_nodesOf after m).filter _
    exact (nodes.filter _).map fun _ _ same => (Prod.mk.inj same).2
  · refine modules.imp ?_
    rintro m m' apart i here there
    obtain ⟨n, -, rfl⟩ := List.mem_map.mp here
    obtain ⟨n', -, same⟩ := List.mem_map.mp there
    exact apart (Prod.mk.inj same).1.symm

/-- The detectors of the program leave nothing in the log that could be taken for the trace of a node. -/
theorem isTrace_of_mem_ask (fs : FileSystem) (detector : Detector) (q : Inquiry) {e : Event}
    (member : e ∈ (detector.ask fs q).events) : isTrace (.event e) = false := by
  have apart : e.logger = Search.logger := Detector.logger_of_mem_ask member
  simp [isTrace, apart, Search.logger, logger]

theorem forms_of_turns (d : δ) (forms : List (String × Node)) :
    (turns ask rules before after d forms).map Turn.form = forms := by
  induction forms generalizing d with
  | nil => rfl
  | cons form rest ih => exact congrArg (form :: ·) (ih _)

theorem exists_forms_of_prefix {forms : List (String × Node)} {settled : List (Turn δ)}
    (part : settled <+: turns ask rules before after d forms) :
    ∃ first, first <+: forms ∧ settled = turns ask rules before after d first := by
  induction forms generalizing settled d with
  | nil => exact ⟨[], List.prefix_rfl, List.prefix_nil.mp part⟩
  | cons form rest ih =>
    rcases List.prefix_cons_iff.mp part with rfl | ⟨later, rfl, inside⟩
    · exact ⟨[], List.nil_prefix, rfl⟩
    · obtain ⟨first, within, rfl⟩ := ih inside
      exact ⟨form :: first, (List.prefix_cons_inj form).mpr within, rfl⟩

/-- Every section, group and field that was added to a module of both snapshots leaves one step of its own
in the run, in order, and no other step is such a change or such a line in the log. A run that fails does
so by the detector, and the same holds of the nodes up to there. -/
theorem added_nodes_traced (ask : δ → Inquiry → Reply δ) (rules : FormRules) (d : δ)
    (sourcedBefore : before.Sourced) (sourcedAfter : after.Sourced) :
    (addedForms before after).Nodup ∧
      (∀ (t : Turn δ) s s', Trace ask rules before after t s → Trace ask rules before after t s' →
        s = s') ∧
      ∃ forms, forms <+: addedForms before after ∧
        (∀ last, (compareForms ask rules d before after).outcome = .ok last →
          forms = addedForms before after) ∧
        (∀ f, (compareForms ask rules d before after).outcome = .error f → FailsWith ask d f) ∧
        (turns ask rules before after d forms).map Turn.form = forms ∧
        (ledger ask rules before after d).Accounts (turns ask rules before after d forms)
          (compareForms ask rules d before after).steps ∧
        ((∀ earlier q, ∀ e ∈ (ask (afterAsking ask d earlier) q).events, isTrace (.event e) = false) →
          List.Forall₂ (Trace ask rules before after) (turns ask rules before after d forms)
            ((compareForms ask rules d before after).steps.filter isTrace)) := by
  refine ⟨nodup_addedForms, fun _ _ _ => Trace.unique, ?_⟩
  have settles := compareForms_settles ask rules d sourcedBefore sourcedAfter
  have told {settled : List (Turn δ)} {steps : List Step}
      (accounts : (ledger ask rules before after d).Accounts settled steps)
      (apart : ∀ earlier q, ∀ e ∈ (ask (afterAsking ask d earlier) q).events,
        isTrace (.event e) = false) :
      List.Forall₂ (Trace ask rules before after) settled (steps.filter isTrace) :=
    accounts.forall₂_filter (fun _ _ => isTrace_of_trace) fun _ => isTrace_of_beside apart
  cases outcome : (compareForms ask rules d before after).outcome with
  | ok last =>
    obtain ⟨-, accounts⟩ := settles.ended last outcome
    exact ⟨_, List.prefix_rfl, fun _ _ => rfl, nofun, forms_of_turns d _, accounts, told accounts⟩
  | error f =>
    obtain ⟨fault, settled, part, accounts⟩ := settles.failed f outcome
    obtain ⟨forms, within, rfl⟩ := exists_forms_of_prefix part
    refine ⟨forms, within, nofun, fun f' same => ?_, forms_of_turns d forms, accounts, told accounts⟩
    obtain rfl := Except.error.inj same
    exact fault

theorem added_nodes_traced_shop :
    formsBefore.Sourced ∧ formsAfter.Sourced ∧
      List.Forall₂
        (Trace (fun d q => .plain (formVerdict q) d) ⟨"system.xml", ["_files"]⟩ formsBefore formsAfter)
        (turns (fun d q => .plain (formVerdict q) d) ⟨"system.xml", ["_files"]⟩ formsBefore formsAfter ()
          (addedForms formsBefore formsAfter))
        ((compareForms (fun d q => .plain (formVerdict q) d) ⟨"system.xml", ["_files"]⟩ ()
          formsBefore formsAfter).steps.filter isTrace) ∧
      (addedForms formsBefore formsAfter).map (fun i => (i.1, i.2.path)) =
        [("Acme_Shop", "other"), ("Acme_Shop", "shop/main/title"), ("Acme_Shop", "shop/main/code"),
          ("Acme_Shop", "shop/main/seo"), ("Acme_Shop", "shop/main/lost"), ("Acme_Test", "test")] ∧
      ((compareForms (fun d q => .plain (formVerdict q) d) ⟨"system.xml", ["_files"]⟩ ()
          formsBefore formsAfter).steps.filter isTrace).map
          (fun s => (s.change?.map (·.2.code), s.event?.map (·.message))) =
        [(none, some "added_node_skipped"), (some "M306", none), (some "M308", none),
          (none, some "added_node_merged"), (none, some "added_node_skipped"), (some "M302", none)] := by
  have sourcedBefore : formsBefore.Sourced := by decide
  have sourcedAfter : formsAfter.Sourced := by decide
  obtain ⟨-, -, forms, -, all, -, -, -, traced⟩ := added_nodes_traced
    (fun d q => .plain (formVerdict q) d) ⟨"system.xml", ["_files"]⟩ () sourcedBefore sourcedAfter
  have answers : ∀ d q, (Reply.plain (formVerdict q) d : Reply Unit).verdict = .ok (formVerdict q) :=
    fun _ _ => rfl
  obtain ⟨last, reported⟩ := compareForms_reports answers ⟨"system.xml", ["_files"]⟩ sourcedBefore
    sourcedAfter ()
  obtain rfl := all last reported.outcome
  refine ⟨sourcedBefore, sourcedAfter, ?_, ?_, ?_⟩
  · exact traced fun _ _ _ member => absurd member List.not_mem_nil
  · decide +kernel
  · decide +kernel

end FormComparison

end ReleaseImpact
