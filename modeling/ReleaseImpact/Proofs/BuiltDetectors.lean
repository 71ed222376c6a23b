import ReleaseImpact.Proofs.BrokenSiblings

/-!
Detectors that are put together from the search and from likeness. A comparison of forms is ready for a
detector that cannot resolve an address, and the search for an address without steps. With these detectors
there is need of neither. Main statements:

- `Detector.askBy_eq_ask`: how addresses of less than three steps are looked for makes no difference.
- `Detector.Built.next` and `Detector.Built.resolves`: what an answer keeps, and which verdict it is not.
- `compareForms_shared`: detectors that answer questions with an address alike lead to the same run.
- `neverReceives_of_kept`: a run does not come to a verdict that no answer on the way is.
- `built_detectors_resolve`: what a comparison with such a detector does not come to.
-/

namespace ReleaseImpact

open Survey

variable {δ : Type}

/-! ## Looking for addresses -/

namespace Address

/-- Looks for an address in a document, which fails if there is no first step. -/
def seek (root : Xml.Element) (steps : Address) : Except Failure Bool :=
  if steps = [] then .error .emptyAddress
  else (search root steps).mapError Xml.PathFlaw.toFailure

theorem exists_formAddress {n : Node} {steps : Address} (spelt : n.address? = some steps) :
    ∃ first groups last, (n.kind = .configGroup ∨ n.kind = .configField) ∧
      steps = formAddress first groups n.kind last := by
  have form : n.kind = .configGroup ∨ n.kind = .configField := by
    cases n <;> first | contradiction | simp [Node.kind]
  rw [address?_eq_ofParts? form] at spelt
  have long : ¬(pathParts n.path).length < minLength := by
    intro short
    rw [ofParts?_eq_none_iff.mpr short] at spelt
    cases spelt
  rcases parts : pathParts n.path with - | ⟨first, rest⟩
  · simp [parts, minLength] at long
  rcases List.eq_nil_or_concat rest with rfl | ⟨groups, last, rfl⟩
  · simp [parts, minLength] at long
  have deep : groups ≠ [] := by
    rintro rfl
    simp [parts, minLength] at long
  rw [parts, List.concat_eq_append, ofParts?_of_groups deep] at spelt
  exact ⟨first, groups, last, form, (Option.some.inj spelt).symm⟩

/-- The address of a node is long enough to be looked for, which does not fail. -/
theorem seek_of_address? {n : Node} {steps : Address} (spelt : n.address? = some steps)
    (root : Xml.Element) : 3 ≤ steps.length ∧ seek root steps = .ok (steps.holds root) := by
  constructor
  · obtain ⟨_, same, long⟩ := minLength_le_length (n := n) (by simp [spelt])
    cases same.symm.trans spelt
    exact long
  · obtain ⟨first, groups, last, form, rfl⟩ := exists_formAddress spelt
    rw [seek, if_neg (by simp [formAddress]), search_formAddress root first groups form last]
    rfl

end Address

/-! ## Asking with another way to look for addresses -/

section Finding

variable (find : Xml.Element → Address → Except Failure Bool) (fs : FileSystem)

namespace Search

/-- Looks for an address in one file after the other, with a way to look for it in a document. -/
def lookIntoBy (path : String) (address : Address) (m : Memory) : List Path → Reply Memory
  | [] => .plain .unique m
  | file :: rest =>
    match m.document fs file with
    | (m, events, .error f) => ⟨.error f, m, events⟩
    | (m, events, .ok document) =>
      match document.elim (.ok false) (find · address) with
      | .error f => ⟨.error f, m, events⟩
      | .ok true => ⟨.ok .duplicate, m, events ++ [⟨.debug, logger, "duplicate_found",
          [("path", .text path), ("sibling", .text file.text)]⟩]⟩
      | .ok false => (lookIntoBy path address m rest).after events

def askBy (s : Search) (m : Memory) (q : Inquiry) : Reply Memory :=
  match q.node.address? with
  | none => .plain .unresolved m
  | some address =>
    match projectRoot? fs q.schemaFile s.marker with
    | .error fault => ⟨.error (.fileFault fault), m, []⟩
    | .ok none =>
      ⟨.ok .unavailable, m, [⟨.debug, logger, "project_root_not_found",
        [("schema_file", .text q.schemaFile)]⟩]⟩
    | .ok (some root) =>
      match s.siblings fs m root q.schemaFile with
      | .error fault => ⟨.error (.fileFault fault), m, []⟩
      | .ok (m, []) => .plain .unavailable m
      | .ok (m, siblings) => lookIntoBy find fs q.node.path address m siblings

end Search

/-- A detector asked with another way to look for addresses. -/
def Detector.askBy : Detector → Inquiry → Reply Detector
  | .known verdicts, q => ask fs (.known verdicts) q
  | .structural, q => ask fs .structural q
  | .crossFile search memory, q => (search.askBy find fs memory q).map (.crossFile search ·)
  | .fallback first second, q =>
    let reply := askBy first q
    match reply.verdict with
    | .ok .unavailable => ((askBy second q).map (.fallback reply.next ·)).after reply.events
    | _ => reply.map (.fallback · second)

variable {find}

theorem Search.lookIntoBy_eq_lookInto {address : Address}
    (same : ∀ root, find root address = .ok (address.holds root)) (path : String) (m : Memory)
    (files : List Path) : lookIntoBy find fs path address m files = lookInto fs path address m files := by
  have found (document : Option Xml.Element) :
      document.elim (.ok false) (find · address) = .ok (document.any (address.holds ·)) := by
    cases document with
    | none => rfl
    | some root => exact same root
  induction files generalizing m with
  | nil => rfl
  | cons file rest ih =>
    unfold lookIntoBy lookInto
    rcases m.document fs file with ⟨m, events, f | document⟩
    · rfl
    · simp only [found, ih]
      cases document.any (address.holds ·) <;> rfl

theorem Detector.askBy_eq_ask
    (same : ∀ root steps, 3 ≤ steps.length → find root steps = Address.seek root steps) :
    Detector.askBy find fs = Detector.ask fs := by
  have searches (s : Search) (m : Memory) (q : Inquiry) : s.askBy find fs m q = s.ask fs m q := by
    unfold Search.askBy Search.ask
    cases spelt : q.node.address? with
    | none => rfl
    | some address =>
      have here (root : Xml.Element) : find root address = .ok (address.holds root) := by
        obtain ⟨long, found⟩ := Address.seek_of_address? spelt root
        exact (same root address long).trans found
      dsimp only
      rcases projectRoot? fs q.schemaFile s.marker with fault | - | root
      · rfl
      · rfl
      dsimp only
      rcases s.siblings fs m root q.schemaFile with fault | ⟨m, files⟩
      · rfl
      cases files with
      | nil => rfl
      | cons file rest => exact Search.lookIntoBy_eq_lookInto fs here q.node.path m (file :: rest)
  funext d q
  induction d with
  | known verdicts => rfl
  | structural => rfl
  | crossFile search memory => rw [askBy, searches, ask]
  | fallback first second ihFirst ihSecond =>
    simp only [askBy, ihFirst, ihSecond]
    rfl

end Finding

/-! ## Answers -/

section Answers

variable {fs : FileSystem}

theorem readDocument_ne_emptyAddress (fs : FileSystem) (file : String) :
    readDocument fs file ≠ .error .emptyAddress := by
  unfold readDocument
  cases fs.read file with
  | error fault => cases fault <;> simp
  | ok bytes =>
    dsimp only
    cases Xml.ofBytes bytes with
    | ok root => simp
    | error fault => cases fault <;> simp [Xml.Fault.toFailure]

theorem Memory.document_ne_emptyAddress (m : Memory) (file : Path) :
    (m.document fs file).2.2 ≠ .error .emptyAddress := by
  have read := readDocument_ne_emptyAddress fs file.text
  unfold Memory.document
  cases m.documents.get? file with
  | some known => simp
  | none =>
    cases found : readDocument fs file.text with
    | error f => simpa [found] using read
    | ok document => cases document <;> simp

namespace Search

theorem verdict_lookInto (path : String) (address : Address) (m : Memory) (files : List Path) :
    (lookInto fs path address m files).verdict ≠ .ok .unresolved ∧
      (lookInto fs path address m files).verdict ≠ .error .emptyAddress := by
  induction files generalizing m with
  | nil => simp [lookInto, Reply.plain]
  | cons file rest ih =>
    have read : (m.document fs file).2.2 ≠ .error .emptyAddress := m.document_ne_emptyAddress file
    unfold lookInto
    rcases found : m.document fs file with ⟨next, events, f | document⟩
    · rw [found] at read
      simpa using read
    · dsimp only
      split
      · simp
      · exact ih next

theorem verdict_ask (s : Search) (m : Memory) (q : Inquiry) :
    (q.node.address? ≠ none → (s.ask fs m q).verdict ≠ .ok .unresolved) ∧
      (s.ask fs m q).verdict ≠ .error .emptyAddress := by
  unfold ask
  split
  · next short => simp [short, Reply.plain]
  · split
    · simp
    · simp
    · split
      · simp
      · simp [Reply.plain]
      · exact (verdict_lookInto ..).imp_left fun resolved _ => resolved

end Search

namespace Detector

variable {d : Detector}

/-- Whether the second detector is asked decides on the answer, and on who is asked next. -/
theorem ask_fallback_cases (fs : FileSystem) (first second : Detector) (q : Inquiry) :
    let reply := (fallback first second).ask fs q
    ((first.ask fs q).verdict = .ok .unavailable ∧ reply.verdict = (second.ask fs q).verdict ∧
        reply.next = .fallback (first.ask fs q).next (second.ask fs q).next) ∨
      ((first.ask fs q).verdict ≠ .ok .unavailable ∧ reply.verdict = (first.ask fs q).verdict ∧
        reply.next = .fallback (first.ask fs q).next second) := by
  rw [ask]
  dsimp only
  split
  · next nothing => exact .inl ⟨nothing, rfl, rfl⟩
  · next available => exact .inr ⟨available, rfl, rfl⟩

theorem ask_ne_emptyAddress (d : Detector) (q : Inquiry) : (d.ask fs q).verdict ≠ .error .emptyAddress := by
  induction d with
  | known verdicts => simp [ask, Reply.plain]
  | structural => simp [ask, Reply.plain]
  | crossFile search memory => exact (search.verdict_ask memory q).2
  | fallback first second ihFirst ihSecond =>
    rcases ask_fallback_cases fs first second q with ⟨-, told, -⟩ | ⟨-, told, -⟩
    · exact told ▸ ihSecond
    · exact told ▸ ihFirst

theorem verdict_structural (fs : FileSystem) (q : Inquiry) :
    (structural.ask fs q).verdict = .ok .duplicate ∨ (structural.ask fs q).verdict = .ok .unique := by
  rw [(structural_judges fs).answer q, likeness]
  split
  · exact .inl rfl
  · exact .inr rfl

/-- Detectors that are put together from the search and from likeness. -/
inductive Built : Detector → Prop
  | structural : Built .structural
  | crossFile (search : Search) (memory : Memory) : Built (.crossFile search memory)
  | fallback {first second : Detector} : Built first → Built second → Built (.fallback first second)

/-- The last detector that is asked goes by likeness. -/
inductive EndsInLikeness : Detector → Prop
  | structural : EndsInLikeness .structural
  | fallback (first : Detector) {second : Detector} :
      EndsInLikeness second → EndsInLikeness (.fallback first second)

theorem Built.next (built : d.Built) (q : Inquiry) : (d.ask fs q).next.Built := by
  induction built with
  | structural => exact .structural
  | crossFile search memory => exact .crossFile search _
  | @fallback first second _ here ihFirst ihSecond =>
    rcases ask_fallback_cases fs first second q with ⟨-, -, next⟩ | ⟨-, -, next⟩
    · exact next ▸ .fallback ihFirst ihSecond
    · exact next ▸ .fallback ihFirst here

theorem Built.resolves (built : d.Built) {q : Inquiry} (spelt : q.node.address? ≠ none) :
    (d.ask fs q).verdict ≠ .ok .unresolved := by
  induction built with
  | structural => rcases verdict_structural fs q with told | told <;> simp [told]
  | crossFile search memory => exact (search.verdict_ask memory q).1 spelt
  | @fallback first second _ _ ihFirst ihSecond =>
    rcases ask_fallback_cases fs first second q with ⟨-, told, -⟩ | ⟨-, told, -⟩
    · exact told ▸ ihSecond
    · exact told ▸ ihFirst

theorem EndsInLikeness.next (ends : d.EndsInLikeness) (q : Inquiry) : (d.ask fs q).next.EndsInLikeness := by
  induction ends with
  | structural => exact .structural
  | @fallback first second here ih =>
    rcases ask_fallback_cases fs first second q with ⟨-, -, next⟩ | ⟨-, -, next⟩
    · exact next ▸ .fallback _ ih
    · exact next ▸ .fallback _ here

theorem EndsInLikeness.available (ends : d.EndsInLikeness) (q : Inquiry) :
    (d.ask fs q).verdict ≠ .ok .unavailable := by
  induction ends with
  | structural => rcases verdict_structural fs q with told | told <;> simp [told]
  | @fallback first second _ ih =>
    rcases ask_fallback_cases fs first second q with ⟨-, told, -⟩ | ⟨available, told, -⟩
    · exact told ▸ ih
    · exact told ▸ available

theorem built_detector (settings : AnalysisSettings) : settings.detector.Built := by
  unfold AnalysisSettings.detector
  cases settings.duplicateStrategy with
  | auto => exact .fallback (.crossFile _ _) .structural
  | crossFile => exact .crossFile _ _
  | structural => exact .structural

theorem endsInLikeness_detector_iff (settings : AnalysisSettings) :
    settings.detector.EndsInLikeness ↔ settings.duplicateStrategy ≠ .crossFile := by
  unfold AnalysisSettings.detector
  cases settings.duplicateStrategy with
  | auto => exact iff_of_true (.fallback _ .structural) nofun
  | crossFile => exact iff_of_false nofun (not_not.mpr rfl)
  | structural => exact iff_of_true .structural nofun

end Detector

end Answers

/-! ## Runs that do not receive a verdict -/

namespace Reply

variable {v : Verdict} {f : Failure}

/-- The reply with a failure in place of a verdict. -/
def refuse (v : Verdict) (f : Failure) (r : Reply δ) : Reply δ :=
  { r with verdict := r.verdict.bind fun w => if w = v then .error f else .ok w }

theorem refuse_eq_self {r : Reply δ} (other : r.verdict ≠ .ok v) : r.refuse v f = r := by
  obtain ⟨verdict, next, events⟩ := r
  cases verdict with
  | error f => rfl
  | ok w =>
    have apart : w ≠ v := fun same => other (congrArg Except.ok same)
    simp [refuse, Except.bind, apart]

theorem verdict_refuse_ne (r : Reply δ) : (r.refuse v f).verdict ≠ .ok v := by
  obtain ⟨verdict, next, events⟩ := r
  cases verdict with
  | error f => nofun
  | ok w =>
    by_cases same : w = v <;> simp [refuse, Except.bind, same]

end Reply

namespace Trail

variable {α β : Type} {inv : α → Prop} {kept : β → Prop}

/-- Two runs are the same, and what they hand on has a property. -/
structure Shared (inv : α → Prop) (t t' : Trail α) : Prop where
  same : t = t'
  holds : ∀ a, t.outcome = .ok a → inv a

theorem shared_refl (t : Trail α) : Shared (fun _ => True) t t := ⟨rfl, fun _ _ => trivial⟩

theorem shared_pure {a : α} (holds : inv a) : Shared inv (pure a) (pure a) where
  same := rfl
  holds _ ends := Except.ok.inj ends ▸ holds

theorem Shared.bind {t t' : Trail α} {next next' : α → Trail β} (first : Shared inv t t')
    (rest : ∀ a, inv a → Shared kept (next a) (next' a)) : Shared kept (t >>= next) (t' >>= next') := by
  obtain ⟨rfl, holds⟩ := first
  cases outcome : t.outcome with
  | error f =>
    constructor
    · rw [bind_eq_of_error outcome, bind_eq_of_error outcome]
    · intro b ends
      rw [outcome_bind_of_error next outcome] at ends
      cases ends
  | ok a =>
    have later := rest a (holds a outcome)
    constructor
    · rw [bind_eq_of_ok outcome, bind_eq_of_ok outcome, later.same]
    · intro b ends
      rw [outcome_bind_of_ok next outcome] at ends
      exact later.holds b ends

theorem shared_fold {items : List β} {body body' : α → β → Trail α}
    (each : ∀ a b, inv a → Shared inv (body a b) (body' a b)) {a : α} (holds : inv a) :
    Shared inv (fold body a items) (fold body' a items) := by
  induction items generalizing a with
  | nil => exact shared_pure holds
  | cons b rest ih => exact (each a b holds).bind fun _ holds => ih holds

end Trail

namespace FormComparison

open Trail

variable {ask ask' : δ → Inquiry → Reply δ} {inv : δ → Prop} {rules : FormRules} {before after : Registry}
variable {d : δ} {v : Verdict}

section Sharing

variable (kept : ∀ d q, inv d → inv (ask d q).next)
variable (same : ∀ d q, inv d → q.node.address? ≠ none → ask d q = ask' d q)
include kept same

theorem compareAdded_shared (existing : Nodes) (file : String) (n : Node) (holds : inv d) :
    Shared inv (compareAdded ask (looksUp rules file) existing file d n)
      (compareAdded ask' (looksUp rules file) existing file d n) := by
  -- only about a node with an address a detector is asked at all
  by_cases asked : IsAsked rules file n
  · rw [compareAdded_of_asked asked, compareAdded_of_asked asked, ← same d _ holds asked.2.2]
    refine (shared_refl _).bind fun _ _ => (shared_refl _).bind fun _ _ => ?_
    refine (shared_refl _).bind fun _ _ => (shared_refl _).bind fun _ _ => ?_
    exact shared_pure (kept d _ holds)
  · unfold compareAdded
    split
    · exact shared_pure holds
    split
    · exact (shared_refl _).bind fun _ _ => shared_pure holds
    split
    · exact (shared_refl _).bind fun _ _ => shared_pure holds
    · next form up long => exact absurd ⟨form, by simpa using up, long⟩ asked

theorem compareModule_shared (pairing : String × KeyMatch) (holds : inv d) :
    Shared inv (compareModule ask rules before after d pairing)
      (compareModule ask' rules before after d pairing) := by
  obtain ⟨m, keys⟩ := pairing
  rw [compareModule_eq_parts, compareModule_eq_parts]
  refine (shared_refl _).bind fun _ _ => ?_
  unfold compareGained
  split
  · exact shared_pure holds
  · refine (shared_refl _).bind fun file _ => ?_
    exact shared_fold (fun _ n holds => compareAdded_shared kept same _ file n holds) holds

theorem compareForms_shared (holds : inv d) :
    Shared inv (compareForms ask rules d before after) (compareForms ask' rules d before after) := by
  rw [compareForms_eq, compareForms_eq]
  split
  · exact shared_pure holds
  · refine (shared_refl _).bind fun _ _ => (shared_refl _).bind fun _ _ => ?_
    exact shared_fold (fun _ m holds => compareModule_shared kept same _ holds) holds

end Sharing

/-- A run does not come to a verdict: it is the same whatever failure the verdict is taken for. At the
verdict it would end, with one failure or another. -/
def NeverReceives (ask : δ → Inquiry → Reply δ) (rules : FormRules) (d : δ) (before after : Registry)
    (v : Verdict) : Prop :=
  ∀ f, compareForms (fun d q => (ask d q).refuse v f) rules d before after =
    compareForms ask rules d before after

theorem neverReceives_of_kept (kept : ∀ d q, inv d → inv (ask d q).next)
    (other : ∀ d q, inv d → q.node.address? ≠ none → (ask d q).verdict ≠ .ok v) (holds : inv d) :
    NeverReceives ask rules d before after v := by
  intro f
  have same (d : δ) (q : Inquiry) (holds : inv d) (spelt : q.node.address? ≠ none) :
      ask d q = (ask d q).refuse v f := (Reply.refuse_eq_self (other d q holds spelt)).symm
  exact (compareForms_shared kept same holds).same.symm

/-- Also where source files are missing, a run goes by the ledger of the added nodes. -/
theorem due_or_beside_of_mem {s : Step} (member : s ∈ (compareForms ask rules d before after).steps) :
    let before := before.filled id
    let after := after.filled id
    (∃ t, Trace ask rules before after t s) ∨ Beside ask d s := by
  intro filledBefore filledAfter
  have part := (compareForms_cutAt id id ask rules d before after).prefix_steps
  obtain ⟨settled, -, accounts⟩ := (compareForms_settles ask rules d (before.sourced_filled id)
    (after.sourced_filled id)).exists_accounts
  exact (accounts.due_or_beside (part.subset member)).imp_left fun ⟨t, _, due⟩ => ⟨t, due⟩

theorem NeverReceives.not_told (never : NeverReceives ask rules d before after .unresolved)
    (apart : ∀ d q, ∀ e ∈ (ask d q).events, e.logger ≠ logger) :
    ∀ e ∈ (compareForms ask rules d before after).events, e.logger = logger →
      ("reason", .text "unresolved_address") ∉ e.fields := by
  intro e told own
  rw [← never .emptyAddress, events, List.mem_filterMap] at told
  obtain ⟨s, member, is⟩ := told
  cases s <;> cases is
  rcases due_or_beside_of_mem member with ⟨t, trace⟩ | beside
  · cases trace with
    | short => simp
    | merged => simp
    | unresolved judged => exact absurd judged.2 (Reply.verdict_refuse_ne _)
  · cases beside with
    | told inside => exact absurd own (apart _ _ e inside)

theorem outcome_ne_of_verdict_ne {f : Failure} (other : ∀ d q, (ask d q).verdict ≠ .error f)
    (present : ∀ m, f ≠ .problem (.missingSourceFile m)) :
    (compareForms ask rules d before after).outcome ≠ .error f := by
  intro fails
  rcases (compareForms_cutAt id id ask rules d before after).failure fails with ⟨m, -, missing⟩ | ⟨fails, -⟩
  · exact present m missing
  · obtain ⟨earlier, q, answer⟩ :=
      failsWith_of_sourced (before.sourced_filled id) (after.sourced_filled id) fails
    exact other _ q answer

/-- With detectors put together from the search and from likeness no verdict is that an address cannot be
resolved, and no address of less than three steps is looked for. If likeness comes last, there is always
something to go by. All detectors of the settings are of this kind. -/
theorem built_detectors_resolve (fs : FileSystem) (rules : FormRules) (before after : Registry)
    {d : Detector} (built : d.Built) :
    NeverReceives (Detector.ask fs) rules d before after .unresolved ∧
      (∀ e ∈ (compareForms (Detector.ask fs) rules d before after).events, e.logger = logger →
        ("reason", .text "unresolved_address") ∉ e.fields) ∧
      (∀ find : Xml.Element → Address → Except Failure Bool,
        (∀ root steps, 3 ≤ steps.length → find root steps = Address.seek root steps) →
          compareForms (Detector.askBy find fs) rules d before after =
            compareForms (Detector.ask fs) rules d before after) ∧
      (compareForms (Detector.askBy Address.seek fs) rules d before after).outcome ≠ .error .emptyAddress ∧
      (d.EndsInLikeness → ∀ earlier q,
        (Detector.ask fs (afterAsking (Detector.ask fs) d earlier) q).verdict ≠ .ok .unavailable) ∧
      ∀ settings : AnalysisSettings, settings.detector.Built ∧
        (settings.detector.EndsInLikeness ↔ settings.duplicateStrategy ≠ .crossFile) := by
  have never : NeverReceives (Detector.ask fs) rules d before after .unresolved :=
    neverReceives_of_kept (fun _ q built => built.next q) (fun _ _ built => built.resolves) built
  refine ⟨never, ?_, ?_, ?_, ?_, ?_⟩
  · refine never.not_told fun d q e told => ?_
    rw [Detector.logger_of_mem_ask told]
    decide
  · intro find same
    rw [Detector.askBy_eq_ask fs same]
  · rw [Detector.askBy_eq_ask fs fun _ _ _ => rfl]
    exact outcome_ne_of_verdict_ne (fun d q => d.ask_ne_emptyAddress q) nofun
  · intro ends earlier q
    exact (kept_afterAsking Detector.EndsInLikeness (fun _ q ends => ends.next q) ends earlier).available q
  · intro settings
    exact ⟨Detector.built_detector settings, Detector.endsInLikeness_detector_iff settings⟩

/-- A search that finds no project in the shop. -/
def lostSearch : Search := ⟨"COPYING", ["app/code"], "system.xml"⟩

/-- Two searches in turn, and likeness in the end. -/
def searchTwice : Detector :=
  .fallback (.fallback (.ofSearch lostSearch) (.ofSearch AnalysisSettings.initial.search)) .structural

/-- Looks for addresses of three steps and more only. -/
def seekLong (root : Xml.Element) (steps : Address) : Except Failure Bool :=
  if steps.length < 3 then .error .undecodable else Address.seek root steps

theorem verdict_searchTwice : (searchTwice.ask soundShop likeQuestion).verdict = .ok .duplicate := by
  have lost : (Detector.ask soundShop (.ofSearch lostSearch) likeQuestion).verdict = .ok .unavailable := by
    have unmarked : projectRoot? soundShop likeQuestion.schemaFile lostSearch.marker = .ok none := by cbv
    rw [(search_judges lostSearch soundShop).answer, Search.verdict, address_likeQuestion]
    simp only [unmarked]
  have found : (Detector.ask soundShop (.fallback (.ofSearch lostSearch)
      (.ofSearch AnalysisSettings.initial.search)) likeQuestion).verdict = .ok .duplicate := by
    rcases Detector.ask_fallback_cases soundShop (.ofSearch lostSearch)
        (.ofSearch AnalysisSettings.initial.search) likeQuestion with ⟨-, told, -⟩ | ⟨available, -⟩
    · rw [told, (search_judges _ soundShop).answer, verdict_soundShop]
    · exact absurd lost available
  rcases Detector.ask_fallback_cases soundShop (.fallback (.ofSearch lostSearch)
      (.ofSearch AnalysisSettings.initial.search)) .structural likeQuestion with ⟨nothing, -⟩ | ⟨-, told, -⟩
  · cases found.symm.trans nothing
  · exact told.trans found

theorem built_detectors_resolve_twice :
    searchTwice.Built ∧ (searchTwice.ask soundShop likeQuestion).verdict = .ok .duplicate ∧
      NeverReceives (Detector.ask soundShop) ⟨"system.xml", ["_files"]⟩ searchTwice formsBefore formsAfter
        .unresolved ∧
      compareForms (Detector.askBy seekLong soundShop) ⟨"system.xml", ["_files"]⟩ searchTwice formsBefore
          formsAfter =
        compareForms (Detector.ask soundShop) ⟨"system.xml", ["_files"]⟩ searchTwice formsBefore
          formsAfter ∧
      ∀ earlier, (Detector.ask soundShop (afterAsking (Detector.ask soundShop) searchTwice earlier)
        likeQuestion).verdict ≠ .ok .unavailable := by
  have built : searchTwice.Built := .fallback (.fallback (.crossFile ..) (.crossFile ..)) .structural
  obtain ⟨never, -, found, -, available, -⟩ :=
    built_detectors_resolve soundShop ⟨"system.xml", ["_files"]⟩ formsBefore formsAfter built
  refine ⟨built, verdict_searchTwice, never, found seekLong fun root steps long => ?_, fun earlier => ?_⟩
  · exact if_neg (not_lt.mpr long)
  · exact available (.fallback _ .structural) earlier likeQuestion

end FormComparison

end ReleaseImpact
