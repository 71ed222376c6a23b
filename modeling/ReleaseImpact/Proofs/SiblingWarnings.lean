import ReleaseImpact.Proofs.AddedNodes
import ReleaseImpact.Proofs.RefusedDocuments
import ReleaseImpact.Proofs.RefusedLookUps

/-!
What a search makes of schema files that cannot be read. One that stops the reader ends the search; any
other is passed over, and the log is told of it once. Main statements:

- `Search.verdict_ends_iff`: when a search has an answer.
- `Search.lookUp_filter`: files that cannot be read are passed over.
- `Search.ask_grows`: what one question adds to what is remembered and to the log.
- `FormComparison.warned_once`: what the log is told in a comparison of forms.
-/

namespace ReleaseImpact

theorem documentOf_fails_iff (fs : FileSystem) (file : Path) :
    (∃ f, documentOf fs file = .error f) ↔ StopsReader fs file := by
  rw [← readDocument_fails_iff, documentOf]
  cases readDocument fs file.text <;> simp [Except.map]

namespace Search

variable {s : Search} {fs : FileSystem} {m : Memory} {q : Inquiry} {address : Address}

/-! ## Files that are come to -/

/-- The files that are come to when an address is looked for in some: no further than to the first that
holds it or stops the reader. -/
def reached (fs : FileSystem) (address : Address) : List Path → List Path
  | [] => []
  | file :: rest =>
    file :: match documentOf fs file with
      | .error _ => []
      | .ok document => if document.any (address.holds ·) then [] else reached fs address rest

/-- The schema files that the search for a node comes to. -/
def opened (s : Search) (fs : FileSystem) (q : Inquiry) : List Path :=
  match q.node.address?, projectRoot? fs q.schemaFile s.marker with
  | some address, .ok (some root) =>
    match s.others fs root q.schemaFile with
    | .ok files => reached fs address files
    | .error _ => []
  | _, _ => []

theorem lookUp_fails_iff {files : List Path} :
    (∃ f, lookUp fs address files = .error f) ↔ ∃ file ∈ reached fs address files, StopsReader fs file := by
  induction files with
  | nil => exact iff_of_false nofun nofun
  | cons file rest ih =>
    unfold lookUp reached
    simp only [List.mem_cons, exists_eq_or_imp, ← documentOf_fails_iff fs file]
    cases documentOf fs file with
    | error f => exact iff_of_true ⟨f, rfl⟩ (.inl ⟨f, rfl⟩)
    | ok document =>
      rw [or_iff_right nofun]
      dsimp only
      split
      · exact iff_of_false nofun nofun
      · exact ih

/-- A search has no answer: a path that it has to look up is refused, or it comes to a file that stops the
reader. -/
def Halted (s : Search) (fs : FileSystem) (q : Inquiry) : Prop :=
  s.Stopped fs q ∨ ∃ file ∈ s.opened fs q, StopsReader fs file

theorem verdict_ends_iff : (∃ v, s.verdict fs q = .ok v) ↔ ¬s.Halted fs q := by
  unfold Halted opened Stopped
  cases spelt : q.node.address? with
  | none => exact iff_of_true ⟨.unresolved, by rw [verdict, spelt]⟩ (by simp)
  | some address =>
    simp only [ne_eq, reduceCtorEq, not_false_eq_true, true_and]
    cases marked : projectRoot? fs q.schemaFile s.marker with
    | error fault =>
      have refused : s.Refused fs q.schemaFile := by
        by_contra clear
        cases marked.symm.trans (projectRoot?_of_not_refused clear)
      refine iff_of_false ?_ (not_not.mpr (.inl refused))
      simp [verdict_of_refused spelt marked]
    | ok place =>
      cases place with
      | none =>
        refine iff_of_true ⟨.unavailable, by simp only [verdict, spelt, marked]⟩ ?_
        rw [not_or]
        exact ⟨not_refused_of_no_root marked, by simp⟩
      | some root =>
        dsimp only
        cases listed : s.others fs root q.schemaFile with
        | error fault =>
          have refused : s.Refused fs q.schemaFile := by
            by_contra clear
            obtain ⟨files, found⟩ := others_of_not_refused clear (nearestRoot?_of_projectRoot? marked)
            cases listed.symm.trans found
          refine iff_of_false ?_ (not_not.mpr (.inl refused))
          simp [verdict, spelt, marked, listed]
        | ok files =>
          dsimp only
          rw [or_iff_right (not_refused_of_others marked listed), ← lookUp_fails_iff]
          simp only [verdict, spelt, marked, listed]
          cases files with
          | nil => exact iff_of_true ⟨.unavailable, rfl⟩ (by simp [lookUp])
          | cons file rest => cases found : lookUp fs address (file :: rest) <;> simp [found]

/-- Whether there is a document in a file, or the file stops the reader. -/
def isSound (fs : FileSystem) (file : Path) : Bool :=
  match readDocument fs file.text with
  | .ok (.error _) => false
  | _ => true

theorem isSound_eq_false_iff {file : Path} :
    isSound fs file = false ↔ ∃ reason, readDocument fs file.text = .ok (.error reason) := by
  unfold isSound
  split
  · next reason read => simp [read]
  · next other => exact iff_of_false nofun fun ⟨reason, read⟩ => other reason read

theorem lookUp_filter (files : List Path) :
    lookUp fs address (files.filter (isSound fs)) = lookUp fs address files := by
  induction files with
  | nil => rfl
  | cons file rest ih =>
    rw [List.filter_cons]
    split
    · rw [lookUp, lookUp, ih]
    · next unsound =>
      obtain ⟨reason, read⟩ := isSound_eq_false_iff.mp (Bool.not_eq_true _ ▸ unsound)
      have unread : documentOf fs file = .ok none := by
        rw [documentOf, read]
        rfl
      rw [ih, lookUp.eq_2, unread]
      rfl

/-! ## What the log is told -/

def unreadable (file : Path) (reason : String) : Event :=
  ⟨.warning, logger, "sibling_schema_unreadable", [("path", .text file.text), ("error", .text reason)]⟩

/-- What the log is told of a file when it is read as a schema file. -/
def warning? (fs : FileSystem) (file : Path) : Option Event :=
  match readDocument fs file.text with
  | .ok (.error reason) => some (unreadable file reason)
  | _ => none

/-- An event tells that a schema file cannot be read. -/
def isWarning (e : Event) : Bool := e.message = "sibling_schema_unreadable"

/-- What happens while some files are come to: those that can be remembered are, each once, and the log is
told of those among them that cannot be read. -/
structure Grows (fs : FileSystem) (files : List Path) (m m' : Memory) (events : List Event) : Prop where
  told : m'.documents.keys.filterMap (warning? fs) =
    m.documents.keys.filterMap (warning? fs) ++ events.filter isWarning
  known : ∀ file, file ∈ m'.documents.keys ↔
    file ∈ m.documents.keys ∨ file ∈ files ∧ ¬StopsReader fs file

theorem grows_nothing (m : Memory) {m' : Memory} {events : List Event} (same : m'.documents = m.documents)
    (silent : events.filter isWarning = []) : Grows fs [] m m' events where
  told := by rw [same, silent, List.append_nil]
  known file := by simp [same]

theorem Grows.trans {files files' : List Path} {m' m'' : Memory} {events events' : List Event}
    (first : Grows fs files m m' events) (rest : Grows fs files' m' m'' events') :
    Grows fs (files ++ files') m m'' (events ++ events') where
  told := by rw [rest.told, first.told, List.filter_append, List.append_assoc]
  known file := by
    rw [rest.known, first.known, List.mem_append]
    tauto

theorem Grows.of_filter {files : List Path} {m' : Memory} {events : List Event}
    (grows : Grows fs files m m' events) : Grows fs files m m' (events.filter isWarning) where
  told := by rw [grows.told, List.filter_filter, funext fun e => Bool.and_self (isWarning e)]
  known := grows.known

theorem grows_insert {file : Path} (new : m.documents.get? file = none) {known : Option Xml.Element}
    (sound : ¬StopsReader fs file) {events : List Event}
    (told : (warning? fs file).toList = events.filter isWarning) :
    Grows fs [file] m { m with documents := m.documents.insert file known } events := by
  have missing : file ∉ m.documents.keys := OrderedMap.lookup_eq_none_iff.mp new
  have keys : (m.documents.insert file known).keys = m.documents.keys ++ [file] := by
    rw [OrderedMap.keys_insert, if_neg missing]
  constructor
  · dsimp only
    rw [keys, List.filterMap_append, ← told]
    cases warns : warning? fs file <;> simp [warns]
  · intro other
    dsimp only
    rw [keys, List.mem_append, List.mem_singleton]
    refine or_congr_right (iff_self_and.mpr ?_)
    rintro rfl
    exact sound

theorem document_grows (m : Memory) (file : Path) :
    Grows fs [file] m (m.document fs file).1 (m.document fs file).2.1 := by
  -- A file that is remembered, or that stops the reader, adds neither a document nor a line.
  have idle (kept : ¬StopsReader fs file → file ∈ m.documents.keys) : Grows fs [file] m m [] := by
    refine ⟨(List.append_nil _).symm, fun other => (or_iff_left_of_imp ?_).symm⟩
    rintro ⟨here, sound⟩
    obtain rfl := List.mem_singleton.mp here
    exact kept sound
  unfold Memory.document
  cases found : m.documents.get? file with
  | some known => exact idle fun _ => OrderedMap.mem_keys_iff.mpr ⟨known, found⟩
  | none =>
    dsimp only
    cases reading : readDocument fs file.text with
    | error f => exact idle fun sound => absurd (readDocument_fails_iff.mp ⟨f, reading⟩) sound
    | ok result =>
      have sound : ¬StopsReader fs file := by
        rw [← readDocument_fails_iff, reading]
        exact nofun
      cases result with
      | ok root => exact grows_insert found sound (by simp [warning?, reading])
      | error reason =>
        exact grows_insert found sound (by simp [warning?, reading, isWarning, unreadable, logger])

theorem lookInto_grows (remembers : s.Remembers fs m) (path : String) (files : List Path) :
    Grows fs (reached fs address files) m (lookInto fs path address m files).next
      (lookInto fs path address m files).events := by
  induction files generalizing m with
  | nil => exact grows_nothing m rfl rfl
  | cons file rest ih =>
    obtain ⟨read, kept⟩ := document_sound remembers file
    have first : Grows fs [file] m _ _ := document_grows m file
    unfold lookInto reached
    rw [← read]
    generalize m.document fs file = found at kept first
    obtain ⟨m', events, outcome⟩ := found
    cases outcome with
    | error f => exact first
    | ok document =>
      dsimp only at first ⊢
      split
      · exact first.trans (grows_nothing m' rfl rfl)
      · exact first.trans (ih kept)

theorem knownFiles_documents {root : Path} {m' : Memory} {files : List Path}
    (found : s.knownFiles fs m root = .ok (m', files)) : m'.documents = m.documents := by
  unfold knownFiles at found
  split at found
  · cases found
    rfl
  · cases listed : s.schemaFiles fs root with
    | error fault =>
      rw [listed] at found
      cases found
    | ok files =>
      rw [listed] at found
      cases found
      rfl

theorem siblings_documents {root : Path} {schemaFile : String} {m' : Memory} {files : List Path}
    (found : s.siblings fs m root schemaFile = .ok (m', files)) : m'.documents = m.documents := by
  unfold siblings at found
  cases resolved : fs.resolve (.ofText schemaFile) with
  | error fault =>
    rw [resolved] at found
    cases found
  | ok own =>
    rw [resolved] at found
    cases known : s.knownFiles fs m root with
    | error fault =>
      rw [known] at found
      cases found
    | ok listing =>
      rw [known] at found
      cases found
      exact knownFiles_documents known

theorem ask_grows (remembers : s.Remembers fs m) (q : Inquiry) :
    Grows fs (s.opened fs q) m (s.ask fs m q).next (s.ask fs m q).events := by
  unfold ask opened
  cases q.node.address? with
  | none => exact grows_nothing m rfl rfl
  | some address =>
    cases projectRoot? fs q.schemaFile s.marker with
    | error fault => exact grows_nothing m rfl rfl
    | ok marked =>
      cases marked with
      | none => exact grows_nothing m rfl rfl
      | some root =>
        obtain ⟨listed, kept⟩ := siblings_sound remembers root q.schemaFile
        dsimp only
        rw [← listed]
        cases found : s.siblings fs m root q.schemaFile with
        | error fault => exact grows_nothing m rfl rfl
        | ok known =>
          obtain ⟨m', files⟩ := known
          have same := siblings_documents found
          cases files with
          | nil => exact grows_nothing m same rfl
          | cons file rest =>
            have listing : Grows fs [] m m' [] := grows_nothing m same rfl
            exact listing.trans (lookInto_grows (kept m' _ found) q.node.path (file :: rest))

end Search

/-! ## Detectors -/

/-- A detector that searches, alone or before it goes by likeness, and what it remembers. -/
inductive Detector.RunsOn (s : Search) (m : Memory) : Detector → Prop
  | alone : RunsOn s m (.crossFile s m)
  | first : RunsOn s m (.fallback (.crossFile s m) .structural)

theorem Detector.RunsOn.ask {s : Search} {m : Memory} {d : Detector} (runs : RunsOn s m d) (fs : FileSystem)
    (q : Inquiry) :
    RunsOn s (s.ask fs m q).next (d.ask fs q).next ∧ (d.ask fs q).events = (s.ask fs m q).events := by
  cases runs with
  | alone => exact ⟨.alone, rfl⟩
  | first =>
    have next : RunsOn s (s.ask fs m q).next (.fallback (.crossFile s (s.ask fs m q).next) .structural) :=
      .first
    unfold Detector.ask
    dsimp only
    split
    · exact ⟨next, List.append_nil _⟩
    · exact ⟨next, rfl⟩

/-! ## Runs -/

namespace FormComparison

open Trail

variable {s : Search} {fs : FileSystem} {rules : FormRules} {before after : Registry}

/-- The questions that added forms raise, in the order in which they are asked. -/
def asked (rules : FormRules) (before after : Registry) : List Inquiry :=
  ((addedForms before after).filter fun form => IsAsked rules (after.fileOf form.1) form.2).map
    (inquiry before after)

/-- The event, if a step tells that a schema file cannot be read. -/
def warning? (step : Step) : Option Event := step.event?.filter Search.isWarning

/-- The steps that tell of schema files are all that is accounted for. -/
def warnings : Ledger Event where
  due e step := warning? step = some e
  beside step := warning? step = none
  fault _ := True

theorem filterMap_of_accounts {events : List Event} {steps : List Step}
    (accounts : warnings.Accounts events steps) : steps.filterMap warning? = events := by
  induction accounts with
  | nil => rfl
  | entry due _ ih => rw [List.filterMap_cons_some due, ih]
  | other beside _ ih => rw [List.filterMap_cons_none beside, ih]

theorem reportNode_warns (kind? : Kind → Option ChangeKind) (n : Node) (file : String) :
    Settles warnings (reportNode kind? n file) () [] := by
  unfold reportNode
  split
  · exact settles_pure ()
  · exact settles_beside rfl

theorem judge_warns (n : Node) (file : String) (v : Verdict) :
    Settles warnings (judge n file v) () [] := by
  unfold judge
  split
  · exact settles_beside rfl
  · split
    · exact settles_beside rfl
    · exact settles_beside rfl
  · exact reportNode_warns ..

theorem events_warn (events : List Event) :
    Settles warnings (.each events fun e => .step (.event e)) () (events.filter Search.isWarning) := by
  induction events with
  | nil => exact settles_pure ()
  | cons e rest ih =>
    have first : Settles warnings (.step (.event e)) () ([e].filter Search.isWarning) := by
      cases warns : Search.isWarning e with
      | true =>
        rw [List.filter_cons_of_pos warns]
        exact settles_step (by simp [warnings, warning?, Step.event?, warns])
      | false =>
        rw [List.filter_cons_of_neg (by simp [warns])]
        exact settles_beside (by simp [warnings, warning?, Step.event?, warns])
    have whole : Settles warnings (.step (.event e) >>= fun _ => .each rest fun e => .step (.event e)) () _ :=
      first.bind ih
    rwa [← List.filter_append] at whole

section Turns

variable {δ : Type} (ask : δ → Inquiry → Reply δ) (rules : FormRules) (before after : Registry)

/-- The warnings at the turn of an added form. -/
def warningsAt (d : δ) (form : String × Node) : List Event :=
  if IsAsked rules (after.fileOf form.1) form.2 then
    (ask d (inquiry before after form)).events.filter Search.isWarning
  else []

variable {ask rules before after}

theorem compareAdded_warns {form : String × Node} (d : δ) (kind : form.2.kind ≠ .virtualType) :
    Settles warnings
      (compareAdded ask (looksUp rules (after.fileOf form.1)) (before.bucket form.1) (after.fileOf form.1) d
        form.2)
      (afterTurn ask rules before after d form) (warningsAt ask rules before after d form) := by
  unfold warningsAt afterTurn
  by_cases question : IsAsked rules (after.fileOf form.1) form.2
  · rw [if_pos question, if_pos question, compareAdded_of_asked question]
    have silent : Settles warnings (.step (.question form.2.path)) () [] := settles_beside rfl
    refine silent.bind ?_
    rw [← List.append_nil (List.filter _ _)]
    refine (events_warn _).bind ?_
    change Settles _ (Trail.ofExcept (ask d (inquiry before after form)).verdict >>= _) _ _
    cases (ask d (inquiry before after form)).verdict with
    | error f => exact settles_fail trivial _
    | ok v => exact (judge_warns ..).bind (settles_pure _)
  · rw [if_neg question, if_neg question, compareAdded, if_neg kind]
    split
    · exact (reportNode_warns ..).bind (settles_pure d)
    · next up =>
      have short : form.2.address? = none := by
        by_contra long
        exact question ⟨kind, by simpa using up, long⟩
      have skipped : Settles warnings (skip "short_address" form.2 (after.fileOf form.1)) () [] :=
        settles_beside rfl
      rw [if_pos short]
      exact skipped.bind (settles_pure d)

theorem compareForms_warns (sourcedBefore : before.Sourced) (sourcedAfter : after.Sourced) (d : δ) :
    Settles warnings (compareForms ask rules d before after)
      ((addedForms before after).foldl (afterTurn ask rules before after) d)
      (scan (afterTurn ask rules before after) (warningsAt ask rules before after) d
        (addedForms before after)) := by
  let any : δ → Prop := fun _ => True
  have kept (d : δ) (form : String × Node) (_ : any d) : any (afterTurn ask rules before after d form) :=
    trivial
  exact compareForms_settles_by (fun _ _ => rfl) kept (fun _ d kind _ => compareAdded_warns d kind)
    sourcedBefore sourcedAfter trivial

end Turns

theorem turns_grow (rules : FormRules) (before after : Registry) {m : Memory} {d : Detector}
    (runs : d.RunsOn s m) (remembers : s.Remembers fs m) (forms : List (String × Node)) :
    ∃ m', Search.Grows fs
        (((forms.filter fun form => IsAsked rules (after.fileOf form.1) form.2).map
          (inquiry before after)).flatMap (s.opened fs)) m m'
        (scan (afterTurn (Detector.ask fs) rules before after)
          (warningsAt (Detector.ask fs) rules before after) d forms) := by
  induction forms generalizing m d with
  | nil => exact ⟨m, Search.grows_nothing m rfl rfl⟩
  | cons form rest ih =>
    rw [scan, warningsAt, afterTurn]
    by_cases question : IsAsked rules (after.fileOf form.1) form.2
    · rw [if_pos question, if_pos question, List.filter_cons, if_pos (decide_eq_true question),
        List.map_cons, List.flatMap_cons]
      obtain ⟨next, events⟩ := runs.ask fs (inquiry before after form)
      obtain ⟨-, kept⟩ := Search.ask_verdict remembers (inquiry before after form)
      obtain ⟨m', later⟩ := ih next kept
      rw [events]
      exact ⟨m', (Search.ask_grows remembers (inquiry before after form)).of_filter.trans later⟩
    · rw [if_neg question, if_neg question, List.filter_cons, if_neg (by simpa using question)]
      exact ih runs remembers

theorem warned_once {d last : Detector} (runs : d.RunsOn s .empty) (sourcedBefore : before.Sourced)
    (sourcedAfter : after.Sourced)
    (ends : (compareForms (Detector.ask fs) rules d before after).outcome = .ok last) :
    ∃ files : List Path, files.Nodup ∧
      (compareForms (Detector.ask fs) rules d before after).steps.filterMap warning? =
        files.filterMap (Search.warning? fs) ∧
      ∀ file, file ∈ files ↔
        (∃ q ∈ asked rules before after, file ∈ s.opened fs q) ∧ ¬StopsReader fs file := by
  obtain ⟨-, accounts⟩ := (compareForms_warns sourcedBefore sourcedAfter d).ended last ends
  obtain ⟨m, grows⟩ := turns_grow rules before after runs (s.remembers_empty fs) (addedForms before after)
  refine ⟨m.documents.keys, m.documents.nodup_keys, ?_, fun file => ?_⟩
  · have warns : ∀ e ∈ (compareForms (Detector.ask fs) rules d before after).steps.filterMap warning?,
        Search.isWarning e = true := by
      intro e member
      obtain ⟨step, -, same⟩ := List.mem_filterMap.mp member
      exact (Option.filter_eq_some_iff.mp same).2
    rw [grows.told, ← filterMap_of_accounts accounts, List.filter_eq_self.mpr warns]
    rfl
  · rw [grows.known, asked, ← List.mem_flatMap]
    exact or_iff_right nofun

end FormComparison

end ReleaseImpact
