import ReleaseImpact.Duplicate.Detector
import ReleaseImpact.Proofs.Reports

/-!
What a search in the other schema files of a project answers. What it remembers is what it would find
again, so its answers are those of a search without a memory. Main statements:

- `document_sound` and `knownFiles_sound`: what is handed out is what is found now.
- `ask_verdict`: an answer does not depend on earlier questions.
- `lookUp_cases`: what is in the files that are looked into, by the answer.
- `verdict_cases`: a node is a duplicate just if another schema file of its project holds its address.
- `exists_verdict`: there is an answer where nothing that is looked into stops the search.
-/

namespace ReleaseImpact

/-- The document in a file, none if there is a reason that there is none. -/
def documentOf (fs : FileSystem) (file : Path) : Except Failure (Option Xml.Element) :=
  (readDocument fs file.text).map Except.toOption

theorem documentOf_eq_some_iff {fs : FileSystem} {file : Path} {document : Xml.Element} :
    documentOf fs file = .ok (some document) ↔ readDocument fs file.text = .ok (.ok document) := by
  unfold documentOf
  cases read : readDocument fs file.text with
  | error f => simp [Except.map]
  | ok reading => cases reading <;> simp [Except.map, Except.toOption]

namespace Search

variable {s : Search} {fs : FileSystem} {m : Memory}

/-- All that is remembered is what would be found now. -/
structure Remembers (s : Search) (fs : FileSystem) (m : Memory) : Prop where
  files : ∀ root found, m.files.get? root = some found → s.schemaFiles fs root = .ok found
  documents : ∀ file known, m.documents.get? file = some known → documentOf fs file = .ok known

theorem remembers_empty (s : Search) (fs : FileSystem) : s.Remembers fs .empty where
  files _ _ found := by cases found
  documents _ _ found := by cases found

theorem Remembers.insert_document (remembers : s.Remembers fs m) {file : Path}
    {known : Option Xml.Element} (read : documentOf fs file = .ok known) :
    s.Remembers fs { m with documents := m.documents.insert file known } where
  files := remembers.files
  documents other known' found := by
    rw [OrderedMap.get?_insert] at found
    split at found
    · next same =>
      cases found
      exact same ▸ read
    · exact remembers.documents other known' found

theorem Remembers.insert_files (remembers : s.Remembers fs m) {root : Path} {files : List Path}
    (listed : s.schemaFiles fs root = .ok files) :
    s.Remembers fs { m with files := m.files.insert root files } where
  documents := remembers.documents
  files other found' found := by
    rw [OrderedMap.get?_insert] at found
    split at found
    · next same =>
      cases found
      exact same ▸ listed
    · exact remembers.files other found' found

/-! ## Without a memory -/

/-- The answer where an address is looked for in some files. -/
def lookUp (fs : FileSystem) (address : Address) : List Path → Except Failure Verdict
  | [] => .ok .unique
  | file :: rest =>
    match documentOf fs file with
    | .error f => .error f
    | .ok document => if document.any (address.holds ·) then .ok .duplicate else lookUp fs address rest

/-- The schema files of a project other than one of them. -/
def others (s : Search) (fs : FileSystem) (root : Path) (schemaFile : String) :
    Except PathFault (List Path) := do
  let own ← fs.resolve (.ofText schemaFile)
  let files ← s.schemaFiles fs root
  return files.filter (· ≠ own)

/-- The answer of a search that remembers nothing. -/
def verdict (s : Search) (fs : FileSystem) (q : Inquiry) : Except Failure Verdict :=
  match q.node.address? with
  | none => .ok .unresolved
  | some address =>
    match projectRoot? fs q.schemaFile s.marker with
    | .error fault => .error (.fileFault fault)
    | .ok none => .ok .unavailable
    | .ok (some root) =>
      match s.others fs root q.schemaFile with
      | .error fault => .error (.fileFault fault)
      | .ok [] => .ok .unavailable
      | .ok files => lookUp fs address files

/-! ## What is remembered -/

theorem document_sound (remembers : s.Remembers fs m) (file : Path) :
    (m.document fs file).2.2 = documentOf fs file ∧ s.Remembers fs (m.document fs file).1 := by
  unfold Memory.document
  cases found : m.documents.get? file with
  | some known => exact ⟨(remembers.documents file known found).symm, remembers⟩
  | none =>
    have read : documentOf fs file = (readDocument fs file.text).map Except.toOption := rfl
    cases reading : readDocument fs file.text with
    | error f =>
      rw [reading] at read
      exact ⟨read.symm, remembers⟩
    | ok result =>
      rw [reading] at read
      cases result with
      | ok root => exact ⟨read.symm, remembers.insert_document read⟩
      | error reason => exact ⟨read.symm, remembers.insert_document read⟩

theorem knownFiles_sound (remembers : s.Remembers fs m) (root : Path) :
    (s.knownFiles fs m root).map Prod.snd = s.schemaFiles fs root ∧
      ∀ m' files, s.knownFiles fs m root = .ok (m', files) → s.Remembers fs m' := by
  unfold knownFiles
  cases found : m.files.get? root with
  | some files =>
    refine ⟨(remembers.files root files found).symm, fun m' files known => ?_⟩
    cases known
    exact remembers
  | none =>
    cases listed : s.schemaFiles fs root with
    | error fault =>
      refine ⟨rfl, fun m' files known => ?_⟩
      cases known
    | ok files =>
      refine ⟨rfl, fun m' files known => ?_⟩
      cases known
      exact remembers.insert_files listed

theorem siblings_sound (remembers : s.Remembers fs m) (root : Path) (schemaFile : String) :
    (s.siblings fs m root schemaFile).map Prod.snd = s.others fs root schemaFile ∧
      ∀ m' files, s.siblings fs m root schemaFile = .ok (m', files) → s.Remembers fs m' := by
  obtain ⟨listed, kept⟩ := knownFiles_sound remembers root
  unfold siblings others
  cases fs.resolve (.ofText schemaFile) with
  | error fault =>
    refine ⟨rfl, fun m' files found => ?_⟩
    cases found
  | ok own =>
    rw [← listed]
    cases known : s.knownFiles fs m root with
    | error fault =>
      refine ⟨rfl, fun m' files found => ?_⟩
      cases found
    | ok found =>
      obtain ⟨m', files⟩ := found
      refine ⟨rfl, fun m'' others same => ?_⟩
      cases same
      exact kept m' files known

theorem lookInto_sound (remembers : s.Remembers fs m) (path : String) (address : Address)
    (files : List Path) :
    (lookInto fs path address m files).verdict = lookUp fs address files ∧
      s.Remembers fs (lookInto fs path address m files).next := by
  induction files generalizing m with
  | nil => exact ⟨rfl, remembers⟩
  | cons file rest ih =>
    obtain ⟨read, kept⟩ := document_sound remembers file
    unfold lookInto lookUp
    rw [← read]
    generalize m.document fs file = found at kept
    obtain ⟨m', events, outcome⟩ := found
    cases outcome with
    | error f => exact ⟨rfl, kept⟩
    | ok document =>
      dsimp only
      split
      · exact ⟨rfl, kept⟩
      · exact ih kept

theorem ask_verdict (remembers : s.Remembers fs m) (q : Inquiry) :
    (s.ask fs m q).verdict = s.verdict fs q ∧ s.Remembers fs (s.ask fs m q).next := by
  unfold ask verdict
  cases q.node.address? with
  | none => exact ⟨rfl, remembers⟩
  | some address =>
    cases projectRoot? fs q.schemaFile s.marker with
    | error fault => exact ⟨rfl, remembers⟩
    | ok marked =>
      cases marked with
      | none => exact ⟨rfl, remembers⟩
      | some root =>
        obtain ⟨listed, kept⟩ := siblings_sound remembers root q.schemaFile
        dsimp only
        rw [← listed]
        cases found : s.siblings fs m root q.schemaFile with
        | error fault => exact ⟨rfl, remembers⟩
        | ok known =>
          obtain ⟨m', files⟩ := known
          have remembers' := kept m' files found
          cases files with
          | nil => exact ⟨rfl, remembers'⟩
          | cons file rest => exact lookInto_sound remembers' q.node.path address (file :: rest)

/-! ## Answers -/

/-- Another schema file of the project of a file holds an address. -/
def HeldElsewhere (s : Search) (fs : FileSystem) (schemaFile : String) (address : Address) : Prop :=
  ∃ root own files, projectRoot? fs schemaFile s.marker = .ok (some root) ∧
    fs.resolve (.ofText schemaFile) = .ok own ∧ s.schemaFiles fs root = .ok files ∧
      ∃ file ∈ files, file ≠ own ∧ ∃ document, readDocument fs file.text = .ok (.ok document) ∧
        address.holds document = true

theorem lookUp_cases {address : Address} {files : List Path} {v : Verdict}
    (answer : lookUp fs address files = .ok v) :
    v = .unique ∧ (∀ file ∈ files, ∀ document, readDocument fs file.text = .ok (.ok document) →
        address.holds document = false) ∨
      v = .duplicate ∧ ∃ file ∈ files, ∃ document, readDocument fs file.text = .ok (.ok document) ∧
        address.holds document = true := by
  induction files with
  | nil =>
    cases answer
    exact .inl ⟨rfl, List.forall_mem_nil _⟩
  | cons file rest ih =>
    unfold lookUp at answer
    cases read : documentOf fs file with
    | error f =>
      rw [read] at answer
      cases answer
    | ok reading =>
      rw [read] at answer
      dsimp only at answer
      split at answer
      · next here =>
        cases answer
        cases reading with
        | none => cases here
        | some document =>
          exact .inr ⟨rfl, file, List.mem_cons_self, document, documentOf_eq_some_iff.1 read, here⟩
      · next apart =>
        rcases ih answer with ⟨rfl, free⟩ | ⟨rfl, other, member, found⟩
        · refine .inl ⟨rfl, List.forall_mem_cons.2 ⟨fun document opened => ?_, free⟩⟩
          have same := documentOf_eq_some_iff.2 opened
          rw [read] at same
          cases same
          simpa using apart
        · exact .inr ⟨rfl, other, List.mem_cons_of_mem _ member, found⟩

theorem others_eq_ok_iff {root : Path} {schemaFile : String} {found : List Path} :
    s.others fs root schemaFile = .ok found ↔
      ∃ own files, fs.resolve (.ofText schemaFile) = .ok own ∧ s.schemaFiles fs root = .ok files ∧
        found = files.filter (· ≠ own) := by
  unfold others
  cases fs.resolve (.ofText schemaFile) with
  | error fault => simp [bind, Except.bind]
  | ok own =>
    cases s.schemaFiles fs root with
    | error fault => simp [bind, Except.bind]
    | ok files => simp [bind, Except.bind, pure, Except.pure, eq_comm]

theorem heldElsewhere_iff {schemaFile : String} {root : Path} {files : List Path}
    (marked : projectRoot? fs schemaFile s.marker = .ok (some root))
    (listed : s.others fs root schemaFile = .ok files) (address : Address) :
    s.HeldElsewhere fs schemaFile address ↔
      ∃ file ∈ files, ∃ document, readDocument fs file.text = .ok (.ok document) ∧
        address.holds document = true := by
  obtain ⟨own, found, resolved, known, rfl⟩ := others_eq_ok_iff.1 listed
  simp [HeldElsewhere, marked, resolved, known, and_assoc]

theorem verdict_cases {q : Inquiry} {address : Address} (spelt : q.node.address? = some address)
    {v : Verdict} (answer : s.verdict fs q = .ok v) :
    v ≠ .unresolved ∧ (v = .duplicate ↔ s.HeldElsewhere fs q.schemaFile address) := by
  unfold verdict at answer
  rw [spelt] at answer
  dsimp only at answer
  cases marked : projectRoot? fs q.schemaFile s.marker with
  | error fault =>
    rw [marked] at answer
    cases answer
  | ok place =>
    rw [marked] at answer
    cases place with
    | none =>
      cases answer
      refine ⟨by decide, nofun, ?_⟩
      rintro ⟨root, own, files, found, -⟩
      rw [marked] at found
      cases found
    | some root =>
      dsimp only at answer
      cases listed : s.others fs root q.schemaFile with
      | error fault =>
        rw [listed] at answer
        cases answer
      | ok found =>
        rw [heldElsewhere_iff marked listed]
        rw [listed] at answer
        cases found with
        | nil =>
          cases answer
          simp
        | cons file others =>
          rcases lookUp_cases answer with ⟨rfl, free⟩ | ⟨rfl, found⟩
          · refine ⟨by decide, nofun, ?_⟩
            rintro ⟨file, member, document, opened, holds⟩
            rw [free file member document opened] at holds
            cases holds
          · exact ⟨by decide, fun _ => found, fun _ => rfl⟩

theorem exists_verdict {q : Inquiry} {root : Path} {files : List Path}
    (marked : projectRoot? fs q.schemaFile s.marker = .ok (some root))
    (listed : s.others fs root q.schemaFile = .ok files)
    (readable : ∀ file ∈ files, ∃ known, documentOf fs file = .ok known) :
    ∃ v, s.verdict fs q = .ok v := by
  have looked (address : Address) : ∃ v, lookUp fs address files = .ok v := by
    clear listed -- it speaks of all the files, and the induction takes them off one by one
    induction files with
    | nil => exact ⟨.unique, rfl⟩
    | cons file rest ih =>
      obtain ⟨⟨known, read⟩, others⟩ := List.forall_mem_cons.1 readable
      unfold lookUp
      rw [read]
      dsimp only
      split
      · exact ⟨.duplicate, rfl⟩
      · exact ih others
  unfold verdict
  cases q.node.address? with
  | none => exact ⟨.unresolved, rfl⟩
  | some address =>
    simp only [marked, listed]
    cases files with
    | nil => exact ⟨.unavailable, rfl⟩
    | cons file rest => exact looked address

end Search

end ReleaseImpact
