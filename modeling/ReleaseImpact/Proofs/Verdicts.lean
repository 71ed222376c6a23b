import ReleaseImpact.Proofs.OwnDeclarations
import ReleaseImpact.Proofs.Questions
import ReleaseImpact.Proofs.SchemaFiles
import ReleaseImpact.Proofs.Shapes

/-!
What a detector that searches answers, by the files alone: not by what it was asked before, not by the
order of its search directories, and not by what is in the schema file itself. The system can refuse to
look a path up, and then there is no answer. Main statements:

- `verdict_of_stopped` and `verdict_of_not_stopped`: the answer of a search without a memory.
- `FindsAlike.specified_eq`: neither the order nor the overlap of the search directories counts.
- `verdict_of_shape`: what is in the schema file itself does not count.
- `search_answers`: the answer of a detector, whatever it was asked before.
- `answerAfter_longMarker`: a marker with too long a name, for which there is no answer.
-/

namespace ReleaseImpact

open Survey FormComparison

namespace Search

variable {s : Search} {fs : FileSystem} {q : Inquiry}

/-! ## Answers -/

/-- A path that the search has to look up is refused: it is too long, holds the character that ends paths,
or leads in circles. -/
inductive Refused (s : Search) (fs : FileSystem) (schemaFile : String) : Prop
  | marker {near far : List Path} {d : Path} {fault : PathFault}
      (above : directoriesAbove schemaFile = near ++ d :: far)
      (unmarked : ∀ x ∈ near, fs.isFile (x.join (.ofText s.marker)).text = false)
      (refused : fs.hasFile (d.join (.ofText s.marker)).text = .error fault)
  | schemaFile {root : Path} {fault : PathFault} (nearest : s.nearestRoot? fs schemaFile = some root)
      (refused : fs.resolve (.ofText schemaFile) = .error fault)
  | directory {root : Path} {d : String} {fault : PathFault}
      (nearest : s.nearestRoot? fs schemaFile = some root) (listed : d ∈ s.directories)
      (refused : fs.hasDirectory (root.join (.ofText d)).text = .error fault)
  | found {root p : Path} {fault : PathFault} (nearest : s.nearestRoot? fs schemaFile = some root)
      (finds : s.Finds fs root p) (refused : fs.resolve p = .error fault)

/-- A question with something to look for meets a path that is refused. -/
def Stopped (s : Search) (fs : FileSystem) (q : Inquiry) : Prop :=
  q.node.address? ≠ none ∧ s.Refused fs q.schemaFile

def Readable (s : Search) (fs : FileSystem) (schemaFile : String) : Prop :=
  ∀ root file, s.nearestRoot? fs schemaFile = some root → s.Sibling fs root schemaFile file →
    ∃ known, documentOf fs file = .ok known

/-- A document in one of the other schema files of a project holds an address. -/
def Held (s : Search) (fs : FileSystem) (root : Path) (schemaFile : String) (address : Address) : Prop :=
  ∃ file, s.Sibling fs root schemaFile file ∧
    ∃ document, readDocument fs file.text = .ok (.ok document) ∧ address.holds document = true

open Classical in
/-- What is to be answered: by the other schema files of the project, if there are any. -/
noncomputable def specified (s : Search) (fs : FileSystem) (q : Inquiry) : Verdict :=
  match q.node.address?, s.nearestRoot? fs q.schemaFile with
  | none, _ => .unresolved
  | some _, none => .unavailable
  | some address, some root =>
    if ¬∃ file, s.Sibling fs root q.schemaFile file then .unavailable
    else if s.Held fs root q.schemaFile address then .duplicate
    else .unique

theorem specified_of_no_root {address : Address} (spelt : q.node.address? = some address)
    (unmarked : s.nearestRoot? fs q.schemaFile = none) : s.specified fs q = .unavailable := by
  simp only [specified, spelt, unmarked]

theorem projectRoot?_of_not_refused {schemaFile : String} (clear : ¬s.Refused fs schemaFile) :
    projectRoot? fs schemaFile s.marker = .ok (s.nearestRoot? fs schemaFile) := by
  rcases firstMarked_cases fs (.ofText s.marker) (directoriesAbove schemaFile) with
    ⟨near, d, far, fault, above, unmarked, refused, -⟩ | marked
  · exact absurd (.marker above unmarked refused) clear
  · exact marked

theorem not_refused_of_no_root {schemaFile : String}
    (marked : projectRoot? fs schemaFile s.marker = .ok none) : ¬s.Refused fs schemaFile := by
  have nearest := nearestRoot?_of_projectRoot? marked
  intro refused
  cases refused with
  | marker above unmarked refused => exact marker_not_refused marked above unmarked refused
  | schemaFile found => exact absurd (nearest.symm.trans found) nofun
  | directory found => exact absurd (nearest.symm.trans found) nofun
  | found found => exact absurd (nearest.symm.trans found) nofun

theorem not_refused_of_others {schemaFile : String} {root : Path} {files : List Path}
    (marked : projectRoot? fs schemaFile s.marker = .ok (some root))
    (listed : s.others fs root schemaFile = .ok files) : ¬s.Refused fs schemaFile := by
  obtain ⟨own, found, resolved, known, -⟩ := others_eq_ok_iff.mp listed
  have told := filesBelow_of_schemaFiles known
  have nearest {other : Path} (same : s.nearestRoot? fs schemaFile = some other) : other = root :=
    Option.some.inj (same.symm.trans (nearestRoot?_of_projectRoot? marked))
  intro refused
  cases refused with
  | marker above unmarked refused => exact marker_not_refused marked above unmarked refused
  | schemaFile _ refused => exact absurd (resolved.symm.trans refused) nofun
  | directory same member refused =>
    obtain rfl := nearest same
    obtain ⟨there, answer⟩ := told.looked _ member
    exact absurd (answer.symm.trans refused) nofun
  | found same finds refused =>
    obtain rfl := nearest same
    obtain ⟨file, answer⟩ := told.resolved _ finds
    exact absurd (answer.symm.trans refused) nofun

theorem others_of_not_refused {schemaFile : String} {root : Path} (clear : ¬s.Refused fs schemaFile)
    (nearest : s.nearestRoot? fs schemaFile = some root) :
    ∃ files, s.others fs root schemaFile = .ok files := by
  cases resolved : fs.resolve (.ofText schemaFile) with
  | error fault => exact absurd (.schemaFile nearest resolved) clear
  | ok own =>
    obtain ⟨fault, -, ⟨d, member, refused⟩ | ⟨p, finds, refused⟩⟩ | ⟨files, known, -⟩ :=
      s.schemaFiles_cases fs root
    · exact absurd (.directory nearest member refused) clear
    · exact absurd (.found nearest finds refused) clear
    · exact ⟨_, others_eq_ok_iff.mpr ⟨own, files, resolved, known, rfl⟩⟩

theorem verdict_of_refused {address : Address} {fault : PathFault} (spelt : q.node.address? = some address)
    (refused : projectRoot? fs q.schemaFile s.marker = .error fault) :
    s.verdict fs q = .error (.fileFault fault) := by
  simp only [verdict, spelt, refused]

theorem verdict_of_stopped (stopped : s.Stopped fs q) :
    ∃ fault, s.verdict fs q = .error (.fileFault fault) := by
  obtain ⟨spelt, refused⟩ := stopped
  obtain ⟨address, spelt⟩ := Option.ne_none_iff_exists'.mp spelt
  cases marked : projectRoot? fs q.schemaFile s.marker with
  | error fault => exact ⟨fault, verdict_of_refused spelt marked⟩
  | ok place =>
    cases place with
    | none => exact absurd refused (not_refused_of_no_root marked)
    | some root =>
      cases listed : s.others fs root q.schemaFile with
      | error fault => exact ⟨fault, by simp only [verdict, spelt, marked, listed]⟩
      | ok files => exact absurd refused (not_refused_of_others marked listed)

theorem verdict_of_not_stopped (readable : s.Readable fs q.schemaFile) (clear : ¬s.Stopped fs q) :
    s.verdict fs q = .ok (s.specified fs q) := by
  unfold specified
  cases spelt : q.node.address? with
  | none => rw [verdict, spelt]
  | some address =>
    have clear : ¬s.Refused fs q.schemaFile := fun refused => clear ⟨by simp [spelt], refused⟩
    have marked := projectRoot?_of_not_refused clear
    cases nearest : s.nearestRoot? fs q.schemaFile with
    | none =>
      rw [nearest] at marked
      simp only [verdict, spelt, marked]
    | some root =>
      rw [nearest] at marked
      obtain ⟨files, listed⟩ := others_of_not_refused clear nearest
      have named (file : Path) : file ∈ files ↔ s.Sibling fs root q.schemaFile file := mem_others_iff listed
      have told (file : Path) (member : file ∈ files) : ∃ known, documentOf fs file = .ok known :=
        readable root file nearest ((named file).mp member)
      obtain ⟨v, answer⟩ := exists_verdict marked listed told
      rw [answer]
      dsimp only
      simp only [verdict, spelt, marked, listed] at answer
      cases files with
      | nil =>
        cases answer
        have alone : ¬∃ file, s.Sibling fs root q.schemaFile file := by
          rintro ⟨file, sibling⟩
          exact List.not_mem_nil ((named file).mpr sibling)
        rw [if_pos alone]
      | cons first rest =>
        have other : ∃ file, s.Sibling fs root q.schemaFile file :=
          ⟨first, (named first).mp List.mem_cons_self⟩
        rw [if_neg (not_not.mpr other)]
        rcases lookUp_cases answer with ⟨rfl, free⟩ | ⟨rfl, file, member, found⟩
        · rw [if_neg]
          rintro ⟨file, sibling, document, opened, holds⟩
          rw [free file ((named file).mpr sibling) document opened] at holds
          cases holds
        · rw [if_pos ⟨file, (named file).mp member, found⟩]

/-! ## What does not count -/

/-- Two searches look for the same marker and find the same files other than a given one, in whatever order
and however often. -/
structure FindsAlike (s s' : Search) (fs : FileSystem) (schemaFile : String) : Prop where
  marker : s.marker = s'.marker
  siblings : ∀ root, s.nearestRoot? fs schemaFile = some root → ∀ file,
    s.Sibling fs root schemaFile file ↔ s'.Sibling fs root schemaFile file

section Alike

variable {s' : Search} {schemaFile : String} (alike : s.FindsAlike s' fs schemaFile)
include alike

theorem FindsAlike.nearestRoot?_eq : s.nearestRoot? fs schemaFile = s'.nearestRoot? fs schemaFile := by
  rw [nearestRoot?, nearestRoot?, alike.marker]

theorem FindsAlike.sibling_eq {root : Path} (nearest : s.nearestRoot? fs schemaFile = some root) :
    s.Sibling fs root schemaFile = s'.Sibling fs root schemaFile := by
  funext file
  exact propext (alike.siblings root nearest file)

theorem FindsAlike.readable (readable : s.Readable fs schemaFile) : s'.Readable fs schemaFile := by
  intro root file nearest sibling
  rw [← alike.nearestRoot?_eq] at nearest
  rw [← alike.sibling_eq nearest] at sibling
  exact readable root file nearest sibling

end Alike

theorem FindsAlike.specified_eq {s' : Search} (alike : s.FindsAlike s' fs q.schemaFile) :
    s.specified fs q = s'.specified fs q := by
  unfold specified Held
  rw [← alike.nearestRoot?_eq]
  cases q.node.address? with
  | none => rfl
  | some address =>
    cases nearest : s.nearestRoot? fs q.schemaFile with
    | none => rfl
    | some root =>
      dsimp only
      rw [alike.sibling_eq nearest]

theorem findsAlike_of_mem_iff {s' : Search} (marker : s.marker = s'.marker)
    (name : s.schemaFileName = s'.schemaFileName) (directories : ∀ d, d ∈ s.directories ↔ d ∈ s'.directories)
    (fs : FileSystem) (schemaFile : String) : s.FindsAlike s' fs schemaFile where
  marker := marker
  siblings root _ file := by simp only [Sibling, Finds, directories, name]

theorem refused_of_mem_iff {s' : Search} {schemaFile : String} (marker : s.marker = s'.marker)
    (name : s.schemaFileName = s'.schemaFileName) (directories : ∀ d, d ∈ s.directories ↔ d ∈ s'.directories)
    (refused : s.Refused fs schemaFile) : s'.Refused fs schemaFile := by
  have roots : s.nearestRoot? fs schemaFile = s'.nearestRoot? fs schemaFile := by
    rw [nearestRoot?, nearestRoot?, marker]
  cases refused with
  | marker above unmarked refused =>
    rw [marker] at unmarked refused
    exact .marker above unmarked refused
  | schemaFile nearest refused => exact .schemaFile (roots ▸ nearest) refused
  | directory nearest listed refused =>
    exact .directory (roots ▸ nearest) ((directories _).mp listed) refused
  | found nearest finds refused =>
    refine .found (roots ▸ nearest) ?_ refused
    simpa only [Finds, directories, name] using finds

theorem others_shape (s : Search) (fs : FileSystem) (root : Path) (schemaFile : String) :
    s.others fs.shape root schemaFile = s.others fs root schemaFile := by
  have files (directory : Path) : s.filesIn fs.shape directory = s.filesIn fs directory := by
    simp only [filesIn, fs.hasDirectory_shape, fs.walk_shape, fs.resolve_shape]
  simp only [others, schemaFiles, funext files, fs.resolve_shape]

theorem projectRoot?_shape (fs : FileSystem) (schemaFile marker : String) :
    projectRoot? fs.shape schemaFile marker = projectRoot? fs schemaFile marker := by
  have marked (directories : List Path) :
      firstMarked fs.shape (.ofText marker) directories = firstMarked fs (.ofText marker) directories := by
    induction directories with
    | nil => rfl
    | cons d rest ih => rw [firstMarked, firstMarked, fs.hasFile_shape, ih]
  exact marked _

/-- What is in the schema file itself does not count, and neither does what is in a file that is none of
the other schema files. -/
theorem verdict_of_shape {fs' : FileSystem} (shape : fs'.shape = fs.shape)
    (same : ∀ root file, s.nearestRoot? fs q.schemaFile = some root → s.Sibling fs root q.schemaFile file →
      documentOf fs' file = documentOf fs file) :
    s.verdict fs' q = s.verdict fs q := by
  have looked (address : Address) {files : List Path}
      (agree : ∀ file ∈ files, documentOf fs' file = documentOf fs file) :
      lookUp fs' address files = lookUp fs address files := by
    induction files with
    | nil => rfl
    | cons file rest ih =>
      obtain ⟨first, others⟩ := List.forall_mem_cons.mp agree
      rw [lookUp, lookUp, first, ih others]
  unfold verdict
  rw [← projectRoot?_shape fs', shape, projectRoot?_shape fs]
  cases q.node.address? with
  | none => rfl
  | some address =>
    dsimp only
    cases marked : projectRoot? fs q.schemaFile s.marker with
    | error fault => rfl
    | ok place =>
      cases place with
      | none => rfl
      | some root =>
        dsimp only
        rw [← s.others_shape fs', shape, s.others_shape fs]
        cases listed : s.others fs root q.schemaFile with
        | error fault => rfl
        | ok files =>
          cases files with
          | nil => rfl
          | cons first rest =>
            refine looked address fun file member => ?_
            exact same root file (nearestRoot?_of_projectRoot? marked) ((mem_others_iff listed).mp member)

end Search

/-! ## Detectors -/

/-- The answer of a detector that searches and was asked some questions before. -/
def Search.answerAfter (s : Search) (fs : FileSystem) (earlier : List Inquiry) (q : Inquiry) :
    Except Failure Verdict :=
  (Detector.ask fs (afterAsking (Detector.ask fs) (.ofSearch s) earlier) q).verdict

theorem Search.answerAfter_eq (s : Search) (fs : FileSystem) (earlier : List Inquiry) (q : Inquiry) :
    s.answerAfter fs earlier q = s.verdict fs q := by
  -- What is remembered is what would be found now, and each question keeps it so.
  have starts : Searching s fs (.ofSearch s) := ⟨_, rfl, s.remembers_empty fs⟩
  have kept : Searching s fs (afterAsking (Detector.ask fs) (.ofSearch s) earlier) :=
    kept_afterAsking (Searching s fs) (fun _ q searching => (searching_ask searching q).2) starts earlier
  exact (searching_ask kept q).1

/-- A detector answers as the files say, whatever it was asked before, and fails just if the system refuses
a path that has to be looked up. -/
theorem search_answers (s : Search) (fs : FileSystem) (earlier : List Inquiry) (q : Inquiry)
    (readable : s.Readable fs q.schemaFile) :
    (s.Stopped fs q → ∃ fault, s.answerAfter fs earlier q = .error (.fileFault fault)) ∧
      (¬s.Stopped fs q → s.answerAfter fs earlier q = .ok (s.specified fs q)) ∧
      (∀ (s' : Search) (earlier' : List Inquiry), s.FindsAlike s' fs q.schemaFile → ¬s.Stopped fs q →
        ¬s'.Stopped fs q → s'.answerAfter fs earlier' q = s.answerAfter fs earlier q) ∧
      (∀ (s' : Search) (earlier' : List Inquiry), s.marker = s'.marker →
        s.schemaFileName = s'.schemaFileName → (∀ d, d ∈ s.directories ↔ d ∈ s'.directories) →
        (s'.answerAfter fs earlier' q).toOption = (s.answerAfter fs earlier q).toOption) ∧
      ∀ (fs' : FileSystem) (earlier' : List Inquiry), fs'.shape = fs.shape →
        (∀ root file, s.nearestRoot? fs q.schemaFile = some root → s.Sibling fs root q.schemaFile file →
          documentOf fs' file = documentOf fs file) →
        s.answerAfter fs' earlier' q = s.answerAfter fs earlier q := by
  simp only [Search.answerAfter_eq]
  have alike (s' : Search) (alike : s.FindsAlike s' fs q.schemaFile) (clear : ¬s.Stopped fs q)
      (clear' : ¬s'.Stopped fs q) : s'.verdict fs q = s.verdict fs q := by
    rw [Search.verdict_of_not_stopped readable clear,
      Search.verdict_of_not_stopped (alike.readable readable) clear', alike.specified_eq]
  refine ⟨Search.verdict_of_stopped, Search.verdict_of_not_stopped readable, fun s' _ => alike s', ?_, ?_⟩
  · intro s' _ marker name directories
    have stopped : s.Stopped fs q ↔ s'.Stopped fs q := by
      refine and_congr_right fun _ => ⟨Search.refused_of_mem_iff marker name directories, ?_⟩
      exact Search.refused_of_mem_iff marker.symm name.symm fun d => (directories d).symm
    by_cases clear : s.Stopped fs q
    · obtain ⟨_, fails⟩ := Search.verdict_of_stopped clear
      obtain ⟨_, fails'⟩ := Search.verdict_of_stopped (stopped.mp clear)
      rw [fails, fails']
      rfl
    · have same := Search.findsAlike_of_mem_iff marker name directories fs q.schemaFile
      rw [alike s' same clear (mt stopped.mpr clear)]
  · intro fs' _ shape same
    exact Search.verdict_of_shape shape same

/-! ## In a project -/

theorem Search.not_stopped_of_ok {s : Search} {fs : FileSystem} {q : Inquiry} {v : Verdict}
    (answer : s.verdict fs q = .ok v) : ¬s.Stopped fs q := by
  intro stopped
  obtain ⟨fault, fails⟩ := Search.verdict_of_stopped stopped
  exact absurd (answer.symm.trans fails) nofun

def ownQuestion : Inquiry := ⟨ownField, (etcFile "/two" ["adminhtml", "system.xml"]).text, .empty⟩

def overlapping : Search := ⟨"SECURITY.md", ["vendor", "app", "app/code"], "system.xml"⟩

def projectsEmptied : FileSystem :=
  projects.changeAt ["two", "app", "code", "Acme", "Shop", "etc", "adminhtml", "system.xml"]
    fun _ => some (.file [])

def firstForm : Path := etcFile "/two" ["system.xml"]

section Project

variable {s : Search} {rest : List Path}

theorem documentOf_firstForm {fs : FileSystem} (read : fs.read firstForm.text = .ok formBytes) :
    documentOf fs firstForm = .ok (some shopForm) :=
  documentOf_eq_some_iff.mpr (Survey.readDocument_eq_ok_iff.mpr ⟨formBytes, read, ofBytes_formBytes⟩)

structure LooksIntoFirst (s : Search) (rest : List Path) : Prop where
  marked : projectRoot? projects ownQuestion.schemaFile s.marker = .ok (some (.ofText "/two"))
  others : s.others projects (.ofText "/two") ownQuestion.schemaFile = .ok (firstForm :: rest)
  alone : ∀ file ∈ rest, file = firstForm

theorem read_firstForm : projects.read firstForm.text = .ok formBytes := by cbv

theorem LooksIntoFirst.verdict (looks : LooksIntoFirst s rest) :
    s.verdict projects ownQuestion = .ok .duplicate := by
  have spelt : ownQuestion.node.address? = some (formAddress "s" ["g"] .configField "f") := by decide +kernel
  have holds : (formAddress "s" ["g"] .configField "f").holds shopForm = true := by decide +kernel
  simp only [Search.verdict, spelt, looks.marked, looks.others, Search.lookUp,
    documentOf_firstForm read_firstForm, Option.any_some, holds, if_true]

theorem LooksIntoFirst.sibling_iff (looks : LooksIntoFirst s rest) {file : Path} :
    s.Sibling projects (.ofText "/two") ownQuestion.schemaFile file ↔ file = firstForm := by
  rw [← Search.mem_others_iff looks.others, List.mem_cons]
  exact or_iff_left_of_imp (looks.alone file)

theorem LooksIntoFirst.eq_root (looks : LooksIntoFirst s rest) {root : Path}
    (nearest : s.nearestRoot? projects ownQuestion.schemaFile = some root) : root = .ofText "/two" := by
  have found := Search.nearestRoot?_of_projectRoot? looks.marked
  rw [nearest] at found
  exact Option.some.inj found

theorem looksIntoFirst : LooksIntoFirst searchSettings.analysis.search [] where
  marked := isSearched_two.marked
  others := by
    refine Search.others_eq_ok_iff.mpr ⟨_, _, isSearched_two.resolved, isSearched_two.listed, ?_⟩
    decide +kernel
  alone := List.forall_mem_nil _

theorem looksIntoFirst_overlapping : LooksIntoFirst overlapping [firstForm] where
  marked := isSearched_two.marked
  others := by
    have listed : overlapping.schemaFiles projects (.ofText "/two") =
        .ok [firstForm, etcFile "/two" ["adminhtml", "system.xml"], firstForm,
          etcFile "/two" ["adminhtml", "system.xml"]] := by cbv
    refine Search.others_eq_ok_iff.mpr ⟨_, _, isSearched_two.resolved, listed, ?_⟩
    decide +kernel
  alone := List.forall_mem_singleton.mpr rfl

end Project

theorem search_answers_two :
    searchSettings.analysis.search.Readable projects ownQuestion.schemaFile ∧
      ¬searchSettings.analysis.search.Stopped projects ownQuestion ∧
      searchSettings.analysis.search.answerAfter projects [ownQuestion, ownQuestion] ownQuestion =
        .ok .duplicate ∧
      searchSettings.analysis.search.specified projects ownQuestion = .duplicate ∧
      searchSettings.analysis.search.FindsAlike overlapping projects ownQuestion.schemaFile ∧
      overlapping.answerAfter projects [] ownQuestion = .ok .duplicate ∧
      projects.write ownQuestion.schemaFile [] = .ok projectsEmptied ∧
      searchSettings.analysis.search.answerAfter projectsEmptied [] ownQuestion = .ok .duplicate := by
  have readable : searchSettings.analysis.search.Readable projects ownQuestion.schemaFile := by
    intro root file nearest sibling
    obtain rfl := looksIntoFirst.eq_root nearest
    obtain rfl := looksIntoFirst.sibling_iff.mp sibling
    exact ⟨_, documentOf_firstForm read_firstForm⟩
  have clear := Search.not_stopped_of_ok looksIntoFirst.verdict
  have clear' := Search.not_stopped_of_ok looksIntoFirst_overlapping.verdict
  have alike : searchSettings.analysis.search.FindsAlike overlapping projects ownQuestion.schemaFile := by
    refine ⟨rfl, fun root nearest file => ?_⟩
    obtain rfl := looksIntoFirst.eq_root nearest
    rw [looksIntoFirst.sibling_iff, looksIntoFirst_overlapping.sibling_iff]
  have written : projects.write ownQuestion.schemaFile [] = .ok projectsEmptied := by cbv
  have shape : projectsEmptied.shape = projects.shape := FileSystem.shape_write (by cbv) written
  have kept : projectsEmptied.read firstForm.text = .ok formBytes := by cbv
  obtain ⟨-, answers, others, -, shapes⟩ := search_answers searchSettings.analysis.search projects
    [ownQuestion, ownQuestion] ownQuestion readable
  have answer : searchSettings.analysis.search.answerAfter projects [ownQuestion, ownQuestion] ownQuestion =
      .ok .duplicate := (Search.answerAfter_eq ..).trans looksIntoFirst.verdict
  have emptied := shapes projectsEmptied [] shape (by
    intro root file nearest sibling
    obtain rfl := looksIntoFirst.eq_root nearest
    obtain rfl := looksIntoFirst.sibling_iff.mp sibling
    rw [documentOf_firstForm kept, documentOf_firstForm read_firstForm])
  exact ⟨readable, clear, answer, Except.ok.inj ((answers clear).symm.trans answer), alike,
    (others overlapping [] alike clear clear').trans answer, written, emptied.trans answer⟩

/-! ## A path that is refused -/

def longName : String := String.ofList (List.replicate 256 'M')

def lone : FileSystem := ⟨.directory [("system.xml", .file [])], []⟩

theorem toList_longName : longName.toList = List.replicate 256 'M' := String.toList_ofList

theorem split_longName : Text.split '/' longName = [longName] := by
  have plain : ∀ part ∈ [longName], '/' ∉ part.toList := by
    rw [List.forall_mem_singleton, toList_longName, List.mem_replicate]
    simp only [Char.reduceEq, and_false, not_false_eq_true]
  have whole := Text.split_join plain (List.cons_ne_nil _ _)
  rwa [Text.join_singleton] at whole

theorem text_longName : ((⟨.root, []⟩ : Path).join (.ofText longName)).text = "/" ++ longName := by
  have letters : Path.anchorOf longName.toList = .none := by
    rw [toList_longName]
    rfl
  have kept : Path.significant [longName] = [longName] := by
    have filled : longName ≠ "" := by decide +kernel
    have other : longName ≠ "." := by decide +kernel
    simp [Path.significant, filled, other]
  rw [Path.ofText, letters, split_longName, kept]
  simp [Path.join, Path.isAbsolute, Path.text, Path.anchorText, Text.join_singleton]

theorem locate_longName : lone.locate ("/" ++ longName) = .error .nameTooLong := by
  have plain : '\x00' ∉ ("/" ++ longName).toList := by
    rw [String.toList_append, toList_longName, List.mem_append, List.mem_replicate]
    simp only [Char.reduceEq, and_false, or_false]
    decide
  have filled : "/" ++ longName ≠ "" := by decide +kernel
  have bounded : ¬FileSystem.pathLimit ≤ ("/" ++ longName).utf8ByteSize := by decide +kernel
  have parts : Entry.rawParts ("/" ++ longName) = ["", longName] := by
    have front : Text.split '/' "" = [""] := by decide +kernel
    have apart := Text.split_append "" longName
    rw [split_longName, front, String.empty_append] at apart
    exact apart
  have start : lone.start ("/" ++ longName) = [] := by simp [FileSystem.start, Text.startsWith]
  have moves : ¬Entry.isHere longName = true := by decide +kernel
  have down : longName ≠ ".." := by decide +kernel
  have long : Entry.maxNameLength < longName.utf8ByteSize := by decide +kernel
  have led : lone.root.reach FileSystem.maxLinks [] ["", longName] = .error .nameTooLong := by
    have top : lone.root.entryAt [] = some (.directory [("system.xml", .file [])]) := rfl
    rw [Entry.reach_here top (by decide), Entry.reach_long top moves down long]
  rw [FileSystem.locate, FileSystem.checkText, if_neg plain, if_neg filled, if_neg bounded, parts, start]
  simp only [bind, Except.bind, Entry.follow, led]

def loneQuestion : Inquiry := ⟨ownField, "/system.xml", .empty⟩

def longMarker : Search := ⟨longName, ["app/code"], "system.xml"⟩

/-- No directory holds the marker and there are no links and no other schema files, and yet there is no
answer. -/
theorem answerAfter_longMarker :
    lone.root.linkCount = 0 ∧ longMarker.Readable lone loneQuestion.schemaFile ∧
      longMarker.specified lone loneQuestion = .unavailable ∧
      longMarker.answerAfter lone [] loneQuestion = .error (.fileFault .nameTooLong) := by
  have above : directoriesAbove loneQuestion.schemaFile = [⟨.root, []⟩] := by decide +kernel
  have unmarked : longMarker.nearestRoot? lone loneQuestion.schemaFile = none := by
    rw [Search.nearestRoot?, above, List.find?_singleton, longMarker, text_longName, FileSystem.isFile,
      locate_longName]
    rfl
  have refused : projectRoot? lone loneQuestion.schemaFile longMarker.marker = .error .nameTooLong := by
    show firstMarked lone (.ofText longName) (directoriesAbove loneQuestion.schemaFile) = _
    rw [above, firstMarked, text_longName, FileSystem.hasFile, FileSystem.probe, locate_longName]
  have spelt : loneQuestion.node.address? = some (formAddress "s" ["g"] .configField "f") := by decide +kernel
  refine ⟨by decide, ?_, ?_, ?_⟩
  · intro root file nearest
    rw [unmarked] at nearest
    cases nearest
  · exact Search.specified_of_no_root spelt unmarked
  · exact (Search.answerAfter_eq ..).trans (Search.verdict_of_refused spelt refused)

end ReleaseImpact
