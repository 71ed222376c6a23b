import ReleaseImpact.Proofs.LostFiles
import ReleaseImpact.Proofs.RefusedLookUps
import ReleaseImpact.Proofs.ResolvedPaths
import ReleaseImpact.Proofs.SiblingWarnings

/-!
A project without files that are not well-formed. A search passes over such files, so it answers without
them as it answered with them, as long as there is a schema file left to look into. Main statements:

- `documentOf_lost`: no document is lost.
- `Search.schemaFiles_trimmed`: the schema files that are found are those from before without some that
  cannot be read.
- `Search.verdict_without`: what a search answers without the files.
- `detector_without`: what a detector answers that goes by likeness where there is nothing to search.
- `detector_without_broken`: one broken form may keep a detector from going by likeness.
-/

namespace ReleaseImpact

open FileSystem

/-! ## Schema files -/

/-- What stands at a place is a file that is not well-formed. -/
structure Malformed (fs : FileSystem) (location : Location) : Prop where
  content : ∃ bytes, fs.root.entryAt location = some (.file bytes) ∧ Xml.ofBytes bytes = .error .malformed
  noNul : ∀ name ∈ location, '\x00' ∉ name.toList

section Malformed

variable {fs : FileSystem} {gone : Location → Bool} (proper : fs.root.Proper)
  (only : fs.root.OnlyFiles gone) (malformed : ∀ location, gone location = true → Malformed fs location)

theorem read_of_file {text : String} {location : Location} {bytes : List UInt8}
    (located : fs.locate text = .ok (location, .file bytes)) : fs.read text = .ok bytes := by
  rw [FileSystem.read, located]

theorem readDocument_of_malformed {text : String} {bytes : List UInt8} (read : fs.read text = .ok bytes)
    (broken : Xml.ofBytes bytes = .error .malformed) :
    readDocument fs text = .ok (.error "not well-formed") := by
  simp only [readDocument, read, broken]

include proper only malformed in
theorem documentOf_lost (file : Path) : documentOf (fs.without gone) file = documentOf fs file := by
  have lost := locate_lost proper only file.text
  have nowhere {fs : FileSystem} {fault : PathFault} (refused : fs.locate file.text = .error fault)
      (path : fault ≠ .containsNul) : documentOf fs file = .ok none := by
    have closed : fs.read file.text = .error fault := by rw [FileSystem.read, refused]
    rw [documentOf, Survey.readDocument_of_refused closed path]
    rfl
  generalize before : fs.locate file.text = b, after : (fs.without gone).locate file.text = a at lost
  -- A file that is gone gave no document, and one that is missing gives none either.
  cases lost with
  | stays location e kept =>
    have read : (fs.without gone).read file.text = fs.read file.text := by
      rw [FileSystem.read, FileSystem.read, before, after]
      cases e <;> rfl
    rw [documentOf, documentOf, readDocument, readDocument, read]
  | removed location content falls =>
    obtain ⟨⟨bytes, stands, broken⟩, -⟩ := malformed location falls
    cases (Entry.entryAt_of_reach (locate_eq_ok_iff.mp before).2).symm.trans stands
    rw [nowhere after (by simp), documentOf, readDocument_of_malformed (read_of_file before) broken]
    rfl
  | fault fault =>
    have read : (fs.without gone).read file.text = fs.read file.text := by
      rw [FileSystem.read, FileSystem.read, before, after]
    rw [documentOf, documentOf, readDocument, readDocument, read]
  | beyond => rw [nowhere before (by simp), nowhere after (by simp)]

theorem noNul_join {names : Location} (noNul : ∀ name ∈ names, '\x00' ∉ name.toList) :
    '\x00' ∉ (Text.join '/' names).toList := by
  induction names with
  | nil => decide
  | cons name rest ih =>
    obtain ⟨first, others⟩ := List.forall_mem_cons.mp noNul
    cases rest with
    | nil => rwa [Text.join_singleton]
    | cons next more =>
      have joined := Text.join_append (List.cons_ne_nil name []) (List.cons_ne_nil next more)
      rw [List.singleton_append, Text.join_singleton] at joined
      rw [joined, String.toList_append, String.toList_append, List.mem_append, List.mem_append]
      simp [first, ih others]

theorem noNul_below {top : Path} {names : Location} (named : names ≠ [])
    (noNulTop : '\x00' ∉ top.text.toList) (noNul : ∀ name ∈ names, '\x00' ∉ name.toList) :
    '\x00' ∉ (top.below names).text.toList := by
  have joined := noNul_join noNul
  by_cases parts : top.parts = []
  · rw [text_below_of_no_parts named parts, String.toList_append, List.mem_append]
    cases top.anchor <;> simp [Path.anchorText, joined]
  · rw [text_below named parts, String.toList_append, String.toList_append, List.mem_append, List.mem_append]
    simp [noNulTop, joined]

theorem Malformed.ne_nil {location : Location} (malformed : Malformed fs location)
    (directory : fs.root.isDirectory = true) : location ≠ [] := by
  rintro rfl
  obtain ⟨bytes, stands, -⟩ := malformed.content
  cases Option.some.inj stands ▸ directory

include proper in
theorem isSound_of_malformed {location : Location} (malformed : Malformed fs location)
    (filled : location ≠ []) : Search.isSound fs (pathOf location) = false := by
  obtain ⟨⟨bytes, stands, broken⟩, noNul⟩ := malformed
  refine Search.isSound_eq_false_iff.mpr ?_
  cases checked : checkText (pathOf location).text with
  | ok u =>
    have located := locate_pathOf proper filled stands nofun checked
    exact ⟨_, readDocument_of_malformed (read_of_file located) broken⟩
  | error fault =>
    have nowhere : fs.locate (pathOf location).text = .error fault := by
      rw [locate, checked]
      rfl
    have top : '\x00' ∉ (pathOf []).text.toList := by decide
    have spelt : '\x00' ∉ ((pathOf []).below location).text.toList := noNul_below filled top noNul
    obtain ⟨closed, path⟩ := refused_of_locate nowhere spelt
    exact ⟨_, Survey.readDocument_of_refused closed path⟩

end Malformed

namespace Search

/-- The first files are the others without some that cannot be read. -/
inductive Trimmed (fs : FileSystem) : List Path → List Path → Prop
  | nil : Trimmed fs [] []
  | drop {files files' : List Path} {file : Path} (unread : isSound fs file = false)
      (rest : Trimmed fs files' files) : Trimmed fs files' (file :: files)
  | keep {files files' : List Path} (file : Path) (rest : Trimmed fs files' files) :
      Trimmed fs (file :: files') (file :: files)

variable {fs : FileSystem} {files files' : List Path}

theorem Trimmed.refl (files : List Path) : Trimmed fs files files := by
  induction files with
  | nil => exact .nil
  | cons file rest ih => exact .keep file ih

theorem Trimmed.append {more more' : List Path} (first : Trimmed fs files' files)
    (rest : Trimmed fs more' more) : Trimmed fs (files' ++ more') (files ++ more) := by
  induction first with
  | nil => exact rest
  | drop unread _ ih => exact .drop unread ih
  | keep file _ ih => exact .keep file ih

theorem Trimmed.filter (trimmed : Trimmed fs files' files) (kept : Path → Bool) :
    Trimmed fs (files'.filter kept) (files.filter kept) := by
  induction trimmed with
  | nil => exact .nil
  | @drop _ _ file unread _ ih =>
    rw [List.filter_cons]
    split
    · exact .drop unread ih
    · exact ih
  | keep file _ ih =>
    rw [List.filter_cons, List.filter_cons]
    split
    · exact .keep file ih
    · exact ih

theorem Trimmed.lookUp_eq (trimmed : Trimmed fs files' files) (address : Address) :
    lookUp fs address files' = lookUp fs address files := by
  induction trimmed with
  | nil => rfl
  | @drop files _ file unread _ ih =>
    have passed : lookUp fs address ((file :: files).filter (isSound fs)) = lookUp fs address (file :: files) :=
      lookUp_filter _
    rw [List.filter_cons, unread] at passed
    rw [ih, ← passed]
    exact (lookUp_filter files).symm
  | keep file _ ih => rw [lookUp, lookUp, ih]

/-- The same look-up is refused, or the first files are the others without some that cannot be read. -/
inductive TrimmedOutcome (fs : FileSystem) :
    Except PathFault (List Path) → Except PathFault (List Path) → Prop
  | refused (fault : PathFault) : TrimmedOutcome fs (.error fault) (.error fault)
  | listed {files files' : List Path} (trimmed : Trimmed fs files' files) :
      TrimmedOutcome fs (.ok files') (.ok files)

theorem TrimmedOutcome.refl (outcome : Except PathFault (List Path)) :
    TrimmedOutcome fs outcome outcome := by
  cases outcome with
  | error fault => exact .refused fault
  | ok files => exact .listed (.refl files)

theorem trimmed_flatMapM {α : Type} {items : List α} {f f' : α → Except PathFault (List Path)}
    (each : ∀ a ∈ items, TrimmedOutcome fs (f' a) (f a)) :
    TrimmedOutcome fs (items.flatMapM f') (items.flatMapM f) := by
  induction items with
  | nil => exact .listed .nil
  | cons a rest ih =>
    obtain ⟨first, others⟩ := List.forall_mem_cons.mp each
    have later := ih others
    rw [flatMapM_cons, flatMapM_cons]
    generalize f' a = one', f a = one at first
    cases first with
    | refused fault => exact .refused fault
    | listed first =>
      generalize rest.flatMapM f' = more', rest.flatMapM f = more at later
      cases later with
      | refused fault => exact .refused fault
      | listed later => exact .listed (first.append later)

theorem flatMapM_map {α β : Type} (items : List α) (g : α → β)
    (f : β → Except PathFault (List Path)) :
    (items.map g).flatMapM f = items.flatMapM fun a => f (g a) := by
  induction items with
  | nil => rfl
  | cons a rest ih => rw [List.map_cons, flatMapM_cons, flatMapM_cons, ih]

section Lost

variable {gone : Location → Bool} (s : Search) (proper : fs.root.Proper) (only : fs.root.OnlyFiles gone)
  (malformed : ∀ location, gone location = true → Malformed fs location)

include proper only malformed

/-- A schema file that is gone was found at its own place. -/
theorem resolve_of_gone {top : Path} {place names : Location} {name : String} {e : Entry}
    (located : fs.locate top.text = .ok (place, e)) (falls : gone (place ++ (names ++ [name])) = true) :
    fs.resolve ((top.below names).below [name]) = .ok (pathOf (place ++ (names ++ [name]))) ∧
      isSound fs (pathOf (place ++ (names ++ [name]))) = false := by
  have broken := malformed _ falls
  obtain ⟨content, stands⟩ := only.file _ falls
  have start := Entry.entryAt_of_reach (locate_eq_ok_iff.mp located).2
  have inside : e.entryAt (names ++ [name]) = some (.file content) := by
    rw [Entry.entryAt_append, start] at stands
    exact stands
  have filled : names ++ [name] ≠ [] := by simp
  have noNul : '\x00' ∉ (top.below (names ++ [name])).text.toList :=
    noNul_below filled (noNul_of_locate located) fun n member =>
      broken.noNul n (List.mem_append_right _ member)
  have properNames := ((proper.entryAt start).2.entryAt inside).1
  obtain ⟨left, goesOn⟩ := reach_below located filled properNames
  have led := goesOn.trans (Entry.reach_down start properNames inside nofun)
  have path : (top.below names).below [name] = top.below (names ++ [name]) := by simp [Path.below]
  rw [path]
  exact ⟨resolve_of_leads proper noNul led nofun, isSound_of_malformed proper broken (by simp)⟩

theorem filesIn_trimmed (top : Path) :
    TrimmedOutcome fs (s.filesIn (fs.without gone) top) (s.filesIn fs top) := by
  unfold filesIn
  rw [hasDirectory_lost proper only]
  cases looked : fs.hasDirectory top.text with
  | error fault => exact .refused fault
  | ok there =>
    cases there with
    | false => exact .refl (.ok [])
    | true =>
      have directory := FileSystem.hasDirectory_eq_ok looked
      cases located : fs.locate top.text with
      | error fault =>
        rw [FileSystem.isDirectory, located] at directory
        cases directory
      | ok found =>
        obtain ⟨place, e⟩ := found
        rw [FileSystem.isDirectory, located] at directory
        simp only [bind, Except.bind, if_true]
        rw [walk_lost proper only located directory, flatMapM_map]
        refine trimmed_flatMapM fun listing _ => ?_
        obtain ⟨names, files⟩ := listing
        simp only [Entry.keepOnly, List.mem_filter, Bool.not_eq_true', resolve_lost proper only]
        by_cases listed : s.schemaFileName ∈ files
        · cases falls : gone (place ++ (names ++ [s.schemaFileName])) with
          | false =>
            simp only [listed, and_self, if_true]
            exact .refl _
          | true =>
            obtain ⟨resolved, unread⟩ := resolve_of_gone proper only malformed located falls
            simp only [listed, resolved, Bool.true_eq_false, and_false, if_true, if_false]
            exact .listed (.drop unread .nil)
        · simp only [listed, false_and, if_false]
          exact .refl _

theorem schemaFiles_trimmed (root : Path) :
    TrimmedOutcome fs (s.schemaFiles (fs.without gone) root) (s.schemaFiles fs root) :=
  trimmed_flatMapM fun top _ => filesIn_trimmed s proper only malformed top

theorem others_trimmed (root : Path) (schemaFile : String) :
    TrimmedOutcome fs (s.others (fs.without gone) root schemaFile) (s.others fs root schemaFile) := by
  have trimmed := schemaFiles_trimmed s proper only malformed root
  unfold others
  rw [resolve_lost proper only]
  cases fs.resolve (.ofText schemaFile) with
  | error fault => exact .refused fault
  | ok own =>
    simp only [bind, Except.bind]
    generalize s.schemaFiles (fs.without gone) root = found', s.schemaFiles fs root = found at trimmed
    cases trimmed with
    | refused fault => exact .refused fault
    | listed trimmed => exact .listed (trimmed.filter _)

theorem lookUp_lost (address : Address) (files : List Path) :
    lookUp (fs.without gone) address files = lookUp fs address files := by
  induction files with
  | nil => rfl
  | cons file rest ih => rw [lookUp, lookUp, documentOf_lost proper only malformed, ih]

end Lost

/-! ## Answers -/

/-- The file that marks the root of the project stays. -/
def KeepsMarker (s : Search) (fs : FileSystem) (gone : Location → Bool) (schemaFile : String) : Prop :=
  ∀ root location content, projectRoot? fs schemaFile s.marker = .ok (some root) →
    fs.locate (root.join (.ofText s.marker)).text = .ok (location, .file content) → gone location = false

/-- There is another schema file to look into. -/
def Looks (s : Search) (fs : FileSystem) (schemaFile : String) : Prop :=
  ∃ root file rest, projectRoot? fs schemaFile s.marker = .ok (some root) ∧
    s.others fs root schemaFile = .ok (file :: rest)

section Answers

variable {gone : Location → Bool} {s : Search} {q : Inquiry}

theorem firstMarked_lost (proper : fs.root.Proper) (only : fs.root.OnlyFiles gone) {marker : Path}
    {directories : List Path}
    (kept : ∀ d location content, firstMarked fs marker directories = .ok (some d) →
      fs.locate (d.join marker).text = .ok (location, .file content) → gone location = false) :
    firstMarked (fs.without gone) marker directories = firstMarked fs marker directories := by
  have unheld {d : Path} (unheld : fs.hasFile (d.join marker).text ≠ .ok true) :
      (fs.without gone).hasFile (d.join marker).text = fs.hasFile (d.join marker).text := by
    refine hasFile_lost proper only fun location content located => absurd ?_ unheld
    rw [hasFile, probe, located]
    rfl
  induction directories with
  | nil => rfl
  | cons d rest ih =>
    unfold firstMarked at kept ⊢
    cases looked : fs.hasFile (d.join marker).text with
    | error fault =>
      rw [unheld (by simp [looked]), looked]
    | ok there =>
      cases there with
      | true =>
        rw [looked] at kept
        have same := hasFile_lost proper only fun location content => kept d location content rfl
        rw [same, looked]
      | false =>
        rw [looked] at kept
        rw [unheld (by simp [looked]), looked]
        exact ih kept

theorem verdict_lost (proper : fs.root.Proper) (only : fs.root.OnlyFiles gone)
    (malformed : ∀ location, gone location = true → Malformed fs location)
    (kept : s.KeepsMarker fs gone q.schemaFile) :
    (q.node.address? = none ∨ (s.Looks fs q.schemaFile → s.Looks (fs.without gone) q.schemaFile) →
        s.verdict (fs.without gone) q = s.verdict fs q) ∧
      (q.node.address? ≠ none → s.Looks fs q.schemaFile → ¬s.Looks (fs.without gone) q.schemaFile →
        s.verdict fs q = .ok .unique ∧ s.verdict (fs.without gone) q = .ok .unavailable) := by
  have same : projectRoot? (fs.without gone) q.schemaFile s.marker = projectRoot? fs q.schemaFile s.marker :=
    firstMarked_lost proper only fun d location content => kept d location content
  unfold verdict Looks
  rw [same]
  cases q.node.address? with
  | none => exact ⟨fun _ => rfl, fun spelt => absurd rfl spelt⟩
  | some address =>
    cases projectRoot? fs q.schemaFile s.marker with
    | error fault => exact ⟨fun _ => rfl, fun _ looks => by simp at looks⟩
    | ok place =>
      cases place with
      | none => exact ⟨fun _ => rfl, fun _ looks => by simp at looks⟩
      | some root =>
        have trimmed := others_trimmed s proper only malformed root q.schemaFile
        simp only [Except.ok.injEq, Option.some.injEq, reduceCtorEq, false_or, exists_and_left,
          exists_eq_left', ne_eq, not_false_eq_true, true_imp_iff]
        generalize s.others (fs.without gone) root q.schemaFile = found', s.others fs root q.schemaFile = found
          at trimmed
        cases trimmed with
        | refused fault => exact ⟨fun _ => rfl, fun looks => by simp at looks⟩
        | @listed files files' trimmed =>
          have passed := trimmed.lookUp_eq address
          -- Whether there is anything to look into is asked of the list, before a file of it is opened.
          cases files' with
          | nil =>
            cases files with
            | nil => exact ⟨fun _ => rfl, fun looks => by simp at looks⟩
            | cons file rest =>
              refine ⟨fun keeps => ?_, fun _ _ => ⟨passed.symm, rfl⟩⟩
              obtain ⟨_, _, found⟩ := keeps ⟨file, rest, rfl⟩
              cases found
          | cons file' rest' =>
            refine ⟨fun _ => ?_, fun _ nothing => absurd ⟨file', rest', rfl⟩ nothing⟩
            cases files with
            | nil => cases trimmed
            | cons file rest => exact (lookUp_lost proper only malformed address _).trans passed

end Answers

end Search

/-! ## Detectors -/

theorem FileSystem.without_eq_self {fs : FileSystem} (noDirectory : fs.root.isDirectory = false)
    (gone : Location → Bool) : fs.without gone = fs := by
  obtain ⟨root, workingDirectory⟩ := fs
  cases root with
  | directory children => cases noDirectory
  | file content => rfl
  | link target => rfl

theorem onlyFiles_of_malformed {fs : FileSystem} {gone : Location → Bool}
    (malformed : ∀ location, gone location = true → Malformed fs location)
    (directory : fs.root.isDirectory = true) : fs.root.OnlyFiles gone where
  file location falls :=
    have ⟨bytes, stands, _⟩ := (malformed location falls).content
    ⟨bytes, stands⟩
  top := by
    by_contra falls
    exact (malformed [] (by simpa using falls)).ne_nil directory rfl

theorem Search.verdict_without {s : Search} {fs : FileSystem} {gone : Location → Bool} {q : Inquiry}
    (proper : fs.root.Proper) (malformed : ∀ location, gone location = true → Malformed fs location)
    (kept : s.KeepsMarker fs gone q.schemaFile) :
    (q.node.address? = none ∨ (s.Looks fs q.schemaFile → s.Looks (fs.without gone) q.schemaFile) →
        s.verdict (fs.without gone) q = s.verdict fs q) ∧
      (q.node.address? ≠ none → s.Looks fs q.schemaFile → ¬s.Looks (fs.without gone) q.schemaFile →
        s.verdict fs q = .ok .unique ∧ s.verdict (fs.without gone) q = .ok .unavailable) := by
  cases directory : fs.root.isDirectory with
  | true => exact verdict_lost proper (onlyFiles_of_malformed malformed directory) malformed kept
  | false =>
    rw [FileSystem.without_eq_self directory]
    exact ⟨fun _ => rfl, fun _ looks nothing => absurd looks nothing⟩

theorem AnalysisSettings.auto_judges {settings : AnalysisSettings}
    (auto : settings.duplicateStrategy = .auto) (fs : FileSystem) :
    Judges (Detector.ask fs) (settings.search.verdictOrLikeness fs) settings.detector := by
  have judges := settings.judges fs
  unfold verdict at judges
  rwa [auto] at judges

/-- A detector that searches first answers without files that are not well-formed as it answers with them,
unless they are all that there is to look into. Then it told that the node is unique, and goes by likeness
without them. -/
theorem detector_without {settings : AnalysisSettings} {fs : FileSystem} {gone : Location → Bool}
    {q : Inquiry} (auto : settings.duplicateStrategy = .auto) (proper : fs.root.Proper)
    (malformed : ∀ location, gone location = true → Malformed fs location)
    (kept : settings.search.KeepsMarker fs gone q.schemaFile) (earlier earlier' : List Inquiry) :
    let answer (fs : FileSystem) (earlier : List Inquiry) :=
      (Detector.ask fs (afterAsking (Detector.ask fs) settings.detector earlier) q).verdict
    let less := fs.without gone
    (q.node.address? = none ∨
        (settings.search.Looks fs q.schemaFile → settings.search.Looks less q.schemaFile) →
      answer less earlier' = answer fs earlier) ∧
    (q.node.address? ≠ none → settings.search.Looks fs q.schemaFile →
        ¬settings.search.Looks less q.schemaFile →
      answer fs earlier = .ok .unique ∧ answer less earlier' = .ok (likeness q)) := by
  intro answer less
  have told (fs : FileSystem) (earlier : List Inquiry) :
      answer fs earlier = settings.search.verdictOrLikeness fs q :=
    AnalysisSettings.auto_judges auto fs earlier q
  obtain ⟨same, apart⟩ := Search.verdict_without proper malformed kept
  rw [told, told]
  constructor
  · intro looks
    unfold Search.verdictOrLikeness
    rw [same looks]
  · intro spelt looks nothing
    obtain ⟨unique, unavailable⟩ := apart spelt looks nothing
    simp only [Search.verdictOrLikeness, unique, unavailable, and_self, less]

/-! ## A shop with a broken form -/

open Survey FormComparison

def formIn (bytes : List UInt8) : Entry := .directory [("system.xml", .file bytes)]

def codeOf (modules : List (String × Entry)) : FileSystem :=
  ⟨.directory [("SECURITY.md", .file []), ("app", .directory [("code", .directory modules)])], []⟩

def brokenPlace : Location := ["app", "code", "Broken", "system.xml"]

def isBroken (location : Location) : Bool := location = brokenPlace

/-- A question about a field that is like one that was there before. -/
def likeQuestion : Inquiry :=
  ⟨ownField, "/app/code/Own/system.xml",
    OrderedMap.empty.insert "field:s/g/e" (.configField ⟨"e", "s/g", none, none⟩)⟩

def soundShop : FileSystem :=
  codeOf [("Broken", formIn [60]), ("Own", formIn formBytes), ("Sound", formIn formBytes)]

def brokenShop : FileSystem := codeOf [("Broken", formIn [60]), ("Own", formIn formBytes)]

theorem proper_soundShop : soundShop.root.Proper := by decide

theorem malformed_isBroken {fs : FileSystem}
    (stands : fs.root.entryAt brokenPlace = some (.file [60])) (location : Location)
    (falls : isBroken location = true) : Malformed fs location := by
  obtain rfl := of_decide_eq_true falls
  exact ⟨⟨[60], stands, Survey.ofBytes_open⟩, by decide⟩

theorem keepsMarker_isBroken {fs : FileSystem}
    (marked : projectRoot? fs likeQuestion.schemaFile AnalysisSettings.initial.search.marker =
      .ok (some (.ofText "/")))
    (located : fs.locate "/SECURITY.md" = .ok (["SECURITY.md"], .file [])) :
    AnalysisSettings.initial.search.KeepsMarker fs isBroken likeQuestion.schemaFile := by
  intro root location content found there
  cases marked.symm.trans found
  cases located.symm.trans there
  cbv

theorem address_ownField : ownField.address? = some (formAddress "s" ["g"] .configField "f") := by
  cbv

theorem address_likeQuestion :
    likeQuestion.node.address? = some (formAddress "s" ["g"] .configField "f") := address_ownField

theorem auto_initial : AnalysisSettings.initial.duplicateStrategy = .auto := rfl

def soundPlace : Location := ["app", "code", "Sound", "system.xml"]

theorem projectRoot_soundShop :
    projectRoot? soundShop likeQuestion.schemaFile AnalysisSettings.initial.search.marker =
      .ok (some (.ofText "/")) := by cbv

theorem others_soundShop :
    AnalysisSettings.initial.search.others soundShop (.ofText "/") likeQuestion.schemaFile =
      .ok [pathOf brokenPlace, pathOf soundPlace] := by cbv

/-- A search passes over a broken form, and finds the field in the next one. -/
theorem lookUp_formBytes {fs : FileSystem} {broken sound : Path} (opened : fs.read broken.text = .ok [60])
    (opened' : fs.read sound.text = .ok formBytes) :
    Search.lookUp fs (formAddress "s" ["g"] .configField "f") [broken, sound] = .ok .duplicate := by
  have unread : documentOf fs broken = .ok none := by
    rw [documentOf, readDocument_of_malformed opened ofBytes_open]
    rfl
  have read : documentOf fs sound = .ok (some shopForm) :=
    documentOf_eq_some_iff.mpr (readDocument_eq_ok_iff.mpr ⟨formBytes, opened', ofBytes_formBytes⟩)
  have holds : (formAddress "s" ["g"] .configField "f").holds shopForm = true := by cbv
  simp only [Search.lookUp, unread, read, Option.any_none, Option.any_some, holds, Bool.false_eq_true,
    if_false, if_true]

theorem verdict_soundShop : AnalysisSettings.initial.search.verdict soundShop likeQuestion = .ok .duplicate := by
  have opened : soundShop.read (pathOf brokenPlace).text = .ok [60] := by cbv
  have opened' : soundShop.read (pathOf soundPlace).text = .ok formBytes := by cbv
  simp only [Search.verdict, address_likeQuestion, projectRoot_soundShop, others_soundShop,
    lookUp_formBytes opened opened']

theorem detector_without_sound :
    let s := AnalysisSettings.initial.search
    let answer (fs : FileSystem) :=
      (Detector.ask fs (afterAsking (Detector.ask fs) AnalysisSettings.initial.detector [likeQuestion])
        likeQuestion).verdict
    soundShop.root.Proper ∧ (∀ location, isBroken location = true → Malformed soundShop location) ∧
      s.KeepsMarker soundShop isBroken likeQuestion.schemaFile ∧
      answer soundShop = .ok .duplicate ∧ answer (soundShop.without isBroken) = .ok .duplicate := by
  intro s answer
  have malformed : ∀ location, isBroken location = true → Malformed soundShop location :=
    malformed_isBroken rfl
  have kept := keepsMarker_isBroken projectRoot_soundShop (by cbv)
  have left : soundShop.without isBroken =
      codeOf [("Broken", .directory []), ("Own", formIn formBytes), ("Sound", formIn formBytes)] := rfl
  have marked : projectRoot? (soundShop.without isBroken) likeQuestion.schemaFile s.marker =
      .ok (some (.ofText "/")) := by
    rw [left]
    cbv
  have others : s.others (soundShop.without isBroken) (.ofText "/") likeQuestion.schemaFile =
      .ok [pathOf soundPlace] := by
    rw [left]
    cbv
  have looks : s.Looks (soundShop.without isBroken) likeQuestion.schemaFile := ⟨_, _, _, marked, others⟩
  have duplicate : answer soundShop = .ok .duplicate := by
    have told : answer soundShop = s.verdictOrLikeness soundShop likeQuestion :=
      AnalysisSettings.auto_judges auto_initial soundShop [likeQuestion] likeQuestion
    rw [told, Search.verdictOrLikeness, verdict_soundShop]
  obtain ⟨same, -⟩ := detector_without auto_initial proper_soundShop malformed kept [likeQuestion] [likeQuestion]
  exact ⟨proper_soundShop, malformed, kept, duplicate, (same (.inr fun _ => looks)).trans duplicate⟩

theorem without_isBroken :
    brokenShop.without isBroken = codeOf [("Broken", .directory []), ("Own", formIn formBytes)] := rfl

/-- Without the broken form there is nothing to look into. -/
theorem detector_without_broken :
    let s := AnalysisSettings.initial.search
    let answer (fs : FileSystem) := (Detector.ask fs AnalysisSettings.initial.detector likeQuestion).verdict
    s.others brokenShop (.ofText "/") likeQuestion.schemaFile = .ok [pathOf brokenPlace] ∧
      readDocument brokenShop (pathOf brokenPlace).text = .ok (.error "not well-formed") ∧
      answer brokenShop = .ok .unique ∧ answer (brokenShop.without isBroken) = .ok .duplicate := by
  intro s answer
  have told (fs : FileSystem) : answer fs = s.verdictOrLikeness fs likeQuestion :=
    AnalysisSettings.auto_judges auto_initial fs [] likeQuestion
  have marked : projectRoot? brokenShop likeQuestion.schemaFile s.marker = .ok (some (.ofText "/")) := by cbv
  have others : s.others brokenShop (.ofText "/") likeQuestion.schemaFile = .ok [pathOf brokenPlace] := by cbv
  have opened : brokenShop.read (pathOf brokenPlace).text = .ok [60] := by cbv
  have read := readDocument_of_malformed opened ofBytes_open
  have unread : documentOf brokenShop (pathOf brokenPlace) = .ok none := by
    rw [documentOf, read]
    rfl
  have unique : s.verdict brokenShop likeQuestion = .ok .unique := by
    simp only [Search.verdict, address_likeQuestion, marked, others, Search.lookUp, unread]
    rfl
  have marked' : projectRoot? (brokenShop.without isBroken) likeQuestion.schemaFile s.marker =
      .ok (some (.ofText "/")) := by
    rw [without_isBroken]
    cbv
  have others' : s.others (brokenShop.without isBroken) (.ofText "/") likeQuestion.schemaFile = .ok [] := by
    rw [without_isBroken]
    cbv
  have unavailable : s.verdict (brokenShop.without isBroken) likeQuestion = .ok .unavailable := by
    simp only [Search.verdict, address_likeQuestion, marked', others']
  have like : likeness likeQuestion = .duplicate := by cbv
  refine ⟨others, read, ?_, ?_⟩
  · rw [told, Search.verdictOrLikeness, unique]
  · rw [told, Search.verdictOrLikeness, unavailable, like]

/-- The top of a project is marked by a form that is broken. -/
def markedShop : FileSystem :=
  ⟨.directory [("system.xml", .file [60]), ("Own", .directory [("form.xml", .file [])]),
    ("Sound", formIn formBytes)], []⟩

def markedSearch : Search := ⟨"system.xml", ["."], "system.xml"⟩

def markedQuestion : Inquiry := ⟨ownField, "/Own/form.xml", .empty⟩

theorem verdict_markedShop : markedSearch.verdict markedShop markedQuestion = .ok .duplicate := by
  have marked : projectRoot? markedShop markedQuestion.schemaFile markedSearch.marker =
      .ok (some (.ofText "/")) := by cbv
  have others : markedSearch.others markedShop (.ofText "/") markedQuestion.schemaFile =
      .ok [pathOf ["system.xml"], pathOf ["Sound", "system.xml"]] := by cbv
  have opened : markedShop.read (pathOf ["system.xml"]).text = .ok [60] := by cbv
  have opened' : markedShop.read (pathOf ["Sound", "system.xml"]).text = .ok formBytes := by cbv
  have spelt : markedQuestion.node.address? = some (formAddress "s" ["g"] .configField "f") :=
    address_ownField
  simp only [Search.verdict, spelt, marked, others, lookUp_formBytes opened opened']

/-- What marks the project may be one of the broken forms. Without it there is no project. -/
theorem verdict_of_lost_marker :
    Malformed markedShop ["system.xml"] ∧
      markedSearch.verdict markedShop markedQuestion = .ok .duplicate ∧
      markedSearch.verdict (markedShop.without fun location => location = ["system.xml"]) markedQuestion =
        .ok .unavailable := by
  have left : (markedShop.without fun location => location = ["system.xml"]) =
      ⟨.directory [("Own", .directory [("form.xml", .file [])]), ("Sound", formIn formBytes)], []⟩ := rfl
  have nowhere : projectRoot? (markedShop.without fun location => location = ["system.xml"])
      markedQuestion.schemaFile markedSearch.marker = .ok none := by
    rw [left]
    cbv
  have spelt : markedQuestion.node.address? = some (formAddress "s" ["g"] .configField "f") :=
    address_ownField
  refine ⟨⟨⟨[60], rfl, ofBytes_open⟩, by decide⟩, verdict_markedShop, ?_⟩
  simp only [Search.verdict, spelt, nowhere]

end ReleaseImpact
