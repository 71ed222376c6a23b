import ReleaseImpact.Proofs.SkippedFiles

/-!
Documents that stop their reader. Whatever else is wrong with a document, it is malformed and there is a
reason that it has no root; but where it declares an encoding that cannot be had, the reader fails. Main
statements:

- `Xml.ofBytes_fails_iff`: which bytes make the parser fail for another reason than that they are malformed.
- `readDocument_fails_iff`: which files stop the reader.
- `Survey.scanTree_ends_iff`: which files stop a scan.
-/

namespace ReleaseImpact

open Xml

namespace Xml

/-! ## Declared encodings -/

/-- The characters among which a document's declaration is looked for. -/
def leadingText : List UInt8 → List Char
  | 0xFE :: 0xFF :: rest => utf16 true rest
  | 0xFF :: 0xFE :: rest => utf16 false rest
  | 0xEF :: 0xBB :: 0xBF :: rest => rest.map fun b => Char.ofNat b.toNat
  | a :: b :: rest =>
    if a = 0 then utf16 true (a :: b :: rest)
    else if b = 0 then utf16 false (a :: b :: rest)
    else (a :: b :: rest).map fun b => Char.ofNat b.toNat
  | short => short.map fun b => Char.ofNat b.toNat

/-- The encoding that a text declares at its start. -/
def encodingAtStart? (text : List Char) : Option String :=
  match leadingDeclaration text with
  | .ok (declared, _) => declared.encoding
  | .error _ => none

def declaredEncoding? (bytes : List UInt8) : Option String := encodingAtStart? (leadingText bytes)

/-! ## What fails -/

/-- There is a fault other than that the document is malformed. -/
def Fails {α : Type} (reading : Except Fault α) : Prop := ∃ fault, reading = .error fault ∧ fault ≠ .malformed

section Fails

variable {α β : Type}

theorem fails_error_iff {fault : Fault} : Fails (.error fault : Except Fault α) ↔ fault ≠ .malformed := by
  simp [Fails]

theorem not_fails_malformed : ¬Fails (.error .malformed : Except Fault α) := by
  simp [fails_error_iff]

theorem not_fails_ok (a : α) : ¬Fails (.ok a) := by
  rintro ⟨fault, same, -⟩
  cases same

theorem not_fails_ite {c : Prop} [Decidable c] {yes no : Except Fault α} (sound : ¬Fails yes)
    (sound' : ¬Fails no) : ¬Fails (if c then yes else no) := by
  split
  · exact sound
  · exact sound'

theorem fails_bind_iff {reading : Except Fault α} {next : α → Except Fault β} :
    Fails (reading >>= next) ↔ Fails reading ∨ ∃ a, reading = .ok a ∧ Fails (next a) := by
  cases reading with
  | error fault => simp [Fails, bind, Except.bind]
  | ok a => simp [Fails, bind, Except.bind]

theorem not_fails_bind_ok {reading : Except Fault α} {next : α → β} (sound : ¬Fails reading) :
    ¬Fails (do return next (← reading)) := by
  rw [fails_bind_iff]
  rintro (fails | ⟨a, -, fails⟩)
  · exact sound fails
  · exact not_fails_ok _ fails

end Fails

theorem not_fails_legalText (text : Option (List Char)) : ¬Fails (legalText text) := by
  unfold legalText
  split
  · exact not_fails_malformed
  · exact not_fails_ite (not_fails_ok _) not_fails_malformed

theorem not_fails_leadingDeclaration (text : List Char) : ¬Fails (leadingDeclaration text) := by
  unfold leadingDeclaration
  refine not_fails_ite ?_ (not_fails_ok _)
  split
  · exact not_fails_malformed
  · split
    · exact not_fails_malformed
    · exact not_fails_ok _

namespace Source

/-- Where a text that goes on after its declaration fails just for the encoding that is declared. -/
theorem fails_declared_iff {text : List Char} {next : Declaration × Nat → Except Fault Source}
    (plain : ∀ standalone length, ¬Fails (next (⟨none, standalone⟩, length)))
    (named : ∀ name standalone length,
      Fails (next (⟨some name, standalone⟩, length)) ↔ Fails (Encoding.ofName name)) :
    Fails (leadingDeclaration text >>= next) ↔
      ∃ name, encodingAtStart? text = some name ∧ Fails (Encoding.ofName name) := by
  have sound := not_fails_leadingDeclaration text
  rw [fails_bind_iff, or_iff_right sound]
  unfold encodingAtStart?
  cases leadingDeclaration text with
  | error fault => exact iff_of_false nofun nofun
  | ok found =>
    obtain ⟨⟨encoding, standalone⟩, length⟩ := found
    cases encoding with
    | none =>
      refine iff_of_false ?_ nofun
      rintro ⟨_, same, fails⟩
      cases same
      exact plain _ _ fails
    | some name => simp [named]

theorem not_fails_text (standalone : Bool) (text : Option (List Char)) (before : Nat) (width : Char → Nat) :
    ¬Fails (do return (⟨standalone, ← legalText text, before, width⟩ : Source)) :=
  not_fails_bind_ok (not_fails_legalText text)

theorem ofUtf16_fails_iff (bigEndian : Bool) (mark : Nat) (bytes : List UInt8) :
    Fails (ofUtf16 bigEndian mark bytes) ↔
      ∃ name, encodingAtStart? (utf16 bigEndian bytes) = some name ∧ Fails (Encoding.ofName name) := by
  refine fails_declared_iff (fun standalone length => not_fails_text _ _ _ _) fun name standalone length => ?_
  show Fails (Encoding.ofName name >>= _) ↔ _
  rw [fails_bind_iff, or_iff_left]
  rintro ⟨found, -, fails⟩
  cases found with
  | utf16 => exact not_fails_ite (not_fails_text _ _ _ _) not_fails_malformed fails
  | codePage page without => exact not_fails_text _ _ _ _ fails
  | utf8 => exact not_fails_malformed fails
  | latin => exact not_fails_malformed fails
  | ascii => exact not_fails_malformed fails

theorem ofSingleBytes_fails_iff (mark : Nat) (bytes : List UInt8) :
    Fails (ofSingleBytes mark bytes) ↔
      ∃ name, encodingAtStart? (bytes.map fun b => Char.ofNat b.toNat) = some name ∧
        Fails (Encoding.ofName name) := by
  refine fails_declared_iff (fun standalone length => not_fails_text _ _ _ _) fun name standalone length => ?_
  show Fails (Encoding.ofName name >>= _) ↔ _
  rw [fails_bind_iff, or_iff_left]
  rintro ⟨found, -, fails⟩
  exact not_fails_text _ _ _ _ fails

theorem ofBytes_fails_iff (bytes : List UInt8) :
    Fails (ofBytes bytes) ↔ ∃ name, declaredEncoding? bytes = some name ∧ Fails (Encoding.ofName name) := by
  unfold declaredEncoding? ofBytes
  split
  · exact ofUtf16_fails_iff ..
  · exact ofUtf16_fails_iff ..
  · exact ofSingleBytes_fails_iff ..
  · next big little marked =>
    rw [leadingText.eq_4 _ _ _ big little marked]
    split_ifs
    · exact ofUtf16_fails_iff ..
    · exact ofUtf16_fails_iff ..
    · exact ofSingleBytes_fails_iff ..
  · next big little marked long =>
    rw [leadingText.eq_5 _ big little marked long]
    exact ofSingleBytes_fails_iff ..

end Source

theorem ofBytes_fails_iff (bytes : List UInt8) :
    Fails (ofBytes bytes) ↔ ∃ name, declaredEncoding? bytes = some name ∧ Fails (Encoding.ofName name) := by
  rw [← Source.ofBytes_fails_iff]
  unfold ofBytes ofSource
  cases Source.ofBytes bytes with
  | error fault => exact fails_error_iff.trans fails_error_iff.symm
  | ok source =>
    dsimp only
    cases source.root? with
    | none => exact iff_of_false not_fails_malformed (not_fails_ok _)
    | some root => exact iff_of_false (not_fails_ok _) (not_fails_ok _)

end Xml

/-! ## Files -/

/-- A file stops its reader: no path leads to it, or its document declares an encoding that cannot be had. -/
inductive StopsReader (fs : FileSystem) (file : Path) : Prop
  | path (refused : fs.read file.text = .error .containsNul)
  | encoding {bytes : List UInt8} {name : String} (opened : fs.read file.text = .ok bytes)
      (declared : declaredEncoding? bytes = some name) (missing : Fails (Encoding.ofName name))

theorem readDocument_fails_iff {fs : FileSystem} {file : Path} :
    (∃ f, readDocument fs file.text = .error f) ↔ StopsReader fs file := by
  constructor
  · rintro ⟨f, fails⟩
    unfold readDocument at fails
    split at fails
    · next refused => exact .path refused
    · cases fails
    · next bytes opened =>
      split at fails
      · cases fails
      · cases fails
      · next fault other parsed =>
        obtain ⟨name, declared, missing⟩ := (ofBytes_fails_iff bytes).mp ⟨fault, parsed, other⟩
        exact .encoding opened declared missing
  · rintro (refused | ⟨opened, declared, missing⟩)
    · refine ⟨.fileFault .containsNul, ?_⟩
      simp only [readDocument, refused]
    · obtain ⟨fault, parsed, other⟩ := (ofBytes_fails_iff _).mpr ⟨_, declared, missing⟩
      refine ⟨fault.toFailure, ?_⟩
      simp only [readDocument, opened, parsed]

namespace Survey

open Trail

variable {fs : FileSystem}

/-- A file that a scan reads: it has the name of a kind that is looked for, and is in a module. -/
structure IsRead (types : List ReportType) (file : Path) : Prop where
  named : ∃ type ∈ types, matchesAny type.patterns file.name = true
  housed : moduleOfFile? file.text ≠ none

theorem readOne_ends_iff {file : Path} {e : ReportType × Registry} :
    (∃ e', readOne fs file e = .ok e') ↔
      (matchesAny e.1.patterns file.name = true → moduleOfFile? file.text ≠ none → ¬StopsReader fs file) := by
  unfold readOne
  split
  · next wanted =>
    rw [forall_prop_of_true wanted, ← readDocument_fails_iff, ← scanned_ends_iff]
    simp only [bind_eq_ok_iff]
    exact ⟨fun ⟨_, new, ended, _⟩ => ⟨new, ended⟩, fun ⟨new, ended⟩ => ⟨_, new, ended, rfl⟩⟩
  · next unwanted => exact iff_of_true ⟨e, rfl⟩ fun wanted => absurd wanted unwanted

theorem mapM_ends_iff {α β : Type} {f : α → Except Failure β} {items : List α} :
    (∃ results, items.mapM f = .ok results) ↔ ∀ a ∈ items, ∃ b, f a = .ok b := by
  induction items with
  | nil => exact iff_of_true ⟨[], rfl⟩ (List.forall_mem_nil _)
  | cons a rest ih =>
    rw [List.forall_mem_cons, ← ih, List.mapM_cons]
    simp only [bind_eq_ok_iff]
    constructor
    · rintro ⟨_, b, here, results, later, -⟩
      exact ⟨⟨b, here⟩, results, later⟩
    · rintro ⟨⟨b, here⟩, results, later⟩
      exact ⟨_, b, here, results, later, rfl⟩

theorem readAll_ends_iff {types : List ReportType} {files : List Path} {as : List (ReportType × Registry)}
    (kinds : as.map Prod.fst = types) :
    (∃ bs, readAll fs as files = .ok bs) ↔ ∀ file ∈ files, IsRead types file → ¬StopsReader fs file := by
  induction files generalizing as with
  | nil => exact iff_of_true ⟨as, rfl⟩ (List.forall_mem_nil _)
  | cons file rest ih =>
    have first : (∃ bs, as.mapM (readOne fs file) = .ok bs) ↔ (IsRead types file → ¬StopsReader fs file) := by
      rw [mapM_ends_iff]
      simp only [readOne_ends_iff]
      constructor
      · rintro each ⟨⟨type, known, named⟩, housed⟩
        obtain ⟨e, member, rfl⟩ := List.mem_map.mp (kinds ▸ known)
        exact each e member named housed
      · rintro sound e member named housed
        exact sound ⟨⟨e.1, kinds ▸ List.mem_map_of_mem member, named⟩, housed⟩
    rw [List.forall_mem_cons, ← first, readAll, List.foldlM_cons]
    simp only [bind_eq_ok_iff]
    constructor
    · rintro ⟨cs, bs, here, later⟩
      exact ⟨⟨bs, here⟩, (ih ((types_mapM here).trans kinds)).mp ⟨cs, later⟩⟩
    · rintro ⟨⟨bs, here⟩, others⟩
      obtain ⟨cs, later⟩ := (ih ((types_mapM here).trans kinds)).mpr others
      exact ⟨cs, bs, here, later⟩

theorem scanTree_ends_iff {settings : ScanSettings} {root : Path}
    (directory : fs.hasDirectory root.text = .ok true) :
    (∃ registries, (scanTree fs settings root).outcome = .ok registries) ↔
      ∀ file ∈ fs.filesBelow settings.excludedDirs root,
        IsRead (wantedTypes settings) file → ¬StopsReader fs file := by
  rw [scanTree, directory]
  dsimp only
  rw [scanDirectory_outcome]
  exact readAll_ends_iff (types_start _)

end Survey

end ReleaseImpact
