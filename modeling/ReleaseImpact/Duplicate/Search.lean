import ReleaseImpact.Duplicate.Address
import ReleaseImpact.Duplicate.Verdict
import ReleaseImpact.FileSystem.Walk
import ReleaseImpact.Xml.Document

/-!
The search for the address of an added node in the other schema files of its project. The files of a
project and the documents in them are remembered. Main statements:

- `ask_of_no_address`: a node without an address is unresolved.
- `projectRoot?_some`: the root of a project holds the file that marks it.
-/

namespace ReleaseImpact

structure Search where
  /-- The file that marks the root of a project. -/
  marker : String
  directories : List String
  schemaFileName : String
  deriving DecidableEq, Repr

/-- What a search found out before. A file that could not be read has no document. -/
structure Memory where
  files : OrderedMap Path (List Path)
  documents : OrderedMap Path (Option Xml.Element)

def Xml.Fault.toFailure : Xml.Fault → Failure
  | .malformed => .malformedXml
  | .unknownEncoding name => .unknownEncoding name
  | .multiByteEncoding name => .multiByteEncoding name
  | .unusableEncoding name => .unusableEncoding name
  | .undecodable => .undecodable

def Xml.PathFlaw.toFailure : Xml.PathFlaw → Failure
  | .malformed => .malformedPath
  | .misplaced mark => .misplacedMark mark
  | .unfinished => .unfinishedPath
  | .longNumeral => .longNumeral

/-- The document in a file. A file that cannot be opened or is malformed has none, for which there is
a reason; other faults are failures. -/
def readDocument (fs : FileSystem) (file : String) : Except Failure (Except String Xml.Element) :=
  match fs.read file with
  | .error .containsNul => .error (.fileFault .containsNul)
  | .error fault => .ok (.error fault.text)
  | .ok bytes =>
    match Xml.ofBytes bytes with
    | .ok root => .ok (.ok root)
    | .error .malformed => .ok (.error "not well-formed")
    | .error fault => .error fault.toFailure

/-- The first of some directories that holds a marker. -/
def firstMarked (fs : FileSystem) (marker : Path) : List Path → Except PathFault (Option Path)
  | [] => .ok none
  | d :: rest =>
    match fs.hasFile (d.join marker).text with
    | .ok true => .ok (some d)
    | .ok false => firstMarked fs marker rest
    | .error fault => .error fault

/-- The nearest directory above a file that holds a marker. -/
def projectRoot? (fs : FileSystem) (schemaFile marker : String) : Except PathFault (Option Path) :=
  let directory := (Path.ofText schemaFile).parent
  firstMarked fs (.ofText marker) (directory :: directory.ancestors)

theorem firstMarked_some {fs : FileSystem} {marker : Path} {directories : List Path} {root : Path}
    (h : firstMarked fs marker directories = .ok (some root)) :
    root ∈ directories ∧ fs.isFile (root.join marker).text = true := by
  induction directories with
  | nil => simp [firstMarked] at h
  | cons d rest ih =>
    unfold firstMarked at h
    split at h
    · next hd =>
      injection h with h
      injection h with h
      subst h
      exact ⟨by simp, FileSystem.hasFile_eq_ok hd⟩
    · exact ⟨List.mem_cons_of_mem _ (ih h).1, (ih h).2⟩
    · contradiction

theorem projectRoot?_some {fs : FileSystem} {schemaFile marker : String} {root : Path}
    (h : projectRoot? fs schemaFile marker = .ok (some root)) :
    fs.isFile (root.join (.ofText marker)).text = true := (firstMarked_some h).2

namespace Memory

def empty : Memory := ⟨.empty, .empty⟩

instance : Inhabited Memory := ⟨empty⟩

/-- The document of a file, as remembered or read now. -/
def document (fs : FileSystem) (m : Memory) (file : Path) :
    Memory × List Event × Except Failure (Option Xml.Element) :=
  match m.documents.get? file with
  | some known => (m, [], .ok known)
  | none =>
    match readDocument fs file.text with
    | .error f => (m, [], .error f)
    | .ok (.ok root) => ({ m with documents := m.documents.insert file (some root) }, [], .ok (some root))
    | .ok (.error reason) =>
      ({ m with documents := m.documents.insert file none },
        [⟨.warning, "bumpcheck.analysis.duplicates", "sibling_schema_unreadable",
          [("path", .text file.text), ("error", .text reason)]⟩],
        .ok none)

end Memory

namespace Search

def logger : String := "bumpcheck.analysis.duplicates"

/-- The schema files below a directory, where that is one. -/
def filesIn (s : Search) (fs : FileSystem) (directory : Path) : Except PathFault (List Path) := do
  if ← fs.hasDirectory directory.text then
    (fs.walk (fun _ => false) directory).flatMapM fun listing =>
      if s.schemaFileName ∈ listing.2 then
        return [← fs.resolve ((directory.below listing.1).below [s.schemaFileName])]
      else return []
  else return []

def schemaFiles (s : Search) (fs : FileSystem) (root : Path) : Except PathFault (List Path) :=
  (s.directories.map fun d => root.join (.ofText d)).flatMapM (s.filesIn fs)

/-- The schema files of a project, as remembered or found now. -/
def knownFiles (s : Search) (fs : FileSystem) (m : Memory) (root : Path) :
    Except PathFault (Memory × List Path) :=
  match m.files.get? root with
  | some files => .ok (m, files)
  | none => do
    let files ← s.schemaFiles fs root
    return ({ m with files := m.files.insert root files }, files)

/-- Looks for an address in one file after the other. -/
def lookInto (fs : FileSystem) (path : String) (address : Address) (m : Memory) :
    List Path → Reply Memory
  | [] => .plain .unique m
  | file :: rest =>
    match m.document fs file with
    | (m, events, .error f) => ⟨.error f, m, events⟩
    | (m, events, .ok document) =>
      if document.any (address.holds ·) then
        ⟨.ok .duplicate, m, events ++ [⟨.debug, logger, "duplicate_found",
          [("path", .text path), ("sibling", .text file.text)]⟩]⟩
      else (lookInto fs path address m rest).after events

/-- The other schema files of a project, and what is remembered of it. -/
def siblings (s : Search) (fs : FileSystem) (m : Memory) (root : Path) (schemaFile : String) :
    Except PathFault (Memory × List Path) := do
  let own ← fs.resolve (.ofText schemaFile)
  let (m, files) ← s.knownFiles fs m root
  return (m, files.filter (· ≠ own))

def ask (s : Search) (fs : FileSystem) (m : Memory) (q : Inquiry) : Reply Memory :=
  match q.node.address? with
  | none => .plain .unresolved m
  | some address =>
    match projectRoot? fs q.schemaFile s.marker with
    | .error fault => ⟨.error (.fileFault fault), m, []⟩
    | .ok none =>
      ⟨.ok .unavailable, m, [⟨.debug, logger, "project_root_not_found",
        [("schema_file", .text q.schemaFile)]⟩]⟩
    | .ok (some root) =>
      match s.siblings fs m root q.schemaFile with
      | .error fault => ⟨.error (.fileFault fault), m, []⟩
      | .ok (m, []) => .plain .unavailable m
      | .ok (m, siblings) => lookInto fs q.node.path address m siblings

theorem ask_of_no_address {s : Search} {fs : FileSystem} {m : Memory} {q : Inquiry}
    (h : q.node.address? = none) : s.ask fs m q = .plain .unresolved m := by
  simp [ask, h]

end Search

end ReleaseImpact
