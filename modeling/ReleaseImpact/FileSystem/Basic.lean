import ReleaseImpact.Path

/-!
A tree of files, directories and symbolic links, and the entries that paths lead to. Main statements:

- `entryAt_append`: looking up a longer location goes through the shorter one.
- `follow_nil`: with no part left, a location leads to its own entry.
- `hasFile_eq_ok`: asking whether a file is there tells so, unless it is a fault to ask.
-/

namespace ReleaseImpact

inductive Entry
  | file (content : List UInt8)
  | link (target : String)
  | directory (children : List (String × Entry))

instance : Inhabited Entry := ⟨.directory []⟩

/-- Why a path does not lead where it should. -/
inductive PathFault
  | missing
  | notDirectory
  | isDirectory
  | exists
  | tooManyLinks
  | nameTooLong
  /-- The path holds the character that ends paths. -/
  | containsNul
  /-- Links lead back to themselves. -/
  | linkLoop
  deriving DecidableEq, Repr

/-- What is wrong with a path, for people. -/
def PathFault.text : PathFault → String
  | .missing => "No such file or directory"
  | .notDirectory => "Not a directory"
  | .isDirectory => "Is a directory"
  | .exists => "File exists"
  | .tooManyLinks => "Too many levels of symbolic links"
  | .nameTooLong => "File name too long"
  | .containsNul => "embedded null character"
  | .linkLoop => "Symbolic links in a circle"

/-- The names from the root of the tree down to an entry. -/
abbrev Location := List String

def childIn (name : String) : List (String × Entry) → Option Entry
  | [] => none
  | (n, e) :: rest => if n = name then some e else childIn name rest

namespace Entry

def child? (name : String) : Entry → Option Entry
  | .directory children => childIn name children
  | _ => none

def entryAt : Entry → Location → Option Entry
  | e, [] => some e
  | e, name :: rest => (e.child? name).bind (entryAt · rest)

theorem entryAt_append (e : Entry) (front back : Location) :
    e.entryAt (front ++ back) = (e.entryAt front).bind (entryAt · back) := by
  induction front generalizing e with
  | nil => rfl
  | cons name front ih =>
    cases h : e.child? name <;> simp [entryAt, h, ih]

def isDirectory : Entry → Bool
  | .directory _ => true
  | _ => false

def isFile : Entry → Bool
  | .file _ => true
  | _ => false

/-- The parts of a path as it is written; an empty part asks for a directory, as a dot does. -/
def rawParts (text : String) : List String := Text.split '/' text

def isHere (part : String) : Bool := part = "" || part = "."

/-- As many bytes as the name of an entry may have. -/
def maxNameLength : Nat := 255

/-- Where a path leads from a location, and the entry there; what the last part names need not exist.
Symbolic links are followed, a limited number of them. -/
def reach (root : Entry) (links : Nat) (here : Location) :
    List String → Except PathFault (Location × Option Entry)
  | [] => .ok (here, root.entryAt here)
  | part :: rest =>
    match root.entryAt here with
    | none => .error .missing
    | some (.directory children) =>
      if isHere part then reach root links here rest
      else if part = ".." then reach root links here.dropLast rest
      else if maxNameLength < part.utf8ByteSize then .error .nameTooLong
      else
        match childIn part children with
        | none => if rest.isEmpty then .ok (here ++ [part], none) else .error .missing
        | some (.link target) =>
          match links with
          | 0 => .error .tooManyLinks
          | links + 1 =>
            reach root links (if Text.startsWith target "/" then [] else here) (rawParts target ++ rest)
        | some _ => reach root links (here ++ [part]) rest
    | some _ => .error .notDirectory
termination_by parts => (links, parts.length)

/-- The entry that a path leads to from a location, with its own location. -/
def follow (root : Entry) (links : Nat) (here : Location) (parts : List String) :
    Except PathFault (Location × Entry) :=
  match root.reach links here parts with
  | .ok (location, some e) => .ok (location, e)
  | .ok (_, none) => .error .missing
  | .error fault => .error fault

theorem follow_nil (root : Entry) (links : Nat) (here : Location) {e : Entry}
    (h : root.entryAt here = some e) : follow root links here [] = .ok (here, e) := by
  rw [follow, reach]
  simp [h]

mutual

/-- The number of links in an entry. -/
def linkCount : Entry → Nat
  | .file _ => 0
  | .link _ => 1
  | .directory children => linkCountAll children

def linkCountAll : List (String × Entry) → Nat
  | [] => 0
  | (_, e) :: rest => linkCount e + linkCountAll rest

end

end Entry

/-- A location as it is spelt: from the root, or from the working directory after some double dots. -/
structure Spelling where
  ups : Option Nat
  names : List String
  deriving DecidableEq, Repr

namespace Spelling

def fromRoot : Spelling := ⟨none, []⟩

def ofText (text : String) : Spelling := if Text.startsWith text "/" then fromRoot else ⟨some 0, []⟩

def below (s : Spelling) (name : String) : Spelling := { s with names := s.names ++ [name] }

/-- The spelling of the directory above. -/
def up (s : Spelling) : Spelling :=
  if s.names.isEmpty then { s with ups := s.ups.map (· + 1) } else { s with names := s.names.dropLast }

def location (workingDirectory : Location) (s : Spelling) : Location :=
  match s.ups with
  | none => s.names
  | some n => workingDirectory.take (workingDirectory.length - n) ++ s.names

/-- Puts parts behind a spelling without a look at them; they begin anew at the root if they start with
an empty part in front of others. -/
def append (s : Spelling) (parts : List String) : Spelling :=
  match parts with
  | "" :: next :: rest => ⟨none, next :: rest⟩
  | parts => { s with names := s.names ++ parts }

end Spelling

namespace Entry

/-- A path with its links followed, where parts that do not exist stay as they are. A link that leads
back to itself stays too, and with it all that comes after: then the flag is false. The links that are
being followed are given as they were spelt; `depth` bounds their number. -/
def resolve (root : Entry) (workingDirectory : Location) (depth : Nat) (opened : List Spelling)
    (here : Spelling) : List String → Spelling × Bool
  | [] => (here, true)
  | part :: rest =>
    if isHere part then resolve root workingDirectory depth opened here rest
    else if part = ".." then resolve root workingDirectory depth opened here.up rest
    else
      match (root.entryAt (here.location workingDirectory)).bind (child? part) with
      | some (.link target) =>
        let place := here.below part
        match depth with
        | 0 => (place.append rest, false)
        | depth + 1 =>
          if place ∈ opened then (place.append rest, false)
          else
            let start := if Text.startsWith target "/" then .fromRoot else here
            match resolve root workingDirectory depth (place :: opened) start (rawParts target) with
            | (found, true) => resolve root workingDirectory (depth + 1) opened found rest
            | (found, false) => (found.append rest, false)
      | _ => resolve root workingDirectory depth opened (here.below part) rest
termination_by parts => (depth, parts.length)

end Entry

/-- Drops empty parts and dots, and each double dot together with the part in front of it. -/
def Location.normalized (location : Location) : Location :=
  location.foldl (fun done part =>
    if Entry.isHere part then done else if part = ".." then done.dropLast else done ++ [part]) []

/-- A tree of entries with the directory from which relative paths start. -/
structure FileSystem where
  root : Entry
  workingDirectory : Location

namespace FileSystem

/-- As many links as a path may lead through. -/
def maxLinks : Nat := 40

/-- A path has fewer bytes. -/
def pathLimit : Nat := 4096

def start (fs : FileSystem) (text : String) : Location :=
  if Text.startsWith text "/" then [] else fs.workingDirectory

/-- Refuses texts that are no paths at all. -/
def checkText (text : String) : Except PathFault Unit :=
  if '\x00' ∈ text.toList then .error .containsNul
  else if text = "" then .error .missing
  else if pathLimit ≤ text.utf8ByteSize then .error .nameTooLong
  else .ok ()

def locate (fs : FileSystem) (text : String) : Except PathFault (Location × Entry) := do
  checkText text
  fs.root.follow maxLinks (fs.start text) (Entry.rawParts text)

/-- Whether a path leads to an accepted entry. A path that leads nowhere does not, but a name that is
too long is a fault. -/
def probe (fs : FileSystem) (accepts : Entry → Bool) (text : String) : Except PathFault Bool :=
  match fs.locate text with
  | .ok (_, e) => .ok (accepts e)
  | .error .nameTooLong => .error .nameTooLong
  | .error _ => .ok false

def hasEntry (fs : FileSystem) (text : String) : Except PathFault Bool := fs.probe (fun _ => true) text

def hasFile (fs : FileSystem) (text : String) : Except PathFault Bool := fs.probe Entry.isFile text

def hasDirectory (fs : FileSystem) (text : String) : Except PathFault Bool := fs.probe Entry.isDirectory text

def exists? (fs : FileSystem) (text : String) : Bool := (fs.locate text).isOk

def isFile (fs : FileSystem) (text : String) : Bool :=
  match fs.locate text with
  | .ok (_, e) => e.isFile
  | .error _ => false

def isDirectory (fs : FileSystem) (text : String) : Bool :=
  match fs.locate text with
  | .ok (_, e) => e.isDirectory
  | .error _ => false

theorem hasFile_eq_ok {fs : FileSystem} {text : String} {b : Bool} (h : fs.hasFile text = .ok b) :
    fs.isFile text = b := by
  unfold hasFile probe at h
  unfold isFile
  split at h <;> simp_all

theorem hasDirectory_eq_ok {fs : FileSystem} {text : String} {b : Bool} (h : fs.hasDirectory text = .ok b) :
    fs.isDirectory text = b := by
  unfold hasDirectory probe at h
  unfold isDirectory
  split at h <;> simp_all

def read (fs : FileSystem) (text : String) : Except PathFault (List UInt8) :=
  match fs.locate text with
  | .ok (_, .file content) => .ok content
  | .ok _ => .error .isDirectory
  | .error fault => .error fault

def pathOf (location : Location) : Path := ⟨.root, location⟩

/-- The absolute path that a path stands for by its text alone. -/
def absolute (fs : FileSystem) (p : Path) : Path :=
  pathOf (Location.normalized (fs.start p.text ++ Entry.rawParts p.text))

/-- The absolute path without links that a path stands for. -/
def resolve (fs : FileSystem) (p : Path) : Except PathFault Path :=
  if '\x00' ∈ p.text.toList then .error .containsNul
  else
    let depth := fs.root.linkCount * (fs.workingDirectory.length + 2) + 1
    let (found, _) := fs.root.resolve fs.workingDirectory depth [] (.ofText p.text)
      (Entry.rawParts p.text)
    let resolved := pathOf (Location.normalized (found.location fs.workingDirectory))
    match fs.locate resolved.text with
    | .error .tooManyLinks => .error .linkLoop
    | _ => .ok resolved

end FileSystem

end ReleaseImpact
