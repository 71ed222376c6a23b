import ReleaseImpact.FileSystem.Basic

/-!
Changes to a file tree: making directories, writing, appending and removing. Main statements:

- `childIn_setChild`: the entry set under a name is found there, the others stay.
-/

namespace ReleaseImpact

/-- Sets or removes what a directory holds under a name. -/
def setChild (name : String) (change : Option Entry → Option Entry) :
    List (String × Entry) → List (String × Entry)
  | [] => (change none).toList.map (name, ·)
  | (n, e) :: rest =>
    if n = name then (change (some e)).toList.map (name, ·) ++ rest
    else (n, e) :: setChild name change rest

theorem childIn_setChild {name other : String} {e : Entry} (children : List (String × Entry)) :
    childIn other (setChild name (fun _ => some e) children) =
      if name = other then some e else childIn other children := by
  induction children with
  | nil => simp [setChild, childIn]
  | cons c rest ih =>
    obtain ⟨n, d⟩ := c
    by_cases h : n = name
    · subst h
      by_cases h' : n = other <;> simp [setChild, childIn, h']
    · by_cases h' : n = other
      · subst h'; simp [setChild, childIn, h, Ne.symm h]
      · simp [setChild, childIn, h, h', ih]

/-- Changes the entry at a location whose directory exists. -/
def Entry.changeAt (change : Option Entry → Option Entry) : Location → Entry → Entry
  | [], e => e
  | [name], .directory children => .directory (setChild name change children)
  | name :: rest, .directory children =>
    .directory (setChild name (Option.map (changeAt change rest)) children)
  | _, e => e

namespace FileSystem

def changeAt (fs : FileSystem) (location : Location) (change : Option Entry → Option Entry) :
    FileSystem :=
  { fs with root := fs.root.changeAt change location }

/-- The directory in which the last part of a path stands, and that part. -/
def splitLast (fs : FileSystem) (p : Path) : Except PathFault (Location × String) := do
  checkText p.text
  match p.parts.getLast? with
  | none => .error .exists
  | some name =>
    if name = ".." then .error .exists
    else
      match fs.locate p.parent.text with
      | .ok (location, .directory _) =>
        if Entry.maxNameLength < name.utf8ByteSize then .error .nameTooLong else .ok (location, name)
      | .ok _ => .error .notDirectory
      | .error fault => .error fault

/-- Makes a directory whose parent exists. -/
def makeDirectory (fs : FileSystem) (p : Path) : Except PathFault FileSystem := do
  let (location, name) ← fs.splitLast p
  match (fs.root.entryAt location).bind (Entry.child? name) with
  | some _ => .error .exists
  | none => .ok (fs.changeAt (location ++ [name]) fun _ => some (.directory []))

/-- Accepts a fault where a directory is there already. -/
def acceptDirectory (fs : FileSystem) (p : Path) (fault : PathFault) : Except PathFault FileSystem :=
  if fs.isDirectory p.text then .ok fs else .error fault

/-- Makes the directory with the given parts, the last part first, and those above it. -/
def makeDirectoriesFrom (fs : FileSystem) (anchor : Anchor) : List String → Except PathFault FileSystem
  | [] => acceptDirectory fs ⟨anchor, []⟩ .exists
  | last :: above =>
    let p : Path := ⟨anchor, (last :: above).reverse⟩
    match fs.makeDirectory p with
    | .ok fs => .ok fs
    | .error .missing =>
      match makeDirectoriesFrom fs anchor above with
      | .ok fs =>
        match fs.makeDirectory p with
        | .ok fs => .ok fs
        | .error fault => acceptDirectory fs p fault
      | .error fault => .error fault
    | .error fault => acceptDirectory fs p fault

def makeDirectories (fs : FileSystem) (p : Path) : Except PathFault FileSystem :=
  makeDirectoriesFrom fs p.anchor p.parts.reverse

/-- The location to which writing a file at a path goes. -/
def writeLocation (fs : FileSystem) (text : String) : Except PathFault Location := do
  checkText text
  match fs.root.reach maxLinks (fs.start text) (Entry.rawParts text) with
  | .ok (_, some (.directory _)) => .error .isDirectory
  | .ok (location, _) => .ok location
  | .error fault => .error fault

def write (fs : FileSystem) (text : String) (content : List UInt8) : Except PathFault FileSystem := do
  let location ← fs.writeLocation text
  .ok (fs.changeAt location fun _ => some (.file content))

/-- Writes at the end of a file, which is made if it is not there. -/
def append (fs : FileSystem) (text : String) (content : List UInt8) : Except PathFault FileSystem := do
  let location ← fs.writeLocation text
  .ok (fs.changeAt location fun
    | some (.file old) => some (.file (old ++ content))
    | _ => some (.file content))

/-- Puts a symbolic link into an existing directory. -/
def makeLink (fs : FileSystem) (p : Path) (target : String) : Except PathFault FileSystem := do
  let (location, name) ← fs.splitLast p
  match (fs.root.entryAt location).bind (Entry.child? name) with
  | some _ => .error .exists
  | none => .ok (fs.changeAt (location ++ [name]) fun _ => some (.link target))

/-- Removes what stands at a path; a link itself, not what it leads to. -/
def remove (fs : FileSystem) (p : Path) : FileSystem :=
  match fs.splitLast p with
  | .ok (location, name) => fs.changeAt (location ++ [name]) fun _ => none
  | .error _ => fs

end FileSystem

end ReleaseImpact
