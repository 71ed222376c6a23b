import ReleaseImpact.FileSystem.Edit
import ReleaseImpact.Text.Base64
import ReleaseImpact.Value.Basic

/-!
File trees written down as values: for each path the text of a file, or a record of its bytes, of a
directory, or of a symbolic link. Main statements:

- `place_text`: a text is the content of a file.
- `ofPaths_nil`: without paths there is only the working directory.
-/

namespace ReleaseImpact.FileSystem

def bytesOfText (text : String) : List UInt8 := text.toUTF8.toList

/-- Puts what a value describes at a path below a directory, making the directories above it. Nothing
in place of a value removes what is there. -/
def place (fs : FileSystem) (directory : Path) (path : String) (content : Value) : FileSystem :=
  let target := directory.join (.ofText path)
  let made := match fs.makeDirectories target.parent with
    | .ok fs => fs
    | .error _ => fs
  let outcome := match content with
    | .text s => made.write target.text (bytesOfText s)
    | .map entries =>
      match field? "base64" entries, field? "symlink" entries, field? "dir" entries with
      | some (.text s), _, _ => made.write target.text (Text.Base64.decode s)
      | _, some (.text s), _ => made.makeLink target s
      | _, _, some _ => made.makeDirectories target
      | _, _, _ => .ok made
    | .null => .ok (fs.remove target)
    | _ => .ok made
  match outcome with
  | .ok fs => fs
  | .error _ => made

def ofWorkingDirectory (directory : Path) : FileSystem :=
  let fs : FileSystem := ⟨.directory [], directory.parts⟩
  match fs.makeDirectories directory with
  | .ok fs => fs
  | .error _ => fs

/-- The tree of a list of paths and contents, placed one after the other. -/
def ofPaths (directory : Path) (paths : List (String × Value)) : FileSystem :=
  paths.foldl (fun fs e => fs.place directory e.1 e.2) (ofWorkingDirectory directory)

theorem ofPaths_nil (directory : Path) : ofPaths directory [] = ofWorkingDirectory directory := rfl

theorem place_text (fs : FileSystem) (directory : Path) (path s : String) {made : FileSystem}
    (h : fs.makeDirectories (directory.join (.ofText path)).parent = .ok made) {written : FileSystem}
    (hw : made.write (directory.join (.ofText path)).text (bytesOfText s) = .ok written) :
    fs.place directory path (.text s) = written := by
  unfold place
  simp only [h]
  rw [hw]

end ReleaseImpact.FileSystem
