import ReleaseImpact.Node
import ReleaseImpact.Path

/-!
What the place of a file says about its declarations: the module they belong to and the area for which
they hold. Main statements:

- `moduleOfParts?_etc`: two directories and the configuration directory name a module.
- `areaScope_of_etc`: declarations directly in the configuration directory hold everywhere.
-/

namespace ReleaseImpact

/-- The directory of a module that holds its configuration. -/
def configDirectory : String := "etc"

/-- The module that the parts of a path name: the two parts before the last configuration directory
that has two parts before it. -/
def moduleOfParts? : List String → Option String
  | vendor :: package :: directory :: rest =>
    match moduleOfParts? (package :: directory :: rest) with
    | some inner => some inner
    | none => if directory = configDirectory then some (vendor ++ "_" ++ package) else none
  | _ => none

theorem moduleOfParts?_etc (vendor package : String) :
    moduleOfParts? [vendor, package, configDirectory] = some (vendor ++ "_" ++ package) := by
  simp [moduleOfParts?]

def moduleOfFile? (file : String) : Option String :=
  moduleOfParts? (Path.ofText (Text.replaceChar '\\' '/' file)).components

/-- The area for which the declarations of a file hold. -/
def areaScope (file : Path) : String :=
  let directory := file.parent.name
  if directory = configDirectory then globalScope else directory

theorem areaScope_of_etc {file : Path} (h : file.parent.name = configDirectory) :
    areaScope file = globalScope := by simp [areaScope, h]

end ReleaseImpact
