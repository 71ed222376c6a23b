import ReleaseImpact.Failure

/-!
What the surroundings of a run tell: variables and the home directories of users. Main statements:

- `expandHome_of_absolute`: absolute paths stay as they are.
-/

namespace ReleaseImpact

structure Environment where
  vars : List (String × String)
  homes : List (String × String)

namespace Environment

def valueOf? (env : Environment) (name : String) : Option String :=
  (env.vars.find? (·.1 = name)).map Prod.snd

/-- The home directory that a part such as `~` or `~user` stands for. -/
def home? (env : Environment) (part : String) : Option String :=
  match part.toList with
  | ['~'] => env.valueOf? "HOME"
  | '~' :: user => (env.homes.find? (·.1 = String.ofList user)).map Prod.snd
  | _ => none

def startsWithHome (p : Path) : Bool :=
  p.anchor = .none && (p.parts.head?.any fun part => Text.startsWith part "~")

/-- The path of a home directory; one of nothing but slashes is the root. -/
def homePath (home : String) : Path :=
  if home.toList.all (· = '/') then ⟨.root, []⟩ else .ofText home

/-- Puts the home directory in for a first part that stands for one. -/
def expandHome (env : Environment) (p : Path) : Except Failure Path :=
  if startsWithHome p then
    let part := p.parts.head?.getD ""
    if part.toList.contains '\x00' then .error (.fileFault .containsNul)
    else match env.home? part with
    | some home =>
      if Text.startsWith home "~" then .error (.unknownUser part)
      else .ok ((homePath home).below (p.parts.drop 1))
    | none => .error (.unknownUser part)
  else .ok p

theorem expandHome_of_absolute {env : Environment} {p : Path} (h : p.isAbsolute = true) :
    env.expandHome p = .ok p := by
  have : p.anchor ≠ .none := by simpa [Path.isAbsolute] using h
  simp [expandHome, startsWithHome, this]

end Environment

end ReleaseImpact
