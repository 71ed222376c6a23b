import ReleaseImpact.FileSystem.Basic
import ReleaseImpact.Text.Closeness
import ReleaseImpact.Text.Quoted

/-!
The words of a command line: options, with or without a value, and operands. Main statements:

- `readWords_of_operands`: words that are no options are operands, in order.
- `readWords_after_dashes`: after two dashes every word is an operand.
-/

namespace ReleaseImpact.CommandLine

inductive UsageFault
  | nothingAsked
  | unknownOption (spelling : String) (proposals : List String)
  | valueMissing (spelling : String)
  | valueRefused (spelling : String)
  | commandMissing
  | unknownCommand (name : String) (proposals : List String)
  | operandMissing (name : String)
  | operandsLeft (words : List String)
  /-- A path that leads to nothing, or to something else than it should. -/
  | unsuitablePath (holder noun path reason : String)
  /-- A text that is no path; this ends the program without a message. -/
  | brokenPath (fault : PathFault)
  deriving DecidableEq, Repr

/-- An option: its name, how it may be spelt, and whether it comes with a value. -/
structure OptionForm where
  name : String
  spellings : List String
  takesValue : Bool

abbrev Setting := String × Option String

/-- What one word sets, and the option whose value is the next word, with its spelling. -/
structure Reading where
  settings : List Setting
  awaited : Option (String × String)

/-- A word up to its first equals sign, and what comes after that. -/
def cutValue (word : String) : String × Option String :=
  let chars := word.toList
  let front := chars.takeWhile (· ≠ '=')
  (String.ofList front,
    match chars.drop front.length with
    | [] => none
    | _ :: value => some (String.ofList value))

def isLong (spelling : String) : Bool := Text.startsWith spelling "--"

def longSpellings (forms : List OptionForm) : List String :=
  (forms.flatMap OptionForm.spellings).filter isLong

def find? (forms : List OptionForm) (spelling : String) : Option OptionForm :=
  forms.find? (spelling ∈ ·.spellings)

/-- Reads options of one letter that stand in one word. A value may follow the last one at once. -/
def readLetters (forms : List OptionForm) : List Char → Except UsageFault Reading
  | [] => .ok ⟨[], none⟩
  | c :: rest =>
    let spelling := String.ofList ['-', c]
    match find? forms spelling with
    | none => .error (.unknownOption spelling [])
    | some form =>
      if form.takesValue then
        if rest.isEmpty then .ok ⟨[], some (form.name, spelling)⟩
        else .ok ⟨[(form.name, some (String.ofList rest))], none⟩
      else
        (readLetters forms rest).map fun r => ⟨(form.name, none) :: r.settings, r.awaited⟩

def readLong (forms : List OptionForm) (word : String) : Except UsageFault Reading :=
  let (spelling, value) := cutValue word
  match find? forms spelling with
  | none => .error (.unknownOption spelling (Text.closest (longSpellings forms) spelling))
  | some form =>
    match form.takesValue, value with
    | true, some v => .ok ⟨[(form.name, some v)], none⟩
    | true, none => .ok ⟨[], some (form.name, spelling)⟩
    | false, some _ => .error (.valueRefused spelling)
    | false, none => .ok ⟨[(form.name, none)], none⟩

def readOption (forms : List OptionForm) (word : String) : Except UsageFault Reading :=
  if isLong word then readLong forms word else readLetters forms (word.toList.drop 1)

/-- A single dash is no option. -/
def isOption (word : String) : Bool := Text.startsWith word "-" && word ≠ "-"

structure Words where
  settings : List Setting
  operands : List String
  deriving DecidableEq, Repr

namespace Words

def withSettings (settings : List Setting) (w : Words) : Words := { w with settings := settings ++ w.settings }

def withOperand (word : String) (w : Words) : Words := { w with operands := word :: w.operands }

/-- What was given last to an option. -/
def value? (w : Words) (name : String) : Option String :=
  ((w.settings.filter (·.1 = name)).getLast?).bind Prod.snd

def has (w : Words) (name : String) : Bool := w.settings.any (·.1 = name)

end Words

/-- Reads words. Where options may not be mixed with operands, all words from the first operand on are
operands. -/
def readWords (forms : List OptionForm) (mixed : Bool) : List String → Except UsageFault Words
  | [] => .ok ⟨[], []⟩
  | word :: rest =>
    if word = "--" then .ok ⟨[], rest⟩
    else if isOption word then
      match readOption forms word with
      | .error fault => .error fault
      | .ok ⟨settings, none⟩ => (readWords forms mixed rest).map (.withSettings settings)
      | .ok ⟨settings, some (name, spelling)⟩ =>
        match rest with
        | [] => .error (.valueMissing spelling)
        | value :: rest =>
          (readWords forms mixed rest).map (.withSettings (settings ++ [(name, some value)]))
    else if mixed then (readWords forms mixed rest).map (.withOperand word)
    else .ok ⟨[], word :: rest⟩

theorem readWords_of_operands {forms : List OptionForm} {mixed : Bool} {words : List String}
    (h : ∀ word ∈ words, isOption word = false) : readWords forms mixed words = .ok ⟨[], words⟩ := by
  induction words with
  | nil => rfl
  | cons word rest ih =>
    have hw : isOption word = false := h word List.mem_cons_self
    have hd : word ≠ "--" := by rintro rfl; exact absurd hw (by decide)
    have ih := ih fun w hm => h w (List.mem_cons_of_mem _ hm)
    cases mixed <;> simp [readWords, hw, hd, ih, Except.map, Words.withOperand]

theorem readWords_after_dashes (forms : List OptionForm) (mixed : Bool) (words : List String) :
    readWords forms mixed ("--" :: words) = .ok ⟨[], words⟩ := by simp [readWords]

end ReleaseImpact.CommandLine
