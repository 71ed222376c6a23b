import ReleaseImpact.FileSystem.Edit

/-!
What a program writes to: its two standard streams and the files. Main statements:

- `standardError_write` and `standardOutput_write`: a stream gets what is written to it.
- `files_write_of_stream`: writing to a stream changes no file.
- `writeAll_append`: texts are written one after the other.
-/

namespace ReleaseImpact

inductive Target
  | standardError
  | standardOutput
  | file (path : Path)
  deriving DecidableEq, Repr

structure Outputs where
  files : FileSystem
  standardOutput : String
  standardError : String

namespace Outputs

def ofFiles (files : FileSystem) : Outputs := ⟨files, "", ""⟩

/-- The bytes of a text in UTF-8. -/
def encoded (text : String) : List UInt8 := text.toUTF8.toList

/-- Puts text at the end of a target; a file that cannot be written stays as it is. -/
def write (o : Outputs) (target : Target) (text : String) : Outputs :=
  match target with
  | .standardError => { o with standardError := o.standardError ++ text }
  | .standardOutput => { o with standardOutput := o.standardOutput ++ text }
  | .file path =>
    match o.files.append path.text (encoded text) with
    | .ok files => { o with files }
    | .error _ => o

theorem standardError_write (o : Outputs) (target : Target) (text : String) :
    (o.write target text).standardError =
      if target = .standardError then o.standardError ++ text else o.standardError := by
  cases target with
  | file path => simp only [write]; split <;> rfl
  | _ => rfl

theorem standardOutput_write (o : Outputs) (target : Target) (text : String) :
    (o.write target text).standardOutput =
      if target = .standardOutput then o.standardOutput ++ text else o.standardOutput := by
  cases target with
  | file path => simp only [write]; split <;> rfl
  | _ => rfl

theorem files_write_of_stream (o : Outputs) {target : Target} (text : String)
    (h : ∀ path, target ≠ .file path) : (o.write target text).files = o.files := by
  cases target with
  | file path => exact absurd rfl (h path)
  | _ => rfl

/-! ## Several texts -/

def writeAll (o : Outputs) (texts : List (Target × String)) : Outputs :=
  texts.foldl (fun o t => o.write t.1 t.2) o

theorem writeAll_nil (o : Outputs) : o.writeAll [] = o := rfl

theorem writeAll_append (o : Outputs) (texts more : List (Target × String)) :
    o.writeAll (texts ++ more) = (o.writeAll texts).writeAll more := List.foldl_append

end Outputs

end ReleaseImpact
