import ReleaseImpact.Value.Display

/-!
Problems that are reported to the user: a numbered kind, a message and details. Main statements:

- `Code.number_injective`: a number names one kind.
- `Code.ofName?_name`: a kind is found by its name.
- `Problem.text_invalidValue`: how a refused value is reported.
-/

namespace ReleaseImpact

inductive Code
  | configParseError
  | configInvalidValue
  | configFileNotFound
  | registryMissingSourceFile
  | registryUnknownModule
  | scanSourceNotFound
  | internalError
  deriving DecidableEq, Repr

namespace Code

def all : List Code :=
  [configParseError, configInvalidValue, configFileNotFound, registryMissingSourceFile,
   registryUnknownModule, scanSourceNotFound, internalError]

def number : Code → Nat
  | configParseError => 2001
  | configInvalidValue => 2002
  | configFileNotFound => 2004
  | registryMissingSourceFile => 3001
  | registryUnknownModule => 3002
  | scanSourceNotFound => 3101
  | internalError => 9001

def name : Code → String
  | configParseError => "CONFIG_PARSE_ERROR"
  | configInvalidValue => "CONFIG_INVALID_VALUE"
  | configFileNotFound => "CONFIG_FILE_NOT_FOUND"
  | registryMissingSourceFile => "REGISTRY_MISSING_SOURCE_FILE"
  | registryUnknownModule => "REGISTRY_UNKNOWN_MODULE"
  | scanSourceNotFound => "SCAN_SOURCE_NOT_FOUND"
  | internalError => "INTERNAL_ERROR"

def ofName? (name : String) : Option Code := all.find? (·.name = name)

theorem number_injective {a b : Code} (h : a.number = b.number) : a = b := by
  cases a <;> cases b <;> first | rfl | simp [number] at h

theorem ofName?_name (c : Code) : ofName? c.name = some c := by cases c <;> decide

end Code

structure Problem where
  code : Code
  message : String
  retryable : Bool
  details : List (Scalar × Value)
  deriving Repr

namespace Problem

/-- A problem that trying again does not mend, with details under text keys. -/
def lasting (code : Code) (message : String) (details : List (String × Value)) : Problem :=
  ⟨code, message, false, details.map fun d => (.text d.1, d.2)⟩

def unparsable (path reason : String) : Problem :=
  lasting .configParseError ("Failed to parse config at " ++ path ++ ": " ++ reason)
    [("path", .text path), ("reason", .text reason)]

def invalidValue (field : String) (value : Value) (reason : String) : Problem :=
  lasting .configInvalidValue ("Invalid value for '" ++ field ++ "': " ++ reason)
    [("field", .text field), ("value", .text value.display), ("reason", .text reason)]

def configMissing (path : String) : Problem :=
  lasting .configFileNotFound ("Config file not found: " ++ path) [("path", .text path)]

def missingSourceFile (moduleName : String) : Problem :=
  lasting .registryMissingSourceFile ("No source file mapped for module '" ++ moduleName ++ "'")
    [("module", .text moduleName)]

def unknownModule (moduleName : String) : Problem :=
  lasting .registryUnknownModule ("Module not present in registry: " ++ moduleName)
    [("module", .text moduleName)]

def treeMissing (path : String) : Problem :=
  lasting .scanSourceNotFound ("Source tree not found: " ++ path) [("path", .text path)]

def unexpected (reason : String) (details : List (String × Value)) : Problem :=
  lasting .internalError ("Internal error: " ++ reason) details

/-- One line for people: the number, the name and the message. -/
def text (p : Problem) : String :=
  "[" ++ Text.decimalText p.code.number ++ "] " ++ p.code.name ++ ": " ++ p.message

def toValue (p : Problem) : Value :=
  .record
    [("code", .nat p.code.number), ("error", .text p.code.name), ("message", .text p.message),
     ("retryable", .bool p.retryable), ("details", .map p.details)]

theorem text_invalidValue (field : String) (value : Value) (reason : String) :
    (invalidValue field value reason).text =
      "[2002] CONFIG_INVALID_VALUE: " ++ (invalidValue field value reason).message := by
  have h : Text.decimalText Code.configInvalidValue.number = "2002" := by decide
  simp [text, invalidValue, lasting, Code.name, h]

end Problem

end ReleaseImpact
