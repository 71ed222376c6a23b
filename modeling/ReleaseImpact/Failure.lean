import ReleaseImpact.FileSystem.Basic
import ReleaseImpact.Problem

/-!
Reasons for which a run ends early. Main statement:

- `Failure.problem?_ofProblem`: a reported problem is recognised as one.
-/

namespace ReleaseImpact

/-- A step on the way to a setting: a name, or a number in a list. -/
inductive Place
  | name (text : String)
  | item (index : Nat)
  deriving DecidableEq, Repr

def Place.text : Place → String
  | .name text => text
  | .item index => Text.decimalText index

/-- One fault of a configuration: where, of what kind, in which words, and what stands there. -/
structure FieldFault where
  path : List Place
  kind : String
  message : String
  input : Value
  deriving Repr

/-- What can end a run. A reported problem is meant for the user; the others are faults of the input
that no caller handles. -/
inductive Failure
  | problem (p : Problem)
  | malformedXml
  | unknownEncoding (name : String)
  | multiByteEncoding (name : String)
  | unusableEncoding (name : String)
  | longNumeral
  | invalidScalar
  | emptyNumeral
  | numberTooLarge
  | unknownTruth
  | unknownDate
  | misplacedDate
  | tooDeep
  | undecodable
  | emptyAddress
  | malformedPath
  | misplacedMark (mark : String)
  | unfinishedPath
  | keyNotText
  | settingNotJson (name : String)
  | unknownUser (name : String)
  | invalidSettings (faults : List FieldFault)
  | fileFault (fault : PathFault)
  | notCollected
  | fieldNameTaken (name : String)
  | noLogRecord
  deriving Repr

def Failure.problem? : Failure → Option Problem
  | .problem p => some p
  | _ => none

/-- One line for people. -/
def Failure.text : Failure → String
  | .problem p => p.text
  | .malformedXml => "malformed XML document"
  | .unknownEncoding name => "unknown encoding " ++ Text.quoted name
  | .multiByteEncoding name => "multi-byte encoding " ++ Text.quoted name
  | .unusableEncoding name => "an encoding that no document can be in, " ++ Text.quoted name
  | .longNumeral => "a number with too many digits"
  | .invalidScalar => "a scalar that is no value of its type"
  | .emptyNumeral => "a number without digits"
  | .numberTooLarge => "a number that is too large"
  | .unknownTruth => "a word that is no truth value"
  | .unknownDate => "a text that is no date"
  | .misplacedDate => "a date in place of a mapping"
  | .tooDeep => "a value that is nested too deep"
  | .undecodable => "a text that is not in UTF-8"
  | .emptyAddress => "an address without steps"
  | .malformedPath => "a malformed path"
  | .misplacedMark mark => "a path with no step for " ++ Text.quoted mark
  | .unfinishedPath => "a path that ends within a step"
  | .keyNotText => "a setting whose name is no text"
  | .settingNotJson name => "no JSON text in the variable for " ++ Text.quoted name
  | .unknownUser name => "no home directory for " ++ Text.quoted name
  | .invalidSettings _ => "invalid settings"
  | .fileFault _ => "a file that cannot be used"
  | .fieldNameTaken name => "a log field with the name " ++ Text.quoted name
  | .noLogRecord => "a log field that is not the record it should be"
  | .notCollected => "nothing is known of what the file declares"

theorem Failure.problem?_ofProblem (p : Problem) : (Failure.problem p).problem? = some p := rfl

end ReleaseImpact
