import ReleaseImpact.Json.Writer
import ReleaseImpact.OrderedMap
import ReleaseImpact.Settings.Model

/-!
One line of the log for one event, in words for people or as a JSON object. Main statements:

- `get?_level`: a line shows the level of its event, whatever fields the event has.
- `fieldText_of_plain`: text without blanks, quotes and equals signs is written as it is.
-/

namespace ReleaseImpact

/-- What the log adds to an event: the time, and the run it belongs to if there is one. -/
structure Stamp where
  time : String
  runId : Option String

namespace Event

/-- The name under which an event stands whose logger has none. -/
def rootLogger : String := "root"

def loggerName (e : Event) : String := if e.logger = "" then rootLogger else e.logger

/-- What the log itself knows about an event. -/
def ownFields (e : Event) (stamp : Stamp) : List (String × Value) :=
  [("event", .text e.message), ("logger", .text e.loggerName), ("level", .text e.level.label),
   ("timestamp", .text stamp.time)] ++ (stamp.runId.map fun id => ("run_id", Value.text id)).toList

/-- All fields of an event. What the log itself knows goes over fields of the same names. -/
def record (e : Event) (stamp : Stamp) : OrderedMap String Value :=
  .ofList (e.fields ++ e.ownFields stamp)

theorem get?_level (e : Event) (stamp : Stamp) :
    (e.record stamp).get? "level" = some (.text e.level.label) := by
  cases h : stamp.runId <;>
    simp [record, ownFields, OrderedMap.ofList, List.foldl_append, OrderedMap.get?_insert, h]

/-- The names that the log uses for itself on the way to a line. -/
def innerNames : List String := ["_record", "_from_structlog"]

/-- The fields that a line shows. -/
def shown (e : Event) (stamp : Stamp) : List (String × Value) :=
  (e.record stamp).entries.filter (·.1 ∉ innerNames)

/-! ## For people -/

def isDelicate (c : Char) : Bool := c ∈ [' ', '\t', '=', '\r', '\n', '"', '\'']

/-- The value of a field; text is quoted only where it could be misread. -/
def fieldText : Value → String
  | .text s => if s.toList.any isDelicate then Text.quoted s else s
  | v => v.literal

theorem fieldText_of_plain {s : String} (h : s.toList.any isDelicate = false) :
    fieldText (.text s) = s := by simp [fieldText, h]

/-- The names of the fields that stand at the start of a line. -/
def headNames : List String := ["", "timestamp", "level", "event", "logger", "logger_name"]

/-- The names of the fields that are written below a line, or not at all. -/
def tailNames : List String := ["stack", "exception", "exc_info"]

def levelWidth : Nat := 9

def namedText (f : String × Value) : String := f.1 ++ "=" ++ fieldText f.2

def bracketed (s : String) : String := "[" ++ s ++ "]"

def namedFields (e : Event) (stamp : Stamp) : List (String × Value) :=
  ((e.shown stamp).filter fun f => f.1 ∉ headNames ∧ f.1 ∉ tailNames).mergeSort
    fun a b => decide (a.1 ≤ b.1)

/-- The parts of a line: a field without a name, time, level, event, loggers, and the other fields. -/
def parts (e : Event) (stamp : Stamp) : List String :=
  let field (name : String) : Option Value := (e.record stamp).get? name
  ((field "").map fun v => namedText ("", v)).toList ++
    [stamp.time, bracketed (Text.padRight levelWidth e.level.label), e.message, bracketed e.loggerName] ++
    ((field "logger_name").map fun v => bracketed v.display).toList ++
    (e.namedFields stamp).map namedText

/-- The text of a field that is written below a line, empty if there is no such field. What is no text
has no such form. -/
def paragraph? (e : Event) (stamp : Stamp) (name : String) : Option String :=
  match ((e.record stamp).get? name).getD .null with
  | .null => some ""
  | .text s => some ("\n" ++ s)
  | _ => none

/-- The line between a stack and an exception. -/
def divider : String := "\n\n" ++ String.ofList (List.replicate 79 '=') ++ "\n"

/-- A line for people, without parts that are empty, and what is written below it. -/
def consoleLine? (e : Event) (stamp : Stamp) : Option String := do
  let stack ← e.paragraph? stamp "stack"
  let exception ← e.paragraph? stamp "exception"
  let parted := !stack.isEmpty &&
    (!exception.isEmpty || ((e.record stamp).get? "exc_info").any fun v => !v.isEmpty)
  return Text.join ' ' ((e.parts stamp).filter (· ≠ "")) ++ stack ++ (if parted then divider else "") ++
    exception

/-! ## For programs -/

def asValue (e : Event) (stamp : Stamp) : Value := .record (e.record stamp).entries

def jsonLine (e : Event) (stamp : Stamp) : String := Json.write .flat 0 (.record (e.shown stamp))

def line? (e : Event) (stamp : Stamp) : OutputFormat → Option String
  | .json => some (e.jsonLine stamp)
  | .console => e.consoleLine? stamp

end Event

end ReleaseImpact
