import ReleaseImpact.CommandLine.Run
import ReleaseImpact.Json.Reader

/-!
The program. Its words are its arguments; the files and variables among which it runs are read from
the standard input, as one line of JSON.
-/

open ReleaseImpact ReleaseImpact.CommandLine

def main (words : List String) : IO UInt32 := do
  let line ← (← IO.getStdin).getLine
  let (j, outcome) := run (.ofValue ((Json.parse? line).getD .null)) words
  IO.print j.outputs.standardOutput
  IO.eprint j.outputs.standardError
  match outcome with
  | .ok code => return code.toUInt32
  | .error f =>
    IO.eprintln ("Error: " ++ f.text)
    return 1
