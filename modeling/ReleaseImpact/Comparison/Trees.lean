import ReleaseImpact.Comparison.Presence
import ReleaseImpact.Comparison.Registries
import ReleaseImpact.Survey.Tree

/-!
Comparing two source trees. Main statements:

- `compareTrees_marked`: every comparison begins and ends with its mark.
-/

namespace ReleaseImpact

namespace TreeComparison

def logger : String := "bumpcheck.ops"

def named (registries : List (ReportType × Registry)) : List (String × Registry) :=
  registries.map fun e => (e.1.name, e.2)

def body (fs : FileSystem) (presence : Presence) (settings : Settings) (before after : Path) :
    Trail Report := do
  .log .info logger "compare_started" [("before", .text before.text), ("after", .text after.text)]
  let registriesBefore ← scanTree fs settings.scan before
  let registriesAfter ← scanTree fs settings.scan after
  let run := presence.guard (compareRegistries fs presence.isFile settings.analysis 0
    (named registriesBefore) (named registriesAfter))
  let _ ← run
  let report : Report := ⟨run.changes⟩
  .log .info logger "compare_finished"
    [("operations", .nat report.length), ("level", levelValue (report.level? none))]
  return report

end TreeComparison

/-- Reports the changes from one source tree to another. -/
def compareTrees (fs : FileSystem) (presence : Presence) (settings : Settings) (before after : Path) :
    Trail Report := do
  .step (.mark true)
  (TreeComparison.body fs presence settings before after).closing (.mark false)

theorem compareTrees_marked (fs : FileSystem) (presence : Presence) (settings : Settings)
    (before after : Path) :
    (compareTrees fs presence settings before after).steps =
      .mark true :: ((TreeComparison.body fs presence settings before after).steps ++ [.mark false]) := rfl

end ReleaseImpact
