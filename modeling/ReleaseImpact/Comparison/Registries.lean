import ReleaseImpact.Comparison.Forms
import ReleaseImpact.Comparison.VirtualTypes
import ReleaseImpact.Duplicate.Detector
import ReleaseImpact.Settings.Model

/-!
Comparing the registries of two snapshots, one kind of file after the other. Main statements:

- `compareRegistries_nil`: without registries nothing is compared.
- `detector_structural`: the structural strategy searches nowhere.
-/

namespace ReleaseImpact

namespace AnalysisSettings

def search (s : AnalysisSettings) : Search :=
  ⟨s.projectRootMarker, s.schemaSearchDirs, s.schemaFileName⟩

def detector (s : AnalysisSettings) : Detector :=
  match s.duplicateStrategy with
  | .structural => .structural
  | .crossFile => .ofSearch s.search
  | .auto => .searchThenLikeness s.search

def formRules (s : AnalysisSettings) : FormRules := ⟨s.schemaFileName, s.fixtureMarkers⟩

theorem detector_structural {s : AnalysisSettings} (h : s.duplicateStrategy = .structural) :
    s.detector = .structural := by simp [detector, h]

end AnalysisSettings

namespace RegistryComparison

def logger : String := "bumpcheck.analysis.factory"

def compareType (fs : FileSystem) (isFile : String → Bool) (settings : AnalysisSettings)
    (before after : Registry) : ReportType → Trail Unit
  | .di => compareVirtualTypes isFile settings.classFileExtension before after
  | .system => do
    let _ ← compareForms (Detector.ask fs) settings.formRules settings.detector before after

def analyzerName : ReportType → String
  | .di => "VirtualTypeAnalyzer"
  | .system => "SystemXmlAnalyzer"

/-- Compares what both snapshots have under one name. The number of changes so far is handed on. -/
def compareNamed (fs : FileSystem) (isFile : String → Bool) (settings : AnalysisSettings)
    (after : List (String × Registry)) (found : Nat) (e : String × Registry) : Trail Nat :=
  match (after.find? (·.1 = e.1)).map Prod.snd with
  | none => do
    .log .warning logger "report_type_missing_in_after" [("report_type", .text e.1)]
    return found
  | some registryAfter =>
    match ReportType.ofName? e.1 with
    | none =>
      .fail (.problem (.unexpected "no analyzer for report type" [("report_type", .text e.1)]))
    | some type => do
      let run := compareType fs isFile settings e.2 registryAfter type
      run
      let found := found + run.changes.length
      .log .debug logger "analyzer_done"
        [("report_type", .text e.1), ("analyzer", .text (analyzerName type)),
         ("operations", .nat found)]
      return found

end RegistryComparison

/-- Compares the registries that both snapshots have. A number of changes was found before. -/
def compareRegistries (fs : FileSystem) (isFile : String → Bool) (settings : AnalysisSettings)
    (found : Nat) (before after : List (String × Registry)) : Trail Nat :=
  Trail.fold (RegistryComparison.compareNamed fs isFile settings after) found before

theorem compareRegistries_nil (fs : FileSystem) (isFile : String → Bool) (settings : AnalysisSettings)
    (found : Nat) (after : List (String × Registry)) :
    compareRegistries fs isFile settings found [] after = .done found := rfl

end ReleaseImpact
