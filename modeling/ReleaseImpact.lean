import ReleaseImpact.Main
import ReleaseImpact.Proofs.VirtualTypes
import ReleaseImpact.Proofs.Forms
import ReleaseImpact.Proofs.Addresses
import ReleaseImpact.Proofs.Copies
import ReleaseImpact.Proofs.LostTypes
import ReleaseImpact.Proofs.TreeRegistry
import ReleaseImpact.Proofs.TypeDeclarations
import ReleaseImpact.Proofs.Answers
import ReleaseImpact.Proofs.Descent
import ReleaseImpact.Proofs.Siblings
import ReleaseImpact.Proofs.TreeReports
import ReleaseImpact.Proofs.OwnDeclarations
import ReleaseImpact.Proofs.BreakingChanges
import ReleaseImpact.Proofs.Heuristics
import ReleaseImpact.Proofs.Reordering
import ReleaseImpact.Proofs.Verdicts
import ReleaseImpact.Proofs.SingleModules
import ReleaseImpact.Proofs.AddedNodes
import ReleaseImpact.Proofs.MissingFiles
import ReleaseImpact.Proofs.LookUps
import ReleaseImpact.Proofs.RegistryRuns
import ReleaseImpact.Proofs.RefusedLookUps
import ReleaseImpact.Proofs.OnceReported
import ReleaseImpact.Proofs.Mirrored
import ReleaseImpact.Proofs.SkippedFiles
import ReleaseImpact.Proofs.RemovedFiles
import ReleaseImpact.Proofs.NextVersion
import ReleaseImpact.Proofs.RefusedDocuments
import ReleaseImpact.Proofs.SiblingWarnings
import ReleaseImpact.Proofs.TreeRuns
import ReleaseImpact.Proofs.ResolvedPaths
import ReleaseImpact.Proofs.LostFiles
import ReleaseImpact.Proofs.BrokenSiblings
import ReleaseImpact.Proofs.PrunedTrees
import ReleaseImpact.Proofs.ExcludedDirectories
import ReleaseImpact.Proofs.CallLogs
import ReleaseImpact.Proofs.LogFiles
import ReleaseImpact.Proofs.SettingsFailures
import ReleaseImpact.Proofs.Precedence
import ReleaseImpact.Proofs.DeclarationChanges
import ReleaseImpact.Proofs.ClassPaths
import ReleaseImpact.Proofs.BuiltDetectors
import ReleaseImpact.Proofs.VersionTexts
import ReleaseImpact.Proofs.OverlaidMaps
import ReleaseImpact.Proofs.PathTexts
import ReleaseImpact.Proofs.SettledSettings
import ReleaseImpact.Proofs.FileOrder
import ReleaseImpact.Proofs.ModuleNames
import ReleaseImpact.Proofs.SnapshotMatches
import ReleaseImpact.Proofs.ReportViews
import ReleaseImpact.Proofs.EnclosingNodes
import ReleaseImpact.Proofs.ElementChains
import ReleaseImpact.Proofs.Positions
