import WrapperGen.Main
import WrapperGen.Name.Written
import WrapperGen.Proofs.KeyWalk
import WrapperGen.Proofs.Collecting
import WrapperGen.Proofs.ClassOrder
import WrapperGen.Proofs.Problems
import WrapperGen.Proofs.Visits
import WrapperGen.Proofs.DeclaredKeys
import WrapperGen.Proofs.Subscription
import WrapperGen.Proofs.Resolution
import WrapperGen.Proofs.QuestionMarks
import WrapperGen.Proofs.ShortText
import WrapperGen.Proofs.Playing
import WrapperGen.Proofs.RoundCourse
import WrapperGen.Proofs.RoundAccount
import WrapperGen.Proofs.SkippedModels
import WrapperGen.Proofs.PathNames
import WrapperGen.Proofs.Places
import WrapperGen.Proofs.Directories
import WrapperGen.Proofs.Replacing
import WrapperGen.Proofs.Storing
import WrapperGen.Proofs.Retrying
import WrapperGen.Proofs.ReturnedDiagnostics
import WrapperGen.Proofs.Footprint
import WrapperGen.Proofs.InPlace
import WrapperGen.Proofs.StoredFiles
import WrapperGen.Proofs.Regenerating
import WrapperGen.Proofs.Orderly
import WrapperGen.Proofs.OutputPaths
import WrapperGen.Proofs.SharedOutputs
import WrapperGen.Proofs.OutputsBelow
import WrapperGen.Proofs.ClassReferences
import WrapperGen.Proofs.Counterparts
import WrapperGen.Proofs.HookMarkers
import WrapperGen.Proofs.LaterResolved
import WrapperGen.Proofs.ReachedAlone
import WrapperGen.Proofs.JsonTokens
import WrapperGen.Proofs.DumpTexts
import WrapperGen.Proofs.SourceLines
import WrapperGen.Proofs.MemberLines
import WrapperGen.Proofs.Emitting
import WrapperGen.Proofs.Atomicity
import WrapperGen.Proofs.Causes
import WrapperGen.Proofs.StoredRecords
import WrapperGen.Proofs.StaleRecords
import WrapperGen.Proofs.Worklist
import WrapperGen.Proofs.Conservation
import WrapperGen.Proofs.RunVerdict
import WrapperGen.Proofs.MemberNames
import WrapperGen.Proofs.KeyChains
import WrapperGen.Proofs.DumpFaults
import WrapperGen.Proofs.BoundTypes
import WrapperGen.Proofs.ErasedPackages
import WrapperGen.Proofs.PinnedNames
import WrapperGen.Proofs.OutputNames
import WrapperGen.Proofs.Layout
import WrapperGen.Proofs.SettingTables
import WrapperGen.Proofs.SettingLayers
import WrapperGen.Proofs.LoadedSettings
import WrapperGen.Proofs.OfferedClasses
import WrapperGen.Proofs.SharedTrail
