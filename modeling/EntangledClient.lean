import EntangledClient.ExceptRules
import EntangledClient.CallTree
import EntangledClient.StateMachine
import EntangledClient.LowerHex
import EntangledClient.CoreTypes
import EntangledClient.SampleCore
import EntangledClient.TrustState
import EntangledClient.PublisherHistory
import EntangledClient.PublisherHistoryDiscipline
import EntangledClient.Pipeline
import EntangledClient.PipelinePrecedence
import EntangledClient.StoreSeams
import EntangledClient.StoreDto
import EntangledClient.StoreView
import EntangledClient.Disk
import EntangledClient.StoreProtection
import EntangledClient.FileStores
import EntangledClient.StoreRoot
import EntangledClient.PrefixCode
import EntangledClient.SampleLibs
import EntangledClient.FileStoreRefinement
import EntangledClient.Chrome
import EntangledClient.GuiLoad
import EntangledClient.GuiApp
import EntangledClient.SequentialSessions
import EntangledClient.TrustTrace
import EntangledClient.SampleSessions
import EntangledClient.AntiDowngrade
import EntangledClient.InterleavedSessions
import EntangledClient.RetainedKeyInterleaving
import EntangledClient.HistoryFloorInterleaving
import EntangledClient.StoreModePermanence
import EntangledClient.StoreTampering
import EntangledClient.FaultySessions
import EntangledClient.PersistAtomicity
import EntangledClient.FlatBrackets
import EntangledClient.BidiIsolation
import EntangledClient.ImagePolicy
import EntangledClient.ImageSequences
import EntangledClient.StoreFailClosed
import EntangledClient.IdentityPrecheck
import EntangledClient.SnapshotLag
import EntangledClient.FailingWindow
import EntangledClient.TrustDisplay
import EntangledClient.WrongPassphrase
import EntangledClient.Threads
import EntangledClient.AppendInterleaving
import EntangledClient.RecordCalls
import EntangledClient.SessionRecords
import EntangledClient.RecordedOnce
import EntangledClient.StoreOpens
import EntangledClient.TwoModes
import EntangledClient.OpenedStores
import EntangledClient.InterruptedInit
import EntangledClient.FirstOpens
import EntangledClient.KeyAgreement
import EntangledClient.FaultyRuns
import EntangledClient.FilePath
import EntangledClient.Folder
import EntangledClient.AtomicWrites
import EntangledClient.AllOrNothing
import EntangledClient.LayeredRuns
import EntangledClient.SystemCalls
import EntangledClient.StoreMethodFaults
import EntangledClient.SceneDrawing
import EntangledClient.WindowFrames
import EntangledClient.WindowRuns
import EntangledClient.SampleWindow
import EntangledClient.WindowReach
import EntangledClient.WindowChrome
import EntangledClient.WindowContent
import EntangledClient.WindowText
import EntangledClient.FaultyOpens
import EntangledClient.KeptRecords
import EntangledClient.CrashConsistency
import EntangledClient.SnapshotCalls
import EntangledClient.FileMethodSteps
import EntangledClient.SharedFiles
import EntangledClient.ClientSimulation
import EntangledClient.SharedClients
import EntangledClient.RelyGuarantee
import EntangledClient.WindowCalls
import EntangledClient.SeparateClients
import EntangledClient.EarnedTrust
import EntangledClient.TrustNotices
import EntangledClient.CommandLine
import EntangledClient.MainProgram
import EntangledClient.SilentRevisits
import EntangledClient.SealedMessages
import EntangledClient.RecordFormat
import EntangledClient.StoreConfinement
