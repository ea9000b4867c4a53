import Velkir.CriticalSection
import Velkir.FailoverWindow
import Velkir.Stall
import Velkir.Bootstrap
import Velkir.RotationLoop
import Velkir.RolloutAnnounce
import Velkir.SentinelRejoin
import Velkir.SentinelPool
import Velkir.PushStreams
import Velkir.LabelMoves
import Velkir.QuorumHysteresis
import Velkir.ReconcileLock
import Velkir.Placeholder
import Velkir.ServingPass
import Velkir.Retention
import Velkir.BootstrapSeed
import Velkir.SurgeryElections
import Velkir.StartupReset
import Velkir.SpecEdits
import Velkir.WorkingSpec
import Velkir.ResizeData
import Velkir.EscapeVictim
import Velkir.GateRuns
import Velkir.PollTally
import Velkir.ODownOnset
import Velkir.ConfigLayers
import Velkir.DualMasterPaging
import Velkir.SplitBrainGauge
import Velkir.LogFields
import Velkir.ObserverPasswords
import Velkir.ImageReference
import Velkir.GhostDebounce
import Velkir.StrandedPacing
import Velkir.TopologyMismatch
import Velkir.TripleCheck
import Velkir.CABundle
import Velkir.RespScan
import Velkir.SelfHeal
