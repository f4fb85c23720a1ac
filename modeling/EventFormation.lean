import EventFormation.Main
import EventFormation.Notice
import EventFormation.Proofs.ExtentSpans
import EventFormation.Proofs.ClusterHits
import EventFormation.Proofs.ClusterRuns
import EventFormation.Proofs.PoolSlots
import EventFormation.Proofs.PoolOperations
import EventFormation.Proofs.PoolGrouping
import EventFormation.Proofs.PoolRuns
import EventFormation.Proofs.PoolLedger
import EventFormation.Proofs.LaneSweep
import EventFormation.Proofs.LaneShares
import EventFormation.Proofs.LaneCall
import EventFormation.Proofs.LaneStream
import EventFormation.Proofs.LaneHits
import EventFormation.Proofs.LaneRest
import EventFormation.Proofs.PoolLookups
import EventFormation.Proofs.LaneLookups
import EventFormation.Proofs.LaneOutput
import EventFormation.Proofs.OneLane
import EventFormation.Proofs.Components
import EventFormation.Proofs.LaneComponents
import EventFormation.Proofs.LaneBorders
import EventFormation.Proofs.LaneLedger
import EventFormation.Proofs.RingBins
import EventFormation.Proofs.RingRelease
import EventFormation.Proofs.RingRuns
import EventFormation.Proofs.RingLedger
import EventFormation.Proofs.RingReset
import EventFormation.Proofs.SortedReadouts
import EventFormation.Proofs.RingHistory
import EventFormation.Proofs.RingWindow
import EventFormation.Proofs.FineBins
import EventFormation.Proofs.LaneTurns
import EventFormation.Proofs.RouterFrames
import EventFormation.Proofs.RouterPulses
import EventFormation.Proofs.RouterRefusals
import EventFormation.Proofs.FrameQueue
import EventFormation.Proofs.FrameStream
import EventFormation.Proofs.RouterAnswers
import EventFormation.Proofs.EngineRelease
import EventFormation.Proofs.Schedule
import EventFormation.Proofs.EngineInStep
import EventFormation.Proofs.ScheduleOutcome
import EventFormation.Proofs.EngineRuns
import EventFormation.Proofs.EngineDue
import EventFormation.Proofs.EngineService
import EventFormation.Proofs.FineBinTimes
import EventFormation.Proofs.EngineFiling
import EventFormation.Proofs.EngineBacklog
import EventFormation.Proofs.EngineIdle
import EventFormation.Proofs.LaneClosing
import EventFormation.Proofs.EngineDrain
import EventFormation.Proofs.EnginePulses
import EventFormation.Proofs.EnginePassing
import EventFormation.Proofs.EngineConservation
import EventFormation.Proofs.EmittedProducts
import EventFormation.Proofs.EngineFrames
import EventFormation.Proofs.PackedRecords
import EventFormation.Proofs.PacketStream
import EventFormation.Proofs.PacketSequence
import EventFormation.Proofs.SessionSurplus
import EventFormation.Proofs.SessionFeeds
import EventFormation.Proofs.DumpFiles
import EventFormation.Proofs.DumpBatches
import EventFormation.Proofs.IntakeTraffic
import EventFormation.Proofs.RouterCounts
import EventFormation.Proofs.ReportLines
import EventFormation.Proofs.ReportReading
import EventFormation.Proofs.SessionDump
import EventFormation.Proofs.RejectedBuffers
import EventFormation.Proofs.PoolInsertion
import EventFormation.Proofs.PoolComponents
import EventFormation.Proofs.PoolSpans
import EventFormation.Proofs.ProximityWords
