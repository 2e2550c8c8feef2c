import AvbStreamHandler.AvbTypes
import AvbStreamHandler.Kit.Word
import AvbStreamHandler.Kit.Run
import AvbStreamHandler.Kit.Memory
import AvbStreamHandler.Kit.RingIndex
import AvbStreamHandler.Kit.Cycle
import AvbStreamHandler.Kit.Least
import AvbStreamHandler.Kit.Broadcast
import AvbStreamHandler.Audio.LocalAudioBuffer
import AvbStreamHandler.Audio.LocalAudioBufferProof
import AvbStreamHandler.Audio.LocalAudioBufferAccount
import AvbStreamHandler.Transmit.Sequencer
import AvbStreamHandler.Transmit.Ownership
import AvbStreamHandler.Transmit.OwnershipRuns
import AvbStreamHandler.Transmit.Engine
import AvbStreamHandler.Transmit.EngineAccount
import AvbStreamHandler.Transmit.EngineCalls
import AvbStreamHandler.Transmit.EngineRuns
import AvbStreamHandler.Video.RingBufferShm
import AvbStreamHandler.Video.RingLedger
import AvbStreamHandler.Video.RingBroadcast
import AvbStreamHandler.Video.RingConcurrent
import AvbStreamHandler.Kit.Bytes
import AvbStreamHandler.Receive.Validation
import AvbStreamHandler.Audio.AvbAudioStream
import AvbStreamHandler.Audio.AvbAudioStreamRuns
import AvbStreamHandler.Audio.AvbAudioPacket
import AvbStreamHandler.Audio.AvbAudioPacketBound
import AvbStreamHandler.Video.AvbVideoStream
import AvbStreamHandler.Transmit.AvbPacketPool
import AvbStreamHandler.Transmit.AvbPacketPoolRuns
import AvbStreamHandler.Kit.Slots
import AvbStreamHandler.Kit.RingQueue
import AvbStreamHandler.Video.LocalVideoBuffer
import AvbStreamHandler.Video.PacketRoom
import AvbStreamHandler.Video.MpegTsFlow
import AvbStreamHandler.Transmit.Reconciliation
import AvbStreamHandler.Audio.LocalAudioBufferControl
import AvbStreamHandler.Audio.LocalAudioStream
import AvbStreamHandler.Audio.ChannelAlignment
import AvbStreamHandler.Audio.ChannelAlignmentRuns
import AvbStreamHandler.Audio.DescriptorTiling
import AvbStreamHandler.Audio.DescriptorTilingRuns
import AvbStreamHandler.Kit.While
import AvbStreamHandler.Audio.AvbAudioTalker
import AvbStreamHandler.Audio.TransmitGeometry
import AvbStreamHandler.Audio.TransmitPayload
import AvbStreamHandler.Audio.TransmitGeometryRuns
import AvbStreamHandler.Kit.Registry
import AvbStreamHandler.Receive.ReceiveEngine
import AvbStreamHandler.Receive.FrameBounds
import AvbStreamHandler.Receive.StreamRegistry
import AvbStreamHandler.Receive.StreamRegistryRuns
import AvbStreamHandler.Kit.Greatest
import AvbStreamHandler.Transmit.ShaperCoupling
import AvbStreamHandler.Transmit.ShaperCouplingRuns
import AvbStreamHandler.Video.TransferPacket
import AvbStreamHandler.Video.LocalVideoOutStream
import AvbStreamHandler.Video.SlotBounds
import AvbStreamHandler.Video.VideoTalker
import AvbStreamHandler.Video.H264RoundTrip
import AvbStreamHandler.Kit.CycleOrder
import AvbStreamHandler.Transmit.LaunchSort
import AvbStreamHandler.Transmit.LaunchOrder
import AvbStreamHandler.Transmit.LaunchOrderRuns
import AvbStreamHandler.Transmit.StrictOrder
import AvbStreamHandler.Audio.AvbAudioShmProvider
import AvbStreamHandler.Audio.CaptureFreshness
import AvbStreamHandler.Video.AvbVideoSender
import AvbStreamHandler.Video.SendHonesty
import AvbStreamHandler.Video.VideoRingReaders
import AvbStreamHandler.Video.GrantedSlots
import AvbStreamHandler.Clock.ClockReferenceStream
import AvbStreamHandler.Clock.CrfGate
import AvbStreamHandler.Clock.ClockReferenceTalker
import AvbStreamHandler.Clock.CrfRoundTrip
import AvbStreamHandler.Clock.MediaClockRestart
import AvbStreamHandler.Clock.CrfAccount
import AvbStreamHandler.Watchdog.SystemdWatchdogManager
import AvbStreamHandler.Watchdog.Supervision
import AvbStreamHandler.Kit.Bins
import AvbStreamHandler.Alsa.AlsaEngine
import AvbStreamHandler.Alsa.AlsaRegistry
import AvbStreamHandler.Alsa.AlsaRegistryRuns
import AvbStreamHandler.Kit.Search
import AvbStreamHandler.Alsa.AlsaIndex
import AvbStreamHandler.Control.LocalStreams
import AvbStreamHandler.Control.LocalStreamIds
import AvbStreamHandler.Control.LocalStreamCalls
import AvbStreamHandler.Control.LocalStreamIdRuns
import AvbStreamHandler.Clock.ClockController
import AvbStreamHandler.Clock.ClockControllerSafety
import AvbStreamHandler.Audio.StreamLinks
import AvbStreamHandler.Audio.StreamLinkRuns
import AvbStreamHandler.Kit.Mutex
import AvbStreamHandler.Audio.StreamLock
import AvbStreamHandler.Audio.StreamLockRuns
import AvbStreamHandler.Transmit.Handshake
import AvbStreamHandler.Transmit.HandshakeRuns
import AvbStreamHandler.Control.HandlerEngines
import AvbStreamHandler.Control.StreamHandler
import AvbStreamHandler.Control.StreamHandlerCalls
import AvbStreamHandler.Control.StreamHandlerStart
import AvbStreamHandler.Control.StreamHandlerRuns
import AvbStreamHandler.Audio.AlsaHwDeviceHandler
import AvbStreamHandler.Clock.CrfSurvival
import AvbStreamHandler.Kit.Truncate
import AvbStreamHandler.Clock.LibPtpDaemon
import AvbStreamHandler.Clock.PtpRounds
import AvbStreamHandler.Clock.PtpEpochs
import AvbStreamHandler.Clock.PtpConversion
import AvbStreamHandler.Kit.Progress
import AvbStreamHandler.Transmit.FetchRounds
import AvbStreamHandler.Transmit.ServicePass
import AvbStreamHandler.Transmit.ServicePassRuns
import AvbStreamHandler.Audio.RxTimestamps
import AvbStreamHandler.Kit.RestingQueue
import AvbStreamHandler.Audio.LocalAudioBufferFifo
import AvbStreamHandler.Audio.BufferStatus
import AvbStreamHandler.Audio.DescriptorConsumption
import AvbStreamHandler.Kit.RunningSum
import AvbStreamHandler.Audio.FillLevelAverage
import AvbStreamHandler.Video.SourcePacketHeaders
import AvbStreamHandler.Video.SourcePacketRing
import AvbStreamHandler.Video.SourcePacketRuns
import AvbStreamHandler.Audio.CopyJobs
import AvbStreamHandler.Audio.CopyJobsAgree
import AvbStreamHandler.Video.RtpSequence
import AvbStreamHandler.Clock.AvbClockDomain
import AvbStreamHandler.Clock.ClockDomainLock
import AvbStreamHandler.Alsa.AlsaPeriods
import AvbStreamHandler.Kit.FixedPoint
import AvbStreamHandler.Audio.AlsaHandlerWorkerThread
import AvbStreamHandler.Audio.AsrcEstimate
import AvbStreamHandler.Clock.HwCaptureClock
import AvbStreamHandler.Alsa.AlsaPacing
import AvbStreamHandler.Alsa.AlsaPacingRuns
import AvbStreamHandler.Audio.UnderrunBalance
import AvbStreamHandler.Audio.UnderrunBalanceRuns
import AvbStreamHandler.Audio.ReadThreshold
import AvbStreamHandler.Audio.ReadThresholdRuns
import AvbStreamHandler.Kit.Changes
import AvbStreamHandler.Receive.StreamEvents
import AvbStreamHandler.Receive.StreamJournal
import AvbStreamHandler.Receive.StreamEventsRuns
import AvbStreamHandler.Audio.ReferencePlane
import AvbStreamHandler.Audio.ReferencePlaneRuns
import AvbStreamHandler.Kit.Threads
import AvbStreamHandler.Helper.Thread
import AvbStreamHandler.Helper.ThreadRuns
import AvbStreamHandler.Kit.Framing
import AvbStreamHandler.Socket.SocketIpc
import AvbStreamHandler.Socket.SocketIpcRuns
import AvbStreamHandler.Clock.PtpClockDomain
import AvbStreamHandler.Audio.PtpTalker
import AvbStreamHandler.Kit.Waiting
import AvbStreamHandler.Video.VideoCondVar
import AvbStreamHandler.Video.RingWaiting
import AvbStreamHandler.Video.RingWaitingRuns
import AvbStreamHandler.Kit.Overlay
import AvbStreamHandler.Kit.Numerals
import AvbStreamHandler.Kit.Past
import AvbStreamHandler.Config.ConfigRegistry
import AvbStreamHandler.Config.StreamTables
import AvbStreamHandler.Config.CommandLine
import AvbStreamHandler.Config.CommandLineRuns
import AvbStreamHandler.Config.ConfiguredStreams
import AvbStreamHandler.Config.ConfiguredNumbers
import AvbStreamHandler.Kit.Script
import AvbStreamHandler.Config.Setup
import AvbStreamHandler.Config.SetupRuns
import AvbStreamHandler.Control.HandlerStreams
import AvbStreamHandler.Config.HandlerSetup
