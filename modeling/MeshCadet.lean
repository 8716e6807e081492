import MeshCadet.Transition
import MeshCadet.Search
import MeshCadet.Bytes
import MeshCadet.ByteParser
import MeshCadet.BoundedList
import MeshCadet.RingBuffer
import MeshCadet.SlotTable
import MeshCadet.FlashCells
import MeshCadet.AckBits
import MeshCadet.AdminEdits
import MeshCadet.AdminHandling
import MeshCadet.AdminReceive
import MeshCadet.AdoptedClock
import MeshCadet.AirtimeBudget
import MeshCadet.BatteryWindows
import MeshCadet.Blocks
import MeshCadet.BoundedLoop
import MeshCadet.BubbleTags
import MeshCadet.BufferDecoders
import MeshCadet.BufferFills
import MeshCadet.ByteDecoders
import MeshCadet.ChannelFrames
import MeshCadet.ChannelMessages
import MeshCadet.ChannelTicks
import MeshCadet.ChannelUpserts
import MeshCadet.CheckedDecoders
import MeshCadet.CivilTime
import MeshCadet.ConfigBlob
import MeshCadet.ConfigCodec
import MeshCadet.ConfigOffsets
import MeshCadet.ConfigStore
import MeshCadet.ContactCollisions
import MeshCadet.ContactPolicy
import MeshCadet.ContactUris
import MeshCadet.ConversationIsolation
import MeshCadet.Conversations
import MeshCadet.Crypto
import MeshCadet.DecimalDigits
import MeshCadet.DedupIdentity
import MeshCadet.DedupRecency
import MeshCadet.DeliveryJournal
import MeshCadet.Dispatcher
import MeshCadet.DmAgreement
import MeshCadet.DmCodec
import MeshCadet.EvictionReports
import MeshCadet.ExactHistory
import MeshCadet.FailedPersists
import MeshCadet.FirstBoot
import MeshCadet.FixedWidth
import MeshCadet.FloodFrames
import MeshCadet.FloodLayouts
import MeshCadet.FrameIntegrity
import MeshCadet.Frames
import MeshCadet.GpsDriver
import MeshCadet.GpsPicture
import MeshCadet.GpsReprobes
import MeshCadet.GpsRuns
import MeshCadet.GpsWindows
import MeshCadet.Gregorian
import MeshCadet.HeldPeak
import MeshCadet.HistoryEntry
import MeshCadet.HistoryRegion
import MeshCadet.HistoryStore
import MeshCadet.HostCommands
import MeshCadet.HostFrames
import MeshCadet.HostSession
import MeshCadet.Hysteresis
import MeshCadet.InboundDms
import MeshCadet.JavaScriptValues
import MeshCadet.KeepAliveStall
import MeshCadet.LearnedRoutes
import MeshCadet.LegacyMigration
import MeshCadet.LevelTriggeredWait
import MeshCadet.LineCollector
import MeshCadet.LostAcks
import MeshCadet.MentionAgreement
import MeshCadet.MentionRoundTrip
import MeshCadet.MentionScan
import MeshCadet.MentionSplits
import MeshCadet.Mentions
import MeshCadet.MessageRecords
import MeshCadet.MigrationReplay
import MeshCadet.MigrationRuns
import MeshCadet.NmeaDetection
import MeshCadet.NmeaPositions
import MeshCadet.NmeaSentences
import MeshCadet.Notifications
import MeshCadet.Outcome
import MeshCadet.OutstandingSends
import MeshCadet.PinBackoff
import MeshCadet.PowerLoss
import MeshCadet.PrimaryTable
import MeshCadet.ProvisioningDecoders
import MeshCadet.ProvisioningEncoders
import MeshCadet.ProvisioningRoundTrips
import MeshCadet.QueryText
import MeshCadet.RegionAppends
import MeshCadet.RegionChain
import MeshCadet.RegionCuts
import MeshCadet.RegionDirectory
import MeshCadet.RegionHandOff
import MeshCadet.RegionLog
import MeshCadet.RegionRewrite
import MeshCadet.RepeatedSends
import MeshCadet.ReplayGuard
import MeshCadet.Resync
import MeshCadet.RoomCodec
import MeshCadet.RoomConvergence
import MeshCadet.RoomDispatch
import MeshCadet.RoomDrain
import MeshCadet.RoomDrips
import MeshCadet.RoomErasure
import MeshCadet.RoomFrameBounds
import MeshCadet.RoomFrames
import MeshCadet.RoomPairing
import MeshCadet.RoomPosting
import MeshCadet.RoomPosts
import MeshCadet.RoomPushes
import MeshCadet.RoomRedelivery
import MeshCadet.RoomServer
import MeshCadet.RoomServerRuns
import MeshCadet.RoomSession
import MeshCadet.RoomSessionStore
import MeshCadet.RoomSync
import MeshCadet.RoomSyncPhase
import MeshCadet.RoomTimestamps
import MeshCadet.RspPayloads
import MeshCadet.SectorSlots
import MeshCadet.SelfSync
import MeshCadet.SendAccounting
import MeshCadet.SendRouting
import MeshCadet.SerialLine
import MeshCadet.SettingsBlob
import MeshCadet.ShiftRegister
import MeshCadet.SignalMeter
import MeshCadet.SiteAnswers
import MeshCadet.SiteCodec
import MeshCadet.SiteCommands
import MeshCadet.SiteContactUris
import MeshCadet.SnapshotLink
import MeshCadet.SpanScan
import MeshCadet.SpareCopies
import MeshCadet.SuppressionCeiling
import MeshCadet.TelemetryLpp
import MeshCadet.TelemetryText
import MeshCadet.TextCuts
import MeshCadet.TornAppends
import MeshCadet.TouchDriver
import MeshCadet.TxDutyCycle
import MeshCadet.TxProgress
import MeshCadet.TxQueue
import MeshCadet.TxSlots
import MeshCadet.TxTurns
import MeshCadet.UiBlinks
import MeshCadet.UiDms
import MeshCadet.UiGestures
import MeshCadet.UiLights
import MeshCadet.UiLink
import MeshCadet.UiLockGate
import MeshCadet.UiLockRuns
import MeshCadet.UiMenu
import MeshCadet.UiNavigation
import MeshCadet.UiRuntime
import MeshCadet.UiScreens
import MeshCadet.Utf8Text
import MeshCadet.WaitScripts
import MeshCadet.WatermarkLog
