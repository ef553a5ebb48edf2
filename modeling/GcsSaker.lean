import GcsSaker.DeviceAdapterSafety
import GcsSaker.ControlAgreement
import GcsSaker.SequenceAgreement
import GcsSaker.MissionSafety
import GcsSaker.RenewalProtocol
import GcsSaker.SessionStoreEquivalence
import GcsSaker.SessionStoreFailures
import GcsSaker.StatisticsAgreement
import GcsSaker.TalkbackTokens
import GcsSaker.PartitionOrder
import GcsSaker.TelemetryOnce
import GcsSaker.TelemetrySink
import GcsSaker.TelemetryConservation
import GcsSaker.RedisBufferEquivalence
import GcsSaker.CameraControl
import GcsSaker.MediaMtxAuth
import GcsSaker.TelemetryContract
import GcsSaker.UserUpdateSafety
import GcsSaker.Proto3Conformance
import GcsSaker.TelemetryAgreement
import GcsSaker.BrowserSessionSafety
import GcsSaker.FanOutAccounting
import GcsSaker.RequestRateLimit
import GcsSaker.TimeoutDetection
import GcsSaker.RedisRespSafety
import GcsSaker.StreamAuthorizationCalls
import GcsSaker.AlertDelivery
import GcsSaker.RateLimitFilterSafety
import GcsSaker.RingVerdicts
import GcsSaker.AuthSessionSafety
import GcsSaker.StreamIdentity
import GcsSaker.ControlAcks
import GcsSaker.CreateSessionErrors
import GcsSaker.GeofenceRegions
import GcsSaker.TokenRedemption
import GcsSaker.DeviceLifecycleRuns
import GcsSaker.GroupInvalidationSafety
import GcsSaker.NtpTimestamps
import GcsSaker.AdminMfa
import GcsSaker.TelemetryPages
import GcsSaker.OperationalEventMetrics
import GcsSaker.AuditAnchorRecovery
import GcsSaker.OperationalReadCache
import GcsSaker.AuthUserCache
import GcsSaker.TelemetryBounds
import GcsSaker.LegacyClock
import GcsSaker.SlotPlacement
import GcsSaker.EventStreamText
import GcsSaker.OperationalEventHistory
import GcsSaker.PreferenceWriter
import GcsSaker.RealtimePlayback
import GcsSaker.AssetTree
import GcsSaker.DeadManControl
import GcsSaker.GroupAccess
