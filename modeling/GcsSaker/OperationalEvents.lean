import GcsSaker.TelemetryIngestRpc

/-!
# Operational events
-/

namespace GcsSaker.OperationalEvents

open TelemetryIngestRpc (GroupId)

structure OperationalEventReadModel where
  id : String
  occurredAt : ℤ
  severity : String
  category : String
  eventType : Option String := none
  sourceService : Option String := none
  source : String
  message : String
  connections : Int32
  latencyMs : Int64
  throughputMbps : Float
  groupId : GroupId
  streamId : Option String := none
  connectionId : Option String := none
  icePath : Option String := none
  relayFallbackReason : Option String := none
  traceId : Option String := none
  actorId : Option String := none
  operation : Option String := none
  result : Option String := none
  errorCode : Option String := none
  clockStatus : Option String := none
  previousHash : Option String := none
  eventHash : Option String := none
  receivedAt : Option ℤ := none
  timeSource : Option String := none
  clockDriftMs : Option Int64 := none
  clockMeasuredAt : Option ℤ := none
  deriving DecidableEq

end GcsSaker.OperationalEvents
