import Atomwall.Base.RingLog

/-! The events of the two logs, as they are handed to `record`, which numbers them. -/

namespace Atomwall

structure RequestEvent where
  timestamp : Int
  clientIp : String
  country : String
  isp : String
  userAgent : String
  method : String
  path : String
  domain : String
  listener : String
  blocked : Bool := false
  blockReason : String := ""
  bytesTransferred : Nat := 0
  statusCode : Nat := 0

structure GlobeArcEvent where
  timestamp : Int
  latBits : UInt64
  lonBits : UInt64
  blocked : Bool

/-- `GlobeEventLog` is the buffer and nothing else. -/
abbrev GlobeEventLog := RingLog GlobeArcEvent

namespace GlobeEventLog

def make (capacity : Nat := 500) : GlobeEventLog := { capacity }

def record (log : GlobeEventLog) (event : GlobeArcEvent) : GlobeEventLog := RingLog.record log event

def eventsSince (log : GlobeEventLog) (sinceSeq : Nat) (limit : Nat := 500) :
    List (Numbered GlobeArcEvent) :=
  RingLog.eventsSince log sinceSeq limit

def latestSeq (log : GlobeEventLog) : Nat := RingLog.latestSeq log

end GlobeEventLog

end Atomwall
