import Atomwall.Admin.ConfigHandlers
import Atomwall.Admin.Server
import Atomwall.Base.Decimal
import Atomwall.History.EventLogs
import Mathlib.Data.List.Dedup

/-! The handlers that show the logs: `/api/login-history`, `/api/requests`, `/api/live-visitors` and the globe. -/

namespace Atomwall.Admin

open Http

/-- `std::from_chars` of a `std::size_t`. -/
def fromCharsSizeT (text : List Char) : Option Nat :=
  ((Decimal.scanNat text).map Prod.fst).filter fun n => decide (n < 18446744073709551616)

/-- The first parameter of the name counts, also where its value is no number. -/
def queryParamSizeT (target key : String) (fallback : Nat) : Nat :=
  match target.toList.dropWhile (· != '?') with
  | [] => fallback
  | _ :: query =>
    match (query.splitOn '&').find? fun pair => decide ('=' ∈ pair) && pair.takeWhile (· != '=') == key.toList with
    | none => fallback
    | some pair => (fromCharsSizeT (pair.dropWhile (· != '=')).tail).getD fallback

def kDefaultHistoryLimit : Nat := 200

/-- What the services hold that the handlers show: the two logs, the location of the server, as the bits of its
latitude and longitude, and whether the database of locations is loaded. -/
structure Histories where
  requestLog : RingLog RequestEvent := { capacity := 5000 }
  globeEvents : GlobeEventLog := GlobeEventLog.make
  serverLocation : Option (UInt64 × UInt64) := none
  geoipReady : Bool := false

section Views

variable (libs : Libraries)

def requestEventToJson (entry : Numbered RequestEvent) : Json :=
  .object [("seq", .uint64 entry.seq), ("timestamp", .string (libs.toIso8601 entry.event.timestamp)),
    ("client_ip", .string entry.event.clientIp), ("country", .string entry.event.country),
    ("isp", .string entry.event.isp), ("user_agent", .string entry.event.userAgent),
    ("method", .string entry.event.method), ("path", .string entry.event.path),
    ("domain", .string entry.event.domain), ("listener", .string entry.event.listener),
    ("blocked", .bool entry.event.blocked), ("block_reason", .string entry.event.blockReason),
    ("status_code", .int64 entry.event.statusCode), ("bytes_transferred", .uint64 entry.event.bytesTransferred)]

def requestEventsToJson (events : List (Numbered RequestEvent)) : Json :=
  .array (events.map (requestEventToJson libs))

def globeEventToJson (entry : Numbered GlobeArcEvent) : Json :=
  .object [("seq", .uint64 entry.seq), ("timestamp", .string (libs.toIso8601 entry.event.timestamp)),
    ("lat", .double entry.event.latBits), ("lon", .double entry.event.lonBits),
    ("blocked", .bool entry.event.blocked)]

def globeEventsToJson (events : List (Numbered GlobeArcEvent)) : Json :=
  .array (events.map (globeEventToJson libs))

def serverLocationToJson : Option (UInt64 × UInt64) → Json
  | none => .null
  | some (lat, lon) => .object [("lat", .double lat), ("lon", .double lon)]

def loginEventToJson (event : LoginEvent) : Json :=
  .object [("timestamp", .string (libs.toIso8601 event.timestamp)), ("username", .string event.username),
    ("client_ip", .string event.clientIp)]

def loginEventsToJson (events : List LoginEvent) : Json := .array (events.map (loginEventToJson libs))

variable (histories : Histories)

/-- `handle_snapshot` of the globe's own listener builds the same object. -/
def snapshotOf (target : String) : JsonObject :=
  [("events", globeEventsToJson libs (histories.globeEvents.recent (queryParamSizeT target "limit" kDefaultHistoryLimit))),
    ("server_location", serverLocationToJson histories.serverLocation),
    ("geoip_ready", .bool histories.geoipReady)]

def handleGlobeSnapshot (request : Request) : Response :=
  jsonResponse 200 (.object (snapshotOf libs histories request.target)) request.version

/-- The addresses in the newest 2000 events that are not older than five minutes. -/
def liveVisitors (now : Int) : List String :=
  (((histories.requestLog.recent 2000).filter fun entry =>
    decide (now - minutes 5 ≤ entry.event.timestamp)).map fun entry => entry.event.clientIp).dedup

def handleLiveVisitors (request : Request) (now : Int) : Response :=
  jsonResponse 200 (.object [("count", .uint64 (liveVisitors histories now).length)]) request.version

def handleRequests (request : Request) : Response :=
  jsonResponse 200 (requestEventsToJson libs
    (histories.requestLog.recent (queryParamSizeT request.target "limit" kDefaultHistoryLimit))) request.version

def handleLoginHistory (request : Request) : Handler Response := do
  let limit := queryParamSizeT request.target "limit" kDefaultHistoryLimit
  return jsonResponse 200 (loginEventsToJson libs (← act (.loginHistoryRecent limit))) request.version

/-- The routes that `handle_connection` and `route` leave to the logs; what the streams and the static files answer
is given. -/
def readers (served : Route → Request → Response) : OtherHandlers where
  run route request _ :=
    match route with
    | .loginHistory => routed fun _ => handleLoginHistory libs request
    | .requests => routed fun _ => return handleRequests libs histories request
    | .liveVisitors => routed fun _ => return handleLiveVisitors histories request (← systemClockNow)
    | .globeSnapshot => routed fun _ => return handleGlobeSnapshot libs histories request
    | route => return served route request
  frame route request user done := by
    cases route with
    | loginHistory => exact ⟨trivial, fun _ => ⟨trivial, fun _ => trivial⟩⟩
    | requests => exact ⟨trivial, fun _ => trivial⟩
    | liveVisitors => exact ⟨trivial, fun _ => ⟨trivial, fun _ => trivial⟩⟩
    | globeSnapshot => exact ⟨trivial, fun _ => trivial⟩
    | _ => trivial

end Views

end Atomwall.Admin
