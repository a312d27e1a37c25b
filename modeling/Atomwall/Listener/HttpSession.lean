import Atomwall.Config.SiteLookup
import Atomwall.History.EventLogs
import Atomwall.History.IpBlockTracker
import Atomwall.History.ScoreTracker
import Atomwall.Pipeline.Checks
import Atomwall.Pipeline.RobotsTxt

/-!
`listener/http_session.hpp`: one request through the pipeline. The header and the body are read whole
and the response is written.
-/

namespace Atomwall.Listener

open ByteString Http

structure GeoLocation where
  latBits : UInt64
  lonBits : UInt64
  country : String

structure AsnInfo where
  asn : Nat
  organization : String

/-- The part of `AppState` that the pipeline uses; of the logs, what was handed to `record`. -/
structure AppState where
  ipBlocks : IpBlockTracker := {}
  scores : ScoreTracker := {}
  rateTracker : RequestRateTracker := {}
  requestLog : List RequestEvent := []
  globeEvents : List GlobeArcEvent := []

/-- `http::response<http::string_body>`; how it is framed is left to the writer. -/
structure Response where
  status : Nat
  version : Nat
  fields : Fields
  body : String
  keepAlive : Bool

/-- One client connection, with what the databases say of its address. -/
structure Connection where
  clientIp : Address
  geo : Option GeoLocation := none
  asnInfo : Option AsnInfo := none
  listenerLabel : String := "http"

/-- What the clocks show where the code reads them: `system_clock` for the event, in `is_blocked`, in
`award_score` and in `IpBlockTracker::add`, and `steady_clock` for the rate check. -/
structure Readings where
  logged : Int
  gate : Int
  ban : Int
  added : Int
  steady : Int

/-- One request of a connection. `origin` is what a server answers, none where it cannot be reached. -/
structure Exchange where
  request : Request
  keepAlive : Bool := true
  readings : Readings
  origin : UpstreamConfig → Request → Option Response

/-- What a request got: the response, whether the connection is closed after it, and the server the
request was forwarded to. -/
structure Served where
  response : Response
  closes : Bool := true
  forwarded : Option UpstreamConfig := none

def kDefaultBlockedHtml : String :=
  "<!doctype html><html><head><meta charset=\"utf-8\"><title>Blocked</title></head>" ++
  "<body style=\"font-family:sans-serif;text-align:center;padding:80px;background:#0f1115;" ++
  "color:#e6e9f0;\"><h1>403 &mdash; Blocked</h1>" ++
  "<p style=\"color:#8b93a7;\">Your request was blocked by this site's security rules.</p>" ++
  "</body></html>"

def kDefaultBannedHtml : String :=
  "<!doctype html><html><head><meta charset=\"utf-8\"><title>Banned</title></head>" ++
  "<body style=\"font-family:sans-serif;text-align:center;padding:80px;background:#0f1115;" ++
  "color:#e6e9f0;\"><h1>403 &mdash; Temporarily Banned</h1>" ++
  "<p style=\"color:#8b93a7;\">Your IP has been temporarily blocked due to repeated policy " ++
  "violations. Try again later.</p></body></html>"

def kEmergencyOffHtml : String := "<!doctype html><html><head></head><body></body></html>"

def kBadGatewayHtml : String :=
  "<!doctype html><html><head><meta charset=\"utf-8\"><title>Bad Gateway</title></head>" ++
  "<body style=\"font-family:sans-serif;text-align:center;padding:80px;background:#0f1115;" ++
  "color:#e6e9f0;\"><h1>502 &mdash; Bad Gateway</h1>" ++
  "<p style=\"color:#8b93a7;\">The origin server is unavailable. Try again shortly.</p>" ++
  "</body></html>"

def resolvePageHtml (configured fallback : String) : String :=
  if configured = "" then fallback else configured

def findStatusPageHtml (statusPages : List StatusPageEntry) (statusCode : Nat) : Option String :=
  (statusPages.find? fun entry => entry.code == (statusCode : Int)).map StatusPageEntry.html

def makeRobotsTxtResponse (version : Nat) (body : String) (method : Verb) : Response where
  status := 200
  version := version
  fields := [("Server", "atomwall"), ("Content-Type", "text/plain; charset=utf-8")]
  body := if method = .head then "" else body
  keepAlive := false

def makeHtmlResponse (version : Nat) (html : String) (status : Nat := 403) : Response where
  status := status
  version := version
  fields := [("Server", "atomwall"), ("Content-Type", "text/html; charset=utf-8")]
  body := html
  keepAlive := false

variable (text : AddressText)

/-- The points of the check for the address, and the block once they reach the threshold. -/
def awardScore (config : RuntimeConfig) (readings : Readings) (clientIp : Address) (checkName : String)
    (trackers : ScoreTracker × IpBlockTracker) : ScoreTracker × IpBlockTracker :=
  if !config.ban.enabled then trackers
  else
    match config.ban.scores.lookup checkName with
    | none => trackers
    | some points =>
      if points ≤ 0 then trackers
      else
        let scored := trackers.1.addPoints (text clientIp) points
        if config.ban.threshold ≤ scored.1 then
          let banHours := min config.ban.banDurationHours kMaxBanDurationHours
          let block : TemporaryIpBlock :=
            { text := text clientIp, address := clientIp, source := "score", scoreAtBlock := scored.1
              createdAt := readings.ban, expiresAt := readings.ban + hours banHours }
          (scored.2.reset (text clientIp), trackers.2.add readings.added block)
        else (scored.2, trackers.2)

def recordEvents (s : AppState) (geo : Option GeoLocation) (event : RequestEvent) : AppState :=
  { s with
    requestLog := s.requestLog ++ [event]
    globeEvents := s.globeEvents ++
      (geo.map fun geo => ⟨event.timestamp, geo.latBits, geo.lonBits, event.blocked⟩).toList }

/-- `forward_to_upstream` sends the request with two fields of its own. -/
def forwardToUpstream (x : Exchange) (upstream : UpstreamConfig) (clientIp clientScheme : String) :
    Option Response :=
  x.origin upstream { x.request with
    fields := (x.request.fields.set "X-Forwarded-For" clientIp).set "X-Forwarded-Proto" clientScheme }

def requestEvent (c : Connection) (x : Exchange) : RequestEvent where
  timestamp := x.readings.logged
  clientIp := text c.clientIp
  country := resolvePageHtml ((c.geo.map GeoLocation.country).getD "") "unknown"
  isp := resolvePageHtml ((c.asnInfo.map AsnInfo.organization).getD "") "unknown"
  userAgent := x.request.fields.value "User-Agent"
  method := x.request.methodString
  path := x.request.target
  domain := x.request.fields.value "Host"
  listener := c.listenerLabel

def answer (s : AppState) (c : Connection) (event : RequestEvent) (response : Response)
    (received : Nat) : Served × AppState :=
  (⟨response, true, none⟩,
    recordEvents s c.geo { event with
      bytesTransferred := received + response.body.length, statusCode := response.status })

def answerBlocked (s : AppState) (c : Connection) (event : RequestEvent) (reason : String)
    (response : Response) (received : Nat) : Served × AppState :=
  answer s c { event with blocked := true, blockReason := reason } response received

/-- The block of a check that scores. -/
def blockScored (config : RuntimeConfig) (s : AppState) (c : Connection) (x : Exchange)
    (result : CheckResult) (received : Nat) : Served × AppState :=
  let trackers := awardScore text config x.readings c.clientIp result.checkName (s.scores, s.ipBlocks)
  answerBlocked { s with scores := trackers.1, ipBlocks := trackers.2 } c (requestEvent text c x)
    (result.checkName ++ ": " ++ result.reason)
    (makeHtmlResponse x.request.version (resolvePageHtml config.pages.blockedHtml kDefaultBlockedHtml))
    received

def proxied (config : RuntimeConfig) (c : Connection) (x : Exchange) (upstream : UpstreamConfig) :
    Served :=
  match forwardToUpstream x upstream (text c.clientIp) c.listenerLabel with
  | none => ⟨makeHtmlResponse x.request.version kBadGatewayHtml 502, true, some upstream⟩
  | some origin =>
    let page :=
      match findStatusPageHtml config.pages.statusPages origin.status with
      | some html =>
        { origin with body := html, fields := origin.fields.set "Content-Type" "text/html; charset=utf-8" }
      | none => origin
    ⟨{ page with keepAlive := x.keepAlive }, !x.keepAlive, some upstream⟩

def proxy (config : RuntimeConfig) (s : AppState) (c : Connection) (x : Exchange)
    (upstream : UpstreamConfig) : Served × AppState :=
  let served := proxied text config c x upstream
  (served, recordEvents s c.geo { requestEvent text c x with
    bytesTransferred := x.request.body.length + served.response.body.length
    statusCode := served.response.status })

def isWhitelisted (config : RuntimeConfig) (c : Connection) (x : Exchange) : Bool :=
  isIpWhitelisted text config.whitelist c.clientIp ||
    isRouteWhitelisted config.whitelist (before '?' x.request.target)

/-- One pass of the loop of `run_http_session`. -/
def runHttpSession (config : RuntimeConfig) (c : Connection) (x : Exchange) (s : AppState) :
    Served × AppState :=
  let header := x.request.fields
  let version := x.request.version
  let path := before '?' x.request.target
  let isWhitelisted := isWhitelisted text config c x
  let event := requestEvent text c x
  let site := resolveSite config (header.value "Host")
  if config.emergencyOff.enabled then
    answerBlocked s c event "emergency off" (makeHtmlResponse version kEmergencyOffHtml 503) 0
  else if !site.enabled then
    answerBlocked s c event "site disabled"
      (makeHtmlResponse version (resolvePageHtml config.pages.blockedHtml kDefaultBlockedHtml)) 0
  else if !isWhitelisted && s.ipBlocks.isBlocked x.readings.gate c.clientIp then
    answerBlocked s c event "banned: temporarily blocked (manual or score threshold)"
      (makeHtmlResponse version (resolvePageHtml config.pages.bannedHtml kDefaultBannedHtml)) 0
  else
    let rate := checkRequestRate text config.speedCheck s.rateTracker c.clientIp path header
      x.readings.steady
    let s := { s with rateTracker := rate.2 }
    let method := checkMethodAllowlist config.methodCheck x.request.methodString
    let headers := evaluateHeaderChecks text config.blacklist c.clientIp path header
      ((c.asnInfo.map AsnInfo.organization).getD "")
    if !isWhitelisted && rate.1.blocked then blockScored text config s c x rate.1 0
    else if !isWhitelisted && method.blocked then blockScored text config s c x method 0
    else if !isWhitelisted && headers.blocked then blockScored text config s c x headers 0
    else if (x.request.method = .get ∨ x.request.method = .head) ∧ path = "/robots.txt" ∧
        (config.blacklist.fakeRoutes ≠ [] ∨ config.robotsTxt.customContent ≠ "") then
      answer s c event (makeRobotsTxtResponse version
        (buildRobotsTxtBody config.robotsTxt.customContent config.blacklist.fakeRoutes)
        x.request.method) 0
    else
      let body := evaluateBodyChecks config.blacklist x.request.body
      if !isWhitelisted && body.blocked then
        blockScored text config s c x body x.request.body.length
      else proxy text config s c x site.upstream

end Atomwall.Listener
