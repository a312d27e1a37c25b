import Atomwall.Admin.Server
import Atomwall.Base.Framing
import Atomwall.Globe.Server
import Atomwall.Listener.Delivery

/-!
The three connection loops: `run_http_session` and the two `handle_connection`. Each pass has a
`flat_buffer` of its own, so what a read brought of the next request goes with it.
-/

namespace Atomwall

/-- A request that has been read, with what `keep_alive()` says of it. -/
structure Parsed where
  request : Http.Request
  keepAlive : Bool

/-- `http::request_parser<http::string_body>`; a header is a request whose body has not been read. -/
abbrev HttpParser := Framing.Parser UInt8 Http.Request Parsed

abbrev SentRequest := Framing.Sent UInt8 Http.Request Parsed

namespace Listener

open ByteString Http

variable (text : AddressText)

/-- What `run_http_session` does before it reads the body: an answer closes the connection. -/
def answerHeader (config : RuntimeConfig) (c : Connection) (x : Exchange) (s : AppState) :
    Option Served × AppState :=
  let header := x.request.fields
  let version := x.request.version
  let path := before '?' x.request.target
  let isWhitelisted := isWhitelisted text config c x
  let event := requestEvent text c x
  let closing (answered : Served × AppState) : Option Served × AppState := (some answered.1, answered.2)
  if config.emergencyOff.enabled then
    closing (answerBlocked s c event "emergency off" (makeHtmlResponse version kEmergencyOffHtml 503) 0)
  else if !(resolveSite config (header.value "Host")).enabled then
    closing (answerBlocked s c event "site disabled"
      (makeHtmlResponse version (resolvePageHtml config.pages.blockedHtml kDefaultBlockedHtml)) 0)
  else if !isWhitelisted && s.ipBlocks.isBlocked x.readings.gate c.clientIp then
    closing (answerBlocked s c event "banned: temporarily blocked (manual or score threshold)"
      (makeHtmlResponse version (resolvePageHtml config.pages.bannedHtml kDefaultBannedHtml)) 0)
  else
    let rate := checkRequestRate text config.speedCheck s.rateTracker c.clientIp path header
      x.readings.steady
    let s := { s with rateTracker := rate.2 }
    let method := checkMethodAllowlist config.methodCheck x.request.methodString
    let headers := evaluateHeaderChecks text config.blacklist c.clientIp path header
      ((c.asnInfo.map AsnInfo.organization).getD "")
    if !isWhitelisted && rate.1.blocked then closing (blockScored text config s c x rate.1 0)
    else if !isWhitelisted && method.blocked then closing (blockScored text config s c x method 0)
    else if !isWhitelisted && headers.blocked then closing (blockScored text config s c x headers 0)
    else if (x.request.method = .get ∨ x.request.method = .head) ∧ path = "/robots.txt" ∧
        (config.blacklist.fakeRoutes ≠ [] ∨ config.robotsTxt.customContent ≠ "") then
      closing (answer s c event (makeRobotsTxtResponse version
        (buildRobotsTxtBody config.robotsTxt.customContent config.blacklist.fakeRoutes)
        x.request.method) 0)
    else (none, s)

/-- What it does once the body has been read. -/
def answerBody (config : RuntimeConfig) (c : Connection) (x : Exchange) (s : AppState) :
    Served × AppState :=
  let body := evaluateBodyChecks config.blacklist x.request.body
  if !isWhitelisted text config c x && body.blocked then
    blockScored text config s c x body x.request.body.length
  else proxy text config s c x (resolveSite config (x.request.fields.value "Host")).upstream

/-- The body is read where the header is not answered. -/
def answerRest (config : RuntimeConfig) (c : Connection) (x : Exchange) :
    Option Served × AppState → Served × AppState
  | (some served, s) => (served, s)
  | (none, s) => answerBody text config c x s

theorem runHttpSession_phases (config : RuntimeConfig) (c : Connection) (x : Exchange) (s : AppState) :
    runHttpSession text config c x s =
      answerRest text config c x (answerHeader text config c x s) := by
  unfold runHttpSession answerHeader
  dsimp only
  simp only [apply_ite (answerRest text config c x)]
  rfl

/-- What one pass of the loop finds. -/
structure Pass where
  config : RuntimeConfig
  readings : Readings
  origin : UpstreamConfig → Request → Option Response

def Pass.exchange (pass : Pass) (request : Request) (keepAlive : Bool) : Exchange where
  request := request
  keepAlive := keepAlive
  readings := pass.readings
  origin := pass.origin

/-- `run_http_session` in its `n`-th pass. Nothing is sent or recorded where `prepare_payload` throws;
the pages of the firewall itself have a status that it accepts. -/
def httpService (prepare : Response → Option Response) (c : Connection) (pass : Nat → Pass) :
    Framing.Service (Nat × AppState) Request Unit Parsed Served where
  onHeader := fun (n, s) header =>
    match answerHeader text (pass n).config c ((pass n).exchange header true) s with
    | (some served, s) => (.inl served, (n + 1, s))
    | (none, s) => (.inr (), (n, s))
  onMessage := fun (n, s) _ parsed =>
    let served := answerBody text (pass n).config c ((pass n).exchange parsed.request parsed.keepAlive) s
    match prepare served.1.response with
    | some response => (some ({ served.1 with response }, served.1.closes), (n + 1, served.2))
    | none => (none, (n + 1, s))

def httpConnection (p : HttpParser) (prepare : Response → Option Response) (c : Connection)
    (pass : Nat → Pass) (s : AppState) (reads : List (List UInt8)) :
    Framing.Session UInt8 (Nat × AppState) Request Parsed Served :=
  Framing.connection p (httpService text prepare c pass) (0, s) reads

end Listener

/-- What a server of pages and event streams answers: a response, or events until the client goes. -/
inductive Answer (ρ : Type) where
  | response (res : ρ)
  | stream

namespace Admin

open Http

variable (libs : Libraries) (others : OtherHandlers)

/-- `handle_connection` in its `n`-th pass: the gate goes by the header alone, and a rejection closes
the connection. What a handler throws closes it too. -/
def adminService (clientIp : String) (moments : Nat → Nat → Moment) :
    Framing.Service (Nat × AppState) Request String Parsed (Answer Response) where
  onHeader := fun (n, s) header =>
    let session := (extractSessionToken header.fields).bind (s.sessions.validate (moments n 0))
    match gate session header.target with
    | .unauthorized =>
      (.inl (.response (errorResponse 401 "unauthorized" header.version)), (n + 1, s))
    | .mfaSetupRequired =>
      (.inl (.response (errorResponse 403 "mfa_setup_required" header.version)), (n + 1, s))
    | .pass actingUser => (.inr actingUser, (n, s))
  onMessage := fun (n, s) actingUser parsed =>
    let request := parsed.request
    match handlerFor request.method request.target with
    | .requestsStream | .globeStream => (some (.stream, true), (n + 1, s))
    | route =>
      let ran := (runRoute libs others request actingUser clientIp route).exec (perform libs) []
        (fun call => moments n (call + 1)) s
      match ran.result with
      | .ok res => (some (.response res, !parsed.keepAlive), (n + 1, ran.store))
      | .error _ => (none, (n + 1, ran.store))

def adminConnection (p : HttpParser) (clientIp : String) (moments : Nat → Nat → Moment) (s : AppState)
    (reads : List (List UInt8)) :
    Framing.Session UInt8 (Nat × AppState) Request Parsed (Answer Response) :=
  Framing.connection p (adminService libs others clientIp moments) (0, s) reads

end Admin

namespace Globe

open Http

/-- `handle_connection` of the globe in its `n`-th pass. It reads header and body in one call. -/
def globeService (sources : Nat → Sources) :
    Framing.Service Nat Request Unit Parsed (Answer Response) where
  onHeader := fun n _ => (.inr (), n)
  onMessage := fun n _ parsed =>
    if parsed.request.method = .get ∧ parsed.request.target = kStreamTarget then
      (some (.stream, true), n + 1)
    else (some (.response (route (sources n) parsed.request), !parsed.keepAlive), n + 1)

def globeConnection (p : HttpParser) (sources : Nat → Sources) (reads : List (List UInt8)) :
    Framing.Session UInt8 Nat Request Parsed (Answer Response) :=
  Framing.connection p (globeService sources) 0 reads

end Globe

variable {p : HttpParser} {sent : List SentRequest} {reads : List (List UInt8)}

/-- However a stream of requests is cut into reads: each of the three loops parses and answers them all
and loses no byte between two of them exactly when none of its answers but the last closes the
connection and every request but the last ends where a read ends. -/
theorem connections_serve_iff (frames : ∀ m ∈ sent, p.Frames m)
    (split : reads.flatten = Framing.wires sent) :
    (∀ text prepare c pass s, (Listener.httpConnection text p prepare c pass s reads).Serves sent ↔
      (Listener.httpService text prepare c pass).staysOpen (0, s) sent = true ∧
        Framing.EndsWithReads sent reads) ∧
    (∀ libs others clientIp moments s,
      (Admin.adminConnection libs others p clientIp moments s reads).Serves sent ↔
      (Admin.adminService libs others clientIp moments).staysOpen (0, s) sent = true ∧
        Framing.EndsWithReads sent reads) ∧
    ∀ sources, (Globe.globeConnection p sources reads).Serves sent ↔
      (Globe.globeService sources).staysOpen 0 sent = true ∧ Framing.EndsWithReads sent reads :=
  ⟨fun _ _ _ _ _ => Framing.serves_iff frames split,
    fun _ _ _ _ _ => Framing.serves_iff frames split,
    fun _ => Framing.serves_iff frames split⟩

/-! ### Two requests -/

def sampleHeader : Http.Request where
  methodString := "GET"
  target := "/"
  fields := [("Host", "localhost")]

def sampleHead : List UInt8 := ByteString.bytes "GET / HTTP/1.1\r\nHost: localhost\r\n\r\n"

/-- A parser that knows one request. -/
def sampleParser : HttpParser where
  header buffer :=
    if sampleHead.isPrefixOf buffer then some (sampleHeader, buffer.drop sampleHead.length) else none
  body header buffer := some (⟨header, true⟩, buffer)
  header_nil := by decide

def sampleSent : SentRequest where
  header := sampleHeader
  message := ⟨sampleHeader, true⟩
  head := sampleHead
  body := []

theorem sampleParser_frames : ∀ m ∈ [sampleSent, sampleSent], sampleParser.Frames m := by
  have frames : sampleParser.Frames sampleSent := by
    refine ⟨⟨fun rest => ?_, fun part short proper => ?_⟩, ⟨fun rest => rfl, fun part short proper => ?_⟩⟩
    · show (if sampleHead.isPrefixOf (sampleHead ++ rest) then
        some (sampleHeader, (sampleHead ++ rest).drop sampleHead.length) else none) = some (sampleHeader, rest)
      rw [if_pos (List.isPrefixOf_iff_prefix.mpr (List.prefix_append _ _)), List.drop_left]
    · refine if_neg fun whole => proper ?_
      exact short.eq_of_length_le (List.isPrefixOf_iff_prefix.mp whole).length_le
    · exact absurd (List.prefix_nil.mp short) proper
  intro m member
  have same : m = sampleSent := by simpa using member
  rwa [same]

def samplePass : Listener.Pass where
  config := {}
  readings := ⟨0, 0, 0, 0, 0⟩
  origin _ _ := some ⟨200, 11, [("Content-Type", "text/plain")], "ok", true⟩

theorem sample_stays_open : (Listener.httpService (fun _ => "0.0.0.0") Listener.samplePrepare
    Listener.sampleClient fun _ => samplePass).staysOpen (0, {}) [sampleSent, sampleSent] = true := by
  decide +kernel

/-- Two requests, each in a read of its own. -/
theorem two_reads_two_answers :
    (Listener.httpConnection (fun _ => "0.0.0.0") sampleParser Listener.samplePrepare
      Listener.sampleClient (fun _ => samplePass) {} [sampleHead, sampleHead]).Serves
      [sampleSent, sampleSent] :=
  ((connections_serve_iff sampleParser_frames rfl).1 _ _ _ _ _).mpr
    ⟨sample_stays_open, Framing.endsWithReads_map [sampleSent, sampleSent]⟩

/-- Two requests in one read: the second one is lost, although the first answer leaves the connection
open. -/
theorem second_request_lost :
    ¬ ∀ (p : HttpParser) (sent : List SentRequest) (reads : List (List UInt8)) (text : AddressText)
        (prepare : Listener.Response → Option Listener.Response) (c : Listener.Connection)
        (pass : Nat → Listener.Pass) (s : Listener.AppState),
        (∀ m ∈ sent, p.Frames m) → (∀ m ∈ sent, m.message.keepAlive = true) →
        (Listener.httpService text prepare c pass).staysOpen (0, s) sent = true →
        reads.flatten = Framing.wires sent →
        (Listener.httpConnection text p prepare c pass s reads).Serves sent := by
  intro claim
  have serves := claim sampleParser [sampleSent, sampleSent] [sampleHead ++ sampleHead]
    (fun _ => "0.0.0.0") Listener.samplePrepare Listener.sampleClient (fun _ => samplePass) {}
    sampleParser_frames (by decide) sample_stays_open (by decide)
  obtain ⟨_, ends⟩ := (Framing.serves_iff sampleParser_frames (by decide)).mp serves
  obtain ⟨before, after, cut, first⟩ := ends [sampleSent] [sampleSent] rfl (by simp)
  have size : sampleHead.length = 35 := by decide
  have short := congrArg List.length first
  cases before with
  | nil =>
    simp [Framing.wires, Framing.Sent.bytes, sampleSent, size] at short
  | cons read before =>
    obtain ⟨rfl, _⟩ := List.cons.inj cut
    simp [Framing.wires, Framing.Sent.bytes, sampleSent, size] at short

end Atomwall
