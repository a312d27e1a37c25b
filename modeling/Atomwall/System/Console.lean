import Atomwall.Admin.Provenance
import Atomwall.System.Firewall

/-!
The process with its accounts: requests reach the handlers of the admin API through the session gate only. What it
does to the configuration and the trackers is a run of the firewall, whose admin requests are those that the gate let
in.
-/

namespace Atomwall.System

open Admin

/-- A request to the admin API, when it comes, with what the clocks and the services show. What the streams and the
static files answer is given. -/
structure AdminRequest where
  arrival : Arrival
  env : Surroundings
  serverLocation : Option (UInt64 × UInt64) := none
  served : Route → Http.Request → Http.Response := fun _ request => Http.errorResponse 404 "not found" request.version

def AdminRequest.route (call : AdminRequest) : Route := handlerFor call.arrival.request.method call.arrival.request.target

/-- `historySize` is the capacity of the globe's log, as it was at the start. -/
structure Process where
  server : Server
  visitors : Listener.AppState := {}
  historySize : Nat := 500

inductive Input where
  | admin (call : AdminRequest)
  | visit (c : Listener.Connection) (x : Listener.Exchange)

namespace Process

/-- What the firewall sees of the process. -/
def state (p : Process) : State := ⟨p.server.app.config, p.visitors⟩

def histories (p : Process) (call : AdminRequest) : Histories where
  requestLog := RingLog.ofEvents 5000 p.visitors.requestLog
  globeEvents := RingLog.ofEvents p.historySize p.visitors.globeEvents
  serverLocation := call.serverLocation
  geoipReady := call.env.geoipLoaded

/-- The server once the request has made the calls `done` and left the state `app`. -/
def served (p : Process) (call : AdminRequest) (done : List Admin.Made) (app : AppState) : Server :=
  ⟨app, call.arrival.now, ⟨p.server.app, call.arrival, done⟩ :: p.server.log⟩

variable (libs : Libraries) (makeAddress : MakeAddress) (text : AddressText)

/-- The handler that the request reaches, where that is one of those for the configuration and the blocks. -/
def configCall (p : Process) (call : AdminRequest) : Option ConfigHandler :=
  match gateOf p.server.app call.arrival with
  | .pass user => configHandler libs makeAddress call.env call.arrival.request user call.route
  | _ => none

def handle (p : Process) (call : AdminRequest) : Except Fault Http.Response × Process :=
  match p.configCall libs makeAddress call with
  | some handler =>
    let (response, after) := handler ⟨p.server.app.config, p.visitors.ipBlocks⟩
    (response, { p with
      server := p.served call [] { p.server.app with config := after.config }
      visitors := { p.visitors with ipBlocks := after.ipBlocks } })
  | none =>
    let ran := serve libs (readers libs (p.histories call) call.served) p.server.app call.arrival
    (ran.result, { p with server := p.served call ran.done ran.store })

def step (p : Process) : Input → Option Process
  | .admin call => some (p.handle libs makeAddress call).2
  | .visit c x =>
    some { p with visitors := (Listener.runHttpSession text p.server.app.config c x p.visitors).2 }

end Process

variable {libs : Libraries} {makeAddress : MakeAddress} {text : AddressText} {p q next : Process} {call : AdminRequest}
  {input : Input} {handler : ConfigHandler} {env : Surroundings} {request : Http.Request} {user : String} {route : Route}

/-! ### What the gate lets through -/

theorem configHandler_open (isOpen : Open route) : configHandler libs makeAddress env request user route = none := by
  rcases isOpen with listed | rfl | rfl
  · simp only [publicAuthRoutes, List.mem_cons, List.not_mem_nil, or_false] at listed
    rcases listed with rfl | rfl | rfl | rfl | rfl | rfl | rfl | rfl | rfl <;> rfl
  · rfl
  · rfl

theorem configHandler_enrolment (listed : route ∈ enrolmentRoutes) :
    configHandler libs makeAddress env request user route = none := by
  simp only [enrolmentRoutes, List.mem_cons, List.not_mem_nil, or_false] at listed
  rcases listed with rfl | rfl | rfl | rfl | rfl | rfl <;> rfl

/-- What a session that is sent to enrol may ask for is none of the configuration. -/
theorem configHandler_allowed {target : String} {method : Http.Verb} (allowed : target ∈ mfaSetupAllowedRoutes) :
    configHandler libs makeAddress env request user (handlerFor method target) = none := by
  by_cases deletes : method = .delete ∧ (target = "/api/auth/2fa/webauthn/register/options" ∨
      target = "/api/auth/2fa/webauthn/register/verify")
  · obtain ⟨rfl, rfl | rfl⟩ := deletes
    · have own : handlerFor .delete "/api/auth/2fa/webauthn/register/options" = .webauthnDelete "register/options" := by
        decide +kernel
      rw [own]
      rfl
    · have own : handlerFor .delete "/api/auth/2fa/webauthn/register/verify" = .webauthnDelete "register/verify" := by
        decide +kernel
      rw [own]
      rfl
  · rcases (handlerFor_mfaSetupAllowed target allowed method (mem_verbs method)).mpr deletes with isOpen | enrols
    · exact configHandler_open isOpen
    · exact configHandler_enrolment enrols

/-- The request has the session of a user, and not one that is sent to enrol. -/
structure LetIn (p : Process) (call : AdminRequest) (user token : String) (session : Session) : Prop where
  accepts : Accepts p.server.app call.arrival user
  sent : extractSessionToken call.arrival.request.fields = some token
  held : p.server.app.sessions.lookup token = some session
  unexpired : call.arrival.now ≤ session.expiresAt
  owner : session.username = user
  enrolled : session.needsMfaSetup = false

/-- Only such a request reaches the configuration. -/
theorem configCall_letIn (reached : p.configCall libs makeAddress call = some handler) :
    ∃ user token session, LetIn p call user token session ∧
      configHandler libs makeAddress call.env call.arrival.request user call.route = some handler := by
  unfold Process.configCall at reached
  cases passed : gateOf p.server.app call.arrival with
  | unauthorized => simp [passed] at reached
  | mfaSetupRequired => simp [passed] at reached
  | pass user =>
    simp only [passed] at reached
    have auth : needsAuth call.arrival.request.target = true := by
      by_contra without
      rw [AdminRequest.route, configHandler_open (handlerFor_open (by simpa using without))] at reached
      cases reached
    obtain ⟨-, token, info, sent, valid, within⟩ := gateOf_accepts auth passed
    obtain ⟨session, held, unexpired, rfl⟩ := SessionStore.validate_eq_some.mp valid
    refine ⟨user, token, session, ⟨gateOf_accepts auth passed, sent, held, unexpired, gate_pass auth within, ?_⟩, reached⟩
    by_contra flagged
    rcases gate_flagged (by simpa using flagged) within with free | allowed
    · rw [auth] at free
      cases free
    · rw [AdminRequest.route, configHandler_allowed allowed] at reached
      cases reached

/-! ### The process and the firewall -/

theorem readers_spare {histories : Histories} {served : Route → Http.Request → Http.Response} :
    Spares ((readers libs histories served).run route request user) := by
  cases route with
  | loginHistory => exact ⟨id, fun _ => ⟨id, fun _ => trivial⟩⟩
  | requests => exact ⟨id, fun _ => trivial⟩
  | liveVisitors => exact ⟨id, fun _ => ⟨id, fun _ => trivial⟩⟩
  | globeSnapshot => exact ⟨id, fun _ => trivial⟩
  | _ => trivial

/-- What the request changes goes through one of those handlers. -/
theorem handle_kept (other : p.configCall libs makeAddress call = none) :
    (p.handle libs makeAddress call).2.state = p.state := by
  have config : (serve libs (readers libs (p.histories call) call.served) p.server.app call.arrival).store.config =
      p.server.app.config := by
    refine serve_keeps_config (fun route user => readers_spare) fun user passed policy => ?_
    unfold Process.configCall AdminRequest.route at other
    simp only [passed, policy] at other
    cases other
  unfold Process.handle
  simp only [other]
  exact congrArg (State.mk · p.visitors) config

/-- The firewall's event is the input, and where it is a request the gate has let it in. -/
inductive Follows (libs : Libraries) (makeAddress : MakeAddress) (p : Process) :
    Input → Event libs makeAddress → Prop where
  | admin {call : AdminRequest} {own : ConfigRequest libs makeAddress} {token : String} {session : Session}
      (request : own.request = call.arrival.request) (env : own.env = call.env)
      (letIn : LetIn p call own.actingUser token session) : Follows libs makeAddress p (.admin call) (.admin own)
  | visit (c : Listener.Connection) (x : Listener.Exchange) : Follows libs makeAddress p (.visit c x) (.visit c x)

theorem step_follows (yaml : Yaml.Library) (taken : p.step libs makeAddress text input = some next) :
    next.state = p.state ∨
      ∃ event, Follows libs makeAddress p input event ∧ step text yaml p.state event = some next.state := by
  cases input with
  | visit c x =>
    obtain rfl := Option.some.inj taken
    exact .inr ⟨.visit c x, .visit c x, rfl⟩
  | admin call =>
    obtain rfl := Option.some.inj taken
    cases reached : p.configCall libs makeAddress call with
    | none => exact .inl (handle_kept reached)
    | some handler =>
      obtain ⟨user, token, session, letIn, known⟩ := configCall_letIn reached
      let own : ConfigRequest libs makeAddress := ⟨call.arrival.request, user, call.env, handler, known⟩
      refine .inr ⟨.admin own, @Follows.admin libs makeAddress p call own token session rfl rfl letIn, ?_⟩
      unfold Process.handle
      simp only [reached]
      rfl

def rootSetsPolicy : AdminRequest where
  arrival := sampleRequest 60 0 "PUT" "/api/security-config" (sessionCookie 1) requireOn
  env := thresholdEnv

def rootEnters : AdminRequest := { arrival := rootSignsIn, env := thresholdEnv }

def startedProcess : Process := { server := sampleServer, visitors := unvisited }

def rootProcess : Process := (startedProcess.handle sampleLibraries IpBlockTracker.sampleMakeAddress rootEnters).2

def policyProcess : Process := (rootProcess.handle sampleLibraries IpBlockTracker.sampleMakeAddress rootSetsPolicy).2

theorem policyProcess_reached :
    Lts.run (Process.step sampleLibraries IpBlockTracker.sampleMakeAddress fun _ => "") startedProcess
      [.admin rootEnters, .admin rootSetsPolicy] = some policyProcess := rfl

/-- Whoever sends what to the admin API: of the configuration and the trackers every run of the process is a run of
the firewall, whose admin requests are those that the gate let in, in their order. -/
theorem process_refines_firewall (libs : Libraries) (makeAddress : MakeAddress) (text : AddressText) (yaml : Yaml.Library)
    (p q : Process) (inputs : List Input) (reached : Lts.run (Process.step libs makeAddress text) p inputs = some q) :
    ∃ events : List (Event libs makeAddress),
      Lts.Matched (Process.step libs makeAddress text) Process.state (Follows libs makeAddress) p inputs events ∧
        Lts.run (step text yaml) p.state events = some q.state :=
  Lts.run_matched (fun _ _ _ taken => step_follows yaml taken) reached

theorem root_seen_by_firewall : ∃ events : List (Event sampleLibraries IpBlockTracker.sampleMakeAddress),
    Lts.Matched (Process.step sampleLibraries IpBlockTracker.sampleMakeAddress fun _ => "") Process.state
        (Follows sampleLibraries IpBlockTracker.sampleMakeAddress) startedProcess
        [.admin rootEnters, .admin rootSetsPolicy] events ∧
      Lts.run (step (fun _ => "") guardYaml) startedProcess.state events = some policyProcess.state :=
  process_refines_firewall sampleLibraries IpBlockTracker.sampleMakeAddress (fun _ => "") guardYaml startedProcess
    policyProcess _ policyProcess_reached

/-! ### Who changes the configuration -/

theorem handle_traced (traced : SessionsTraced libs p.server) :
    SessionsTraced libs (p.handle libs makeAddress call).2.server := by
  unfold Process.handle
  cases reached : p.configCall libs makeAddress call with
  | none => exact traced.step serve_traced serve_logins
  | some handler =>
    refine traced.step traced_start ⟨?_, ?_, fun token e found => .inr found⟩
    · intro username token member
      cases member
    · intro username token member
      cases member

theorem step_traced (traced : SessionsTraced libs p.server) (taken : p.step libs makeAddress text input = some next) :
    SessionsTraced libs next.server := by
  cases input with
  | admin call =>
    obtain rfl := Option.some.inj taken
    exact handle_traced traced
  | visit c x =>
    obtain rfl := Option.some.inj taken
    exact traced

/-- No change without a login: a request that changes the configuration or the trackers carries a session that an
earlier request was given, not longer than twelve hours before, when it had shown the factors or the password of the
account, or had set up the first one; and nobody has logged out of it since. -/
theorem changes_have_logins (libs : Libraries) (makeAddress : MakeAddress) (text : AddressText) (p q : Process)
    (inputs : List Input) (call : AdminRequest) (fresh : p.server.app.sessions = ∅)
    (nonePending : p.server.app.pendingMfa = ∅)
    (reached : Lts.run (Process.step libs makeAddress text) p inputs = some q)
    (changed : (q.handle libs makeAddress call).2.state ≠ q.state) :
    ∃ user token session, LetIn q call user token session ∧
      SignedInBy libs q.server.log user token session.expiresAt := by
  have start : SessionsTraced libs p.server := by
    constructor
    · intro token session found
      rw [fresh] at found
      cases found
    · intro token e found
      rw [nonePending] at found
      cases found
  have traced : SessionsTraced libs q.server :=
    @Lts.run_invariant _ _ _ (fun _ _ => True) _ _ (fun now => SessionsTraced libs now.server) _
      (fun _ _ _ traced _ taken => step_traced traced taken) start (Lts.meets_of_forall (fun _ _ => trivial) _ _) reached
  cases config : q.configCall libs makeAddress call with
  | none => exact absurd (handle_kept config) changed
  | some handler =>
    obtain ⟨user, token, session, letIn, -⟩ := configCall_letIn config
    exact ⟨user, token, session, letIn, letIn.owner ▸ traced.sessions token session letIn.held⟩

/-- The account that set the policy had signed in. -/
theorem policy_set_after_login : ∃ user token session, LetIn rootProcess rootSetsPolicy user token session ∧
    SignedInBy sampleLibraries rootProcess.server.log user token session.expiresAt := by
  refine changes_have_logins sampleLibraries IpBlockTracker.sampleMakeAddress (fun _ => "") startedProcess rootProcess
    [.admin rootEnters] rootSetsPolicy rfl rfl rfl fun same => ?_
  have required := congrArg (fun seen : State => seen.config.security.require2fa) same
  revert required
  decide +kernel

/-! ### What the admins are shown -/

section Shown

variable (libs : Libraries) (makeAddress : MakeAddress) (text : AddressText)

/-- The events of the visits of a run, with the verdicts they got. -/
def visitEvents : Process → List Input → List RequestEvent
  | _, [] => []
  | p, .admin call :: rest => visitEvents (p.handle libs makeAddress call).2 rest
  | p, .visit c x :: rest =>
    (Listener.decision text p.server.app.config c x p.visitors).event text p.server.app.config c x ::
      visitEvents { p with visitors := (Listener.runHttpSession text p.server.app.config c x p.visitors).2 } rest

end Shown

theorem handle_requestLog : (p.handle libs makeAddress call).2.visitors.requestLog = p.visitors.requestLog := by
  unfold Process.handle
  cases p.configCall libs makeAddress call <;> rfl

theorem run_requestLog {inputs : List Input} (reached : Lts.run (Process.step libs makeAddress text) p inputs = some q) :
    q.visitors.requestLog = p.visitors.requestLog ++ visitEvents libs makeAddress text p inputs := by
  induction inputs generalizing p with
  | nil =>
    obtain rfl := Option.some.inj reached
    exact (List.append_nil _).symm
  | cons input rest ih =>
    obtain ⟨next, taken, tail⟩ := Lts.run_cons_some.mp reached
    rw [ih tail]
    cases input with
    | admin call =>
      obtain rfl := Option.some.inj taken
      rw [handle_requestLog, visitEvents]
    | visit c x =>
      obtain rfl := Option.some.inj taken
      show (Listener.runHttpSession text p.server.app.config c x p.visitors).2.requestLog ++ _ = _
      rw [Listener.request_logged, List.append_assoc, visitEvents]
      rfl

/-- The newest of the events, of those that are kept. -/
def newest (limit : Nat) (seen : List (Numbered RequestEvent)) : List (Numbered RequestEvent) :=
  seen.drop (seen.length - min limit 5000)

theorem recent_newest {events : List RequestEvent} (limit : Nat) :
    (RingLog.ofEvents 5000 events).recent limit = newest limit (RingLog.numbered events) := by
  have length : (RingLog.numbered events).length = events.length := by simp [RingLog.numbered]
  rw [RingLog.recent_ofEvents, newest, length]

/-- Nothing is hidden from the admins: whatever came before, `/api/requests` shows the newest requests of the visitors
with their verdicts, numbered from the start and in their order, and `/api/live-visitors` counts the addresses among
the newest 2000 of them that came in the last five minutes. -/
theorem visits_shown (libs : Libraries) (makeAddress : MakeAddress) (text : AddressText) (p q : Process)
    (inputs : List Input) (call : AdminRequest) (user : String) (fresh : p.visitors.requestLog = [])
    (reached : Lts.run (Process.step libs makeAddress text) p inputs = some q)
    (passed : gateOf q.server.app call.arrival = .pass user) :
    let seen := RingLog.numbered (visitEvents libs makeAddress text p inputs)
    (call.route = .requests → (q.handle libs makeAddress call).1 = .ok (Http.jsonResponse 200
      (requestEventsToJson libs (newest (queryParamSizeT call.arrival.request.target "limit" 200) seen))
        call.arrival.request.version)) ∧
    (call.route = .liveVisitors → (q.handle libs makeAddress call).1 = .ok (Http.jsonResponse 200 (.object
      [("count", .uint64 (((newest 2000 seen).filter fun entry =>
        decide (call.arrival.now - minutes 5 ≤ entry.event.timestamp)).map fun entry => entry.event.clientIp).dedup.length)])
        call.arrival.request.version)) := by
  intro seen
  have log : (q.histories call).requestLog = RingLog.ofEvents 5000 (visitEvents libs makeAddress text p inputs) := by
    show RingLog.ofEvents 5000 q.visitors.requestLog = _
    rw [run_requestLog reached, fresh, List.nil_append]
  have answer : q.configCall libs makeAddress call = none → (q.handle libs makeAddress call).1 =
      (serve libs (readers libs (q.histories call) call.served) q.server.app call.arrival).result := by
    intro other
    unfold Process.handle
    simp only [other]
  obtain ⟨made, moments, clock, gated⟩ :=
    @serve_gated libs (readers libs (q.histories call) call.served) q.server.app call.arrival
  rw [passed] at gated
  constructor
  · intro route
    have other : q.configCall libs makeAddress call = none := by
      simp only [Process.configCall, passed, route]
      rfl
    have shown : handlerFor call.arrival.request.method call.arrival.request.target = .requests := route
    rw [answer other, gated, behindGate, shown]
    show Except.ok (handleRequests libs (q.histories call) call.arrival.request) = _
    rw [handleRequests, log, recent_newest]
    rfl
  · intro route
    have other : q.configCall libs makeAddress call = none := by
      simp only [Process.configCall, passed, route]
      rfl
    have shown : handlerFor call.arrival.request.method call.arrival.request.target = .liveVisitors := route
    rw [answer other, gated, behindGate, shown]
    show Except.ok (handleLiveVisitors (q.histories call) call.arrival.request (moments 1).now) = _
    rw [handleLiveVisitors, liveVisitors, log, recent_newest, clock]

def rootAsksRequests : AdminRequest where
  arrival := sampleRequest 60 0 "GET" "/api/requests?limit=1" (sessionCookie 1) ""
  env := thresholdEnv

def visitedProcess : Process where
  server := rootProcess.server
  visitors := (Listener.runHttpSession (fun _ => "192.0.2.7") rootProcess.server.app.config visitor (visitOf "/")
    rootProcess.visitors).2

/-- The admin sees the visit. -/
theorem root_shown_visit :
    (visitedProcess.handle sampleLibraries IpBlockTracker.sampleMakeAddress rootAsksRequests).1 =
      .ok (Http.jsonResponse 200 (requestEventsToJson sampleLibraries
        (newest (queryParamSizeT "/api/requests?limit=1" "limit" 200) (RingLog.numbered
          (visitEvents sampleLibraries IpBlockTracker.sampleMakeAddress (fun _ => "192.0.2.7") startedProcess
            [.admin rootEnters, .visit visitor (visitOf "/")])))) 11) :=
  (visits_shown sampleLibraries IpBlockTracker.sampleMakeAddress (fun _ => "192.0.2.7") startedProcess visitedProcess
    [.admin rootEnters, .visit visitor (visitOf "/")] rootAsksRequests "root" rfl rfl (by decide +kernel)).1
    (by decide +kernel)

end Atomwall.System
