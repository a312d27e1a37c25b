import Atomwall.Listener.HttpSession

/-!
What the pipeline is for: a request gets the outcome of the first gate that is shut, and that outcome
says what is answered, scored, counted and logged.
-/

namespace Atomwall.Listener

open ByteString Http

/-- How a request is disposed of. -/
inductive Outcome where
  | emergencyOff
  | siteDisabled
  | banned
  | blocked (result : CheckResult)
  | robotsTxt
  | forwarded (upstream : UpstreamConfig)
  deriving DecidableEq

/-- The outcome of the first gate that applies. -/
def firstApplicable (otherwise : Outcome) : List (Bool × Outcome) → Outcome
  | [] => otherwise
  | (applies, outcome) :: rest => if applies then outcome else firstApplicable otherwise rest

section Decision

variable (text : AddressText) (config : RuntimeConfig) (c : Connection) (x : Exchange) (s : AppState)

def pathOf : String := before '?' x.request.target

def siteOf : ResolvedSite := resolveSite config (x.request.fields.value "Host")

def ispOf : String := (c.asnInfo.map AsnInfo.organization).getD ""

def rateOf : CheckResult × RequestRateTracker :=
  checkRequestRate text config.speedCheck s.rateTracker c.clientIp (pathOf x) x.request.fields
    x.readings.steady

def asksForRobotsTxt : Bool :=
  decide ((x.request.method = .get ∨ x.request.method = .head) ∧ pathOf x = "/robots.txt" ∧
    (config.blacklist.fakeRoutes ≠ [] ∨ config.robotsTxt.customContent ≠ ""))

/-- A gate that whitelisted requests do not see. -/
def guarded (applies : Bool) (outcome : Outcome) : Bool × Outcome :=
  (!isWhitelisted text config c x && applies, outcome)

def scored (result : CheckResult) : Bool × Outcome :=
  guarded text config c x result.blocked (.blocked result)

/-- The gates after the rate check. -/
def laterGates : List (Bool × Outcome) :=
  [scored text config c x (checkMethodAllowlist config.methodCheck x.request.methodString),
   scored text config c x (checkIpBlacklist text config.blacklist c.clientIp),
   scored text config c x (checkRouteBlacklist config.blacklist (pathOf x)),
   scored text config c x (checkFakeRoutes config.blacklist (pathOf x)),
   scored text config c x (checkIspBlacklist config.blacklist (ispOf c)),
   scored text config c x (checkUserAgentBlacklist config.blacklist x.request.fields),
   scored text config c x (checkReferrerBlacklist config.blacklist x.request.fields),
   (asksForRobotsTxt config x, .robotsTxt),
   scored text config c x (checkBodySize config.blacklist x.request.body.length),
   scored text config c x (checkBodyBlacklist config.blacklist x.request.body)]

/-- The gates in the order the documentation gives them. -/
def gates : List (Bool × Outcome) :=
  (config.emergencyOff.enabled, .emergencyOff) ::
  (!(siteOf config x).enabled, .siteDisabled) ::
  guarded text config c x (s.ipBlocks.isBlocked x.readings.gate c.clientIp) .banned ::
  scored text config c x (rateOf text config c x s).1 ::
  laterGates text config c x

def decision : Outcome :=
  firstApplicable (.forwarded (siteOf config x).upstream) (gates text config c x s)

namespace Outcome

def reachesRate : Outcome → Bool
  | .emergencyOff | .siteDisabled | .banned => false
  | _ => true

def blocks : Outcome → Bool
  | .emergencyOff | .siteDisabled | .banned | .blocked _ => true
  | _ => false

def reason : Outcome → String
  | .emergencyOff => "emergency off"
  | .siteDisabled => "site disabled"
  | .banned => "banned: temporarily blocked (manual or score threshold)"
  | .blocked result => result.checkName ++ ": " ++ result.reason
  | _ => ""

def received : Outcome → Nat
  | .blocked result =>
    if result.checkName = "body_size_limit" ∨ result.checkName = "body_blacklist" then
      x.request.body.length
    else 0
  | .forwarded _ => x.request.body.length
  | _ => 0

def blockedPage : Response :=
  makeHtmlResponse x.request.version (resolvePageHtml config.pages.blockedHtml kDefaultBlockedHtml)

def served : Outcome → Served
  | .emergencyOff => ⟨makeHtmlResponse x.request.version kEmergencyOffHtml 503, true, none⟩
  | .siteDisabled | .blocked _ => ⟨blockedPage config x, true, none⟩
  | .banned =>
    ⟨makeHtmlResponse x.request.version (resolvePageHtml config.pages.bannedHtml kDefaultBannedHtml),
      true, none⟩
  | .robotsTxt =>
    ⟨makeRobotsTxtResponse x.request.version
      (buildRobotsTxtBody config.robotsTxt.customContent config.blacklist.fakeRoutes) x.request.method,
      true, none⟩
  | .forwarded upstream => proxied text config c x upstream

def event (outcome : Outcome) : RequestEvent :=
  { requestEvent text c x with
    blocked := outcome.blocks
    blockReason := outcome.reason
    bytesTransferred :=
      outcome.received x + (outcome.served text config c x).response.body.length
    statusCode := (outcome.served text config c x).response.status }

/-- Points are awarded for the check that blocked, and for nothing else. -/
def award (outcome : Outcome) (trackers : ScoreTracker × IpBlockTracker) :
    ScoreTracker × IpBlockTracker :=
  match outcome with
  | .blocked result => awardScore text config x.readings c.clientIp result.checkName trackers
  | _ => trackers

end Outcome

end Decision

/-- The names under which the checks score. -/
def kScoredChecks : List String :=
  ["speed_check", "method_not_allowed", "ip_blacklist", "route_blacklist", "fake_route",
   "isp_blacklist", "user_agent_blacklist", "referrer_blacklist", "body_size_limit", "body_blacklist"]

variable {text : AddressText} {config : RuntimeConfig} {c : Connection} {x : Exchange} {s : AppState}

/-! ### The order of the gates -/

@[simp] theorem firstApplicable_nil {otherwise : Outcome} :
    firstApplicable otherwise [] = otherwise := rfl

@[simp] theorem firstApplicable_cons {otherwise outcome : Outcome} {applies : Bool}
    {rest : List (Bool × Outcome)} : firstApplicable otherwise ((applies, outcome) :: rest) =
      if applies then outcome else firstApplicable otherwise rest := rfl

theorem ite_orElse {α : Type} (free : Bool) (first second : CheckResult) (f : CheckResult → α)
    (otherwise : α) :
    (if free && (first.orElse second).blocked then f (first.orElse second) else otherwise) =
      if free && first.blocked then f first
      else if free && second.blocked then f second else otherwise := by
  unfold CheckResult.orElse
  cases free with
  | false => rfl
  | true =>
    cases blocks : first.blocked with
    | true => simp [blocks]
    | false => simp

def perform (text : AddressText) (config : RuntimeConfig) (c : Connection) (x : Exchange)
    (s : AppState) (outcome : Outcome) : Served × AppState :=
  let counted := { s with rateTracker := (rateOf text config c x s).2 }
  let event := requestEvent text c x
  match outcome with
  | .emergencyOff =>
    answerBlocked s c event outcome.reason (makeHtmlResponse x.request.version kEmergencyOffHtml 503) 0
  | .siteDisabled => answerBlocked s c event outcome.reason (Outcome.blockedPage config x) 0
  | .banned =>
    answerBlocked s c event outcome.reason
      (makeHtmlResponse x.request.version (resolvePageHtml config.pages.bannedHtml kDefaultBannedHtml)) 0
  | .blocked result => blockScored text config counted c x result (outcome.received x)
  | .robotsTxt =>
    answer counted c event (makeRobotsTxtResponse x.request.version
      (buildRobotsTxtBody config.robotsTxt.customContent config.blacklist.fakeRoutes)
      x.request.method) 0
  | .forwarded upstream => proxy text config counted c x upstream

theorem perform_blocked {result : CheckResult} {name : String} (named : result.Names name)
    (blocks : result.blocked = true) (header : name ≠ "body_size_limit" ∧ name ≠ "body_blacklist") :
    blockScored text config { s with rateTracker := (rateOf text config c x s).2 } c x result 0 =
      perform text config c x s (.blocked result) := by
  have received : (Outcome.blocked result).received x = 0 := by
    simp [Outcome.received, named blocks, header]
  unfold perform
  rw [received]

theorem perform_blockedBody {result : CheckResult} {name : String} (named : result.Names name)
    (blocks : result.blocked = true) (body : name = "body_size_limit" ∨ name = "body_blacklist") :
    blockScored text config { s with rateTracker := (rateOf text config c x s).2 } c x result
        x.request.body.length =
      perform text config c x s (.blocked result) := by
  have received : (Outcome.blocked result).received x = x.request.body.length := by
    simp [Outcome.received, named blocks, body]
  unfold perform
  rw [received]

theorem headerChecks_gates {α : Type} (free : Bool) (f : CheckResult → α) (otherwise : α)
    (path isp : String) (header : Fields) :
    (if free && (evaluateHeaderChecks text config.blacklist c.clientIp path header isp).blocked then
        f (evaluateHeaderChecks text config.blacklist c.clientIp path header isp) else otherwise) =
      if free && (checkIpBlacklist text config.blacklist c.clientIp).blocked then
        f (checkIpBlacklist text config.blacklist c.clientIp)
      else if free && (checkRouteBlacklist config.blacklist path).blocked then
        f (checkRouteBlacklist config.blacklist path)
      else if free && (checkFakeRoutes config.blacklist path).blocked then
        f (checkFakeRoutes config.blacklist path)
      else if free && (checkIspBlacklist config.blacklist isp).blocked then
        f (checkIspBlacklist config.blacklist isp)
      else if free && (checkUserAgentBlacklist config.blacklist header).blocked then
        f (checkUserAgentBlacklist config.blacklist header)
      else if free && (checkReferrerBlacklist config.blacklist header).blocked then
        f (checkReferrerBlacklist config.blacklist header)
      else otherwise := by
  unfold evaluateHeaderChecks checkCountryBlacklist
  simp only [ite_orElse _ _ _ f, CheckResult.blocked_allow, Bool.and_false, Bool.false_eq_true, if_false]

theorem bodyChecks_gates {α : Type} (free : Bool) (f : CheckResult → α) (otherwise : α) (body : String) :
    (if free && (evaluateBodyChecks config.blacklist body).blocked then
        f (evaluateBodyChecks config.blacklist body) else otherwise) =
      if free && (checkBodySize config.blacklist body.length).blocked then
        f (checkBodySize config.blacklist body.length)
      else if free && (checkBodyBlacklist config.blacklist body).blocked then
        f (checkBodyBlacklist config.blacklist body)
      else otherwise := by
  unfold evaluateBodyChecks
  simp only [ite_orElse _ _ _ f, CheckResult.blocked_allow, Bool.and_false, Bool.false_eq_true, if_false]

theorem blocked_of_shut {free blocks : Bool} (shut : (free && blocks) = true) : blocks = true :=
  (Bool.and_eq_true_iff.mp shut).2

/-- One pass of the loop carries out the decision. -/
theorem runHttpSession_eq :
    runHttpSession text config c x s = perform text config c x s (decision text config c x s) := by
  unfold runHttpSession decision gates laterGates
  simp only [guarded, scored, firstApplicable_cons, firstApplicable_nil,
    apply_ite (perform text config c x s)]
  refine ite_congr rfl (fun _ => rfl) fun _ => ?_
  refine ite_congr rfl (fun _ => rfl) fun _ => ?_
  refine ite_congr rfl (fun _ => rfl) fun _ => ?_
  refine ite_congr rfl
    (fun shut => perform_blocked checkRequestRate_eq.2.2 (blocked_of_shut shut) (by decide)) fun _ => ?_
  refine ite_congr rfl
    (fun shut => perform_blocked checkMethodAllowlist_names (blocked_of_shut shut) (by decide)) fun _ => ?_
  refine (headerChecks_gates _ (fun result => blockScored text config
    { s with rateTracker := (rateOf text config c x s).2 } c x result 0) _ _ _ _).trans ?_
  refine ite_congr rfl
    (fun shut => perform_blocked checkIpBlacklist_names (blocked_of_shut shut) (by decide)) fun _ => ?_
  refine ite_congr rfl
    (fun shut => perform_blocked checkEntries_names (blocked_of_shut shut) (by decide)) fun _ => ?_
  refine ite_congr rfl
    (fun shut => perform_blocked checkEntries_names (blocked_of_shut shut) (by decide)) fun _ => ?_
  refine ite_congr rfl
    (fun shut => perform_blocked checkIspBlacklist_names (blocked_of_shut shut) (by decide)) fun _ => ?_
  refine ite_congr rfl
    (fun shut => perform_blocked checkField_names (blocked_of_shut shut) (by decide)) fun _ => ?_
  refine ite_congr rfl
    (fun shut => perform_blocked checkField_names (blocked_of_shut shut) (by decide)) fun _ => ?_
  refine ite_congr (by simp only [asksForRobotsTxt, decide_eq_true_eq]; rfl) (fun _ => rfl) fun _ => ?_
  refine (bodyChecks_gates _ (fun result => blockScored text config
    { s with rateTracker := (rateOf text config c x s).2 } c x result x.request.body.length) _ _).trans ?_
  refine ite_congr rfl
    (fun shut => perform_blockedBody checkBodySize_names (blocked_of_shut shut) (by decide)) fun _ => ?_
  exact ite_congr rfl
    (fun shut => perform_blockedBody checkEntries_names (blocked_of_shut shut) (by decide)) fun _ => rfl

theorem firstApplicable_mem {otherwise outcome : Outcome} {gates : List (Bool × Outcome)}
    (h : firstApplicable otherwise gates = outcome) :
    outcome = otherwise ∨ (true, outcome) ∈ gates := by
  induction gates with
  | nil => exact Or.inl h.symm
  | cons gate rest ih =>
    obtain ⟨applies, first⟩ := gate
    rw [firstApplicable_cons] at h
    split at h
    · next shut =>
      subst h shut
      exact Or.inr List.mem_cons_self
    · rcases ih h with same | later
      · exact Or.inl same
      · exact Or.inr (List.mem_cons_of_mem _ later)

theorem scored_mem {result checked : CheckResult} {name : String} (named : checked.Names name)
    (listed : name ∈ kScoredChecks)
    (shut : (true, Outcome.blocked result) = scored text config c x checked) :
    isWhitelisted text config c x = false ∧ result.blocked = true ∧ result.checkName ∈ kScoredChecks := by
  injection shut with applies same
  injection same with same
  subst same
  simp only [Bool.true_eq, Bool.and_eq_true, Bool.not_eq_true'] at applies
  obtain ⟨free, blocks⟩ := applies
  rw [named blocks]
  exact ⟨free, blocks, listed⟩

/-- Only a check that scores blocks, and no check blocks a whitelisted request. -/
theorem decision_blocked {result : CheckResult}
    (h : decision text config c x s = .blocked result) :
    isWhitelisted text config c x = false ∧ result.blocked = true ∧ result.checkName ∈ kScoredChecks := by
  rcases firstApplicable_mem h with other | shut
  · cases other
  · simp only [gates, laterGates, List.mem_cons, List.not_mem_nil, or_false] at shut
    rcases shut with other | other | other | rate | method | ip | route | fake | isp | agent | referrer |
      other | size | body
    · cases congrArg Prod.snd other
    · cases congrArg Prod.snd other
    · cases congrArg Prod.snd other
    · exact scored_mem checkRequestRate_eq.2.2 (by decide) rate
    · exact scored_mem checkMethodAllowlist_names (by decide) method
    · exact scored_mem checkIpBlacklist_names (by decide) ip
    · exact scored_mem checkEntries_names (by decide) route
    · exact scored_mem checkEntries_names (by decide) fake
    · exact scored_mem checkIspBlacklist_names (by decide) isp
    · exact scored_mem checkField_names (by decide) agent
    · exact scored_mem checkField_names (by decide) referrer
    · cases congrArg Prod.snd other
    · exact scored_mem checkBodySize_names (by decide) size
    · exact scored_mem checkEntries_names (by decide) body

theorem decision_banned (h : decision text config c x s = .banned) :
    isWhitelisted text config c x = false := by
  rcases firstApplicable_mem h with other | shut
  · cases other
  · simp only [gates, laterGates, guarded, scored, List.mem_cons, List.not_mem_nil, or_false, Prod.mk.injEq,
      reduceCtorEq, and_false, false_or, and_true, Bool.true_eq, Bool.and_eq_true,
      Bool.not_eq_true'] at shut
    exact shut.1

section Perform

variable {outcome : Outcome}

theorem perform_served : (perform text config c x s outcome).1 = outcome.served text config c x := by
  cases outcome <;> rfl

theorem perform_trackers :
    ((perform text config c x s outcome).2.scores, (perform text config c x s outcome).2.ipBlocks) =
      outcome.award text config c x (s.scores, s.ipBlocks) := by
  cases outcome <;> rfl

theorem perform_rateTracker : (perform text config c x s outcome).2.rateTracker =
    if outcome.reachesRate then (rateOf text config c x s).2 else s.rateTracker := by
  cases outcome <;> rfl

theorem perform_requestLog : (perform text config c x s outcome).2.requestLog =
    s.requestLog ++ [outcome.event text config c x] := by
  cases outcome with
  | blocked result => rfl
  | _ => simp [perform, answerBlocked, answer, proxy, recordEvents, Outcome.event, Outcome.received,
      Outcome.served, Outcome.blocks, Outcome.reason, requestEvent]

theorem perform_globeEvents : (perform text config c x s outcome).2.globeEvents =
    s.globeEvents ++ (c.geo.map fun geo =>
      ⟨x.readings.logged, geo.latBits, geo.lonBits, outcome.blocks⟩).toList := by
  cases outcome <;> rfl

end Perform

/-! ### What a request gets, and what it leaves -/

theorem request_served : (runHttpSession text config c x s).1 = (decision text config c x s).served text config c x := by
  rw [runHttpSession_eq, perform_served]

theorem request_trackers :
    ((runHttpSession text config c x s).2.scores, (runHttpSession text config c x s).2.ipBlocks) =
      (decision text config c x s).award text config c x (s.scores, s.ipBlocks) := by
  rw [runHttpSession_eq, perform_trackers]

theorem request_rateTracker : (runHttpSession text config c x s).2.rateTracker =
    if (decision text config c x s).reachesRate && (config.speedCheck.enabled &&
        isNavigationRequest x.request.fields (pathOf x)) then
      (s.rateTracker.record (text c.clientIp) x.readings.steady (seconds config.speedCheck.windowSeconds)).2
    else s.rateTracker := by
  rw [runHttpSession_eq, perform_rateTracker]
  cases (decision text config c x s).reachesRate with
  | false => rfl
  | true => exact checkRequestRate_eq.1

theorem request_logged : (runHttpSession text config c x s).2.requestLog =
    s.requestLog ++ [(decision text config c x s).event text config c x] := by
  rw [runHttpSession_eq, perform_requestLog]

theorem request_globe : (runHttpSession text config c x s).2.globeEvents =
    s.globeEvents ++ (c.geo.map fun geo =>
      ⟨x.readings.logged, geo.latBits, geo.lonBits, (decision text config c x s).blocks⟩).toList := by
  rw [runHttpSession_eq, perform_globeEvents]

theorem decision_whitelisted (listed : isWhitelisted text config c x = true) :
    decision text config c x s ≠ .banned ∧ ∀ result, decision text config c x s ≠ .blocked result := by
  refine ⟨fun banned => ?_, fun result blocks => ?_⟩
  · rw [decision_banned banned] at listed
    cases listed
  · rw [(decision_blocked blocks).1] at listed
    cases listed

/-- For every configuration, state and request: the answer is that of the first gate that is shut,
points are awarded once for the check that blocked and for nothing else, the rate tracker is given each
navigation that reaches it, and one event is logged. -/
theorem request_decided (text : AddressText) (config : RuntimeConfig) (c : Connection) (x : Exchange)
    (s : AppState) :
    let outcome := decision text config c x s
    let run := runHttpSession text config c x s
    run.1 = outcome.served text config c x ∧
    (run.2.scores, run.2.ipBlocks) = outcome.award text config c x (s.scores, s.ipBlocks) ∧
    run.2.rateTracker = (if outcome.reachesRate && (config.speedCheck.enabled &&
        isNavigationRequest x.request.fields (pathOf x)) then
      (s.rateTracker.record (text c.clientIp) x.readings.steady
        (seconds config.speedCheck.windowSeconds)).2 else s.rateTracker) ∧
    run.2.requestLog = s.requestLog ++ [outcome.event text config c x] ∧
    run.2.globeEvents = s.globeEvents ++ (c.geo.map fun geo =>
      ⟨x.readings.logged, geo.latBits, geo.lonBits, outcome.blocks⟩).toList ∧
    (∀ result, outcome = .blocked result →
      result.blocked = true ∧ result.checkName ∈ kScoredChecks) ∧
    (isWhitelisted text config c x = true →
      outcome ≠ .banned ∧ ∀ result, outcome ≠ .blocked result) := by
  intro outcome run
  have carried : run = perform text config c x s outcome := runHttpSession_eq
  rw [carried]
  refine ⟨perform_served, perform_trackers, ?_, perform_requestLog, perform_globeEvents, ?_, ?_⟩
  · rw [perform_rateTracker]
    cases outcome.reachesRate with
    | false => rfl
    | true => exact checkRequestRate_eq.1
  · intro result blocks
    exact (decision_blocked blocks).2
  · intro listed
    refine ⟨fun banned => ?_, fun result blocks => ?_⟩
    · rw [decision_banned banned] at listed
      cases listed
    · rw [(decision_blocked blocks).1] at listed
      cases listed

end Atomwall.Listener
