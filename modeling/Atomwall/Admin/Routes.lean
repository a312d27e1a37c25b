import Atomwall.Auth.TokenStores

/-!
The session gate of `handle_connection` and the router behind it. The gate compares whole targets
and never looks at the method; the router tries its rules in the order of the source.
-/

namespace Atomwall.Admin

open Http ByteString

def kImportSuffix : String := "/import"
def kImportUrlSuffix : String := "/import-url"
def kClearSuffix : String := "/clear"
def kApiBlacklistPrefix : String := "/api/blacklist/"
def kApiUsersPrefix : String := "/api/users/"
def kApiWebauthnPrefix : String := "/api/auth/2fa/webauthn/"
def kApiSitesPrefix : String := "/api/sites/"
def kApiPagesStatusPrefix : String := "/api/pages/status/"
def kApiRequests : String := "/api/requests"

/-- The code a request can reach: the handlers, and the replies `route` makes itself. -/
inductive Route where
  | authStatus | authSetup | authLogin | authLogout
  | totpVerify | backupCodeVerify
  | twoFactorStatus | totpSetup | totpConfirm | totpDisable | backupCodesRegenerate
  | webauthnLoginOptions | webauthnLoginVerify | webauthn2faOptions | webauthn2faVerify
  | webauthnRegisterOptions | webauthnRegisterVerify | webauthnDelete (credentialId : String)
  | securityConfig | securityConfigUpdate
  | users | usersCreate | usersDelete (username : String)
  | loginHistory | config | blacklist
  | sites | sitesCreate | sitesUpdate (domain : String) | sitesDelete (domain : String)
  | ipBlocks | requests | liveVisitors
  | banConfig | banConfigUpdate | speedCheck | speedCheckUpdate | methodCheck | methodCheckUpdate
  | emergencyOff | emergencyOffUpdate | pages | pagesUpdate
  | statusPageAdd | statusPageUpdate (code : String) | statusPageDelete (code : String)
  | requestLogConfig | requestLogConfigUpdate | robotsTxt | robotsTxtUpdate | bodySizeLimitUpdate
  | geoipUpload | asnUpload | geoipConfig | geoipConfigUpdate | globeConfig | globeConfigUpdate
  | globeSnapshot
  | blacklistImport (category : String) | blacklistClear (category : String)
  | blacklistMutation (method : Verb) (category : String)
  | whitelistImport | whitelistClear | whitelistMutation (method : Verb)
  | whitelistRoutesImport | whitelistRoutesClear | whitelistRoutesMutation (method : Verb)
  | requestsStream | globeStream
  | blacklistImportUrl (category : String) | whitelistImportUrl | whitelistRoutesImportUrl
  | staticFile | methodNotAllowed
  deriving DecidableEq

inductive Pattern where
  | exact (path : String)
  | start (path : String)
  | around (path suffix : String)
  | pathOrQuery (path : String)

def Pattern.path : Pattern → String
  | .exact path | .start path | .around path _ | .pathOrQuery path => path

def Pattern.accepts (target : String) : Pattern → Bool
  | .exact path => target == path
  | .start path => startsWith target path
  | .around path suffix => startsWith target path && endsWith target suffix
  | .pathOrQuery path =>
    startsWith target path && (target.length == path.length ||
      target.toList.getD path.length ' ' == '?')

/-- What the rule hands to its handler. The count wraps where prefix and suffix overlap. -/
def Pattern.rest (target : String) : Pattern → String
  | .exact _ | .pathOrQuery _ => ""
  | .start path => dropFirst target path.length
  | .around path suffix =>
    takeFirst (dropFirst target path.length)
      ((target.length + 0x10000000000000000 - path.length - suffix.length) % 0x10000000000000000)

structure Rule where
  methods : List Verb
  pattern : Pattern
  handler : Verb → String → Route

def Rule.select (method : Verb) (target : String) (rule : Rule) : Option Route :=
  if method ∈ rule.methods ∧ rule.pattern.accepts target = true then
    some (rule.handler method (rule.pattern.rest target))
  else none

def exactly (method : Verb) (path : String) (route : Route) : Rule :=
  ⟨[method], .exact path, fun _ _ => route⟩

/-- What `handle_connection` tests before it calls `route`. -/
def connectionRules : List Rule :=
  [exactly .get "/api/requests/stream" .requestsStream,
   exactly .get "/api/globe/stream" .globeStream,
   ⟨[.post], .around kApiBlacklistPrefix kImportUrlSuffix, fun _ => .blacklistImportUrl⟩,
   exactly .post "/api/whitelist/import-url" .whitelistImportUrl,
   exactly .post "/api/whitelist/routes/import-url" .whitelistRoutesImportUrl]

def routeRules : List Rule :=
  [exactly .get "/api/auth/status" .authStatus,
   exactly .post "/api/auth/setup" .authSetup,
   exactly .post "/api/auth/login" .authLogin,
   exactly .post "/api/auth/logout" .authLogout,
   exactly .post "/api/auth/2fa/totp/verify" .totpVerify,
   exactly .post "/api/auth/2fa/backup-code/verify" .backupCodeVerify,
   exactly .get "/api/auth/2fa/status" .twoFactorStatus,
   exactly .post "/api/auth/2fa/totp/setup" .totpSetup,
   exactly .post "/api/auth/2fa/totp/confirm" .totpConfirm,
   exactly .post "/api/auth/2fa/totp/disable" .totpDisable,
   exactly .post "/api/auth/2fa/backup-codes/regenerate" .backupCodesRegenerate,
   exactly .get "/api/auth/webauthn/login/options" .webauthnLoginOptions,
   exactly .post "/api/auth/webauthn/login/verify" .webauthnLoginVerify,
   exactly .get "/api/auth/webauthn/2fa/options" .webauthn2faOptions,
   exactly .post "/api/auth/webauthn/2fa/verify" .webauthn2faVerify,
   exactly .post "/api/auth/2fa/webauthn/register/options" .webauthnRegisterOptions,
   exactly .post "/api/auth/2fa/webauthn/register/verify" .webauthnRegisterVerify,
   ⟨[.delete], .start kApiWebauthnPrefix, fun _ => .webauthnDelete⟩,
   exactly .get "/api/security-config" .securityConfig,
   exactly .put "/api/security-config" .securityConfigUpdate,
   exactly .get "/api/users" .users,
   exactly .post "/api/users" .usersCreate,
   ⟨[.delete], .start kApiUsersPrefix, fun _ => .usersDelete⟩,
   exactly .get "/api/login-history" .loginHistory,
   exactly .get "/api/config" .config,
   exactly .get "/api/blacklist" .blacklist,
   exactly .get "/api/sites" .sites,
   exactly .post "/api/sites" .sitesCreate,
   ⟨[.put], .start kApiSitesPrefix, fun _ => .sitesUpdate⟩,
   ⟨[.delete], .start kApiSitesPrefix, fun _ => .sitesDelete⟩,
   exactly .get "/api/ip-blocks" .ipBlocks,
   ⟨[.get], .pathOrQuery kApiRequests, fun _ _ => .requests⟩,
   exactly .get "/api/live-visitors" .liveVisitors,
   exactly .get "/api/ban-config" .banConfig,
   exactly .put "/api/ban-config" .banConfigUpdate,
   exactly .get "/api/speed-check" .speedCheck,
   exactly .put "/api/speed-check" .speedCheckUpdate,
   exactly .get "/api/method-check" .methodCheck,
   exactly .put "/api/method-check" .methodCheckUpdate,
   exactly .get "/api/emergency-off" .emergencyOff,
   exactly .put "/api/emergency-off" .emergencyOffUpdate,
   exactly .get "/api/pages" .pages,
   exactly .put "/api/pages" .pagesUpdate,
   exactly .post "/api/pages/status" .statusPageAdd,
   ⟨[.put], .start kApiPagesStatusPrefix, fun _ => .statusPageUpdate⟩,
   ⟨[.delete], .start kApiPagesStatusPrefix, fun _ => .statusPageDelete⟩,
   exactly .get "/api/request-log-config" .requestLogConfig,
   exactly .put "/api/request-log-config" .requestLogConfigUpdate,
   exactly .get "/api/robots-txt" .robotsTxt,
   exactly .put "/api/robots-txt" .robotsTxtUpdate,
   exactly .put "/api/body-size-limit" .bodySizeLimitUpdate,
   exactly .post "/api/geoip-upload" .geoipUpload,
   exactly .post "/api/asn-upload" .asnUpload,
   exactly .get "/api/geoip-config" .geoipConfig,
   exactly .put "/api/geoip-config" .geoipConfigUpdate,
   exactly .get "/api/globe-config" .globeConfig,
   exactly .put "/api/globe-config" .globeConfigUpdate,
   ⟨[.get], .start "/api/globe/snapshot", fun _ _ => .globeSnapshot⟩,
   ⟨[.post], .around kApiBlacklistPrefix kImportSuffix, fun _ => .blacklistImport⟩,
   ⟨[.delete], .around kApiBlacklistPrefix kClearSuffix, fun _ => .blacklistClear⟩,
   ⟨[.post, .delete], .start kApiBlacklistPrefix, .blacklistMutation⟩,
   exactly .post "/api/whitelist/import" .whitelistImport,
   exactly .delete "/api/whitelist/clear" .whitelistClear,
   ⟨[.post, .delete], .exact "/api/whitelist", fun method _ => .whitelistMutation method⟩,
   exactly .post "/api/whitelist/routes/import" .whitelistRoutesImport,
   exactly .delete "/api/whitelist/routes/clear" .whitelistRoutesClear,
   ⟨[.post, .delete], .exact "/api/whitelist/routes", fun method _ => .whitelistRoutesMutation method⟩]

def handlerFor (method : Verb) (target : String) : Route :=
  ((connectionRules ++ routeRules).findSome? (Rule.select method target)).getD
    (if method = .get then .staticFile else .methodNotAllowed)

/-! ### The gate -/

def publicApiRoutes : List String :=
  ["/api/auth/status", "/api/auth/setup", "/api/auth/login", "/api/auth/2fa/totp/verify",
   "/api/auth/2fa/backup-code/verify", "/api/auth/webauthn/login/options",
   "/api/auth/webauthn/login/verify", "/api/auth/webauthn/2fa/options",
   "/api/auth/webauthn/2fa/verify"]

def isPublicApiRoute (target : String) : Bool := publicApiRoutes.contains target

def mfaSetupAllowedRoutes : List String :=
  ["/api/auth/logout", "/api/auth/2fa/status", "/api/auth/2fa/totp/setup",
   "/api/auth/2fa/totp/confirm", "/api/auth/2fa/webauthn/register/options",
   "/api/auth/2fa/webauthn/register/verify"]

def isMfaSetupAllowedRoute (target : String) : Bool := mfaSetupAllowedRoutes.contains target

def needsAuth (target : String) : Bool := startsWith target "/api/" && !isPublicApiRoute target

inductive Gate where
  | unauthorized
  | mfaSetupRequired
  | pass (actingUser : String)
  deriving DecidableEq

/-- The gate, given what validating the session cookie returned. -/
def gate (session : Option SessionInfo) (target : String) : Gate :=
  if needsAuth target then
    match session with
    | none => .unauthorized
    | some s => if s.needsMfaSetup && !isMfaSetupAllowedRoute target then .mfaSetupRequired
                else .pass s.username
  else .pass ""

/-- The handler `handle_connection` runs for the request, unless the gate answers it. -/
def reached (session : Option SessionInfo) (method : Verb) (target : String) : Option Route :=
  match gate session target with
  | .pass _ => some (handlerFor method target)
  | _ => none

/-! ### What the gate lets through -/

def publicAuthRoutes : List Route :=
  [.authStatus, .authSetup, .authLogin, .totpVerify, .backupCodeVerify, .webauthnLoginOptions,
   .webauthnLoginVerify, .webauthn2faOptions, .webauthn2faVerify]

def enrolmentRoutes : List Route :=
  [.authLogout, .twoFactorStatus, .totpSetup, .totpConfirm, .webauthnRegisterOptions,
   .webauthnRegisterVerify]

/-- The nine public handlers, a static file, or the fixed 405 reply. -/
def Open (route : Route) : Prop :=
  route ∈ publicAuthRoutes ∨ route = .staticFile ∨ route = .methodNotAllowed

instance (route : Route) : Decidable (Open route) := by unfold Open; infer_instance

def verbs : List Verb := [.get, .head, .post, .put, .delete, .other]

theorem mem_verbs (method : Verb) : method ∈ verbs := by
  cases method <;> decide

theorem accepts_startsWith {target : String} {pattern : Pattern} (h : pattern.accepts target = true) :
    startsWith target pattern.path = true := by
  cases pattern with
  | exact path =>
    obtain rfl : target = path := eq_of_beq h
    exact startsWith_self _
  | start path => exact h
  | around path suffix => exact (Bool.and_eq_true_iff.mp h).1
  | pathOrQuery path => exact (Bool.and_eq_true_iff.mp h).1

/-- Every rule of the router is about a path under `/api/`. -/
theorem rules_under_api : ∀ rule ∈ connectionRules ++ routeRules,
    startsWith rule.pattern.path "/api/" = true := by
  unfold startsWith
  rw [toList_eq_stored]
  decide +kernel

theorem handlerFor_outside_api {method : Verb} {target : String}
    (outside : startsWith target "/api/" = false) : Open (handlerFor method target) := by
  have none_selects : (connectionRules ++ routeRules).findSome? (Rule.select method target) = none := by
    rw [List.findSome?_eq_none_iff]
    intro rule member
    rw [Rule.select, if_neg]
    rintro ⟨_, accepts⟩
    have under := startsWith_trans (accepts_startsWith accepts) (rules_under_api rule member)
    exact absurd under (by simp [outside])
  rw [handlerFor, none_selects]
  by_cases get : method = .get
  · exact Or.inr (Or.inl (by simp [get]))
  · exact Or.inr (Or.inr (by simp [get]))

theorem handlerFor_public : ∀ target ∈ publicApiRoutes, ∀ method ∈ verbs,
    Open (handlerFor method target) := by
  delta handlerFor Rule.select Pattern.accepts startsWith endsWith
  rw [toList_eq_stored]
  decide +kernel

theorem handlerFor_mfaSetupAllowed : ∀ target ∈ mfaSetupAllowedRoutes, ∀ method ∈ verbs,
    (Open (handlerFor method target) ∨ handlerFor method target ∈ enrolmentRoutes) ↔
      ¬ (method = .delete ∧ (target = "/api/auth/2fa/webauthn/register/options" ∨
        target = "/api/auth/2fa/webauthn/register/verify")) := by
  delta handlerFor Rule.select Pattern.accepts startsWith endsWith
  rw [toList_eq_stored]
  decide +kernel

theorem handlerFor_open {method : Verb} {target : String} (h : needsAuth target = false) :
    Open (handlerFor method target) := by
  by_cases api : startsWith target "/api/" = true
  · have listed : target ∈ publicApiRoutes := by
      simpa [needsAuth, api, isPublicApiRoute] using h
    exact handlerFor_public target listed method (mem_verbs method)
  · exact handlerFor_outside_api (by simpa using api)

/-- Without a session only public code is reached, and with a flagged one only the enrolment
handlers besides. -/
def Agrees (session : Option SessionInfo) (method : Verb) (target : String) : Prop :=
  ∀ route, reached session method target = some route →
    (session = none → Open route) ∧
    (∀ s, session = some s → s.needsMfaSetup = true → Open route ∨ route ∈ enrolmentRoutes)

theorem reached_some {session : Option SessionInfo} {method : Verb} {target : String} {route : Route} :
    reached session method target = some route ↔
      (∃ user, gate session target = .pass user) ∧ handlerFor method target = route := by
  unfold reached
  cases gate session target <;> simp

theorem reached_without_session {method : Verb} {target : String} {route : Route}
    (h : reached none method target = some route) : Open route := by
  obtain ⟨⟨user, passed⟩, rfl⟩ := reached_some.mp h
  apply handlerFor_open
  by_contra auth
  have auth : needsAuth target = true := by simpa using auth
  simp [gate, auth] at passed

theorem gate_flagged {s : SessionInfo} (flagged : s.needsMfaSetup = true) {target user : String} :
    gate (some s) target = .pass user →
      needsAuth target = false ∨ target ∈ mfaSetupAllowedRoutes := by
  intro passed
  by_cases auth : needsAuth target = true
  · right
    by_contra unlisted
    simp [gate, auth, flagged, isMfaSetupAllowedRoute, unlisted] at passed
  · exact Or.inl (by simpa using auth)

theorem gate_of_needsAuth {s : SessionInfo} {target : String} (h : isMfaSetupAllowedRoute target = true) :
    ∃ user, gate (some s) target = .pass user := by
  unfold gate
  by_cases auth : needsAuth target = true
  · exact ⟨s.username, by simp [auth, h]⟩
  · exact ⟨"", by simp [auth]⟩

/-- The gate and the router agree on a request, unless a flagged session sends DELETE to one of the
two passkey registration targets: the router then takes the last part of the target for the id of a
passkey to delete. -/
theorem gate_agrees_with_router (session : Option SessionInfo) (method : Verb) (target : String) :
    Agrees session method target ↔
      ¬ ((∃ s, session = some s ∧ s.needsMfaSetup = true) ∧ method = .delete ∧
        (target = "/api/auth/2fa/webauthn/register/options" ∨
          target = "/api/auth/2fa/webauthn/register/verify")) := by
  constructor
  · rintro agrees ⟨⟨s, rfl, flagged⟩, rfl, register⟩
    have listed : target ∈ mfaSetupAllowedRoutes := by
      rcases register with rfl | rfl <;> decide
    obtain ⟨user, passed⟩ : ∃ user, gate (some s) target = .pass user :=
      gate_of_needsAuth (by simpa [isMfaSetupAllowedRoute] using listed)
    have within := (agrees _ (reached_some.mpr ⟨⟨user, passed⟩, rfl⟩)).2 s rfl flagged
    exact (handlerFor_mfaSetupAllowed target listed .delete (mem_verbs _)).mp within ⟨rfl, register⟩
  · intro other route found
    refine ⟨fun absent => ?_, ?_⟩
    · rw [absent] at found
      exact reached_without_session found
    · rintro s rfl flagged
      obtain ⟨⟨user, passed⟩, rfl⟩ := reached_some.mp found
      rcases gate_flagged flagged passed with outside | listed
      · exact Or.inl (handlerFor_open outside)
      · exact (handlerFor_mfaSetupAllowed target listed method (mem_verbs method)).mpr
          (fun bad => other ⟨⟨s, rfl, flagged⟩, bad⟩)

theorem flagged_session_reaches_delete :
    ¬ ∀ session method target, Agrees session method target := by
  intro claim
  have within := (claim (some ⟨"alice", true⟩) .delete "/api/auth/2fa/webauthn/register/verify"
    (.webauthnDelete "register/verify") (by decide +kernel)).2 _ rfl rfl
  exact absurd within (by decide)

end Atomwall.Admin
