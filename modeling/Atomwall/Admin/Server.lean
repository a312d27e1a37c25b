import Atomwall.Admin.Handlers

/-!
`handle_connection` behind the header: the gate, then the handler the router selects. A server takes
one request after the other, each as a whole.
-/

namespace Atomwall.Admin

open Http

/-- The configurations agree on what the admin handlers go by. -/
def SamePolicy (c d : RuntimeConfig) : Prop := c.security = d.security ∧ c.admin = d.admin

/-- A call that leaves accounts, sessions, pending logins and challenges alone, and the policy too. -/
def Call.LeavesAccounts : Call → Prop
  | .usersList | .loginHistoryRecent _ | .configGet | .now | .randBytes _ => True
  | .configUpdate mutator =>
    ∀ c d, mutator c = .ok d → SamePolicy d c
  | _ => False

/-- The handlers that are not modelled. They know nothing of accounts and sessions. -/
structure OtherHandlers where
  run : Route → Request → (actingUser : String) → Handler Response
  frame : ∀ route request user done,
    Prog.Keeps ⟨fun _ op => op.LeavesAccounts, fun _ _ => True⟩ done (run route request user)

/-- `route`, which reads the configuration first. -/
def routed (handler : RuntimeConfig → Handler Response) : Handler Response := do
  handler (← configGet)

variable (libs : Libraries) (others : OtherHandlers)

def runRoute (request : Request) (actingUser clientIp : String) : Route → Handler Response
  | .authStatus => routed fun _ => handleAuthStatus request
  | .authSetup => routed fun _ => handleAuthSetup libs request clientIp
  | .authLogin => routed fun _ => handleAuthLogin libs request clientIp
  | .authLogout => routed fun _ => handleAuthLogout request
  | .totpVerify => routed fun _ => handleAuth2faTotpVerify libs request clientIp
  | .backupCodeVerify => routed fun _ => handleAuth2faBackupCodeVerify libs request clientIp
  | .twoFactorStatus => routed fun _ => handleAuth2faStatus libs request actingUser
  | .totpSetup => routed fun _ => handleAuth2faTotpSetup request actingUser
  | .totpConfirm => routed fun _ => handleAuth2faTotpConfirm libs request actingUser
  | .totpDisable => routed fun _ => handleAuth2faTotpDisable libs request actingUser
  | .backupCodesRegenerate => routed fun _ => handleAuth2faBackupCodesRegenerate libs request actingUser
  | .webauthnLoginOptions => routed fun _ => handleWebauthnLoginOptions request
  | .webauthnLoginVerify => routed fun _ => handleWebauthnLoginVerify libs request clientIp
  | .webauthn2faOptions => routed fun _ => handleWebauthn2faOptions request
  | .webauthn2faVerify => routed fun _ => handleWebauthn2faVerify libs request clientIp
  | .webauthnRegisterOptions => routed fun _ => handleWebauthnRegisterOptions request actingUser
  | .webauthnRegisterVerify => routed fun _ => handleWebauthnRegisterVerify libs request actingUser
  | .webauthnDelete credentialId => routed fun _ => handleWebauthnDelete request actingUser credentialId
  | .securityConfig => routed fun config =>
    return jsonResponse 200 (securityConfigToJson config.security) request.version
  | .securityConfigUpdate => routed fun _ => handleSecurityConfigUpdate libs request
  | .users => routed fun _ => return jsonResponse 200 (usersToJson libs (← usersList)) request.version
  | .usersCreate => routed fun _ => handleUsersCreate libs request
  | .usersDelete username => routed fun _ => handleUsersDelete libs request username
  | .methodNotAllowed => routed fun _ => return errorResponse 405 "method not allowed" request.version
  | route => others.run route request actingUser

/-- The session of the request's cookie, looked up where the gate needs it. -/
def gateSession (request : Request) : Handler (Option SessionInfo) :=
  if needsAuth request.target then
    match extractSessionToken request.fields with
    | some token => sessionsValidate token
    | none => pure none
  else pure none

def handleConnection (request : Request) (clientIp : String) : Handler Response := do
  match gate (← gateSession request) request.target with
  | .unauthorized => return errorResponse 401 "unauthorized" request.version
  | .mfaSetupRequired => return errorResponse 403 "mfa_setup_required" request.version
  | .pass actingUser =>
    runRoute libs others request actingUser clientIp (handlerFor request.method request.target)

/-! ### Requests one after the other -/

/-- A request, when it comes, and what its calls find: the `n`-th one draws `random n`. -/
structure Arrival where
  request : Request
  clientIp : String := "unknown"
  now : Int
  random : Nat → Nat → Option UInt8
  saved : Nat → Bool := fun _ => true

def Arrival.moment (a : Arrival) (n : Nat) : Moment := ⟨a.now, a.random n, a.saved n⟩

@[simp] theorem Arrival.moment_now (a : Arrival) (n : Nat) : (a.moment n).now = a.now := rfl

def serve (app : AppState) (a : Arrival) : Prog.Ran Call Call.Result Fault Response AppState :=
  (handleConnection libs others a.request a.clientIp).exec (perform libs) [] a.moment app

/-- A request that was served: the state it found and its calls, newest first. -/
structure Served where
  before : AppState
  arrival : Arrival
  done : List Made

structure Server where
  app : AppState
  clock : Int
  log : List Served := []

def Server.step (s : Server) (a : Arrival) : Option Server :=
  let ran := serve libs others s.app a
  some { app := ran.store, clock := a.now, log := ⟨s.app, a, ran.done⟩ :: s.log }

def Accepts (app : AppState) (a : Arrival) (user : String) : Prop :=
  needsAuth a.request.target = true ∧ ∃ token info,
    extractSessionToken a.request.fields = some token ∧
    app.sessions.validate (a.moment 0) token = some info ∧
    gate (some info) a.request.target = .pass user

def Reaches (app : AppState) (a : Arrival) (route : Route) : Prop :=
  handlerFor a.request.method a.request.target = route ∧
    (needsAuth a.request.target = true → ∃ user, Accepts app a user)

end Atomwall.Admin
