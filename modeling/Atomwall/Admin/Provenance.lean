import Atomwall.Admin.HistoryViews
import Atomwall.Admin.LoginFactors

/-!
Where the sessions of the admin server come from, and which of its handlers publish a configuration: of those that
work on accounts, the one for the security policy only.
-/

namespace Atomwall.Admin

open Http Prog

def Call.Configures : Call → Prop
  | .configUpdate _ => True
  | _ => False

/-- No call of the program publishes a configuration. -/
abbrev Spares {α : Type} (p : Handler α) : Prop := p.Only fun op => ¬ op.Configures

section Handlers

variable {libs : Libraries} {others : OtherHandlers} {request : Request} {clientIp actingUser username : String}
  {status version : Nat}

/-! ### Parts -/

theorem spares_throwing {α : Type} {attempt : Handler (Except Fault α)} (h : Spares attempt) :
    Spares (throwing attempt) := by
  unfold throwing
  exact only_bind h only_orRaise

theorem spares_caught {α : Type} {body : Handler α} (h : Spares body) : Spares (caught body) := by
  unfold caught
  refine only_handle (only_bind h fun _ => trivial) fun fault => ?_
  cases fault <;> trivial

theorem spares_answering {body : Handler Response} (h : Spares body) : Spares (answering status version body) := by
  unfold answering
  refine only_bind (spares_caught h) fun r => ?_
  cases r <;> trivial

theorem spares_adminUsesTls : Spares adminUsesTls := ⟨id, fun _ => trivial⟩

theorem spares_pendingUser : Spares (pendingUser request) := by
  unfold pendingUser
  split
  · trivial
  · exact ⟨id, fun _ => trivial⟩

theorem spares_issueSessionResponse {flag : Bool} : Spares (issueSessionResponse username flag version clientIp) := by
  unfold issueSessionResponse
  refine only_bind (spares_throwing (only_make id)) fun token => ?_
  refine only_bind (only_make id) fun _ => only_bind spares_adminUsesTls fun _ => ?_
  exact only_bind spares_adminUsesTls fun _ => trivial

theorem spares_verifyCurrentPassword {password : String} : Spares (verifyCurrentPassword libs username password) := by
  unfold verifyCurrentPassword
  refine only_bind (only_make id) fun found => ?_
  cases found with
  | none => trivial
  | some user => exact only_orRaise _

theorem spares_acceptAssertion {fields : WebAuthnCredentialFields} {challenge : Challenge}
    {credential : WebAuthnCredential} {origin : String} :
    Spares (acceptAssertion libs request fields challenge username credential origin) := by
  unfold acceptAssertion
  exact only_bind (only_orRaise _) fun _ => spares_throwing (only_make id)

theorem spares_markCookie {response : Response} : Spares (do
    match extractSessionToken request.fields with
    | some token => sessionsMarkMfaSatisfied token
    | none => pure ()
    return response : Handler Response) := by
  cases extractSessionToken request.fields with
  | none => trivial
  | some token => exact ⟨id, fun _ => trivial⟩

/-! ### Signing in -/

theorem spares_handleAuthStatus : Spares (handleAuthStatus request) := by
  unfold handleAuthStatus
  refine only_bind (only_make id) fun required => ?_
  cases extractSessionToken request.fields with
  | none => trivial
  | some token => exact ⟨id, fun _ => trivial⟩

theorem spares_handleAuthSetup : Spares (handleAuthSetup libs request clientIp) := by
  unfold handleAuthSetup
  refine only_bind (only_make id) fun empty => ?_
  cases empty with
  | false => trivial
  | true =>
    cases credentialsOf libs request with
    | error reply => trivial
    | ok credentials =>
      refine only_bind (spares_caught (spares_throwing (only_make id))) fun created => ?_
      rcases created with what | _ | _
      · trivial
      · trivial
      · exact only_bind (only_make id) fun _ => spares_issueSessionResponse

theorem spares_handleAuthLogin : Spares (handleAuthLogin libs request clientIp) := by
  unfold handleAuthLogin
  cases credentialsOf libs request with
  | error reply => trivial
  | ok credentials =>
    refine only_bind (only_make id) fun found => ?_
    cases found with
    | none => trivial
    | some user =>
      refine only_bind (only_orRaise _) fun right => ?_
      cases right with
      | false => trivial
      | true =>
        show Spares (if user.hasSecondFactor then _ else _)
        split
        · unfold issueMfaChallengeResponse
          exact only_bind (spares_throwing (only_make id)) fun _ => only_bind spares_adminUsesTls fun _ => trivial
        · exact only_bind (only_make id) fun _ => spares_issueSessionResponse

theorem spares_handleAuthLogout : Spares (handleAuthLogout request) := by
  unfold handleAuthLogout
  cases extractSessionToken request.fields with
  | none => exact only_bind spares_adminUsesTls fun _ => trivial
  | some token => exact only_bind (only_make id) fun _ => only_bind spares_adminUsesTls fun _ => trivial

theorem spares_handleAuth2faTotpVerify : Spares (handleAuth2faTotpVerify libs request clientIp) := by
  unfold handleAuth2faTotpVerify
  refine only_bind spares_pendingUser fun pending => ?_
  cases pending with
  | none => trivial
  | some pending =>
    cases codeOf libs request with
    | none => trivial
    | some code =>
      refine only_bind (only_make id) fun found => ?_
      cases found.bind (·.totp) with
      | none => trivial
      | some totp =>
        refine only_bind (only_make id) fun now => only_bind (only_orRaise _) fun matched => ?_
        cases matched with
        | none => trivial
        | some step =>
          refine only_bind (only_make id) fun fresh => ?_
          cases fresh with
          | false => trivial
          | true => exact ⟨id, fun _ => spares_issueSessionResponse⟩

theorem spares_handleAuth2faBackupCodeVerify : Spares (handleAuth2faBackupCodeVerify libs request clientIp) := by
  unfold handleAuth2faBackupCodeVerify
  refine only_bind spares_pendingUser fun pending => ?_
  cases pending with
  | none => trivial
  | some pending =>
    cases codeOf libs request with
    | none => trivial
    | some code =>
      refine only_bind (spares_throwing (only_make id)) fun consumed => ?_
      cases consumed with
      | false => trivial
      | true => exact ⟨id, fun _ => spares_issueSessionResponse⟩

/-! ### Enrolling -/

theorem spares_handleAuth2faStatus : Spares (handleAuth2faStatus libs request actingUser) := by
  unfold handleAuth2faStatus
  refine only_bind (only_make id) fun found => ?_
  cases found <;> trivial

theorem spares_handleAuth2faTotpSetup : Spares (handleAuth2faTotpSetup request actingUser) := by
  unfold handleAuth2faTotpSetup
  exact only_bind (spares_throwing (only_make id)) fun _ => ⟨id, fun _ => trivial⟩

theorem spares_handleAuth2faTotpConfirm : Spares (handleAuth2faTotpConfirm libs request actingUser) := by
  unfold handleAuth2faTotpConfirm
  refine only_bind (only_make id) fun pending => ?_
  cases pending with
  | none => trivial
  | some secret =>
    cases codeOf libs request with
    | none => trivial
    | some code =>
      refine only_bind (only_make id) fun now => only_bind (only_orRaise _) fun matched => ?_
      cases matched with
      | none => trivial
      | some step =>
        refine only_bind (spares_throwing (only_make id)) fun codes => ?_
        refine only_bind (spares_caught (spares_throwing (only_make id))) fun stored => ?_
        cases stored with
        | error what => trivial
        | ok _ => exact ⟨id, fun _ => ⟨id, fun _ => spares_markCookie⟩⟩

theorem spares_handleAuth2faTotpDisable : Spares (handleAuth2faTotpDisable libs request actingUser) := by
  unfold handleAuth2faTotpDisable
  cases passwordOf libs request with
  | none => trivial
  | some password =>
    refine only_bind spares_verifyCurrentPassword fun right => ?_
    cases right with
    | false => trivial
    | true =>
      refine only_bind (only_make id) fun config => ?_
      split
      · trivial
      · refine only_bind (spares_caught (spares_throwing (only_make id))) fun cleared => ?_
        cases cleared <;> trivial

theorem spares_handleAuth2faBackupCodesRegenerate :
    Spares (handleAuth2faBackupCodesRegenerate libs request actingUser) := by
  unfold handleAuth2faBackupCodesRegenerate
  cases passwordOf libs request with
  | none => trivial
  | some password =>
    refine only_bind spares_verifyCurrentPassword fun right => ?_
    cases right with
    | false => trivial
    | true =>
      refine only_bind (spares_caught (spares_throwing (only_make id))) fun codes => ?_
      cases codes <;> trivial

/-! ### Passkeys -/

theorem spares_handleWebauthnRegisterOptions : Spares (handleWebauthnRegisterOptions request actingUser) := by
  unfold handleWebauthnRegisterOptions
  refine only_bind (only_make id) fun found => ?_
  cases found with
  | none => trivial
  | some user =>
    refine only_bind (spares_throwing (only_make id)) fun challenge => only_bind (only_make id) fun _ => ?_
    exact only_bind (spares_throwing (only_make id)) fun _ => trivial

theorem spares_handleWebauthnRegisterVerify : Spares (handleWebauthnRegisterVerify libs request actingUser) := by
  unfold handleWebauthnRegisterVerify
  cases libs.parseJsonObject request.body with
  | none => trivial
  | some body =>
    dsimp only
    cases parseCredentialFields body true with
    | none => trivial
    | some fields =>
      refine only_bind (only_make id) fun consumed => ?_
      cases consumed with
      | none => trivial
      | some challenge =>
        refine only_bind spares_adminUsesTls fun tls => spares_answering ?_
        refine only_bind (only_orRaise _) fun result => only_bind (only_make id) fun createdAt => ?_
        exact only_bind (spares_throwing (only_make id)) fun _ => spares_markCookie

theorem spares_handleWebauthnDelete {credentialId : String} :
    Spares (handleWebauthnDelete request actingUser credentialId) := by
  unfold handleWebauthnDelete
  refine only_bind (only_make id) fun found => ?_
  cases found with
  | none => trivial
  | some user =>
    refine only_bind ?_ fun mandatory => ?_
    · unfold require2faIf
      split
      · exact ⟨id, fun _ => trivial⟩
      · trivial
    · cases mandatory with
      | true => trivial
      | false =>
        refine only_bind (spares_throwing (only_make id)) fun removed => ?_
        cases removed <;> trivial

theorem spares_handleWebauthnLoginOptions : Spares (handleWebauthnLoginOptions request) := by
  unfold handleWebauthnLoginOptions
  refine only_bind (spares_throwing (only_make id)) fun challenge => only_bind (only_make id) fun drawn => ?_
  cases drawn with
  | error fault => trivial
  | ok bytes => exact only_bind (only_make id) fun _ => only_bind spares_adminUsesTls fun _ => trivial

theorem spares_handleWebauthnLoginVerify : Spares (handleWebauthnLoginVerify libs request clientIp) := by
  unfold handleWebauthnLoginVerify
  cases extractWebauthnLoginToken request.fields with
  | none => trivial
  | some token =>
    refine only_bind (only_make id) fun consumed => ?_
    cases consumed with
    | none => trivial
    | some challenge =>
      cases libs.parseJsonObject request.body with
      | none => trivial
      | some body =>
        dsimp only
        cases parseCredentialFields body false with
        | none => trivial
        | some fields =>
          refine only_bind (only_make id) fun found => ?_
          cases found with
          | none => trivial
          | some user =>
            dsimp only
            cases user.webauthnCredentials.find? (·.idB64url == fields.idB64url) with
            | none => trivial
            | some credential =>
              refine only_bind spares_adminUsesTls fun tls => spares_answering ?_
              refine only_bind spares_acceptAssertion fun _ => ?_
              exact only_bind spares_issueSessionResponse fun _ => only_bind spares_adminUsesTls fun _ => trivial

theorem spares_handleWebauthn2faOptions : Spares (handleWebauthn2faOptions request) := by
  unfold handleWebauthn2faOptions
  refine only_bind spares_pendingUser fun pending => ?_
  cases pending with
  | none => trivial
  | some pending =>
    refine only_bind (only_make id) fun found => ?_
    cases found with
    | none => trivial
    | some user => exact only_bind (spares_throwing (only_make id)) fun challenge => ⟨id, fun _ => trivial⟩

theorem spares_handleWebauthn2faVerify : Spares (handleWebauthn2faVerify libs request clientIp) := by
  unfold handleWebauthn2faVerify
  refine only_bind spares_pendingUser fun pending => ?_
  cases pending with
  | none => trivial
  | some pending =>
    refine only_bind (only_make id) fun consumed => ?_
    cases consumed with
    | none => trivial
    | some challenge =>
      cases libs.parseJsonObject request.body with
      | none => trivial
      | some body =>
        dsimp only
        cases parseCredentialFields body false with
        | none => trivial
        | some fields =>
          refine only_bind (only_make id) fun found => ?_
          cases found with
          | none => trivial
          | some user =>
            dsimp only
            cases user.webauthnCredentials.find? (·.idB64url == fields.idB64url) with
            | none => trivial
            | some credential =>
              refine only_bind spares_adminUsesTls fun tls => spares_answering ?_
              exact only_bind spares_acceptAssertion fun _ => ⟨id, fun _ => spares_issueSessionResponse⟩

/-! ### Users -/

theorem spares_handleUsersCreate : Spares (handleUsersCreate libs request) := by
  unfold handleUsersCreate
  cases credentialsOf libs request with
  | error reply => trivial
  | ok credentials =>
    refine only_bind (spares_caught (spares_throwing (only_make id))) fun created => ?_
    cases created with
    | error what => trivial
    | ok _ => exact ⟨id, fun _ => trivial⟩

theorem spares_handleUsersDelete : Spares (handleUsersDelete libs request username) := by
  unfold handleUsersDelete
  refine only_bind (spares_caught (spares_throwing (only_make id))) fun removed => ?_
  rcases removed with what | _ | _
  · trivial
  · trivial
  · exact ⟨id, fun _ => trivial⟩

/-! ### The router -/

theorem spares_runRoute {route : Route} (others_spare : ∀ route, Spares (others.run route request actingUser))
    (own : route ≠ .securityConfigUpdate) : Spares (runRoute libs others request actingUser clientIp route) := by
  cases route
  case authStatus => exact ⟨id, fun _ => spares_handleAuthStatus⟩
  case authSetup => exact ⟨id, fun _ => spares_handleAuthSetup⟩
  case authLogin => exact ⟨id, fun _ => spares_handleAuthLogin⟩
  case authLogout => exact ⟨id, fun _ => spares_handleAuthLogout⟩
  case totpVerify => exact ⟨id, fun _ => spares_handleAuth2faTotpVerify⟩
  case backupCodeVerify => exact ⟨id, fun _ => spares_handleAuth2faBackupCodeVerify⟩
  case twoFactorStatus => exact ⟨id, fun _ => spares_handleAuth2faStatus⟩
  case totpSetup => exact ⟨id, fun _ => spares_handleAuth2faTotpSetup⟩
  case totpConfirm => exact ⟨id, fun _ => spares_handleAuth2faTotpConfirm⟩
  case totpDisable => exact ⟨id, fun _ => spares_handleAuth2faTotpDisable⟩
  case backupCodesRegenerate => exact ⟨id, fun _ => spares_handleAuth2faBackupCodesRegenerate⟩
  case webauthnLoginOptions => exact ⟨id, fun _ => spares_handleWebauthnLoginOptions⟩
  case webauthnLoginVerify => exact ⟨id, fun _ => spares_handleWebauthnLoginVerify⟩
  case webauthn2faOptions => exact ⟨id, fun _ => spares_handleWebauthn2faOptions⟩
  case webauthn2faVerify => exact ⟨id, fun _ => spares_handleWebauthn2faVerify⟩
  case webauthnRegisterOptions => exact ⟨id, fun _ => spares_handleWebauthnRegisterOptions⟩
  case webauthnRegisterVerify => exact ⟨id, fun _ => spares_handleWebauthnRegisterVerify⟩
  case webauthnDelete => exact ⟨id, fun _ => spares_handleWebauthnDelete⟩
  case securityConfig => exact ⟨id, fun _ => trivial⟩
  case securityConfigUpdate => exact absurd rfl own
  case users => exact ⟨id, fun _ => ⟨id, fun _ => trivial⟩⟩
  case usersCreate => exact ⟨id, fun _ => spares_handleUsersCreate⟩
  case usersDelete => exact ⟨id, fun _ => spares_handleUsersDelete⟩
  case methodNotAllowed => exact ⟨id, fun _ => trivial⟩
  all_goals exact others_spare _

end Handlers

/-! ### Sessions -/

variable {libs : Libraries} {others : OtherHandlers} {app s : AppState} {a : Arrival} {done : List Made} {op : Call}
  {n : Nat} {m : Moment} {username token : String}

theorem perform_unconfigured (other : ¬ op.Configures) : (perform libs op m s).2.config = s.config := by
  cases op with
  | configUpdate mutator => exact absurd trivial other
  | _ => rfl

/-- The gate's answer to the request. -/
def gateOf (app : AppState) (a : Arrival) : Gate :=
  gate (if needsAuth a.request.target then
    (extractSessionToken a.request.fields).bind (app.sessions.validate (a.moment 0)) else none) a.request.target

theorem gateOf_accepts {user : String} (auth : needsAuth a.request.target = true) (passed : gateOf app a = .pass user) :
    Accepts app a user := by
  refine ⟨auth, ?_⟩
  unfold gateOf at passed
  rw [if_pos auth] at passed
  cases sent : extractSessionToken a.request.fields with
  | none => simp [gate, auth, sent] at passed
  | some token =>
    rw [sent, Option.bind_some] at passed
    cases valid : app.sessions.validate (a.moment 0) token with
    | none => simp [gate, auth, valid] at passed
    | some info => exact ⟨token, info, rfl, valid, valid ▸ passed⟩

/-- What `handle_connection` does once the gate has answered. -/
def behindGate (libs : Libraries) (others : OtherHandlers) (request : Request) (clientIp : String) :
    Gate → Handler Response
  | .unauthorized => return errorResponse 401 "unauthorized" request.version
  | .mfaSetupRequired => return errorResponse 403 "mfa_setup_required" request.version
  | .pass actingUser =>
    runRoute libs others request actingUser clientIp (handlerFor request.method request.target)

theorem handleConnection_eq {request : Request} {clientIp : String} : handleConnection libs others request clientIp =
    gateSession request >>= fun session => behindGate libs others request clientIp (gate session request.target) :=
  rfl

/-- The gate answers at the time of the request, and what is behind it then runs. -/
theorem serve_gated : ∃ made moments, (∀ k, (moments k).now = a.now) ∧ serve libs others app a =
    (behindGate libs others a.request a.clientIp (gateOf app a)).exec (perform libs) made moments app := by
  unfold gateOf serve
  rw [handleConnection_eq]
  unfold gateSession
  by_cases auth : needsAuth a.request.target = true
  · rw [if_pos auth, if_pos auth]
    cases sent : extractSessionToken a.request.fields with
    | none => exact ⟨[], a.moment, fun _ => rfl, rfl⟩
    | some token =>
      exact ⟨[⟨.sessionsValidate token, app.sessions.validate (a.moment 0) token⟩], fun k => a.moment (k + 1),
        fun _ => rfl, rfl⟩
  · rw [if_neg auth, if_neg auth]
    exact ⟨[], a.moment, fun _ => rfl, rfl⟩

/-- A request that the gate does not let in to the security policy leaves the configuration alone. -/
theorem serve_keeps_config (others_spare : ∀ route user, Spares (others.run route a.request user))
    (other : ∀ user, gateOf app a = .pass user → handlerFor a.request.method a.request.target ≠ .securityConfigUpdate) :
    (serve libs others app a).store.config = app.config := by
  obtain ⟨made, moments, -, same⟩ := @serve_gated libs others app a
  rw [same]
  cases passed : gateOf app a with
  | unauthorized => rfl
  | mfaSetupRequired => rfl
  | pass user =>
    have spares : Spares (runRoute libs others a.request user a.clientIp (handlerFor a.request.method a.request.target)) :=
      spares_runRoute (fun route => others_spare route user) (other user passed)
    refine @Only.exec _ _ _ _ _ _ _ (perform libs) (fun now => now.config = app.config) _ spares ?_ made moments app rfl
    intro op m now spared same
    rw [perform_unconfigured spared, same]

/-- What who signs in has shown: factors, or the password of an account that is then sent to enrol, or that there
were no accounts. -/
def Shown (libs : Libraries) (app : AppState) (a : Arrival) (username : String) (pending : Prop) : Prop :=
  FactorsShown libs app a username pending ∨ PasswordCorrect libs app a username ∨
    ∃ password, credentialsOf libs a.request = .ok (username, password) ∧ app.users.users = []

theorem MayIssue.shows {flag : Bool} (context : Context libs app a done s) (quiet : Quiet done)
    (may : MayIssue libs a.request done username flag) :
    Shown libs app a username (∃ token, PendingNow app a username token) := by
  cases flag with
  | false => exact .inl (may.shown context quiet rfl)
  | true =>
    generalize flagged : true = flag at may
    cases may with
    | setup sent created policy => exact .inr (.inr ⟨_, sent, context.seen _ created⟩)
    | login proved noFactor policy => exact .inr (.inl (proved.correct context).1)
    | _ => cases flagged

theorem perform_expiry {flag : Bool} {session : Session}
    (issued : (perform libs (.sessionsCreate username flag) m s).1 = .ok token)
    (found : (perform libs (.sessionsCreate username flag) m s).2.sessions.lookup token = some session) :
    session.expiresAt = m.now + hours 12 := by
  rcases made : s.sessions.create m username flag with ⟨answer, next⟩
  simp only [perform, made] at issued found
  subst issued
  rw [SessionStore.create_ok made, KeyMap.lookup_insert_ite, if_pos rfl] at found
  obtain rfl := Option.some.inj found
  rfl

/-- What a request has shown for the sessions it got, and where the sessions come from that it leaves. -/
structure Traced (libs : Libraries) (app : AppState) (a : Arrival) (done : List Made) (s : AppState) : Prop where
  shown : ∀ username flag token, ⟨.sessionsCreate username flag, .ok token⟩ ∈ done →
    Shown libs app a username (∃ token, PendingNow app a username token)
  sessions : ∀ token session, s.sessions.lookup token = some session →
    ((∃ flag, ⟨.sessionsCreate session.username flag, .ok token⟩ ∈ done) ∧ session.expiresAt = a.now + hours 12) ∨
      ∃ old, app.sessions.lookup token = some old ∧ old.username = session.username ∧
        old.expiresAt = session.expiresAt ∧ (⟨.sessionsInvalidate token, ()⟩ : Made) ∉ done

theorem traced_start {config : RuntimeConfig} : Traced libs app a [] { app with config } where
  shown username flag token member := by cases member
  sessions token session found := .inr ⟨session, found, rfl, rfl, List.not_mem_nil⟩

theorem Traced.perform (context : Context libs app a done s) (may : MayCall libs a.request done op)
    (traced : Traced libs app a done s) :
    Traced libs app a (⟨op, (Admin.perform libs op (a.moment n) s).1⟩ :: done)
      (Admin.perform libs op (a.moment n) s).2 where
  shown username flag token member := by
    rcases List.mem_cons.mp member with here | before
    · injection here with same _
      subst same
      exact may.2.shows context may.1
    · exact traced.shown username flag token before
  sessions token session found := by
    rcases perform_session found with ⟨flag, rfl, made⟩ | ⟨old, before, owner, expires⟩
    · injection made with _ issued
      refine .inl ⟨⟨flag, ?_⟩, perform_expiry issued found⟩
      rw [issued]
      exact List.mem_cons_self
    · rcases traced.sessions token old before with ⟨⟨flag, made⟩, span⟩ | ⟨first, stored, owner', expires', kept⟩
      · exact .inl ⟨⟨flag, owner ▸ List.mem_cons_of_mem _ made⟩, expires ▸ span⟩
      · refine .inr ⟨first, stored, owner'.trans owner, expires'.trans expires, fun logout => ?_⟩
        rcases List.mem_cons.mp logout with here | earlier
        · -- what a logout erases is not found
          injection here with same _
          subst same
          have erased : (s.sessions.erase token).lookup token = some session := found
          rw [KeyMap.lookup_erase_ite, if_pos rfl] at erased
          cases erased
        · exact kept earlier

theorem serve_traced : Traced libs app a (serve libs others app a).done (serve libs others app a).store := by
  refine (@serve_invariant libs app a others (Traced libs app a) ?_ traced_start).2
  intro done op n s context may traced
  exact traced.perform context may

/-! ### Runs -/

def LoggedOut (served : Served) (token : String) : Prop := (⟨.sessionsInvalidate token, ()⟩ : Made) ∈ served.done

/-- The log shows the request that was given the token, not longer than twelve hours before `expiresAt`, and no
logout since. -/
def SignedInBy (libs : Libraries) (log : List Served) (username token : String) (expiresAt : Int) : Prop :=
  ∃ newer served older, log = newer ++ served :: older ∧ Issued served username token ∧
    expiresAt = served.arrival.now + hours 12 ∧ (∀ later ∈ newer, ¬ LoggedOut later token) ∧
    Shown libs served.before served.arrival username
      (PendingLogin libs ⟨served.before, served.arrival.now, older⟩ served.arrival username)

structure SessionsTraced (libs : Libraries) (s : Server) : Prop where
  sessions : ∀ token session, s.app.sessions.lookup token = some session →
    SignedInBy libs s.log session.username token session.expiresAt
  pending : PendingFromLogins libs s

theorem Shown.imp {first second : Prop} (h : first → second) (shown : Shown libs app a username first) :
    Shown libs app a username second := by
  rcases shown with factors | rest
  · exact .inl (factors.imp h)
  · exact .inr rest

theorem SessionsTraced.step {server : Server} {next : AppState} (traced : SessionsTraced libs server)
    (own : Traced libs server.app a done next) (logins : Logins libs server.app a done next) :
    SessionsTraced libs ⟨next, a.now, ⟨server.app, a, done⟩ :: server.log⟩ where
  sessions token session found := by
    rcases own.sessions token session found with ⟨⟨flag, made⟩, span⟩ | ⟨old, before, owner, expires, kept⟩
    · refine ⟨[], ⟨server.app, a, done⟩, server.log, rfl, ⟨flag, made⟩, span, ?_, ?_⟩
      · intro later member
        cases member
      refine (own.shown _ flag token made).imp ?_
      rintro ⟨pendingToken, sent, valid⟩
      obtain ⟨e, known, unexpired, same⟩ := PendingMfaStore.validate_eq_some.mp valid
      exact ⟨pendingToken, e.expiresAt, sent, unexpired, same ▸ traced.pending pendingToken e known⟩
    · obtain ⟨newer, served, older, log, issued, span, stayed, shown⟩ := traced.sessions token old before
      refine ⟨⟨server.app, a, done⟩ :: newer, served, older, congrArg _ log, owner ▸ issued, expires ▸ span, ?_,
        owner ▸ shown⟩
      intro later member
      rcases List.mem_cons.mp member with rfl | earlier
      · exact kept
      · exact stayed later earlier
  pending token e found := by
    rcases logins.pending token e found with made | before
    · exact ⟨_, List.mem_cons_self, made⟩
    · obtain ⟨earlier, member, gave⟩ := traced.pending token e before
      exact ⟨earlier, List.mem_cons_of_mem _ member, gave⟩

end Atomwall.Admin
