import Atomwall.Admin.Server
import Atomwall.Auth.Accounts

/-!
What every handler does before it touches an account, a session, a pending login or the policy: the
contract that all of `handle_connection` keeps.
-/

namespace Atomwall.Admin

open Http

def Returned (done : List Made) (op : Call) (res : op.Result) : Prop := ⟨op, res⟩ ∈ done

/-- Takes away an account, a factor or the policy, or makes or changes a session. -/
def Call.Disrupts : Call → Prop
  | .usersRemove _ | .usersClearTotp _ | .usersRemoveWebauthnCredential _ _ | .sessionsCreate _ _
  | .sessionsMarkMfaSatisfied _ => True
  | .configUpdate mutator => ¬ (Call.configUpdate mutator).LeavesAccounts
  | _ => False

def Call.Reads : Call → Prop
  | .usersEmpty | .usersList | .usersFind _ | .usersFindByCredentialId _ | .sessionsValidate _
  | .pendingMfaValidate _ | .pendingTotpSecretFor _ | .loginHistoryRecent _ | .configGet | .now
  | .randBytes _ | .generateTotpSecret | .generateBackupCodes => True
  | _ => False

def Call.KeepsRecords : Call → Prop
  | .usersCreate _ _ | .usersCreateIfEmpty _ _ | .usersRemove _ | .usersSetTotp _ _ _
  | .usersClearTotp _ | .usersRegenerateBackupCodes _ | .usersConsumeBackupCode _ _
  | .usersWebauthnUserHandle _ | .usersAddWebauthnCredential _ _
  | .usersRemoveWebauthnCredential _ _ | .usersUpdateWebauthnSignCount _ _ _ => False
  | _ => True

def Quiet (done : List Made) : Prop := ∀ e ∈ done, ¬ e.op.Disrupts

def OnlyReads (done : List Made) : Prop := ∀ e ∈ done, e.op.Reads

def RecordsKept (done : List Made) : Prop := ∀ e ∈ done, e.op.KeepsRecords

@[simp] theorem returned_cons {e : Made} {done : List Made} {op : Call} {res : op.Result} :
    Returned (e :: done) op res ↔ ⟨op, res⟩ = e ∨ Returned done op res := by
  simp [Returned]

@[simp] theorem quiet_cons {e : Made} {done : List Made} :
    Quiet (e :: done) ↔ ¬ e.op.Disrupts ∧ Quiet done := by
  simp [Quiet]

@[simp] theorem onlyReads_cons {e : Made} {done : List Made} :
    OnlyReads (e :: done) ↔ e.op.Reads ∧ OnlyReads done := by
  simp [OnlyReads]

@[simp] theorem recordsKept_cons {e : Made} {done : List Made} :
    RecordsKept (e :: done) ↔ e.op.KeepsRecords ∧ RecordsKept done := by
  simp [RecordsKept]

theorem OnlyReads.quiet {done : List Made} (h : OnlyReads done) : Quiet done := by
  intro e member disrupts
  have reads := h e member
  unfold Call.Reads at reads
  unfold Call.Disrupts at disrupts
  split at reads <;> simp_all

theorem OnlyReads.recordsKept {done : List Made} (h : OnlyReads done) : RecordsKept done := by
  intro e member
  have reads := h e member
  unfold Call.Reads at reads
  unfold Call.KeepsRecords
  split at reads <;> simp_all

variable (libs : Libraries) (request : Request)

/-- The body names `username` with a password that the stored hash accepts. -/
def PasswordProved (done : List Made) (username : String) (user : UserRecord) : Prop :=
  ∃ password, credentialsOf libs request = .ok (username, password) ∧
    Returned done (.usersFind username) (some user) ∧
    verifyPassword libs password user.passwordHash = .ok true

def PendingValid (done : List Made) (token username : String) : Prop :=
  extractPendingMfaToken request.fields = some token ∧
    Returned done (.pendingMfaValidate token) (some username)

/-- The body carries an assertion by `credential` over the challenge that was stored under `key`. -/
def AssertionVerified (done : List Made) (key : String) (credential : WebAuthnCredential) : Prop :=
  ∃ body fields challenge config result, libs.parseJsonObject request.body = some body ∧
    parseCredentialFields body false = some fields ∧ credential.idB64url = fields.idB64url ∧
    Returned done (.challengesConsume key) (some challenge) ∧ Returned done .configGet config ∧
    WebAuthn.verifyAuthentication libs challenge fields.clientDataJson
      fields.authenticatorDataOrAttestationObject fields.signature credential.cosePublicKey
      credential.signCount (webauthnRpId request)
      (webauthnExpectedOrigin request (RuntimeConfig.usesTls config)) = .ok result

/-- What the six entry points have established when they create a session. -/
inductive MayIssue (done : List Made) : String → Bool → Prop where
  | setup {username password : String} {config : RuntimeConfig}
      (sent : credentialsOf libs request = .ok (username, password))
      (created : Returned done (.usersCreateIfEmpty username password) (.ok true))
      (policy : Returned done .configGet config) : MayIssue done username config.security.require2fa
  | login {username : String} {user : UserRecord} {config : RuntimeConfig}
      (proved : PasswordProved libs request done username user)
      (noFactor : user.hasSecondFactor = false)
      (policy : Returned done .configGet config) : MayIssue done username config.security.require2fa
  | totp {token username code : String} {user : UserRecord} {totp : TotpConfig} {now step : Int}
      (pending : PendingValid request done token username) (sent : codeOf libs request = some code)
      (known : Returned done (.usersFind username) (some user)) (enrolled : user.totp = some totp)
      (clock : Returned done .now now)
      (verified : Totp.verify libs totp.secretBase32 code (toSeconds now) = .ok (some step))
      (fresh : Returned done (.usersConsumeTotpStep username step) true) : MayIssue done username false
  | backupCode {token username code : String}
      (pending : PendingValid request done token username) (sent : codeOf libs request = some code)
      (consumed : Returned done (.usersConsumeBackupCode username code) (.ok true)) :
      MayIssue done username false
  | passkeyLogin {cookie : String} {user : UserRecord} {credential : WebAuthnCredential}
      (sent : extractWebauthnLoginToken request.fields = some cookie)
      (known : Returned done (.usersFindByCredentialId credential.idB64url) (some user))
      (stored : credential ∈ user.webauthnCredentials)
      (verified : AssertionVerified libs request done (loginKey cookie) credential) :
      MayIssue done user.username false
  | passkeySecond {token username : String} {user : UserRecord} {credential : WebAuthnCredential}
      (pending : PendingValid request done token username)
      (known : Returned done (.usersFind username) (some user))
      (stored : credential ∈ user.webauthnCredentials)
      (verified : AssertionVerified libs request done (login2faKey username) credential) :
      MayIssue done username false

/-- The session of the request's cookie was valid, and one the gate lets through as `actingUser`. -/
def Entered (done : List Made) (actingUser : String) : Prop :=
  ∃ token info, extractSessionToken request.fields = some token ∧
    Returned done (.sessionsValidate token) (some info) ∧ info.username = actingUser ∧
    gate (some info) request.target = .pass actingUser

/-- A factor was stored for the user of the request's session. -/
def MaySatisfy (done : List Made) (token : String) : Prop :=
  ∃ info, Returned done (.sessionsValidate token) (some info) ∧
    ((∃ secret codes, Returned done (.usersSetTotp info.username secret codes) (.ok ())) ∨
      ∃ credential, Returned done (.usersAddWebauthnCredential info.username credential) (.ok ()))

/-- What must have happened before each call that matters. -/
def MayCall (done : List Made) : Call → Prop
  | .usersFind _ | .usersFindByCredentialId _ | .usersCreateIfEmpty _ _
  | .usersConsumeBackupCode _ _ => RecordsKept done
  | .sessionsValidate _ | .pendingMfaValidate _ | .challengesConsume _ => OnlyReads done
  | .sessionsCreate username flag => Quiet done ∧ MayIssue libs request done username flag
  | .sessionsMarkMfaSatisfied token => Quiet done ∧ MaySatisfy done token
  | .pendingMfaCreate username =>
    OnlyReads done ∧ ∃ user, PasswordProved libs request done username user
  | .usersRemove username =>
    OnlyReads done ∧ handlerFor request.method request.target = .usersDelete username ∧
      ∃ actingUser, Entered request done actingUser
  | .usersClearTotp _ =>
    OnlyReads done ∧ ∃ config, Returned done .configGet config ∧ config.security.require2fa = false
  | .usersRemoveWebauthnCredential username _ =>
    OnlyReads done ∧ ∃ user, Returned done (.usersFind username) (some user) ∧
      (user.totp.isSome = true ∨ 2 ≤ user.webauthnCredentials.length ∨
        ∃ config, Returned done .configGet config ∧ config.security.require2fa = false)
  | .configUpdate mutator => (Call.configUpdate mutator).LeavesAccounts ∨
      (OnlyReads done ∧ handlerFor request.method request.target = .securityConfigUpdate ∧
        (∃ actingUser, Entered request done actingUser) ∧ ∃ body, libs.parseJsonObject request.body = some body ∧
          mutator = fun c => .ok (setRequire2fa body c))
  | _ => True

def discipline : Prog.Contract Call Call.Result Fault Response :=
  ⟨MayCall libs request, fun _ _ => True⟩

variable {libs request} {done : List Made} {clientIp actingUser : String}

/-! ### Parts of handlers, under any contract -/

section Parts

variable {c : Prog.Contract Call Call.Result Fault Response}

theorem PendingValid.cons {token username : String} {e : Made}
    (h : PendingValid request done token username) : PendingValid request (e :: done) token username :=
  ⟨h.1, List.mem_cons_of_mem e h.2⟩

theorem keeps_pendingUser {next : Option (String × String) → Handler Response}
    (allowed : ∀ token, c.allowed done (.pendingMfaValidate token))
    (without : ∀ done, Prog.Keeps c done (next none))
    (valid : ∀ token username,
      PendingValid request (⟨.pendingMfaValidate token, some username⟩ :: done) token username →
      Prog.Keeps c (⟨.pendingMfaValidate token, some username⟩ :: done)
        (next (some (token, username)))) :
    Prog.Keeps c done (pendingUser request >>= next) := by
  unfold pendingUser
  cases sent : extractPendingMfaToken request.fields with
  | none => exact without done
  | some token =>
    refine ⟨allowed token, fun found => ?_⟩
    cases found with
    | none => exact without _
    | some username => exact valid token username ⟨sent, by simp⟩

theorem keeps_answering {status version : Nat} {body : Handler Response}
    (faults : ∀ done fault, c.post done (.error fault))
    (replies : ∀ done what, c.post done (.ok (errorResponse status what version)))
    (keeps : Prog.Keeps c done body) : Prog.Keeps c done (answering status version body) := by
  unfold answering caught
  rw [Prog.keeps_bind, Prog.keeps_handle, Prog.keeps_bind]
  apply keeps.mono
  · exact fun done op allowed => allowed
  · rintro done (fault | res) ends
    · cases fault with
      | invalidArgument what => exact replies done what
      | runtimeError => exact faults done _
    · exact ends

theorem keeps_acceptAssertion {fields : WebAuthnCredentialFields} {challenge : Challenge}
    {username origin : String} {credential : WebAuthnCredential} {next : Handler Response}
    (faults : ∀ done fault, c.post done (.error fault))
    (allowed : ∀ result, WebAuthn.verifyAuthentication libs challenge fields.clientDataJson
        fields.authenticatorDataOrAttestationObject fields.signature credential.cosePublicKey
        credential.signCount (webauthnRpId request) origin = .ok result →
      c.allowed done (.usersUpdateWebauthnSignCount username fields.idB64url result.newSignCount))
    (accepted : ∀ result, WebAuthn.verifyAuthentication libs challenge fields.clientDataJson
        fields.authenticatorDataOrAttestationObject fields.signature credential.cosePublicKey
        credential.signCount (webauthnRpId request) origin = .ok result →
      Prog.Keeps c
        (⟨.usersUpdateWebauthnSignCount username fields.idB64url result.newSignCount, .ok ()⟩ :: done)
        next) :
    Prog.Keeps c done (do
      acceptAssertion libs request fields challenge username credential origin
      next) := by
  unfold acceptAssertion
  cases verified : WebAuthn.verifyAuthentication libs challenge fields.clientDataJson
      fields.authenticatorDataOrAttestationObject fields.signature credential.cosePublicKey
      credential.signCount (webauthnRpId request) origin with
  | error fault => exact faults done fault
  | ok result =>
    refine ⟨allowed result verified, fun updated => ?_⟩
    rcases updated with fault | _
    · exact faults _ fault
    · exact accepted result verified

theorem keeps_issueSessionResponse_of {username : String} {flag : Bool} {version : Nat}
    (created : c.allowed done (.sessionsCreate username flag))
    (recorded : ∀ done, c.allowed done (.loginHistoryRecord username clientIp))
    (read : ∀ done, c.allowed done .configGet) (ends : ∀ later result, c.post (later ++ done) result) :
    Prog.Keeps c done (issueSessionResponse username flag version clientIp) := by
  refine ⟨created, fun issued => ?_⟩
  rcases issued with fault | token
  · exact ends [_] _
  · exact ⟨recorded _, fun _ => ⟨read _, fun _ => ⟨read _, fun _ => ends [_, _, _, _] _⟩⟩⟩

/-- An assertion that the verification accepts: what was sent, whose passkey it names and what the
check returned. -/
structure AcceptedAssertion (libs : Libraries) (request : Request) (challenge : Challenge)
    (config : RuntimeConfig) (user : UserRecord) (fields : WebAuthnCredentialFields) (credential : WebAuthnCredential)
    (result : WebAuthn.AssertionResult) : Prop where
  sent : ∃ body, libs.parseJsonObject request.body = some body ∧
    parseCredentialFields body false = some fields
  held : user.webauthnCredentials.find? (·.idB64url == fields.idB64url) = some credential
  verified : WebAuthn.verifyAuthentication libs challenge fields.clientDataJson
    fields.authenticatorDataOrAttestationObject fields.signature credential.cosePublicKey
    credential.signCount (webauthnRpId request)
    (webauthnExpectedOrigin request (RuntimeConfig.usesTls config)) = .ok result

theorem AcceptedAssertion.named {challenge : Challenge} {config : RuntimeConfig} {user : UserRecord}
    {fields : WebAuthnCredentialFields} {credential : WebAuthnCredential}
    {result : WebAuthn.AssertionResult}
    (h : AcceptedAssertion libs request challenge config user fields credential result) :
    credential ∈ user.webauthnCredentials ∧ credential.idB64url = fields.idB64url :=
  ⟨List.mem_of_find?_eq_some h.held, by simpa using List.find?_some h.held⟩

theorem keeps_loginVerify_of
    (faults : ∀ done fault, c.post done (.error fault))
    (replies : ∀ done status what, status ≠ 200 →
      c.post done (.ok (errorResponse status what request.version)))
    (consumes : ∀ cookie, extractWebauthnLoginToken request.fields = some cookie →
      c.allowed done (.challengesConsume (loginKey cookie)))
    (finds : ∀ key challenge credentialId, c.allowed (⟨.challengesConsume key, challenge⟩ :: done)
      (.usersFindByCredentialId credentialId))
    (reads : ∀ done, c.allowed done .configGet)
    (records : ∀ done username, c.allowed done (.loginHistoryRecord username clientIp))
    (accepted : ∀ cookie challenge config user fields credential result,
      extractWebauthnLoginToken request.fields = some cookie →
      AcceptedAssertion libs request challenge config user fields credential result → ∀ before : List Made,
      before = ⟨.configGet, config⟩ :: ⟨.usersFindByCredentialId fields.idB64url, some user⟩ ::
        ⟨.challengesConsume (loginKey cookie), some challenge⟩ :: done →
      c.allowed before
        (.usersUpdateWebauthnSignCount user.username fields.idB64url result.newSignCount) ∧
      c.allowed (⟨.usersUpdateWebauthnSignCount user.username fields.idB64url result.newSignCount,
        .ok ()⟩ :: before) (.sessionsCreate user.username false) ∧
      ∀ later r, c.post (later ++ ⟨.usersUpdateWebauthnSignCount user.username fields.idB64url
        result.newSignCount, .ok ()⟩ :: before) (.ok r)) :
    Prog.Keeps c done (handleWebauthnLoginVerify libs request clientIp) := by
  unfold handleWebauthnLoginVerify
  cases carried : extractWebauthnLoginToken request.fields with
  | none => exact replies _ _ _ (by decide)
  | some cookie =>
    refine ⟨consumes cookie carried, fun consumed => ?_⟩
    cases consumed with
    | none => exact replies _ _ _ (by decide)
    | some challenge =>
      simp only [Prog.bind_eq_bind, Prog.bind_ret]
      cases parsed : libs.parseJsonObject request.body with
      | none => exact replies _ _ _ (by decide)
      | some body =>
        dsimp only
        cases sent : parseCredentialFields body false with
        | none => exact replies _ _ _ (by decide)
        | some fields =>
          refine ⟨finds _ _ _, fun found => ?_⟩
          cases found with
          | none => exact replies _ _ _ (by decide)
          | some user =>
            simp only [Prog.bind_eq_bind, Prog.bind_ret]
            cases held : user.webauthnCredentials.find? (·.idB64url == fields.idB64url) with
            | none => exact replies _ _ _ (by decide)
            | some credential =>
              refine ⟨reads _, fun config => ?_⟩
              apply keeps_answering faults (fun _ _ => replies _ _ _ (by decide))
              apply keeps_acceptAssertion faults
              · intro result verified
                exact (accepted cookie challenge config user fields credential result carried
                  ⟨⟨body, parsed, sent⟩, held, verified⟩ _ rfl).1
              · intro result verified
                obtain ⟨_, created, ends⟩ := accepted cookie challenge config user fields credential
                  result carried ⟨⟨body, parsed, sent⟩, held, verified⟩ _ rfl
                rw [Prog.keeps_bind]
                refine keeps_issueSessionResponse_of ?_ (fun _ => ?_) (fun _ => ?_) fun later r => ?_
                · exact created
                · exact records _ _
                · exact reads _
                · cases r with
                  | error fault => exact faults _ _
                  | ok res => exact ⟨reads _, fun _ => ends (_ :: later) _⟩

theorem keeps_2faVerify_of
    (faults : ∀ done fault, c.post done (.error fault))
    (replies : ∀ done status what, status ≠ 200 →
      c.post done (.ok (errorResponse status what request.version)))
    (validates : ∀ token, c.allowed done (.pendingMfaValidate token))
    (consumes : ∀ token username, PendingValid request (⟨.pendingMfaValidate token, some username⟩ :: done)
      token username → c.allowed (⟨.pendingMfaValidate token, some username⟩ :: done)
        (.challengesConsume (login2faKey username)))
    (finds : ∀ token username key challenge, c.allowed (⟨.challengesConsume key, challenge⟩ ::
      ⟨.pendingMfaValidate token, some username⟩ :: done) (.usersFind username))
    (reads : ∀ done, c.allowed done .configGet)
    (invalidates : ∀ done token, c.allowed done (.pendingMfaInvalidate token))
    (records : ∀ done username, c.allowed done (.loginHistoryRecord username clientIp))
    (accepted : ∀ token username challenge config user fields credential result,
      PendingValid request (⟨.pendingMfaValidate token, some username⟩ :: done) token username →
      AcceptedAssertion libs request challenge config user fields credential result → ∀ before : List Made,
      before = ⟨.configGet, config⟩ :: ⟨.usersFind username, some user⟩ ::
        ⟨.challengesConsume (login2faKey username), some challenge⟩ ::
        ⟨.pendingMfaValidate token, some username⟩ :: done →
      c.allowed before (.usersUpdateWebauthnSignCount username fields.idB64url result.newSignCount) ∧
      c.allowed (⟨.pendingMfaInvalidate token, ()⟩ ::
        ⟨.usersUpdateWebauthnSignCount username fields.idB64url result.newSignCount, .ok ()⟩ :: before)
        (.sessionsCreate username false) ∧
      ∀ later r, c.post (later ++ ⟨.usersUpdateWebauthnSignCount username fields.idB64url
        result.newSignCount, .ok ()⟩ :: before) (.ok r)) :
    Prog.Keeps c done (handleWebauthn2faVerify libs request clientIp) := by
  unfold handleWebauthn2faVerify
  apply keeps_pendingUser validates
  · exact fun done => replies _ _ _ (by decide)
  intro token username pending
  refine ⟨consumes token username pending, fun consumed => ?_⟩
  cases consumed with
  | none => exact replies _ _ _ (by decide)
  | some challenge =>
    simp only [Prog.bind_eq_bind, Prog.bind_ret]
    cases parsed : libs.parseJsonObject request.body with
    | none => exact replies _ _ _ (by decide)
    | some body =>
      dsimp only
      cases sent : parseCredentialFields body false with
      | none => exact replies _ _ _ (by decide)
      | some fields =>
        refine ⟨finds _ _ _ _, fun found => ?_⟩
        cases found with
        | none => exact replies _ _ _ (by decide)
        | some user =>
          simp only [Prog.bind_eq_bind, Prog.bind_ret]
          cases held : user.webauthnCredentials.find? (·.idB64url == fields.idB64url) with
          | none => exact replies _ _ _ (by decide)
          | some credential =>
            refine ⟨reads _, fun config => ?_⟩
            apply keeps_answering faults (fun _ _ => replies _ _ _ (by decide))
            apply keeps_acceptAssertion faults
            · intro result verified
              exact (accepted token username challenge config user fields credential result pending
                ⟨⟨body, parsed, sent⟩, held, verified⟩ _ rfl).1
            · intro result verified
              obtain ⟨_, created, ends⟩ := accepted token username challenge config user fields
                credential result pending ⟨⟨body, parsed, sent⟩, held, verified⟩ _ rfl
              refine ⟨invalidates _ _, fun _ => ?_⟩
              apply keeps_issueSessionResponse_of created (fun _ => records _ _) reads
              intro later r
              cases r with
              | error fault => exact faults _ _
              | ok res =>
                have at_end := ends (later ++ [⟨.pendingMfaInvalidate token, ()⟩]) res
                rw [List.append_assoc] at at_end
                exact at_end

end Parts

/-! ### The handlers keep it -/

theorem keeps_issueSessionResponse {username : String} {flag : Bool} {version : Nat}
    {post : List Made → Except Fault Response → Prop} (ends : ∀ done r, post done r)
    (quiet : Quiet done) (may : MayIssue libs request done username flag) :
    Prog.Keeps ⟨MayCall libs request, post⟩ done
      (issueSessionResponse username flag version clientIp) :=
  keeps_issueSessionResponse_of ⟨quiet, may⟩ (fun _ => trivial) (fun _ => trivial) fun _ _ => ends _ _

theorem keeps_handleAuthStatus (reads : OnlyReads done) :
    Prog.Keeps (discipline libs request) done (handleAuthStatus request) := by
  unfold handleAuthStatus
  cases extractSessionToken request.fields with
  | none => simp [discipline, MayCall]
  | some token => exact ⟨trivial, fun _ => ⟨onlyReads_cons.mpr ⟨trivial, reads⟩, fun _ => trivial⟩⟩

theorem keeps_handleAuthSetup (reads : OnlyReads done) :
    Prog.Keeps (discipline libs request) done (handleAuthSetup libs request clientIp) := by
  refine ⟨trivial, fun empty => ?_⟩
  cases empty with
  | false => trivial
  | true =>
    cases sent : credentialsOf libs request with
    | error reply => trivial
    | ok credentials =>
      obtain ⟨username, password⟩ := credentials
      simp only [Prog.bind_eq_bind, Prog.bind_ret, Bool.not_true, Bool.false_eq_true, if_false]
      refine ⟨recordsKept_cons.mpr ⟨trivial, reads.recordsKept⟩, ?_⟩
      rintro ((what | _) | created)
      · trivial
      · trivial
      · cases created with
        | false => trivial
        | true =>
          refine ⟨trivial, fun config => keeps_issueSessionResponse (fun _ _ => trivial) ?_ ?_⟩
          · simp [Call.Disrupts, reads.quiet]
          · exact @MayIssue.setup _ _ _ username password config sent (by simp) (by simp)

theorem keeps_handleAuthLogin (reads : OnlyReads done) :
    Prog.Keeps (discipline libs request) done (handleAuthLogin libs request clientIp) := by
  unfold handleAuthLogin
  cases sent : credentialsOf libs request with
  | error reply => trivial
  | ok credentials =>
    obtain ⟨username, password⟩ := credentials
    refine ⟨reads.recordsKept, fun found => ?_⟩
    cases found with
    | none => trivial
    | some user =>
      cases checked : verifyPassword libs password user.passwordHash with
      | error fault => simp [checked, discipline]
      | ok right =>
        cases right with
        | false => simp [checked, discipline]
        | true =>
          have proved : ∀ later : List Made, PasswordProved libs request
              (later ++ ⟨.usersFind username, some user⟩ :: done) username user :=
            fun later => ⟨password, sent, by simp [Returned], checked⟩
          cases factor : user.hasSecondFactor with
          | true =>
            simp only [checked, factor, Prog.bind_eq_bind, Prog.orRaise_ok, Prog.bind_ret,
              Bool.not_true, Bool.false_eq_true, if_false, if_true]
            refine ⟨⟨by simp [Call.Reads, reads], user, proved []⟩, ?_⟩
            rintro (fault | token)
            · trivial
            · exact ⟨trivial, fun _ => trivial⟩
          | false =>
            simp only [checked, factor, Prog.bind_eq_bind, Prog.orRaise_ok, Prog.bind_ret,
              Bool.not_true, Bool.false_eq_true, if_false]
            refine ⟨trivial, fun config => keeps_issueSessionResponse (fun _ _ => trivial) ?_ ?_⟩
            · simp [Call.Disrupts, reads.quiet]
            · exact @MayIssue.login _ _ _ username user config (proved [⟨.configGet, config⟩]) factor
                (by simp)

theorem keeps_handleAuthLogout :
    Prog.Keeps (discipline libs request) done (handleAuthLogout request) := by
  unfold handleAuthLogout
  cases extractSessionToken request.fields <;> simp [discipline, MayCall, adminUsesTls]

theorem keeps_pendingUser_reads {next : Option (String × String) → Handler Response}
    (reads : OnlyReads done)
    (without : ∀ done, Prog.Keeps (discipline libs request) done (next none))
    (valid : ∀ token username done, OnlyReads done → PendingValid request done token username →
      Prog.Keeps (discipline libs request) done (next (some (token, username)))) :
    Prog.Keeps (discipline libs request) done (pendingUser request >>= next) := by
  apply keeps_pendingUser (fun _ => reads) without
  intro token username pending
  exact valid token username _ (by simp [Call.Reads, reads]) pending

theorem keeps_handleAuth2faTotpVerify (reads : OnlyReads done) :
    Prog.Keeps (discipline libs request) done (handleAuth2faTotpVerify libs request clientIp) := by
  unfold handleAuth2faTotpVerify
  apply keeps_pendingUser_reads reads
  · intro done
    trivial
  intro token username done reads pending
  cases sent : codeOf libs request with
  | none => trivial
  | some code =>
    refine ⟨reads.recordsKept, fun found => ?_⟩
    cases known : found.bind (·.totp) with
    | none => simp [known, discipline]
    | some totp =>
      obtain ⟨user, rfl, enrolled⟩ := Option.bind_eq_some_iff.mp known
      simp only [Prog.bind_eq_bind, Prog.bind_ret, known]
      refine ⟨trivial, fun now => ?_⟩
      cases verified : Totp.verify libs totp.secretBase32 code (toSeconds now) with
      | error fault => simp [verified, discipline]
      | ok matched =>
        cases matched with
        | none => simp [verified, discipline]
        | some step =>
          simp only [Prog.bind_eq_bind, Prog.bind_ret, verified, Prog.orRaise_ok]
          refine ⟨trivial, fun fresh => ?_⟩
          cases fresh with
          | false => trivial
          | true =>
            refine ⟨trivial, fun _ => keeps_issueSessionResponse (fun _ _ => trivial) ?_ ?_⟩
            · simp [Call.Disrupts, reads.quiet]
            · exact @MayIssue.totp _ _ _ token username code user totp now step
                pending.cons.cons.cons.cons sent (by simp) enrolled (by simp) verified (by simp)

theorem keeps_handleAuth2faBackupCodeVerify (reads : OnlyReads done) :
    Prog.Keeps (discipline libs request) done
      (handleAuth2faBackupCodeVerify libs request clientIp) := by
  unfold handleAuth2faBackupCodeVerify
  apply keeps_pendingUser_reads reads
  · intro done
    trivial
  intro token username done reads pending
  cases sent : codeOf libs request with
  | none => trivial
  | some code =>
    refine ⟨reads.recordsKept, fun consumed => ?_⟩
    rcases consumed with fault | (_ | _)
    · trivial
    · trivial
    · refine ⟨trivial, fun _ => keeps_issueSessionResponse (fun _ _ => trivial) ?_ ?_⟩
      · simp [Call.Disrupts, reads.quiet]
      · exact @MayIssue.backupCode _ _ _ token username code pending.cons.cons sent (by simp)

theorem keeps_handleAuth2faStatus (reads : OnlyReads done) :
    Prog.Keeps (discipline libs request) done (handleAuth2faStatus libs request actingUser) := by
  refine ⟨reads.recordsKept, fun found => ?_⟩
  cases found <;> trivial

theorem keeps_handleAuth2faTotpSetup :
    Prog.Keeps (discipline libs request) done (handleAuth2faTotpSetup request actingUser) := by
  refine ⟨trivial, fun secret => ?_⟩
  cases secret with
  | error fault => trivial
  | ok secret => exact ⟨trivial, fun _ => trivial⟩

theorem keeps_handleAuth2faTotpConfirm (reads : OnlyReads done)
    (entered : Entered request done actingUser) :
    Prog.Keeps (discipline libs request) done
      (handleAuth2faTotpConfirm libs request actingUser) := by
  refine ⟨trivial, fun pending => ?_⟩
  cases pending with
  | none => trivial
  | some secret =>
    cases sent : codeOf libs request with
    | none => trivial
    | some code =>
      simp only [Prog.bind_eq_bind, Prog.bind_ret]
      refine ⟨trivial, fun now => ?_⟩
      cases verified : Totp.verify libs secret code (toSeconds now) with
      | error fault => simp [verified, discipline]
      | ok matched =>
        cases matched with
        | none => simp [verified, discipline]
        | some step =>
          simp only [verified, Prog.bind_eq_bind, Prog.bind_ret, Prog.orRaise_ok]
          refine ⟨trivial, fun generated => ?_⟩
          rcases generated with fault | codes
          · trivial
          refine ⟨trivial, fun stored => ?_⟩
          rcases stored with (what | _) | _
          · trivial
          · trivial
          refine ⟨trivial, fun _ => ⟨trivial, fun _ => ?_⟩⟩
          cases cookie : extractSessionToken request.fields with
          | none => trivial
          | some token =>
            obtain ⟨other, info, sent, known, rfl, _⟩ := entered
            obtain rfl : other = token := Option.some.inj (sent.symm.trans cookie)
            refine ⟨⟨by simp [Call.Disrupts, reads.quiet], info, ?_, Or.inl ⟨secret, codes, ?_⟩⟩,
              fun _ => trivial⟩
            · simp [known]
            · simp

theorem keeps_verifyCurrentPassword {username password : String} {next : Bool → Handler Response}
    (reads : OnlyReads done)
    (wrong : ∀ done, Prog.Keeps (discipline libs request) done (next false))
    (right : ∀ done, OnlyReads done → Prog.Keeps (discipline libs request) done (next true)) :
    Prog.Keeps (discipline libs request) done
      (verifyCurrentPassword libs username password >>= next) := by
  refine ⟨reads.recordsKept, fun found => ?_⟩
  cases found with
  | none => exact wrong _
  | some user =>
    simp only [Prog.bind_eq_bind, Prog.bind_ret]
    cases verifyPassword libs password user.passwordHash with
    | error fault => trivial
    | ok checked =>
      cases checked with
      | false => exact wrong _
      | true => exact right _ (by simp [Call.Reads, reads])

theorem keeps_handleAuth2faTotpDisable (reads : OnlyReads done) :
    Prog.Keeps (discipline libs request) done
      (handleAuth2faTotpDisable libs request actingUser) := by
  unfold handleAuth2faTotpDisable
  cases passwordOf libs request with
  | none => trivial
  | some password =>
    apply keeps_verifyCurrentPassword reads
    · intro done
      trivial
    intro done reads
    refine ⟨trivial, fun config => ?_⟩
    cases policy : config.security.require2fa with
    | true =>
      simp only [Prog.bind_eq_bind, Prog.bind_ret, policy, if_true]
      trivial
    | false =>
      simp only [Prog.bind_eq_bind, Prog.bind_ret, policy, Bool.false_eq_true, if_false]
      refine ⟨⟨by simp [Call.Reads, reads], config, by simp, policy⟩, fun cleared => ?_⟩
      rcases cleared with (what | _) | _ <;> trivial

theorem keeps_handleAuth2faBackupCodesRegenerate (reads : OnlyReads done) :
    Prog.Keeps (discipline libs request) done
      (handleAuth2faBackupCodesRegenerate libs request actingUser) := by
  unfold handleAuth2faBackupCodesRegenerate
  cases passwordOf libs request with
  | none => trivial
  | some password =>
    apply keeps_verifyCurrentPassword reads
    · intro done
      trivial
    · intro done reads
      refine ⟨trivial, fun codes => ?_⟩
      rcases codes with (what | _) | _ <;> trivial

theorem keeps_handleWebauthnRegisterOptions (reads : OnlyReads done) :
    Prog.Keeps (discipline libs request) done (handleWebauthnRegisterOptions request actingUser) := by
  refine ⟨reads.recordsKept, fun found => ?_⟩
  cases found with
  | none => trivial
  | some user =>
    refine ⟨trivial, fun challenge => ?_⟩
    cases challenge with
    | error fault => trivial
    | ok challenge =>
      refine ⟨trivial, fun _ => ⟨trivial, fun handle => ?_⟩⟩
      cases handle <;> trivial

theorem keeps_handleWebauthnRegisterVerify (reads : OnlyReads done)
    (entered : Entered request done actingUser) :
    Prog.Keeps (discipline libs request) done
      (handleWebauthnRegisterVerify libs request actingUser) := by
  unfold handleWebauthnRegisterVerify
  cases libs.parseJsonObject request.body with
  | none => trivial
  | some body =>
    cases sent : parseCredentialFields body true with
    | none => simp [sent, discipline]
    | some fields =>
      simp only [sent]
      refine ⟨reads, fun consumed => ?_⟩
      cases consumed with
      | none => trivial
      | some challenge =>
        refine ⟨trivial, fun config => ?_⟩
        simp only [Prog.bind_eq_bind, Prog.bind_ret, Prog.pure_eq_ret]
        cases WebAuthn.verifyRegistration libs challenge fields.clientDataJson
            fields.authenticatorDataOrAttestationObject (webauthnRpId request)
            (webauthnExpectedOrigin request (RuntimeConfig.usesTls config)) with
        | error fault => cases fault <;> trivial
        | ok result =>
          refine ⟨trivial, fun createdAt => ⟨trivial, fun stored => ?_⟩⟩
          rcases stored with (what | _) | _
          · trivial
          · trivial
          cases cookie : extractSessionToken request.fields with
          | none => trivial
          | some token =>
            obtain ⟨other, info, sent, known, rfl, _⟩ := entered
            obtain rfl : other = token := Option.some.inj (sent.symm.trans cookie)
            refine ⟨⟨by simp [Call.Disrupts, reads.quiet], info, ?_, Or.inr ?_⟩,
              fun _ => trivial⟩
            · simp [known]
            · exact ⟨_, List.mem_cons_self⟩

theorem keeps_handleWebauthnDelete {credentialId : String} (reads : OnlyReads done) :
    Prog.Keeps (discipline libs request) done
      (handleWebauthnDelete request actingUser credentialId) := by
  refine ⟨reads.recordsKept, fun found => ?_⟩
  cases found with
  | none => trivial
  | some user =>
    have removal : ∀ more : List Made, OnlyReads more →
        (user.totp.isSome = true ∨ 2 ≤ user.webauthnCredentials.length ∨
          ∃ config, Returned (more ++ ⟨.usersFind actingUser, some user⟩ :: done) .configGet config ∧
            config.security.require2fa = false) →
        Prog.Keeps (discipline libs request) (more ++ ⟨.usersFind actingUser, some user⟩ :: done)
          (do if !(← usersRemoveWebauthnCredential actingUser credentialId) then
                return errorResponse 404 "passkey not found" request.version
              else return jsonResponse 200 (.object []) request.version) := by
      intro more moreReads factor
      refine ⟨⟨?_, user, by simp [Returned], factor⟩, fun removed => ?_⟩
      · intro e member
        rcases List.mem_append.mp member with here | there
        · exact moreReads e here
        · rcases List.mem_cons.mp there with rfl | there
          · trivial
          · exact reads e there
      · rcases removed with fault | (_ | _) <;> trivial
    cases only : user.totp.isNone && decide (user.webauthnCredentials.length ≤ 1) with
    | false =>
      simp only [Prog.bind_eq_bind, Prog.bind_ret, only, require2faIf, Bool.false_eq_true, if_false,
        Prog.pure_eq_ret]
      refine removal [] (by simp [OnlyReads]) ?_
      rcases Bool.and_eq_false_iff.mp only with enrolled | several
      · exact Or.inl (by simpa [Option.isSome_iff_ne_none] using enrolled)
      · exact Or.inr (Or.inl (by simpa [Nat.lt_iff_add_one_le] using several))
    | true =>
      simp only [Prog.bind_eq_bind, Prog.bind_ret, only, require2faIf, if_true]
      refine ⟨trivial, fun config => ?_⟩
      cases policy : config.security.require2fa with
      | true =>
        simp only [Prog.bind_eq_bind, Prog.bind_ret, policy, Prog.pure_eq_ret, if_true]
        trivial
      | false =>
        simp only [Prog.bind_eq_bind, Prog.bind_ret, policy, Prog.pure_eq_ret, Bool.false_eq_true,
          if_false]
        exact removal [⟨.configGet, config⟩] (by simp [OnlyReads, Call.Reads])
          (Or.inr (Or.inr ⟨config, by simp, policy⟩))

theorem keeps_handleWebauthnLoginOptions :
    Prog.Keeps (discipline libs request) done (handleWebauthnLoginOptions request) := by
  refine ⟨trivial, fun challenge => ?_⟩
  cases challenge with
  | error fault => trivial
  | ok challenge =>
    refine ⟨trivial, fun bytes => ?_⟩
    cases bytes with
    | error fault => trivial
    | ok bytes => exact ⟨trivial, fun _ => ⟨trivial, fun _ => trivial⟩⟩

theorem keeps_handleWebauthnLoginVerify (reads : OnlyReads done) :
    Prog.Keeps (discipline libs request) done
      (handleWebauthnLoginVerify libs request clientIp) := by
  apply keeps_loginVerify_of (fun _ _ => trivial) (fun _ _ _ _ => trivial) (fun _ _ => reads)
    (fun _ _ _ => by simp [Call.KeepsRecords, MayCall, discipline, reads.recordsKept])
    (fun _ => trivial) (fun _ _ => trivial)
  intro cookie challenge config user fields credential result carried accepts before same
  subst same
  refine ⟨trivial, ⟨by simp [Call.Disrupts, reads.quiet], ?_⟩, fun _ _ => trivial⟩
  obtain ⟨member, named⟩ := accepts.named
  obtain ⟨body, parsed, sent⟩ := accepts.sent
  refine @MayIssue.passkeyLogin _ _ _ cookie user credential carried ?_ member
    ⟨body, fields, challenge, config, result, parsed, sent, named, ?_, ?_, accepts.verified⟩
  · simp [named]
  · simp
  · simp

theorem keeps_handleWebauthn2faOptions (reads : OnlyReads done) :
    Prog.Keeps (discipline libs request) done (handleWebauthn2faOptions request) := by
  unfold handleWebauthn2faOptions
  apply keeps_pendingUser_reads reads
  · intro done
    trivial
  intro token username done reads pending
  refine ⟨reads.recordsKept, fun found => ?_⟩
  cases found with
  | none => trivial
  | some user =>
    refine ⟨trivial, fun challenge => ?_⟩
    cases challenge with
    | error fault => trivial
    | ok challenge => exact ⟨trivial, fun _ => trivial⟩

theorem keeps_handleWebauthn2faVerify (reads : OnlyReads done) :
    Prog.Keeps (discipline libs request) done
      (handleWebauthn2faVerify libs request clientIp) := by
  apply keeps_2faVerify_of (fun _ _ => trivial) (fun _ _ _ _ => trivial) (fun _ => reads)
    (fun _ _ _ => by simp [Call.Reads, MayCall, discipline, reads])
    (fun _ _ _ _ => by simp [Call.KeepsRecords, MayCall, discipline, reads.recordsKept])
    (fun _ => trivial) (fun _ _ => trivial) (fun _ _ => trivial)
  intro token username challenge config user fields credential result pending accepts before same
  subst same
  refine ⟨trivial, ⟨by simp [Call.Disrupts, reads.quiet], ?_⟩, fun _ _ => trivial⟩
  obtain ⟨member, named⟩ := accepts.named
  obtain ⟨body, parsed, sent⟩ := accepts.sent
  refine @MayIssue.passkeySecond _ _ _ token username user credential
    pending.cons.cons.cons.cons.cons (by simp) member
    ⟨body, fields, challenge, config, result, parsed, sent, named, ?_, ?_, accepts.verified⟩
  · simp
  · simp

theorem keeps_handleSecurityConfigUpdate (reads : OnlyReads done)
    (route : handlerFor request.method request.target = .securityConfigUpdate)
    (entered : Entered request done actingUser) :
    Prog.Keeps (discipline libs request) done (handleSecurityConfigUpdate libs request) := by
  unfold handleSecurityConfigUpdate
  cases parsed : libs.parseJsonObject request.body with
  | none => trivial
  | some body =>
    refine ⟨Or.inr ⟨reads, route, ⟨actingUser, entered⟩, body, parsed, rfl⟩, fun updated => ?_⟩
    rcases updated with fault | _
    · trivial
    · exact ⟨trivial, fun _ => trivial⟩

theorem keeps_handleUsersCreate :
    Prog.Keeps (discipline libs request) done (handleUsersCreate libs request) := by
  unfold handleUsersCreate
  cases credentialsOf libs request with
  | error reply => trivial
  | ok credentials =>
    refine ⟨trivial, fun created => ?_⟩
    rcases created with (what | _) | _
    · trivial
    · trivial
    · exact ⟨trivial, fun _ => trivial⟩

theorem keeps_handleUsersDelete {username : String} (reads : OnlyReads done)
    (route : handlerFor request.method request.target = .usersDelete username)
    (entered : Entered request done actingUser) :
    Prog.Keeps (discipline libs request) done (handleUsersDelete libs request username) := by
  refine ⟨⟨reads, route, actingUser, entered⟩, fun removed => ?_⟩
  rcases removed with (what | _) | (_ | _)
  · trivial
  · trivial
  · trivial
  · exact ⟨trivial, fun _ => trivial⟩

theorem Call.LeavesAccounts.mayCall {op : Call} (h : op.LeavesAccounts) : MayCall libs request done op := by
  cases op <;> first | trivial | exact Or.inl h

theorem Entered.cons {e : Made} (h : Entered request done actingUser) :
    Entered request (e :: done) actingUser := by
  obtain ⟨token, info, sent, known, same, passed⟩ := h
  exact ⟨token, info, sent, List.mem_cons_of_mem _ known, same, passed⟩

theorem keeps_runRoute {others : OtherHandlers} {route : Route} (reads : OnlyReads done)
    (reach : handlerFor request.method request.target = route)
    (entered : ¬ Open route → Entered request done actingUser) :
    Prog.Keeps (discipline libs request) done
      (runRoute libs others request actingUser clientIp route) := by
  have other : Prog.Keeps (discipline libs request) done (others.run route request actingUser) :=
    (others.frame route request actingUser done).mono (fun _ _ leaves => leaves.mayCall)
      (fun _ _ _ => trivial)
  have read (config : RuntimeConfig) : OnlyReads (⟨.configGet, config⟩ :: done) := by
    simp [Call.Reads, reads]
  cases route
  case authStatus => exact ⟨trivial, fun config => keeps_handleAuthStatus (read config)⟩
  case authSetup => exact ⟨trivial, fun config => keeps_handleAuthSetup (read config)⟩
  case authLogin => exact ⟨trivial, fun config => keeps_handleAuthLogin (read config)⟩
  case authLogout => exact ⟨trivial, fun _ => keeps_handleAuthLogout⟩
  case totpVerify => exact ⟨trivial, fun config => keeps_handleAuth2faTotpVerify (read config)⟩
  case backupCodeVerify =>
    exact ⟨trivial, fun config => keeps_handleAuth2faBackupCodeVerify (read config)⟩
  case twoFactorStatus => exact ⟨trivial, fun config => keeps_handleAuth2faStatus (read config)⟩
  case totpSetup => exact ⟨trivial, fun _ => keeps_handleAuth2faTotpSetup⟩
  case totpConfirm =>
    exact ⟨trivial, fun config =>
      keeps_handleAuth2faTotpConfirm (read config) (entered (by decide)).cons⟩
  case totpDisable => exact ⟨trivial, fun config => keeps_handleAuth2faTotpDisable (read config)⟩
  case backupCodesRegenerate =>
    exact ⟨trivial, fun config => keeps_handleAuth2faBackupCodesRegenerate (read config)⟩
  case webauthnLoginOptions => exact ⟨trivial, fun _ => keeps_handleWebauthnLoginOptions⟩
  case webauthnLoginVerify =>
    exact ⟨trivial, fun config => keeps_handleWebauthnLoginVerify (read config)⟩
  case webauthn2faOptions =>
    exact ⟨trivial, fun config => keeps_handleWebauthn2faOptions (read config)⟩
  case webauthn2faVerify =>
    exact ⟨trivial, fun config => keeps_handleWebauthn2faVerify (read config)⟩
  case webauthnRegisterOptions =>
    exact ⟨trivial, fun config => keeps_handleWebauthnRegisterOptions (read config)⟩
  case webauthnRegisterVerify =>
    exact ⟨trivial, fun config =>
      keeps_handleWebauthnRegisterVerify (read config) (entered (by decide)).cons⟩
  case webauthnDelete =>
    exact ⟨trivial, fun config => keeps_handleWebauthnDelete (read config)⟩
  case securityConfig => exact ⟨trivial, fun _ => trivial⟩
  case securityConfigUpdate =>
    exact ⟨trivial, fun config => keeps_handleSecurityConfigUpdate (read config) reach
      (entered (by decide)).cons⟩
  case users => exact ⟨trivial, fun _ => ⟨trivial, fun _ => trivial⟩⟩
  case usersCreate => exact ⟨trivial, fun _ => keeps_handleUsersCreate⟩
  case usersDelete =>
    exact ⟨trivial, fun config => keeps_handleUsersDelete (read config) reach
      (entered (by simp [Open, publicAuthRoutes])).cons⟩
  case methodNotAllowed => exact ⟨trivial, fun _ => trivial⟩
  all_goals exact other

theorem gate_pass {s : SessionInfo} {target user : String} (auth : needsAuth target = true)
    (h : gate (some s) target = .pass user) : s.username = user := by
  simp only [gate, auth, if_true] at h
  split at h
  · cases h
  · exact Gate.pass.inj h

theorem keeps_handleConnection (others : OtherHandlers) (clientIp : String) :
    Prog.Keeps (discipline libs request) [] (handleConnection libs others request clientIp) := by
  unfold handleConnection gateSession
  by_cases auth : needsAuth request.target = true
  · rw [if_pos auth]
    cases cookie : extractSessionToken request.fields with
    | none => simp [gate, auth, discipline]
    | some token =>
      refine ⟨by simp [discipline, MayCall, OnlyReads], fun found => ?_⟩
      cases found with
      | none => simp [gate, auth, discipline]
      | some info =>
        simp only [Prog.bind_eq_bind, Prog.bind_ret]
        cases passed : gate (some info) request.target with
        | unauthorized => trivial
        | mfaSetupRequired => trivial
        | pass user =>
          have entered : Entered request [⟨.sessionsValidate token, some info⟩] user :=
            ⟨token, info, cookie, by simp, gate_pass auth passed, passed⟩
          exact keeps_runRoute (by simp [OnlyReads, Call.Reads]) rfl (fun _ => entered)
  · rw [if_neg auth]
    have isOpen : Open (handlerFor request.method request.target) :=
      handlerFor_open (by simpa using auth)
    simp only [Prog.pure_eq_ret, Prog.bind_ret, gate, auth, Bool.false_eq_true, if_false]
    exact keeps_runRoute (by simp [OnlyReads]) rfl (fun closed => absurd isOpen closed)

end Atomwall.Admin
