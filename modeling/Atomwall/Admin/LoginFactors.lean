import Atomwall.Admin.MandatoryFactor

/-!
What a request has shown when it gets a session that is not sent to enrol, in terms of the accounts and
stores it found and of the earlier request that its pending login came from.
-/

namespace Atomwall.Admin

open Http ByteString

section Shown

variable (libs : Libraries) (app : AppState) (a : Arrival) (username : String)

/-- The body carries the password of the account. -/
def PasswordCorrect : Prop :=
  ∃ password user, credentialsOf libs a.request = .ok (username, password) ∧
    app.users.find username = some user ∧ verifyPassword libs password user.passwordHash = .ok true

/-- The request carries a pending-MFA token that is valid for the account. -/
def PendingNow (token : String) : Prop :=
  extractPendingMfaToken a.request.fields = some token ∧
    app.pendingMfa.validate (a.moment 0) token = some username

/-- The body carries a code for the account's secret at a step the account has not used up. -/
def FreshTotpCode : Prop :=
  ∃ code user totp step, codeOf libs a.request = some code ∧ app.users.find username = some user ∧
    user.totp = some totp ∧
    Totp.verify libs totp.secretBase32 code (toSeconds a.now) = .ok (some step) ∧
    ∀ last, app.users.lastTotpStep.lookup username = some last → last < step

/-- The body carries one of the account's backup codes that has not been used. -/
def UnusedBackupCode : Prop :=
  ∃ code user stored, codeOf libs a.request = some code ∧ app.users.find username = some user ∧
    stored ∈ user.backupCodes ∧ stored.used = false ∧ verifyPassword libs code stored.hash = .ok true

/-- The body carries an assertion, by a passkey stored for the account, of the unexpired challenge that
the ceremony's key holds. -/
def PasskeyAsserted (key : String) : Prop :=
  ∃ user credential body fields entry result, user ∈ app.users.users ∧ user.username = username ∧
    credential ∈ user.webauthnCredentials ∧ libs.parseJsonObject a.request.body = some body ∧
    parseCredentialFields body false = some fields ∧ credential.idB64url = fields.idB64url ∧
    app.challenges.entries.lookup key = some entry ∧ a.now ≤ entry.expiresAt ∧
    WebAuthn.verifyAuthentication libs entry.challenge fields.clientDataJson
      fields.authenticatorDataOrAttestationObject fields.signature credential.cosePublicKey
      credential.signCount (webauthnRpId a.request)
      (webauthnExpectedOrigin a.request (RuntimeConfig.usesTls app.config)) = .ok result

/-- A factor of the account, behind its password where `pending` tells so, or the password alone where
the account has no factor and needs none. -/
inductive FactorsShown (pending : Prop) : Prop where
  | totp (first : pending) (code : FreshTotpCode libs app a username)
  | backupCode (first : pending) (code : UnusedBackupCode libs app a username)
  | passkeySecond (first : pending)
      (asserted : PasskeyAsserted libs app a username (login2faKey username))
  | passkey (cookie : String) (sent : extractWebauthnLoginToken a.request.fields = some cookie)
      (asserted : PasskeyAsserted libs app a username (loginKey cookie))
  | password (correct : PasswordCorrect libs app a username)
      (noFactor : app.users.hasSecondFactor username = false)
      (policy : app.config.security.require2fa = false)
  | setup (password : String) (sent : credentialsOf libs a.request = .ok (username, password))
      (noAccounts : app.users.users = []) (policy : app.config.security.require2fa = false)

end Shown

variable {libs : Libraries} {others : OtherHandlers} {app s : AppState} {a : Arrival}
  {done : List Made} {op : Call} {n : Nat} {username token : String}

theorem FactorsShown.imp {first second : Prop} (h : first → second) :
    FactorsShown libs app a username first → FactorsShown libs app a username second
  | .totp pending code => .totp (h pending) code
  | .backupCode pending code => .backupCode (h pending) code
  | .passkeySecond pending asserted => .passkeySecond (h pending) asserted
  | .passkey cookie sent asserted => .passkey cookie sent asserted
  | .password correct noFactor policy => .password correct noFactor policy
  | .setup given sent noAccounts policy => .setup given sent noAccounts policy

theorem PasswordProved.correct {user : UserRecord} (context : Context libs app a done s)
    (proved : PasswordProved libs a.request done username user) :
    PasswordCorrect libs app a username ∧ app.users.find username = some user := by
  obtain ⟨password, sent, known, right⟩ := proved
  have found : app.users.find username = some user := context.seen _ known
  exact ⟨⟨password, user, sent, found, right⟩, found⟩

theorem AssertionVerified.asserted {key : String} {user : UserRecord} {credential : WebAuthnCredential}
    (context : Context libs app a done s) (quiet : Quiet done) (known : user ∈ app.users.users)
    (named : user.username = username) (stored : credential ∈ user.webauthnCredentials)
    (verified : AssertionVerified libs a.request done key credential) :
    PasskeyAsserted libs app a username key := by
  obtain ⟨body, fields, challenge, config, result, parsed, sent, same, consumed, asked, accepted⟩ :=
    verified
  obtain ⟨entry, held, rfl, unexpired⟩ := context.seen _ consumed
  have learnt : SamePolicy config s.config := context.learnt quiet _ asked
  have origin : RuntimeConfig.usesTls config = RuntimeConfig.usesTls app.config := by
    unfold RuntimeConfig.usesTls
    rw [(learnt.trans (context.policy quiet)).2]
  rw [origin] at accepted
  exact ⟨user, credential, body, fields, entry, result, known, named, stored, parsed, sent, same, held,
    unexpired, accepted⟩

theorem MayIssue.shown {flag : Bool} (context : Context libs app a done s) (quiet : Quiet done)
    (may : MayIssue libs a.request done username flag) (full : flag = false) :
    FactorsShown libs app a username (∃ token, PendingNow app a username token) := by
  have policyOff (config : RuntimeConfig) (asked : Returned done .configGet config)
      (off : config.security.require2fa = false) : app.config.security.require2fa = false := by
    have learnt : SamePolicy config s.config := context.learnt quiet _ asked
    rw [← (learnt.trans (context.policy quiet)).1, off]
  have pendingNow {token username : String} (pending : PendingValid a.request done token username) :
      ∃ token, PendingNow app a username token :=
    ⟨token, pending.1, context.seen _ pending.2⟩
  cases may with
  | setup sent created policy =>
    exact .setup _ sent (context.seen _ created) (policyOff _ policy full)
  | login proved noFactor policy =>
    obtain ⟨correct, found⟩ := proved.correct context
    refine .password correct ?_ (policyOff _ policy full)
    unfold UserStore.hasSecondFactor
    rw [found]
    exact noFactor
  | totp pending sent known enrolled clock verified fresh =>
    obtain rfl : _ = a.now := context.seen _ clock
    exact .totp (pendingNow pending)
      ⟨_, _, _, _, sent, context.seen _ known, enrolled, verified, context.seen _ fresh⟩
  | backupCode pending sent consumed =>
    obtain ⟨user, codes, found, matched⟩ := context.seen _ consumed
    obtain ⟨stored, member, unused, right⟩ := BackupCodes.consume_some matched
    exact .backupCode (pendingNow pending) ⟨_, user, stored, sent, found, member, unused, right⟩
  | passkeyLogin sent known stored verified =>
    have found := context.seen _ known
    exact .passkey _ sent
      (verified.asserted context quiet (List.mem_of_find?_eq_some found) rfl stored)
  | passkeySecond pending known stored verified =>
    have found : app.users.find username = some _ := context.seen _ known
    exact .passkeySecond (pendingNow pending) (verified.asserted context quiet
      (UserStore.find_mem found) (UserStore.find_username found) stored)

/-! ### Pending logins -/

/-- Where the pending logins come from that a call leaves. -/
theorem perform_pendingMfa {m : Moment} {e : PendingMfa}
    (found : (perform libs op m s).2.pendingMfa.lookup token = some e) :
    (op = .pendingMfaCreate e.username ∧ e.expiresAt = m.now + minutes 5 ∧
        (⟨op, (perform libs op m s).1⟩ : Made) = ⟨.pendingMfaCreate e.username, .ok token⟩) ∨
      s.pendingMfa.lookup token = some e := by
  cases op with
  | pendingMfaCreate username =>
    rcases made : s.pendingMfa.create m username with ⟨(fault | issued), next⟩
    · simp only [perform, made] at found
      rw [PendingMfaStore.create_error made] at found
      exact Or.inr found
    · simp only [perform, made] at found ⊢
      rcases PendingMfaStore.lookup_create made found with ⟨rfl, rfl⟩ | old
      · exact Or.inl ⟨rfl, rfl, rfl⟩
      · exact Or.inr old
  | pendingMfaInvalidate other =>
    have erased : (s.pendingMfa.erase other).lookup token = some e := found
    rw [KeyMap.lookup_erase_ite] at erased
    split at erased
    · cases erased
    · exact Or.inr erased
  | configUpdate mutator =>
    obtain ⟨config, left, _⟩ := @perform_configUpdate libs m s mutator
    rw [left] at found
    exact Or.inr found
  | _ => exact Or.inr found

/-- What the sessions and the pending logins that a request has made so far stand on. -/
structure Logins (libs : Libraries) (app : AppState) (a : Arrival) (done : List Made) (s : AppState) :
    Prop where
  issued : ∀ username token, ⟨.sessionsCreate username false, .ok token⟩ ∈ done →
    FactorsShown libs app a username (∃ token, PendingNow app a username token)
  known : ∀ username token, ⟨.sessionsCreate username false, .ok token⟩ ∈ done →
    (s.users.find username).isSome = true
  pending : ∀ token e, s.pendingMfa.lookup token = some e →
    (⟨.pendingMfaCreate e.username, .ok token⟩ ∈ done ∧ e.expiresAt = a.now + minutes 5 ∧
        PasswordCorrect libs app a e.username) ∨
      app.pendingMfa.lookup token = some e

theorem Logins.perform (context : Context libs app a done s) (may : MayCall libs a.request done op)
    (logins : Logins libs app a done s) :
    Logins libs app a (⟨op, (Admin.perform libs op (a.moment n) s).1⟩ :: done)
      (Admin.perform libs op (a.moment n) s).2 where
  issued := by
    intro username token member
    rcases List.mem_cons.mp member with here | before
    · injection here with same _
      subst same
      exact may.2.shown context may.1 rfl
    · exact logins.issued username token before
  known := by
    intro username token member
    rcases List.mem_cons.mp member with here | before
    · injection here with same _
      subst same
      apply perform_find_isSome (may.2.user_exists (context.learnt may.1))
      intro name same
      cases same
    · apply perform_find_isSome (logins.known username token before)
      rintro name rfl
      exact (may.1 _ before).elim
  pending := by
    intro token e found
    rcases perform_pendingMfa found with ⟨same, expires, made⟩ | old
    · subst same
      obtain ⟨_, user, proved⟩ := may
      refine Or.inl ⟨?_, expires, (proved.correct context).1⟩
      rw [← made]
      exact List.mem_cons_self
    · rcases logins.pending token e old with ⟨made, rest⟩ | before
      · exact Or.inl ⟨List.mem_cons_of_mem _ made, rest⟩
      · exact Or.inr before

theorem serve_logins :
    Logins libs app a (serve libs others app a).done (serve libs others app a).store := by
  refine (@serve_invariant libs app a others (Logins libs app a) ?_ ⟨?_, ?_, ?_⟩).2
  · intro done op n s context may logins
    exact logins.perform context may
  · intro username token member
    cases member
  · intro username token member
    cases member
  · intro token e found
    exact Or.inr found

/-! ### Runs -/

/-- The request was given the token when it had shown the account's password, and the token expires at
`expiresAt`. -/
def GaveToken (libs : Libraries) (served : Served) (username token : String) (expiresAt : Int) : Prop :=
  ⟨.pendingMfaCreate username, .ok token⟩ ∈ served.done ∧
    expiresAt = served.arrival.now + minutes 5 ∧
    PasswordCorrect libs served.before served.arrival username

def PendingFromLogins (libs : Libraries) (s : Server) : Prop :=
  ∀ token e, s.app.pendingMfa.lookup token = some e →
    ∃ earlier ∈ s.log, GaveToken libs earlier e.username token e.expiresAt

theorem step_pendingFromLogins {s t : Server} (from_ : PendingFromLogins libs s)
    (h : Server.step libs others s a = some t) : PendingFromLogins libs t := by
  obtain rfl := Option.some.inj h
  intro token e found
  rcases serve_logins.pending token e found with made | before
  · exact ⟨_, List.mem_cons_self, made⟩
  · obtain ⟨earlier, member, gave⟩ := from_ token e before
    exact ⟨earlier, List.mem_cons_of_mem _ member, gave⟩

/-- The request carries a token that has not expired, and that an earlier request was given when it had
shown the account's password. -/
def PendingLogin (libs : Libraries) (s : Server) (a : Arrival) (username : String) : Prop :=
  ∃ token expiresAt, extractPendingMfaToken a.request.fields = some token ∧ a.now ≤ expiresAt ∧
    ∃ earlier ∈ s.log, GaveToken libs earlier username token expiresAt

/-- In every run, a session that is not sent to enrol is issued only to a request that has shown the
factors its account demands, and the account is there. -/
theorem session_shows_factors {clock : Int} {arrivals : List Arrival} {s : Server}
    (fresh : app.pendingMfa = ∅)
    (run : Lts.run (Server.step libs others) ⟨app, clock, []⟩ arrivals = some s)
    (issued : ⟨.sessionsCreate username false, .ok token⟩ ∈ (serve libs others s.app a).done) :
    FactorsShown libs s.app a username (PendingLogin libs s a username) ∧
      ((serve libs others s.app a).store.users.find username).isSome = true := by
  have start : PendingFromLogins libs ⟨app, clock, []⟩ := by
    intro token e found
    rw [fresh] at found
    cases found
  have from_ : PendingFromLogins libs s :=
    Lts.run_invariant (fun _ _ _ from_ _ => step_pendingFromLogins from_) start
      (Lts.meets_of_forall (fun _ _ => trivial) _ _) run
  have logins : Logins libs s.app a (serve libs others s.app a).done (serve libs others s.app a).store :=
    serve_logins
  refine ⟨(logins.issued username token issued).imp ?_, logins.known username token issued⟩
  rintro ⟨token, sent, valid⟩
  obtain ⟨e, found, unexpired, rfl⟩ := PendingMfaStore.validate_eq_some.mp valid
  exact ⟨token, e.expiresAt, sent, unexpired, from_ token e found⟩

def isIssue (username token : String) (e : Made) : Bool :=
  match e with
  | ⟨.sessionsCreate name flag, .ok issued⟩ => name == username && !flag && issued == token
  | _ => false

theorem mem_of_isIssue (h : done.any (isIssue username token) = true) :
    ⟨.sessionsCreate username false, .ok token⟩ ∈ done := by
  obtain ⟨e, member, issue⟩ := List.any_eq_true.mp h
  unfold isIssue at issue
  split at issue
  · simp only [Bool.and_eq_true, beq_iff_eq, Bool.not_eq_true'] at issue
    obtain ⟨⟨rfl, rfl⟩, rfl⟩ := issue
    exact member
  · cases issue

def afterPassword : Server :=
  (Lts.run sampleStep enrolledServer [rootSignsIn]).getD enrolledServer

theorem session_shows_factors_root :
    FactorsShown sampleLibraries afterPassword.app rootSendsCode "root"
        (PendingLogin sampleLibraries afterPassword rootSendsCode "root") ∧
      ((serve sampleLibraries noOtherHandlers afterPassword.app rootSendsCode).store.users.find
        "root").isSome = true :=
  @session_shows_factors sampleLibraries noOtherHandlers enrolledApp rootSendsCode "root"
    (toHex (List.replicate 32 1)) (seconds 29) [rootSignsIn] afterPassword rfl rfl
    (mem_of_isIssue (by decide +kernel))

end Atomwall.Admin
