import Atomwall.Admin.SignCounts

/-!
What a login with a passkey proves: `handle_webauthn_login_verify` issues a session once its checks
pass, and the user-verified flag that the assertion reports is not among them.
-/

namespace Atomwall.Admin

open Http ByteString

variable {libs : Libraries} {request : Request} {clientIp username token : String} {app : AppState}
  {moments : Nat → Moment} {flag : Bool} {fields : WebAuthnCredentialFields}

/-- The handler with nothing between its calls, the `n`-th of which is made at `moments n`. -/
def loginVerifyRun (libs : Libraries) (request : Request) (clientIp : String) (app : AppState)
    (moments : Nat → Moment) : Prog.Ran Call Call.Result Fault Response AppState :=
  (handleWebauthnLoginVerify libs request clientIp).exec (perform libs) [] moments app

def flagsOf (fields : WebAuthnCredentialFields) : UInt8 :=
  (WebAuthn.authenticatorHeader fields.authenticatorDataOrAttestationObject).flags

/-- The checks of the handler, in its order: what was sent, whose passkey it is, and the session's
token, where all of them pass. -/
def loginChecks (libs : Libraries) (request : Request) (app : AppState) (moments : Nat → Moment) :
    Option (WebAuthnCredentialFields × String × String) := do
  let cookie ← extractWebauthnLoginToken request.fields
  let challenge ← (app.challenges.consume (moments 0) (loginKey cookie)).1
  let body ← libs.parseJsonObject request.body
  let fields ← parseCredentialFields body false
  let user ← app.users.findByCredentialId fields.idB64url
  let credential ← user.webauthnCredentials.find? (·.idB64url == fields.idB64url)
  let result ← (WebAuthn.verifyAuthentication libs challenge fields.clientDataJson
    fields.authenticatorDataOrAttestationObject fields.signature credential.cosePublicKey
    credential.signCount (webauthnRpId request)
    (webauthnExpectedOrigin request (RuntimeConfig.usesTls app.config))).toOption
  let _ ← (app.users.updateWebauthnSignCount (moments 3) user.username fields.idB64url
    result.newSignCount).1.toOption
  let token ← (app.sessions.create (moments 4) user.username false).1.toOption
  return (fields, user.username, token)

section Execution

attribute [local simp] loginVerifyRun handleWebauthnLoginVerify loginChecks Prog.exec Returned perform
  adminUsesTls answering acceptAssertion issueSessionResponse Except.toOption

/-- A session is made exactly when the checks pass, and always one that needs no further factor. -/
theorem session_made_iff :
    Returned (loginVerifyRun libs request clientIp app moments).done (.sessionsCreate username flag)
        (.ok token) ↔
      flag = false ∧ ∃ fields, loginChecks libs request app moments = some (fields, username, token) := by
  cases carried : extractWebauthnLoginToken request.fields with
  | none => simp [carried]
  | some cookie =>
    cases consumed : (app.challenges.consume (moments 0) (loginKey cookie)).1 with
    | none => simp [carried, consumed]
    | some challenge =>
      cases parsed : libs.parseJsonObject request.body with
      | none => simp [carried, consumed, parsed]
      | some body =>
        cases sent : parseCredentialFields body false with
        | none => simp [carried, consumed, parsed, sent]
        | some fields =>
          cases found : app.users.findByCredentialId fields.idB64url with
          | none => simp [carried, consumed, parsed, sent, found]
          | some user =>
            cases held : user.webauthnCredentials.find? (·.idB64url == fields.idB64url) with
            | none => simp [carried, consumed, parsed, sent, found, held]
            | some credential =>
              cases verified : WebAuthn.verifyAuthentication libs challenge fields.clientDataJson
                  fields.authenticatorDataOrAttestationObject fields.signature
                  credential.cosePublicKey credential.signCount (webauthnRpId request)
                  (webauthnExpectedOrigin request (RuntimeConfig.usesTls app.config)) with
              | error fault =>
                cases fault <;> simp [carried, consumed, parsed, sent, found, held, verified]
              | ok result =>
                cases updated : (app.users.updateWebauthnSignCount (moments 3) user.username
                    fields.idB64url result.newSignCount).1 with
                | error fault =>
                  cases fault <;> simp [carried, consumed, parsed, sent, found, held, verified, updated]
                | ok _ =>
                  cases issued : (app.sessions.create (moments 4) user.username false).1 with
                  | error fault =>
                    cases fault <;>
                      simp [carried, consumed, parsed, sent, found, held, verified, updated, issued]
                  | ok fresh =>
                    have passed : loginChecks libs request app moments =
                        some (fields, user.username, fresh) := by
                      simp [carried, consumed, parsed, sent, found, held, verified, updated, issued]
                    have made : Returned (loginVerifyRun libs request clientIp app moments).done
                        (.sessionsCreate username flag) (.ok token) ↔
                        (username = user.username ∧ flag = false) ∧ token = fresh := by
                      simp [carried, consumed, parsed, sent, found, held, verified, updated, issued]
                    rw [made, passed]
                    constructor
                    · intro given
                      obtain ⟨⟨rfl, rfl⟩, rfl⟩ := given
                      exact ⟨rfl, fields, rfl⟩
                    · intro given
                      obtain ⟨rfl, _, same⟩ := given
                      cases same
                      exact ⟨⟨rfl, rfl⟩, rfl⟩

end Execution

/-- What the checks have established of the assertion. -/
theorem loginChecks_some (passed : loginChecks libs request app moments = some (fields, username, token)) :
    (∃ body, libs.parseJsonObject request.body = some body ∧
      parseCredentialFields body false = some fields) ∧
    flagsOf fields &&& WebAuthn.kFlagUserPresent ≠ 0 := by
  unfold loginChecks at passed
  obtain ⟨cookie, _, passed⟩ := Option.bind_eq_some_iff.mp passed
  obtain ⟨challenge, _, passed⟩ := Option.bind_eq_some_iff.mp passed
  obtain ⟨body, parsed, passed⟩ := Option.bind_eq_some_iff.mp passed
  obtain ⟨sentFields, sent, passed⟩ := Option.bind_eq_some_iff.mp passed
  obtain ⟨user, _, passed⟩ := Option.bind_eq_some_iff.mp passed
  obtain ⟨credential, _, passed⟩ := Option.bind_eq_some_iff.mp passed
  obtain ⟨result, verified, passed⟩ := Option.bind_eq_some_iff.mp passed
  obtain ⟨_, _, passed⟩ := Option.bind_eq_some_iff.mp passed
  obtain ⟨issued, _, passed⟩ := Option.bind_eq_some_iff.mp passed
  cases passed
  refine ⟨⟨body, parsed, sent⟩, ?_⟩
  cases checked : WebAuthn.verifyAuthentication libs challenge fields.clientDataJson
      fields.authenticatorDataOrAttestationObject fields.signature credential.cosePublicKey
      credential.signCount (webauthnRpId request)
      (webauthnExpectedOrigin request (RuntimeConfig.usesTls app.config)) with
  | error fault =>
    rw [checked] at verified
    cases verified
  | ok accepted => exact (WebAuthn.verifyAuthentication_reports checked).1

/-- A session that is issued is one that needs no further factor, from an assertion over an
authenticatorData with user presence and user verification. -/
def CarriesVerification (libs : Libraries) (request : Request) (done : List Made) : Prop :=
  ∀ username flag token, Returned done (.sessionsCreate username flag) (.ok token) →
    flag = false ∧ ∃ body fields, libs.parseJsonObject request.body = some body ∧
      parseCredentialFields body false = some fields ∧
      flagsOf fields &&& WebAuthn.kFlagUserPresent ≠ 0 ∧
      flagsOf fields &&& WebAuthn.kFlagUserVerified ≠ 0

theorem CarriesVerification.verified
    (carries : CarriesVerification libs request (loginVerifyRun libs request clientIp app moments).done)
    (passed : loginChecks libs request app moments = some (fields, username, token)) :
    flagsOf fields &&& WebAuthn.kFlagUserVerified ≠ 0 := by
  obtain ⟨_, body, other, parsed, sent, _, verified⟩ :=
    carries username false token (session_made_iff.mpr ⟨rfl, fields, passed⟩)
  obtain ⟨⟨body', parsed', sent'⟩, _⟩ := loginChecks_some passed
  obtain rfl := Option.some.inj (parsed.symm.trans parsed')
  obtain rfl := Option.some.inj (sent.symm.trans sent')
  exact verified

/-- For every state, request and moments: the login carries user verification exactly when the
assertion has the flag, or one of the handler's checks refuses it. -/
theorem login_carries_verification_iff :
    CarriesVerification libs request (loginVerifyRun libs request clientIp app moments).done ↔
      ∀ fields username token, loginChecks libs request app moments = some (fields, username, token) →
        flagsOf fields &&& WebAuthn.kFlagUserVerified ≠ 0 := by
  constructor
  · intro carries fields username token passed
    exact carries.verified passed
  · intro flagged username flag token made
    obtain ⟨unflagged, fields, passed⟩ := session_made_iff.mp made
    obtain ⟨⟨body, parsed, sent⟩, present⟩ := loginChecks_some passed
    exact ⟨unflagged, body, fields, parsed, sent, present, flagged fields username token passed⟩

theorem loginChecks_eq {cookie : String} {body : JsonObject} {check : AssertionCheck}
    (carried : extractWebauthnLoginToken request.fields = some cookie)
    (carries : Carries libs request body fields check) :
    loginChecks libs request app moments = do
      let challenge ← (app.challenges.consume (moments 0) (loginKey cookie)).1
      let user ← app.users.findByCredentialId fields.idB64url
      let credential ← user.webauthnCredentials.find? (·.idB64url == fields.idB64url)
      let result ← (check challenge credential.cosePublicKey credential.signCount
        (webauthnRpId request)
        (webauthnExpectedOrigin request (RuntimeConfig.usesTls app.config))).toOption
      let _ ← (app.users.updateWebauthnSignCount (moments 3) user.username fields.idB64url
        result.newSignCount).1.toOption
      let token ← (app.sessions.create (moments 4) user.username false).1.toOption
      return (fields, user.username, token) := by
  unfold loginChecks
  simp only [carried, carries.parses, carries.sends, carries.checks, Option.bind_eq_bind,
    Option.bind_some]

/-- The sample login has user presence alone. -/
theorem presence_alone_signs_in :
    ¬ ∀ (libs : Libraries) (request : Request) (clientIp : String) (app : AppState)
        (moments : Nat → Moment),
        CarriesVerification libs request (loginVerifyRun libs request clientIp app moments).done := by
  intro claim
  have checks : (loginChecks assertionLibraries (assertionParty false).request assertionApp
      fun _ => ⟨seconds 10, fun _ => some 9, true⟩).map (fun passed =>
        flagsOf passed.1 &&& WebAuthn.kFlagUserVerified) = some 0 := by
    rw [loginChecks_eq assertion_cookies.1 (assertionParty_carries false)]
    decide +kernel
  obtain ⟨⟨fields, username, token⟩, passed, unverified⟩ := Option.map_eq_some_iff.mp checks
  have carries := claim assertionLibraries (assertionParty false).request "unknown" assertionApp
    fun _ => ⟨seconds 10, fun _ => some 9, true⟩
  exact carries.verified passed unverified

end Atomwall.Admin
