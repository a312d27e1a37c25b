import Atomwall.Admin.Calls
import Atomwall.Admin.Routes

/-!
The handlers of `admin_server.cpp` that log in, log out, enrol, and manage users and the security
policy, each as the program of its calls.
-/

namespace Atomwall.Admin

open Http ByteString

variable (libs : Libraries)

/-! ### Cookies and origins -/

def kSessionCookieName : String := "atomwall_session"
def kPendingMfaCookieName : String := "atomwall_pending_mfa"
def kWebAuthnLoginCookieName : String := "atomwall_webauthn_login"

def cookieValue (name : String) (part : List Char) : Option String :=
  let part := part.dropWhile (· == ' ')
  match part.dropWhile (· != '=') with
  | [] => none
  | _ :: value =>
    if part.takeWhile (· != '=') = name.toList then some (String.ofList value) else none

def extractCookie (fields : Fields) (name : String) : Option String :=
  match fields.find "Cookie" with
  | none => none
  | some cookies => (cookies.toList.splitOn ';').findSome? (cookieValue name)

def extractSessionToken (fields : Fields) : Option String := extractCookie fields kSessionCookieName
def extractPendingMfaToken (fields : Fields) : Option String :=
  extractCookie fields kPendingMfaCookieName
def extractWebauthnLoginToken (fields : Fields) : Option String :=
  extractCookie fields kWebAuthnLoginCookieName

def setCookieHeader (name token maxAge : String) (secure : Bool) : String :=
  name ++ "=" ++ token ++ "; HttpOnly; SameSite=Strict; Path=/; Max-Age=" ++ maxAge ++
    (if secure then "; Secure" else "")

def sessionSetCookieHeader (token : String) : Bool → String :=
  setCookieHeader kSessionCookieName token "43200"
def sessionClearCookieHeader : Bool → String := setCookieHeader kSessionCookieName "" "0"
def pendingMfaSetCookieHeader (token : String) : Bool → String :=
  setCookieHeader kPendingMfaCookieName token "300"
def pendingMfaClearCookieHeader : Bool → String := setCookieHeader kPendingMfaCookieName "" "0"
def webauthnLoginSetCookieHeader (token : String) : Bool → String :=
  setCookieHeader kWebAuthnLoginCookieName token "120"
def webauthnLoginClearCookieHeader : Bool → String := setCookieHeader kWebAuthnLoginCookieName "" "0"

def webauthnRpId (request : Request) : String := before ':' (request.fields.value "Host")

def webauthnExpectedOrigin (request : Request) (usesTls : Bool) : String :=
  (if usesTls then "https://" else "http://") ++ request.fields.value "Host"

def RuntimeConfig.usesTls (config : RuntimeConfig) : Bool :=
  config.admin.tlsCertFile != "" && config.admin.tlsKeyFile != ""

def adminUsesTls : Handler Bool := do
  return RuntimeConfig.usesTls (← configGet)

def randomWebauthnChallenge : Handler Challenge := throwing (act (.randBytes 32))

/-! ### Views -/

def usersToJson (users : List UserRecord) : Json :=
  .array (users.map fun user => .object
    [("username", .string user.username), ("created_at", .string (libs.toIso8601 user.createdAt)),
     ("has_2fa", .bool user.totp.isSome)])

def unusedCodes (user : UserRecord) : Nat := user.backupCodes.countP fun code => !code.used

def twoFactorStatusToJson (user : UserRecord) : Json :=
  .object
    [("totp_enabled", .bool user.totp.isSome),
     ("backup_codes_remaining", .int64 (unusedCodes user)),
     ("webauthn_credentials", .array (user.webauthnCredentials.map fun c => .object
       [("id", .string c.idB64url), ("label", .string c.label),
        ("created_at", .string (libs.toIso8601 c.createdAt))]))]

def securityConfigToJson (security : SecurityConfig) : Json :=
  .object [("require_2fa", .bool security.require2fa)]

/-! ### Signing in -/

def handleAuthStatus (request : Request) : Handler Response := do
  let setupRequired ← usersEmpty
  let session ← match extractSessionToken request.fields with
    | some token => sessionsValidate token
    | none => pure none
  return jsonResponse 200 (.object
    [("setup_required", .bool setupRequired), ("authenticated", .bool session.isSome),
     ("needs_mfa_setup", .bool (session.any (·.needsMfaSetup)))]) request.version

def issueSessionResponse (username : String) (needsMfaSetup : Bool) (version : Nat)
    (clientIp : String) : Handler Response := do
  let token ← sessionsCreate username needsMfaSetup
  loginHistoryRecord username clientIp
  let res := jsonResponse 200 (.object
    [("username", .string username), ("needs_mfa_setup", .bool needsMfaSetup)]) version
  let res := res.insert "Set-Cookie" (sessionSetCookieHeader token (← adminUsesTls))
  return res.insert "Set-Cookie" (pendingMfaClearCookieHeader (← adminUsesTls))

def issueMfaChallengeResponse (username : String) (hasTotp hasBackupCodes hasWebauthn : Bool)
    (version : Nat) : Handler Response := do
  let token ← pendingMfaCreate username
  let methods := (if hasTotp then [Json.string "totp"] else []) ++
    (if hasWebauthn then [Json.string "webauthn"] else [])
  let res := jsonResponse 200 (.object
    [("mfa_required", .bool true), ("methods", .array methods),
     ("has_backup_codes", .bool hasBackupCodes)]) version
  return res.set "Set-Cookie" (pendingMfaSetCookieHeader token (← adminUsesTls))

/-- The `username` and `password` of a body, or the reply to a body without them. -/
def credentialsOf (request : Request) : Except Response (String × String) :=
  match libs.parseJsonObject request.body with
  | none => .error (errorResponse 400 "expected JSON body" request.version)
  | some body =>
    match jsonStringField body "username", jsonStringField body "password" with
    | some username, some password => .ok (username, password)
    | _, _ => .error (errorResponse 400 "username and password are required" request.version)

def handleAuthSetup (request : Request) (clientIp : String) : Handler Response := do
  if !(← usersEmpty) then
    return errorResponse 409 "setup already completed" request.version
  else
    match credentialsOf libs request with
    | .error reply => return reply
    | .ok (username, password) =>
      match ← caught (usersCreateIfEmpty username password) with
      | .error what => return errorResponse 400 what request.version
      | .ok false => return errorResponse 409 "setup already completed" request.version
      | .ok true =>
        let config ← configGet
        issueSessionResponse username config.security.require2fa request.version clientIp

def handleAuthLogin (request : Request) (clientIp : String) : Handler Response := do
  match credentialsOf libs request with
  | .error reply => return reply
  | .ok (username, password) =>
    match ← usersFind username with
    | none => return errorResponse 401 "invalid username or password" request.version
    | some user =>
      if !(← Prog.orRaise (verifyPassword libs password user.passwordHash)) then
        return errorResponse 401 "invalid username or password" request.version
      else if user.hasSecondFactor then
        issueMfaChallengeResponse username user.totp.isSome (decide (0 < unusedCodes user))
          (!user.webauthnCredentials.isEmpty) request.version
      else
        let config ← configGet
        issueSessionResponse username config.security.require2fa request.version clientIp

def handleAuthLogout (request : Request) : Handler Response := do
  match extractSessionToken request.fields with
  | some token => sessionsInvalidate token
  | none => pure ()
  let res := jsonResponse 200 (.object []) request.version
  return res.set "Set-Cookie" (sessionClearCookieHeader (← adminUsesTls))

/-- The user of the request's pending-MFA cookie, with the token. -/
def pendingUser (request : Request) : Handler (Option (String × String)) := do
  match extractPendingMfaToken request.fields with
  | none => return none
  | some token => return (← pendingMfaValidate token).map (token, ·)

def codeOf (request : Request) : Option String :=
  (libs.parseJsonObject request.body).bind fun body => jsonStringField body "code"

def kNoPendingLogin : String := "no pending login — sign in again"
def kExpectedCode : String := "expected \x7b\"code\": \"...\"\x7d"

def handleAuth2faTotpVerify (request : Request) (clientIp : String) : Handler Response := do
  match ← pendingUser request with
  | none => return errorResponse 401 kNoPendingLogin request.version
  | some (token, username) =>
    match codeOf libs request with
    | none => return errorResponse 400 kExpectedCode request.version
    | some code =>
      match (← usersFind username).bind (·.totp) with
      | none => return errorResponse 401 "invalid code" request.version
      | some totp =>
        match ← Prog.orRaise
            (Totp.verify libs totp.secretBase32 code (toSeconds (← systemClockNow))) with
        | none => return errorResponse 401 "invalid code" request.version
        | some matchedStep =>
          if !(← usersConsumeTotpStep username matchedStep) then
            return errorResponse 401 "invalid code" request.version
          else
            pendingMfaInvalidate token
            issueSessionResponse username false request.version clientIp

def handleAuth2faBackupCodeVerify (request : Request) (clientIp : String) : Handler Response := do
  match ← pendingUser request with
  | none => return errorResponse 401 kNoPendingLogin request.version
  | some (token, username) =>
    match codeOf libs request with
    | none => return errorResponse 400 kExpectedCode request.version
    | some code =>
      if !(← usersConsumeBackupCode username code) then
        return errorResponse 401 "invalid or already-used backup code" request.version
      else
        pendingMfaInvalidate token
        issueSessionResponse username false request.version clientIp

/-! ### Enrolling -/

def handleAuth2faStatus (request : Request) (actingUser : String) : Handler Response := do
  match ← usersFind actingUser with
  | none => return errorResponse 404 "user not found" request.version
  | some user => return jsonResponse 200 (twoFactorStatusToJson libs user) request.version

def handleAuth2faTotpSetup (request : Request) (actingUser : String) : Handler Response := do
  let secret ← generateTotpSecret
  pendingTotpStart actingUser secret
  return jsonResponse 200 (.object
    [("secret_base32", .string secret),
     ("otpauth_url", .string (Totp.provisioningUri secret actingUser))]) request.version

def backupCodesToJson (codes : List String) : Json :=
  .object [("backup_codes", .array (codes.map .string))]

def handleAuth2faTotpConfirm (request : Request) (actingUser : String) : Handler Response := do
  match ← pendingTotpSecretFor actingUser with
  | none =>
    return errorResponse 400 "no pending TOTP setup — call /api/auth/2fa/totp/setup first"
      request.version
  | some secret =>
    match codeOf libs request with
    | none => return errorResponse 400 kExpectedCode request.version
    | some code =>
      match ← Prog.orRaise (Totp.verify libs secret code (toSeconds (← systemClockNow))) with
      | none => return errorResponse 401 "invalid code" request.version
      | some matchedStep =>
        let backupCodes ← generateBackupCodes
        match ← caught (usersSetTotp actingUser secret backupCodes) with
        | .error what => return errorResponse 400 what request.version
        | .ok () =>
          -- the result is not looked at
          let _ ← usersConsumeTotpStep actingUser matchedStep
          pendingTotpClear actingUser
          match extractSessionToken request.fields with
          | some token => sessionsMarkMfaSatisfied token
          | none => pure ()
          return jsonResponse 200 (backupCodesToJson backupCodes) request.version

def passwordOf (request : Request) : Option String :=
  (libs.parseJsonObject request.body).bind fun body => jsonStringField body "password"

def kExpectedPassword : String := "expected \x7b\"password\": \"...\"\x7d"

def verifyCurrentPassword (username password : String) : Handler Bool := do
  match ← usersFind username with
  | none => return false
  | some user => Prog.orRaise (verifyPassword libs password user.passwordHash)

def handleAuth2faTotpDisable (request : Request) (actingUser : String) : Handler Response := do
  match passwordOf libs request with
  | none => return errorResponse 400 kExpectedPassword request.version
  | some password =>
    if !(← verifyCurrentPassword libs actingUser password) then
      return errorResponse 401 "incorrect password" request.version
    else if (← configGet).security.require2fa then
      return errorResponse 400 ("cannot disable your only second factor while security.require_2fa " ++
        "is enabled") request.version
    else
      match ← caught (usersClearTotp actingUser) with
      | .error what => return errorResponse 400 what request.version
      | .ok () => return jsonResponse 200 (.object []) request.version

def handleAuth2faBackupCodesRegenerate (request : Request) (actingUser : String) :
    Handler Response := do
  match passwordOf libs request with
  | none => return errorResponse 400 kExpectedPassword request.version
  | some password =>
    if !(← verifyCurrentPassword libs actingUser password) then
      return errorResponse 401 "incorrect password" request.version
    else
      match ← caught (usersRegenerateBackupCodes actingUser) with
      | .error what => return errorResponse 400 what request.version
      | .ok codes => return jsonResponse 200 (backupCodesToJson codes) request.version

/-! ### Passkeys -/

structure WebAuthnCredentialFields where
  idB64url : String
  clientDataJson : String
  authenticatorDataOrAttestationObject : List UInt8
  signature : List UInt8

def decodedField (obj : JsonObject) (key : String) : Option (List UInt8) :=
  (jsonStringField obj key).bind fun text => (base64urlDecode text).toOption

def parseCredentialFields (body : JsonObject) (isRegistration : Bool) :
    Option WebAuthnCredentialFields := do
  let credential ← jsonObjectField body "credential"
  let id ← jsonStringField credential "id"
  let response ← jsonObjectField credential "response"
  let clientData ← decodedField response "clientDataJSON"
  let second ← decodedField response (if isRegistration then "attestationObject" else "authenticatorData")
  let signature ← if isRegistration then some [] else decodedField response "signature"
  return ⟨id, ofBytes clientData, second, signature⟩

def registerKey (actingUser : String) : String := "register:" ++ actingUser
def loginKey (token : String) : String := "login:" ++ token
def login2faKey (username : String) : String := "login2fa:" ++ username

def credentialRefs (user : UserRecord) : Json :=
  .array (user.webauthnCredentials.map fun c =>
    .object [("type", .string "public-key"), ("id", .string c.idB64url)])

def handleWebauthnRegisterOptions (request : Request) (actingUser : String) : Handler Response := do
  match ← usersFind actingUser with
  | none => return errorResponse 404 "user not found" request.version
  | some user =>
    let challenge ← randomWebauthnChallenge
    challengesStart (registerKey actingUser) challenge
    let userHandle ← usersWebauthnUserHandle actingUser
    let param (alg : Int) := Json.object [("type", .string "public-key"), ("alg", .int64 alg)]
    return jsonResponse 200 (.object
      [("challenge", .string (base64urlEncode challenge)),
       ("rp", .object [("id", .string (webauthnRpId request)), ("name", .string "atomwall")]),
       ("user", .object [("id", .string userHandle), ("name", .string actingUser),
         ("displayName", .string actingUser)]),
       ("pubKeyCredParams", .array [param (-7), param (-257)]),
       ("authenticatorSelection", .object [("residentKey", .string "preferred"),
         ("userVerification", .string "preferred")]),
       ("attestation", .string "none"), ("timeout", .int64 60000),
       ("excludeCredentials", credentialRefs user)]) request.version

/-- `try { ... } catch (const std::invalid_argument& e)` around the rest of a handler. -/
def answering (status version : Nat) (body : Handler Response) : Handler Response := do
  match ← caught body with
  | .ok res => return res
  | .error what => return errorResponse status what version

def handleWebauthnRegisterVerify (request : Request) (actingUser : String) : Handler Response := do
  match libs.parseJsonObject request.body with
  | none => return errorResponse 400 "expected JSON body" request.version
  | some body =>
    match parseCredentialFields body true with
    | none => return errorResponse 400 "malformed credential response" request.version
    | some fields =>
      let label := (jsonStringField body "label").getD "Passkey"
      match ← challengesConsume (registerKey actingUser) with
      | none =>
        return errorResponse 400 "no pending passkey registration — call the options endpoint first"
          request.version
      | some challenge =>
        let origin := webauthnExpectedOrigin request (← adminUsesTls)
        answering 400 request.version do
          let result ← Prog.orRaise (WebAuthn.verifyRegistration libs challenge fields.clientDataJson
            fields.authenticatorDataOrAttestationObject (webauthnRpId request) origin)
          let createdAt ← systemClockNow
          usersAddWebauthnCredential actingUser
            ⟨result.credentialIdB64url, label, result.cosePublicKey, result.signCount, createdAt⟩
          match extractSessionToken request.fields with
          | some token => sessionsMarkMfaSatisfied token
          | none => pure ()
          return jsonResponse 200 (.object
            [("id", .string result.credentialIdB64url), ("label", .string label)]) request.version

/-- `needed && state.config_store->get()->security.require_2fa`. -/
def require2faIf (needed : Bool) : Handler Bool := do
  if needed then return (← configGet).security.require2fa else return false

def handleWebauthnDelete (request : Request) (actingUser credentialId : String) :
    Handler Response := do
  match ← usersFind actingUser with
  | none => return errorResponse 404 "user not found" request.version
  | some user =>
    let onlyFactor := user.totp.isNone && decide (user.webauthnCredentials.length ≤ 1)
    if ← require2faIf onlyFactor then
      return errorResponse 400 ("cannot remove your only second factor while security.require_2fa " ++
        "is enabled") request.version
    else if !(← usersRemoveWebauthnCredential actingUser credentialId) then
      return errorResponse 404 "passkey not found" request.version
    else return jsonResponse 200 (.object []) request.version

def requestOptions (challenge : Challenge) (request : Request) (allow : Json) : Json :=
  .object
    [("challenge", .string (base64urlEncode challenge)), ("rpId", .string (webauthnRpId request)),
     ("timeout", .int64 60000), ("userVerification", .string "preferred"), ("allowCredentials", allow)]

def handleWebauthnLoginOptions (request : Request) : Handler Response := do
  let challenge ← randomWebauthnChallenge
  match ← act (.randBytes 32) with
  | .error _ => return errorResponse 500 "failed to generate token" request.version
  | .ok tokenBytes =>
    let token := base64urlEncode tokenBytes
    challengesStart (loginKey token) challenge
    let res := jsonResponse 200 (requestOptions challenge request (.array [])) request.version
    return res.set "Set-Cookie" (webauthnLoginSetCookieHeader token (← adminUsesTls))

/-- The checks of an assertion by a stored passkey, and the update of its counter. -/
def acceptAssertion (request : Request) (fields : WebAuthnCredentialFields) (challenge : Challenge)
    (username : String) (credential : WebAuthnCredential) (origin : String) : Handler Unit := do
  let result ← Prog.orRaise (WebAuthn.verifyAuthentication libs challenge fields.clientDataJson
    fields.authenticatorDataOrAttestationObject fields.signature credential.cosePublicKey
    credential.signCount (webauthnRpId request) origin)
  usersUpdateWebauthnSignCount username fields.idB64url result.newSignCount

def handleWebauthnLoginVerify (request : Request) (clientIp : String) : Handler Response := do
  let challenge ← match extractWebauthnLoginToken request.fields with
    | none => pure none
    | some token => challengesConsume (loginKey token)
  match challenge with
  | none =>
    return errorResponse 401 "no pending passkey login — reload and try again" request.version
  | some challenge =>
    match libs.parseJsonObject request.body with
    | none => return errorResponse 400 "expected JSON body" request.version
    | some body =>
      match parseCredentialFields body false with
      | none => return errorResponse 400 "malformed credential response" request.version
      | some fields =>
        match ← usersFindByCredentialId fields.idB64url with
        | none => return errorResponse 401 "unrecognized passkey" request.version
        | some user =>
          match user.webauthnCredentials.find? (·.idB64url == fields.idB64url) with
          -- never: the record was found by this id
          | none => return errorResponse 401 "unrecognized passkey" request.version
          | some credential =>
            let origin := webauthnExpectedOrigin request (← adminUsesTls)
            answering 401 request.version do
              acceptAssertion libs request fields challenge user.username credential origin
              let res ← issueSessionResponse user.username false request.version clientIp
              return res.insert "Set-Cookie" (webauthnLoginClearCookieHeader (← adminUsesTls))

def handleWebauthn2faOptions (request : Request) : Handler Response := do
  match ← pendingUser request with
  | none => return errorResponse 401 kNoPendingLogin request.version
  | some (_, username) =>
    match ← usersFind username with
    | none => return errorResponse 401 kNoPendingLogin request.version
    | some user =>
      let challenge ← randomWebauthnChallenge
      challengesStart (login2faKey username) challenge
      return jsonResponse 200 (requestOptions challenge request (credentialRefs user)) request.version

def handleWebauthn2faVerify (request : Request) (clientIp : String) : Handler Response := do
  match ← pendingUser request with
  | none => return errorResponse 401 kNoPendingLogin request.version
  | some (token, username) =>
    match ← challengesConsume (login2faKey username) with
    | none =>
      return errorResponse 400 "no pending passkey challenge — call the options endpoint first"
        request.version
    | some challenge =>
      match libs.parseJsonObject request.body with
      | none => return errorResponse 400 "expected JSON body" request.version
      | some body =>
        match parseCredentialFields body false with
        | none => return errorResponse 400 "malformed credential response" request.version
        | some fields =>
          match ← usersFind username with
          | none => return errorResponse 401 kNoPendingLogin request.version
          | some user =>
            match user.webauthnCredentials.find? (·.idB64url == fields.idB64url) with
            | none =>
              return errorResponse 401 "unrecognized passkey for this account" request.version
            | some credential =>
              let origin := webauthnExpectedOrigin request (← adminUsesTls)
              answering 401 request.version do
                acceptAssertion libs request fields challenge username credential origin
                pendingMfaInvalidate token
                issueSessionResponse username false request.version clientIp

/-! ### Policy and users -/

def setRequire2fa (body : JsonObject) (config : RuntimeConfig) : RuntimeConfig :=
  match body.find "require_2fa" with
  | some (.bool value) => { config with security := { config.security with require2fa := value } }
  | _ => config

def handleSecurityConfigUpdate (request : Request) : Handler Response := do
  match libs.parseJsonObject request.body with
  | none => return errorResponse 400 "expected JSON body" request.version
  | some body =>
    configUpdate fun config => .ok (setRequire2fa body config)
    return jsonResponse 200 (securityConfigToJson (← configGet).security) request.version

def handleUsersCreate (request : Request) : Handler Response := do
  match credentialsOf libs request with
  | .error reply => return reply
  | .ok (username, password) =>
    match ← caught (usersCreate username password) with
    | .error what => return errorResponse 400 what request.version
    | .ok () => return jsonResponse 200 (usersToJson libs (← usersList)) request.version

def handleUsersDelete (request : Request) (username : String) : Handler Response := do
  match ← caught (usersRemove username) with
  | .error what => return errorResponse 400 what request.version
  | .ok false => return errorResponse 404 "user not found" request.version
  | .ok true => return jsonResponse 200 (usersToJson libs (← usersList)) request.version

end Atomwall.Admin
