import Atomwall.Auth.Encoding

/-!
`auth/webauthn`: the CBOR reader over libcbor's items, COSE keys, and the checks of a registration
and of an assertion.
-/

namespace Atomwall.WebAuthn

open Http

inductive CborValue where
  | uint (value : UInt64)
  | negint (value : UInt64)
  | bytes (data : List UInt8)
  | text (value : String)
  | array (items : List CborValue)
  | map (pairs : List (CborValue × CborValue))
  | bool (value : Bool)
  | null
  | other

def kMaxCborBytes : Nat := 4096
def kMaxDepth : Nat := 8
def kMaxContainerElements : Nat := 64

def invalid {α : Type} (what : String) : Except Fault α := .error (.invalidArgument what)

mutual

def convert (depth : Nat) (item : CborItem) : Except Fault CborValue :=
  if kMaxDepth < depth then invalid "CBOR nesting too deep"
  else
    match item with
    | .uint value => .ok (.uint value)
    | .negint value => .ok (.negint value)
    | .bytestring definite data =>
      if definite then .ok (.bytes data)
      else invalid "indefinite-length CBOR byte strings are not supported"
    | .string definite text =>
      if definite then .ok (.text text)
      else invalid "indefinite-length CBOR text strings are not supported"
    | .array items =>
      if kMaxContainerElements < items.length then invalid "CBOR array too large"
      else (convertItems (depth + 1) items).map .array
    | .map pairs =>
      if kMaxContainerElements < pairs.length then invalid "CBOR map too large"
      else (convertPairs (depth + 1) pairs).map .map
    | .bool value => .ok (.bool value)
    | .null | .undef => .ok .null
    | .tag | .float => .ok .other

def convertItems (depth : Nat) : List CborItem → Except Fault (List CborValue)
  | [] => .ok []
  | item :: rest => do
    let value ← convert depth item
    return value :: (← convertItems depth rest)

def convertPairs (depth : Nat) : List (CborItem × CborItem) →
    Except Fault (List (CborValue × CborValue))
  | [] => .ok []
  | (key, item) :: rest => do
    let key ← convert depth key
    let value ← convert depth item
    return (key, value) :: (← convertPairs depth rest)

end

def parseCborPrefix (libs : Libraries) (data : List UInt8) : Except Fault (CborValue × Nat) :=
  if data.isEmpty ∨ kMaxCborBytes < data.length then
    invalid "CBOR input is empty or exceeds the size limit"
  else
    match libs.cborLoad data with
    | none => invalid "malformed CBOR input"
    | some (root, consumed) => (convert 0 root).map (·, consumed)

def parseCbor (libs : Libraries) (data : List UInt8) : Except Fault CborValue :=
  (parseCborPrefix libs data).map Prod.fst

def cborToInt64 : CborValue → Except Fault Int
  | .uint value =>
    if 0x8000000000000000 ≤ value.toNat then invalid "CBOR unsigned integer out of int64 range"
    else .ok value.toNat
  | .negint value =>
    if 0x8000000000000000 ≤ value.toNat then invalid "CBOR negative integer out of int64 range"
    else .ok (-1 - value.toNat)
  | _ => invalid "CBOR value is not an integer"

/-- The loop of `cbor_map_find_int`; an integer key out of range throws where it stands. -/
def findInt (key : Int) : List (CborValue × CborValue) → Except Fault (Option CborValue)
  | [] => .ok none
  | (k, v) :: rest =>
    match k with
    | .uint _ | .negint _ => do
      let value ← cborToInt64 k
      if value = key then return some v else findInt key rest
    | _ => findInt key rest

def cborMapFindInt (map : CborValue) (key : Int) : Except Fault (Option CborValue) :=
  match map with
  | .map pairs => findInt key pairs
  | _ => .ok none

def cborMapFindText (map : CborValue) (key : String) : Option CborValue :=
  match map with
  | .map pairs => pairs.findSome? fun
    | (.text name, v) => if name = key then some v else none
    | _ => none
  | _ => none

/-! ### COSE keys -/

def requireBytes (map : CborValue) (key : Int) (fieldName : String) : Except Fault (List UInt8) := do
  match ← cborMapFindInt map key with
  | some (.bytes data) => return data
  | _ => invalid ("COSE key missing/invalid field: " ++ fieldName)

def buildKey (libs : Libraries) (key : PublicKey) (rejected : String) : Except Fault PublicKey :=
  if libs.validKey key then .ok key else invalid rejected

def buildEcP256PublicKey (libs : Libraries) (x y : List UInt8) : Except Fault PublicKey :=
  if x.length ≠ 32 ∨ y.length ≠ 32 then
    invalid "COSE EC2 key: x/y must each be 32 bytes for P-256"
  else buildKey libs (.ec x y) "COSE EC2 key: point is not a valid P-256 public key"

def buildRsaPublicKey (libs : Libraries) (n e : List UInt8) : Except Fault PublicKey :=
  if n.isEmpty ∨ 512 < n.length ∨ e.isEmpty ∨ 4 < e.length then
    invalid "COSE RSA key: modulus/exponent size out of range"
  else buildKey libs (.rsa n e) "COSE RSA key: modulus/exponent is not a valid RSA public key"

def parseCosePublicKey (libs : Libraries) (coseKey : CborValue) : Except Fault PublicKey :=
  match coseKey with
  | .map _ => do
    let kty ← cborMapFindInt coseKey 1
    let alg ← cborMapFindInt coseKey 3
    match kty, alg with
    | some kty, some alg =>
      let ktyValue ← cborToInt64 kty
      let algValue ← cborToInt64 alg
      if ktyValue = 2 ∧ algValue = -7 then
        match ← cborMapFindInt coseKey (-1) with
        | none => invalid "COSE EC2 key: only the P-256 curve is supported"
        | some crv =>
          if (← cborToInt64 crv) = 1 then
            -- the two lookups may run in either order
            let y ← requireBytes coseKey (-3) "y"
            let x ← requireBytes coseKey (-2) "x"
            buildEcP256PublicKey libs x y
          else invalid "COSE EC2 key: only the P-256 curve is supported"
      else if ktyValue = 3 ∧ algValue = -257 then
        let e ← requireBytes coseKey (-2) "e"
        let n ← requireBytes coseKey (-1) "n"
        buildRsaPublicKey libs n e
      else
        invalid ("unsupported COSE key type/algorithm combination (only ES256 " ++
          "P-256 and RS256 are supported)")
    | _, _ => invalid "COSE key missing kty/alg"
  | _ => invalid "COSE key is not a CBOR map"

/-! ### clientDataJSON and authenticatorData -/

def kFlagUserPresent : UInt8 := 0x01
def kFlagUserVerified : UInt8 := 0x04
def kFlagAttestedCredentialData : UInt8 := 0x40

def sha256 (libs : Libraries) (data : List UInt8) : Except Fault (List UInt8) :=
  match libs.sha256 data with
  | none => .error .runtimeError
  | some digest => .ok digest

def verifyClientData (libs : Libraries) (clientDataJson : String) (expectedChallenge : List UInt8)
    (expectedOrigin expectedType : String) : Except Fault Unit :=
  match libs.jsonParse clientDataJson with
  | none => invalid "clientDataJSON is not valid JSON"
  | some (.object obj) =>
    if jsonStringField obj "type" ≠ some expectedType then
      invalid "clientDataJSON: unexpected \"type\""
    else if jsonStringField obj "origin" ≠ some expectedOrigin then
      invalid "clientDataJSON: origin does not match this server"
    else
      match jsonStringField obj "challenge" with
      | none => invalid "clientDataJSON: missing challenge"
      | some text =>
        match base64urlDecode text with
        | .error _ => invalid "clientDataJSON: malformed challenge encoding"
        | .ok challengeBytes =>
          if challengeBytes ≠ expectedChallenge then
            invalid "clientDataJSON: challenge does not match — expired or replayed?"
          else .ok ()
  | some _ => invalid "clientDataJSON is not a JSON object"

structure AuthenticatorData where
  rpIdHash : List UInt8
  flags : UInt8
  signCount : UInt32
  credentialId : List UInt8 := []
  cosePublicKey : List UInt8 := []

def kFixedHeaderLen : Nat := 37
def kAaguidLen : Nat := 16

def byteAt (data : List UInt8) (i : Nat) : UInt8 := data.getD i 0

def authenticatorHeader (data : List UInt8) : AuthenticatorData :=
  { rpIdHash := data.take 32, flags := byteAt data 32,
    signCount := ((byteAt data 33).toUInt32 <<< 24) ||| ((byteAt data 34).toUInt32 <<< 16) |||
      ((byteAt data 35).toUInt32 <<< 8) ||| (byteAt data 36).toUInt32 }

def parseAuthenticatorData (libs : Libraries) (authData : List UInt8)
    (requireAttestedCredential : Bool) : Except Fault AuthenticatorData :=
  if authData.length < kFixedHeaderLen then
    invalid "authenticatorData is shorter than the fixed header"
  else
    let out := authenticatorHeader authData
    if !requireAttestedCredential then .ok out
    else if out.flags &&& kFlagAttestedCredentialData = 0 then
      invalid "authenticatorData is missing attested credential data"
    else if authData.length < kFixedHeaderLen + kAaguidLen + 2 then
      invalid "authenticatorData truncated before credentialId length"
    else
      let offset := kFixedHeaderLen + kAaguidLen
      let credIdLen := (byteAt authData offset).toNat * 256 + (byteAt authData (offset + 1)).toNat
      let offset := offset + 2
      if authData.length < offset + credIdLen then
        invalid "authenticatorData truncated before end of credentialId"
      else if authData.length ≤ offset + credIdLen then
        invalid "authenticatorData is missing the credential public key"
      else
        let remaining := authData.drop (offset + credIdLen)
        match parseCborPrefix libs remaining with
        | .error fault => .error fault
        | .ok (.map _, consumed) =>
          .ok { out with credentialId := (authData.drop offset).take credIdLen,
                         cosePublicKey := remaining.take consumed }
        | .ok _ => invalid "credential public key is not a COSE_Key map"

/-! ### The two ceremonies -/

structure RegistrationResult where
  credentialIdB64url : String
  cosePublicKey : List UInt8
  signCount : UInt32
  userVerified : Bool

structure AssertionResult where
  newSignCount : UInt32
  userVerified : Bool

/-- The checks both ceremonies make of the parsed authenticatorData. -/
def checkAuthenticator (libs : Libraries) (parsed : AuthenticatorData) (rpId : String) :
    Except Fault Unit := do
  let expected ← sha256 libs (ByteString.bytes rpId)
  if parsed.rpIdHash ≠ expected then
    invalid "authenticatorData: RP ID hash does not match this server"
  else if parsed.flags &&& kFlagUserPresent = 0 then
    invalid "authenticatorData: user-presence flag not set"
  else return ()

def attestedData (attestation : CborValue) : Except Fault (List UInt8) :=
  match attestation with
  | .map _ =>
    match cborMapFindText attestation "authData" with
    | some (.bytes data) => .ok data
    | _ => invalid "attestationObject is missing authData"
  | _ => invalid "attestationObject is not a CBOR map"

def verifyRegistration (libs : Libraries) (expectedChallenge : List UInt8) (clientDataJson : String)
    (attestationObject : List UInt8) (rpId expectedOrigin : String) :
    Except Fault RegistrationResult := do
  verifyClientData libs clientDataJson expectedChallenge expectedOrigin "webauthn.create"
  let attestation ← parseCbor libs attestationObject
  let authData ← attestedData attestation
  let parsed ← parseAuthenticatorData libs authData true
  checkAuthenticator libs parsed rpId
  let coseKey ← parseCbor libs parsed.cosePublicKey
  let _ ← parseCosePublicKey libs coseKey
  return ⟨base64urlEncode parsed.credentialId, parsed.cosePublicKey, parsed.signCount,
    parsed.flags &&& kFlagUserVerified ≠ 0⟩

def verifyAuthentication (libs : Libraries) (expectedChallenge : List UInt8) (clientDataJson : String)
    (authenticatorData signature storedCosePublicKey : List UInt8) (storedSignCount : UInt32)
    (rpId expectedOrigin : String) : Except Fault AssertionResult := do
  verifyClientData libs clientDataJson expectedChallenge expectedOrigin "webauthn.get"
  let parsed ← parseAuthenticatorData libs authenticatorData false
  checkAuthenticator libs parsed rpId
  let clientDataHash ← sha256 libs (ByteString.bytes clientDataJson)
  let coseKey ← parseCbor libs storedCosePublicKey
  let publicKey ← parseCosePublicKey libs coseKey
  if !libs.digestVerify publicKey (authenticatorData ++ clientDataHash) signature then
    invalid "signature verification failed"
  else if ¬ (storedSignCount = 0 ∧ parsed.signCount = 0) ∧ parsed.signCount ≤ storedSignCount then
    invalid "sign counter did not increase — possible cloned authenticator"
  else return ⟨parsed.signCount, parsed.flags &&& kFlagUserVerified ≠ 0⟩

/-! ### What an accepted ceremony was signed over -/

/-- clientDataJSON names the ceremony and carries exactly the challenge. -/
def ClientDataFor (libs : Libraries) (clientDataJson type : String) (challenge : List UInt8) : Prop :=
  ∃ obj encoded, libs.jsonParse clientDataJson = some (.object obj) ∧
    jsonStringField obj "type" = some type ∧ jsonStringField obj "challenge" = some encoded ∧
    base64urlDecode encoded = .ok challenge

variable {libs : Libraries} {challenge : List UInt8} {text rpId origin type : String}

theorem verifyClientData_ok (h : verifyClientData libs text challenge origin type = .ok ()) :
    ClientDataFor libs text type challenge := by
  unfold verifyClientData invalid at h
  split at h
  · cases h
  · next obj parsed =>
    by_cases typed : jsonStringField obj "type" = some type
    · rw [if_neg (not_not.mpr typed)] at h
      split at h
      · cases h
      · split at h
        · cases h
        · next encoded named =>
          split at h
          · cases h
          · next bytes decoded =>
            by_cases same : bytes = challenge
            · exact ⟨obj, encoded, parsed, typed, named, by rw [decoded, same]⟩
            · rw [if_pos same] at h
              cases h
    · rw [if_pos typed] at h
      cases h
  · cases h

theorem verifyClientData_of {obj : JsonObject} {encoded : String}
    (parsed : libs.jsonParse text = some (.object obj)) (typed : jsonStringField obj "type" = some type)
    (from_origin : jsonStringField obj "origin" = some origin)
    (named : jsonStringField obj "challenge" = some encoded)
    (decoded : base64urlDecode encoded = .ok challenge) :
    verifyClientData libs text challenge origin type = .ok () := by
  unfold verifyClientData
  rw [parsed]
  dsimp only
  rw [if_neg (not_not.mpr typed), if_neg (not_not.mpr from_origin), named]
  dsimp only
  rw [decoded]
  exact if_neg (not_not.mpr rfl)

theorem verifyRegistration_ok {attestation : List UInt8} {result : RegistrationResult}
    (h : verifyRegistration libs challenge text attestation rpId origin = .ok result) :
    ClientDataFor libs text "webauthn.create" challenge := by
  unfold verifyRegistration at h
  cases checked : verifyClientData libs text challenge origin "webauthn.create" with
  | error fault => simp [checked, bind, Except.bind] at h
  | ok _ => exact verifyClientData_ok checked

theorem verifyAuthentication_ok {authData signature key : List UInt8} {count : UInt32}
    {result : AssertionResult}
    (h : verifyAuthentication libs challenge text authData signature key count rpId origin =
      .ok result) : ClientDataFor libs text "webauthn.get" challenge := by
  unfold verifyAuthentication at h
  cases checked : verifyClientData libs text challenge origin "webauthn.get" with
  | error fault => simp [checked, bind, Except.bind] at h
  | ok _ => exact verifyClientData_ok checked

theorem parseAuthenticatorData_header {authData : List UInt8} {parsed : AuthenticatorData}
    (h : parseAuthenticatorData libs authData false = .ok parsed) :
    parsed = authenticatorHeader authData := by
  unfold parseAuthenticatorData invalid at h
  split at h
  · cases h
  · exact (Except.ok.inj h).symm

theorem checkAuthenticator_ok {parsed : AuthenticatorData}
    (h : checkAuthenticator libs parsed rpId = .ok ()) : parsed.flags &&& kFlagUserPresent ≠ 0 := by
  unfold checkAuthenticator invalid at h
  obtain ⟨expected, _, h⟩ := bind_ok h
  intro absent
  rw [if_pos absent] at h
  split at h <;> cases h

/-- An accepted assertion has user presence, and reports the count and the flag of its
authenticatorData; the count is new, or neither side counts. -/
theorem verifyAuthentication_reports {authData signature key : List UInt8} {count : UInt32}
    {result : AssertionResult}
    (h : verifyAuthentication libs challenge text authData signature key count rpId origin =
      .ok result) :
    (authenticatorHeader authData).flags &&& kFlagUserPresent ≠ 0 ∧
    result = ⟨(authenticatorHeader authData).signCount,
      (authenticatorHeader authData).flags &&& kFlagUserVerified ≠ 0⟩ ∧
    ((count = 0 ∧ result.newSignCount = 0) ∨ count < result.newSignCount) := by
  unfold verifyAuthentication at h
  obtain ⟨_, _, h⟩ := bind_ok h
  obtain ⟨parsed, header, h⟩ := bind_ok h
  obtain ⟨_, present, h⟩ := bind_ok h
  obtain ⟨clientDataHash, _, h⟩ := bind_ok h
  obtain ⟨coseKey, _, h⟩ := bind_ok h
  obtain ⟨publicKey, _, h⟩ := bind_ok h
  obtain rfl := parseAuthenticatorData_header header
  split at h
  · cases h
  · split at h
    · cases h
    · next increased =>
      obtain rfl := Except.ok.inj h
      refine ⟨checkAuthenticator_ok present, rfl, ?_⟩
      by_cases uncounted : count = 0 ∧ (authenticatorHeader authData).signCount = 0
      · exact Or.inl uncounted
      · exact Or.inr (UInt32.not_le.mp fun le => increased ⟨uncounted, le⟩)

end Atomwall.WebAuthn
