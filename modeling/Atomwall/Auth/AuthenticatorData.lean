import Atomwall.Base.BitPrefix
import Atomwall.Auth.WebAuthn

/-!
The layout of authenticatorData, that `parse_authenticator_data` accepts exactly the byte strings of
it, and that it reads nothing outside them.
-/

namespace Atomwall.WebAuthn

/-! ### Checked reads -/

/-- The range `start .. start + count` of a buffer, where the buffer has it. -/
def slice (data : List UInt8) (start count : Nat) : Option (List UInt8) :=
  if start + count ≤ data.length then some ((data.drop start).take count) else none

/-- `parse_authenticator_data` with every access to a buffer checked: `none` where one is outside. -/
def readAuthenticatorData (libs : Libraries) (authData : List UInt8)
    (requireAttestedCredential : Bool) : Option (Except Fault AuthenticatorData) :=
  if authData.length < kFixedHeaderLen then
    some (invalid "authenticatorData is shorter than the fixed header")
  else do
    let rpIdHash ← slice authData 0 32
    let flags ← authData[32]?
    let a : UInt8 ← authData[33]?
    let b : UInt8 ← authData[34]?
    let c : UInt8 ← authData[35]?
    let d : UInt8 ← authData[36]?
    let out : AuthenticatorData :=
      { rpIdHash, flags,
        signCount := (a.toUInt32 <<< 24) ||| (b.toUInt32 <<< 16) ||| (c.toUInt32 <<< 8) |||
          d.toUInt32 }
    if !requireAttestedCredential then some (.ok out)
    else if out.flags &&& kFlagAttestedCredentialData = 0 then
      some (invalid "authenticatorData is missing attested credential data")
    else if authData.length < kFixedHeaderLen + kAaguidLen + 2 then
      some (invalid "authenticatorData truncated before credentialId length")
    else do
      let offset := kFixedHeaderLen + kAaguidLen
      let high ← authData[offset]?
      let low ← authData[offset + 1]?
      let credIdLen := high.toNat * 256 + low.toNat
      let offset := offset + 2
      if authData.length < offset + credIdLen then
        some (invalid "authenticatorData truncated before end of credentialId")
      else do
        let credentialId ← slice authData offset credIdLen
        if authData.length ≤ offset + credIdLen then
          some (invalid "authenticatorData is missing the credential public key")
        else do
          let remaining ← slice authData (offset + credIdLen)
            (authData.length - (offset + credIdLen))
          match parseCborPrefix libs remaining with
          | .error fault => some (.error fault)
          | .ok (.map _, consumed) => do
            let cosePublicKey ← slice remaining 0 consumed
            some (.ok { out with credentialId, cosePublicKey })
          | .ok _ => some (invalid "credential public key is not a COSE_Key map")

/-! ### The layout -/

/-- A 32-byte hash, the flags and a big-endian 32-bit count. -/
def HeaderLayout (out : AuthenticatorData) (header : List UInt8) : Prop :=
  ∃ count, header = out.rpIdHash ++ out.flags :: count ∧ out.rpIdHash.length = 32 ∧
    count.length = 4 ∧ BitPrefix.value count = out.signCount.toNat

/-- The header, then the attested credential: a 16-byte AAGUID, a big-endian 16-bit length, that many
bytes of id, and a remainder that starts with the key, a CBOR map. -/
def AttestedLayout (libs : Libraries) (out : AuthenticatorData) (authData : List UInt8) : Prop :=
  ∃ header aaguid length remainder pairs consumed,
    authData = header ++ aaguid ++ length ++ out.credentialId ++ remainder ∧
    HeaderLayout out header ∧ out.flags &&& kFlagAttestedCredentialData ≠ 0 ∧
    aaguid.length = kAaguidLen ∧ length.length = 2 ∧
    BitPrefix.value length = out.credentialId.length ∧ remainder ≠ [] ∧
    parseCborPrefix libs remainder = .ok (.map pairs, consumed) ∧
    out.cosePublicKey = remainder.take consumed

/-- The header, with anything behind it. -/
def AssertionLayout (out : AuthenticatorData) (authData : List UInt8) : Prop :=
  ∃ header rest, authData = header ++ rest ∧ HeaderLayout out header ∧ out.credentialId = [] ∧
    out.cosePublicKey = []

def kCredentialIdAt : Nat := kFixedHeaderLen + kAaguidLen + 2

def credentialIdLength (authData : List UInt8) : Nat :=
  BitPrefix.value ((authData.drop (kFixedHeaderLen + kAaguidLen)).take 2)

/-- The attested layout, by the place of each field. -/
structure AttestedFields (libs : Libraries) (out : AuthenticatorData) (authData : List UInt8) :
    Prop where
  attested : (authenticatorHeader authData).flags &&& kFlagAttestedCredentialData ≠ 0
  keyed : kCredentialIdAt + credentialIdLength authData < authData.length
  read : ∃ pairs consumed,
    parseCborPrefix libs (authData.drop (kCredentialIdAt + credentialIdLength authData)) =
      .ok (.map pairs, consumed) ∧
    out =
      { authenticatorHeader authData with
        credentialId := (authData.drop kCredentialIdAt).take (credentialIdLength authData)
        cosePublicKey :=
          (authData.drop (kCredentialIdAt + credentialIdLength authData)).take consumed }

variable {libs : Libraries} {authData data hash rest : List UInt8} {out : AuthenticatorData}
  {flags a b c d : UInt8} {start count i : Nat}

theorem slice_eq (inside : start + count ≤ data.length) :
    slice data start count = some ((data.drop start).take count) := if_pos inside

theorem getElem?_eq_byteAt (inside : i < data.length) : data[i]? = some (byteAt data i) := by
  unfold byteAt
  rw [List.getD_eq_getElem?_getD, List.getElem?_eq_getElem inside, Option.getD_some]

theorem readAuthenticatorData_eq
    (documented : ∀ data value consumed,
      parseCborPrefix libs data = .ok (value, consumed) → consumed ≤ data.length)
    (required : Bool) :
    readAuthenticatorData libs authData required =
      some (parseAuthenticatorData libs authData required) := by
  unfold readAuthenticatorData parseAuthenticatorData
  by_cases short : authData.length < kFixedHeaderLen
  · rw [if_pos short, if_pos short]
  · rw [if_neg short, if_neg short]
    have long : 37 ≤ authData.length := Nat.not_lt.mp short
    rw [slice_eq (by omega), getElem?_eq_byteAt (by omega), getElem?_eq_byteAt (by omega),
      getElem?_eq_byteAt (by omega), getElem?_eq_byteAt (by omega), getElem?_eq_byteAt (by omega)]
    change (if _ then some (Except.ok (authenticatorHeader authData)) else _) =
      some (if _ then Except.ok (authenticatorHeader authData) else _)
    cases required with
    | false => rfl
    | true =>
      have needed : ¬ (!true) = true := by decide
      rw [if_neg needed, if_neg needed]
      by_cases unattested : (authenticatorHeader authData).flags &&& kFlagAttestedCredentialData = 0
      · exact (if_pos unattested).trans (congrArg some (if_pos unattested).symm)
      · refine (if_neg unattested).trans (Eq.trans ?_ (congrArg some (if_neg unattested).symm))
        by_cases truncated : authData.length < kFixedHeaderLen + kAaguidLen + 2
        · rw [if_pos truncated, if_pos truncated]
        · rw [if_neg truncated, if_neg truncated]
          have inside : kFixedHeaderLen + kAaguidLen + 2 ≤ authData.length := Nat.not_lt.mp truncated
          dsimp only
          rw [getElem?_eq_byteAt (by omega), getElem?_eq_byteAt (by omega)]
          generalize kFixedHeaderLen + kAaguidLen = offset at inside ⊢
          change (if _ < offset + 2 + ((byteAt authData offset).toNat * 256 +
            (byteAt authData (offset + 1)).toNat) then _ else _) = _
          generalize (byteAt authData offset).toNat * 256 + (byteAt authData (offset + 1)).toNat =
            credIdLen
          by_cases cut : authData.length < offset + 2 + credIdLen
          · rw [if_pos cut, if_pos cut]
          · rw [if_neg cut, if_neg cut, slice_eq (Nat.not_lt.mp cut)]
            by_cases keyless : authData.length ≤ offset + 2 + credIdLen
            · exact (if_pos keyless).trans (congrArg some (if_pos keyless).symm)
            · refine (if_neg keyless).trans (Eq.trans ?_ (congrArg some (if_neg keyless).symm))
              rw [slice_eq (by omega), List.take_of_length_le (by rw [List.length_drop])]
              generalize authData.drop (offset + 2 + credIdLen) = remaining
              simp only [Option.bind_eq_bind, Option.bind_some]
              cases parsed : parseCborPrefix libs remaining with
              | error fault => rfl
              | ok pair =>
                obtain ⟨value, consumed⟩ := pair
                cases value with
                | map pairs =>
                  have within := documented remaining _ consumed parsed
                  show (slice remaining 0 consumed).bind _ = _
                  rw [slice_eq (by omega)]
                  rfl
                | _ => rfl

/-! ### The bytes of the layout -/

theorem drop_byteAt (inside : i < data.length) :
    data.drop i = byteAt data i :: data.drop (i + 1) := by
  have read := getElem?_eq_byteAt inside
  rw [List.getElem?_eq_getElem inside, Option.some_inj] at read
  rw [List.drop_eq_getElem_cons inside, read]

theorem byteAt_append (inside : i < data.length) : byteAt (data ++ rest) i = byteAt data i := by
  unfold byteAt
  rw [List.getD_eq_getElem?_getD, List.getD_eq_getElem?_getD, List.getElem?_append_left inside]

theorem two_bytes (inside : i + 2 ≤ data.length) :
    (data.drop i).take 2 = [byteAt data i, byteAt data (i + 1)] := by
  rw [drop_byteAt (by omega), drop_byteAt (by omega), List.take_succ_cons, List.take_succ_cons,
    List.take_zero]

theorem four_bytes (inside : i + 4 ≤ data.length) :
    (data.drop i).take 4 =
      [byteAt data i, byteAt data (i + 1), byteAt data (i + 2), byteAt data (i + 3)] := by
  rw [drop_byteAt (by omega), drop_byteAt (by omega), List.take_succ_cons, List.take_succ_cons]
  exact congrArg (_ :: _ :: ·) (two_bytes (by omega))

theorem value_two (high low : UInt8) :
    BitPrefix.value [high, low] = high.toNat * 256 + low.toNat := by
  simp [BitPrefix.value]

theorem signCount_toNat (a b c d : UInt8) :
    ((a.toUInt32 <<< 24) ||| (b.toUInt32 <<< 16) ||| (c.toUInt32 <<< 8) ||| d.toUInt32).toNat =
      BitPrefix.value [a, b, c, d] := by
  have ha := a.toNat_lt
  have hb := b.toNat_lt
  have hc := c.toNat_lt
  have hd := d.toNat_lt
  have two : a.toNat <<< 24 ||| b.toNat <<< 16 = (a.toNat * 256 + b.toNat) <<< 16 := by
    rw [← Nat.shiftLeft_add_eq_or_of_lt (by rw [Nat.shiftLeft_eq]; omega)]
    simp only [Nat.shiftLeft_eq]
    omega
  have three : (a.toNat * 256 + b.toNat) <<< 16 ||| c.toNat <<< 8 =
      ((a.toNat * 256 + b.toNat) * 256 + c.toNat) <<< 8 := by
    rw [← Nat.shiftLeft_add_eq_or_of_lt (by rw [Nat.shiftLeft_eq]; omega)]
    simp only [Nat.shiftLeft_eq]
    omega
  have fits : a.toNat <<< 24 < 4294967296 ∧ b.toNat <<< 16 < 4294967296 ∧
      c.toNat <<< 8 < 4294967296 := by
    simp only [Nat.shiftLeft_eq]
    omega
  calc _ = a.toNat <<< 24 ||| b.toNat <<< 16 ||| c.toNat <<< 8 ||| d.toNat := by
        simp [UInt32.toNat_or, UInt32.toNat_shiftLeft, UInt8.toNat_toUInt32,
          Nat.mod_eq_of_lt fits.1, Nat.mod_eq_of_lt fits.2.1, Nat.mod_eq_of_lt fits.2.2]
    _ = ((a.toNat * 256 + b.toNat) * 256 + c.toNat) <<< 8 + d.toNat := by
        rw [two, three, Nat.shiftLeft_add_eq_or_of_lt hd]
    _ = BitPrefix.value [a, b, c, d] := by
        simp only [Nat.shiftLeft_eq, BitPrefix.value, List.length_cons, List.length_nil]
        omega

theorem header_bytes (long : data.length = kFixedHeaderLen) :
    data = data.take 32 ++ byteAt data 32 ::
      [byteAt data 33, byteAt data 34, byteAt data 35, byteAt data 36] := by
  have size : data.length = 37 := long
  have count := four_bytes (show 33 + 4 ≤ data.length by omega)
  rw [List.take_of_length_le (by rw [List.length_drop]; omega)] at count
  rw [← count, ← drop_byteAt (by omega), List.take_append_drop]

/-- The layout of the header, by the place of each field. -/
theorem headerLayout_iff {header : List UInt8} :
    HeaderLayout out header ↔ header.length = kFixedHeaderLen ∧
      authenticatorHeader header = { out with credentialId := [], cosePublicKey := [] } := by
  constructor
  · intro laid
    obtain ⟨count, same, hash, four, value⟩ := laid
    have long : header.length = kFixedHeaderLen := by
      rw [same, List.length_append, List.length_cons, hash, four]
      rfl
    have fields := same.symm.trans (header_bytes long)
    have taken : (header.take 32).length = 32 := by
      rw [List.length_take, long]
      rfl
    obtain ⟨first, others⟩ := List.append_inj fields (hash.trans taken.symm)
    obtain ⟨flag, counted⟩ := List.cons.inj others
    refine ⟨long, ?_⟩
    rw [counted, ← signCount_toNat] at value
    unfold authenticatorHeader
    rw [← first, ← flag, UInt32.toNat_inj.mp value]
  · intro placed
    obtain ⟨long, fields⟩ := placed
    obtain ⟨hash, flag, counted⟩ : header.take 32 = out.rpIdHash ∧ byteAt header 32 = out.flags ∧
        _ = out.signCount := by
      simpa only [authenticatorHeader, AuthenticatorData.mk.injEq, and_true] using fields
    refine ⟨[byteAt header 33, byteAt header 34, byteAt header 35, byteAt header 36], ?_, ?_, rfl, ?_⟩
    · rw [← hash, ← flag]
      exact header_bytes long
    · rw [← hash, List.length_take, long]
      rfl
    · rw [← counted, signCount_toNat]

theorem authenticatorHeader_append (long : kFixedHeaderLen ≤ data.length) :
    authenticatorHeader (data ++ rest) = authenticatorHeader data := by
  have inside : 37 ≤ data.length := long
  unfold authenticatorHeader
  rw [List.take_append_of_le_length (by omega), byteAt_append (by omega), byteAt_append (by omega),
    byteAt_append (by omega), byteAt_append (by omega), byteAt_append (by omega)]

/-! ### What is accepted -/

theorem parse_assertion_iff :
    parseAuthenticatorData libs authData false = .ok out ↔
      kFixedHeaderLen ≤ authData.length ∧ out = authenticatorHeader authData := by
  unfold parseAuthenticatorData invalid
  by_cases short : authData.length < kFixedHeaderLen
  · simp [short]
  · simp [short, Nat.not_lt.mp short, eq_comm]

/-- Past every guard, the embedded item decides. -/
theorem parse_attested_eq
    (attested : (authenticatorHeader authData).flags &&& kFlagAttestedCredentialData ≠ 0)
    (keyed : kCredentialIdAt + credentialIdLength authData < authData.length) :
    parseAuthenticatorData libs authData true =
      match parseCborPrefix libs (authData.drop (kCredentialIdAt + credentialIdLength authData)) with
      | .error fault => .error fault
      | .ok (.map _, consumed) =>
        .ok { authenticatorHeader authData with
              credentialId := (authData.drop kCredentialIdAt).take (credentialIdLength authData)
              cosePublicKey :=
                (authData.drop (kCredentialIdAt + credentialIdLength authData)).take consumed }
      | .ok _ => invalid "credential public key is not a COSE_Key map" := by
  have start : kCredentialIdAt = kFixedHeaderLen + kAaguidLen + 2 := rfl
  have inside : kFixedHeaderLen + kAaguidLen + 2 ≤ authData.length := by omega
  have length : credentialIdLength authData = _ :=
    (congrArg BitPrefix.value (two_bytes inside)).trans (value_two _ _)
  rw [length] at keyed ⊢
  unfold parseAuthenticatorData
  rw [if_neg (by omega), if_neg (by decide)]
  exact (if_neg attested).trans ((if_neg (by omega)).trans ((if_neg (by omega)).trans
    (if_neg (by omega))))

theorem parse_attested_guards (parsed : parseAuthenticatorData libs authData true = .ok out) :
    (authenticatorHeader authData).flags &&& kFlagAttestedCredentialData ≠ 0 ∧
      kCredentialIdAt + credentialIdLength authData < authData.length := by
  unfold parseAuthenticatorData invalid at parsed
  by_cases short : authData.length < kFixedHeaderLen
  · rw [if_pos short] at parsed
    cases parsed
  · rw [if_neg short, if_neg (by decide)] at parsed
    by_cases unattested : (authenticatorHeader authData).flags &&& kFlagAttestedCredentialData = 0
    · cases (if_pos unattested).symm.trans parsed
    · refine ⟨unattested, ?_⟩
      have parsed := (if_neg unattested).symm.trans parsed
      by_cases truncated : authData.length < kFixedHeaderLen + kAaguidLen + 2
      · cases (if_pos truncated).symm.trans parsed
      · have parsed := (if_neg truncated).symm.trans parsed
        have length : credentialIdLength authData = _ :=
          (congrArg BitPrefix.value (two_bytes (Nat.not_lt.mp truncated))).trans (value_two _ _)
        rw [length]
        by_contra keyless
        dsimp only at parsed
        split at parsed
        · cases parsed
        · cases (if_pos (Nat.not_lt.mp keyless)).symm.trans parsed

theorem parse_attested_iff :
    parseAuthenticatorData libs authData true = .ok out ↔ AttestedFields libs out authData := by
  constructor
  · intro parsed
    obtain ⟨attested, keyed⟩ := parse_attested_guards parsed
    refine ⟨attested, keyed, ?_⟩
    rw [parse_attested_eq attested keyed] at parsed
    split at parsed
    · cases parsed
    · next pairs consumed read => exact ⟨pairs, consumed, read, (Except.ok.inj parsed).symm⟩
    · cases parsed
  · intro fields
    obtain ⟨attested, keyed, pairs, consumed, read, rfl⟩ := fields
    rw [parse_attested_eq attested keyed, read]

theorem take_append_drop_add (n m : Nat) (data : List UInt8) :
    (data.drop n).take m ++ data.drop (n + m) = data.drop n := by
  rw [← List.drop_drop, List.take_append_drop]

theorem authenticatorHeader_take (long : kFixedHeaderLen ≤ data.length) :
    (data.take kFixedHeaderLen).length = kFixedHeaderLen ∧
      authenticatorHeader (data.take kFixedHeaderLen) = authenticatorHeader data := by
  have taken : (data.take kFixedHeaderLen).length = kFixedHeaderLen := List.length_take_of_le long
  refine ⟨taken, ?_⟩
  have whole := @authenticatorHeader_append (data.take kFixedHeaderLen) (data.drop kFixedHeaderLen)
    taken.ge
  rw [List.take_append_drop] at whole
  exact whole.symm

theorem assertionLayout_iff : AssertionLayout out authData ↔
    kFixedHeaderLen ≤ authData.length ∧ out = authenticatorHeader authData := by
  constructor
  · intro laid
    obtain ⟨header, rest, rfl, placed, noId, noKey⟩ := laid
    obtain ⟨long, fields⟩ := headerLayout_iff.mp placed
    rw [authenticatorHeader_append long.ge, fields, List.length_append]
    obtain ⟨hash, flags, count, id, key⟩ := out
    obtain rfl : id = [] := noId
    obtain rfl : key = [] := noKey
    exact ⟨by omega, rfl⟩
  · intro given
    obtain ⟨long, rfl⟩ := given
    exact ⟨authData.take kFixedHeaderLen, authData.drop kFixedHeaderLen,
      (List.take_append_drop _ _).symm, headerLayout_iff.mpr (authenticatorHeader_take long), rfl, rfl⟩

theorem attestedLayout_iff : AttestedLayout libs out authData ↔ AttestedFields libs out authData := by
  constructor
  · intro laid
    obtain ⟨header, aaguid, length, remainder, pairs, consumed, same, placed, attested, model, two,
      counted, nonempty, read, key⟩ := laid
    obtain ⟨long, fields⟩ := headerLayout_iff.mp placed
    have behind : authData.drop (kFixedHeaderLen + kAaguidLen) =
        length ++ (out.credentialId ++ remainder) := by
      rw [same, List.append_assoc, List.append_assoc]
      exact List.drop_left' (by rw [List.length_append, long, model])
    have id : authData.drop kCredentialIdAt = out.credentialId ++ remainder := by
      unfold kCredentialIdAt
      rw [← List.drop_drop, behind]
      exact List.drop_left' two
    have counts : credentialIdLength authData = out.credentialId.length := by
      unfold credentialIdLength
      rw [behind, List.take_left' two, counted]
    have last : authData.drop (kCredentialIdAt + credentialIdLength authData) = remainder := by
      rw [← List.drop_drop, id, counts]
      exact List.drop_left' rfl
    have header_at : authenticatorHeader authData =
        { out with credentialId := [], cosePublicKey := [] } := by
      rw [same, List.append_assoc, List.append_assoc, List.append_assoc,
        authenticatorHeader_append long.ge, fields]
    refine ⟨by rwa [header_at], ?_, pairs, consumed, by rwa [last], ?_⟩
    · by_contra short
      rw [List.drop_eq_nil_of_le (Nat.not_lt.mp short)] at last
      exact nonempty last.symm
    · rw [header_at, last, id, counts, List.take_left' rfl, ← key]
  · intro fields
    obtain ⟨attested, keyed, pairs, consumed, read, rfl⟩ := fields
    have start : kCredentialIdAt = kFixedHeaderLen + kAaguidLen + 2 := rfl
    have long : kFixedHeaderLen ≤ authData.length := by omega
    have idLength : ((authData.drop kCredentialIdAt).take (credentialIdLength authData)).length =
        credentialIdLength authData := by
      rw [List.length_take, List.length_drop]
      omega
    refine ⟨authData.take kFixedHeaderLen, (authData.drop kFixedHeaderLen).take kAaguidLen,
      (authData.drop (kFixedHeaderLen + kAaguidLen)).take 2,
      authData.drop (kCredentialIdAt + credentialIdLength authData), pairs, consumed, ?_,
      headerLayout_iff.mpr (authenticatorHeader_take long), attested, ?_, ?_, idLength.symm, ?_,
      read, rfl⟩
    · rw [List.append_assoc, take_append_drop_add, start, List.append_assoc, take_append_drop_add,
        List.append_assoc, take_append_drop_add, List.take_append_drop]
    · rw [List.length_take, List.length_drop]
      omega
    · rw [List.length_take, List.length_drop]
      omega
    · intro empty
      have none_left := congrArg List.length empty
      rw [List.length_drop, List.length_nil] at none_left
      omega

/-- Both decodings are the inverse of their layout, and every access is inside the input. -/
theorem authenticatorData_decoding (libs : Libraries)
    (documented : ∀ data value consumed,
      parseCborPrefix libs data = .ok (value, consumed) → consumed ≤ data.length)
    (authData : List UInt8) :
    (∀ required, readAuthenticatorData libs authData required =
      some (parseAuthenticatorData libs authData required)) ∧
    (∀ out, parseAuthenticatorData libs authData true = .ok out ↔
      AttestedLayout libs out authData) ∧
    ((∃ out, parseAuthenticatorData libs authData false = .ok out) ↔
      kFixedHeaderLen ≤ authData.length) ∧
    (∀ out, parseAuthenticatorData libs authData false = .ok out ↔ AssertionLayout out authData) := by
  refine ⟨readAuthenticatorData_eq documented, fun out => ?_, ?_, fun out => ?_⟩
  · rw [attestedLayout_iff, parse_attested_iff]
  · constructor
    · intro accepted
      obtain ⟨out, parsed⟩ := accepted
      exact (parse_assertion_iff.mp parsed).1
    · intro long
      exact ⟨authenticatorHeader authData, parse_assertion_iff.mpr ⟨long, rfl⟩⟩
  · rw [assertionLayout_iff, parse_assertion_iff]

def emptyMapReader : Libraries where
  jsonParse := fun _ => none
  toIso8601 := fun _ => ""
  pbkdf2 := fun _ _ _ => none
  hmacSha1 := fun _ _ => none
  sha256 := fun _ => none
  cborLoad := fun data => if data.head? = some 0xA0 then some (.map [], 1) else none
  validKey := fun _ => false
  digestVerify := fun _ _ _ => false

theorem emptyMapReader_consumed (data : List UInt8) (value : CborValue) (consumed : Nat)
    (read : parseCborPrefix emptyMapReader data = .ok (value, consumed)) :
    consumed ≤ data.length := by
  unfold parseCborPrefix invalid at read
  split at read
  · cases read
  · next size =>
    cases data with
    | nil => simp at size
    | cons first rest =>
      by_cases start : first = 0xA0
      · simp only [emptyMapReader, List.head?_cons, start, if_true] at read
        obtain ⟨_, rfl⟩ : _ ∧ 1 = consumed := by
          simpa [convert, convertPairs, Except.map, kMaxDepth, kMaxContainerElements] using read
        simp
      · simp [emptyMapReader, start] at read

/-- A registration with the id `07 08`, its key and one byte behind it. -/
def attestedSample : List UInt8 :=
  List.replicate 32 0xAB ++ 0x41 :: [0, 0, 1, 2] ++ List.replicate 16 0 ++ [0, 2] ++ [7, 8] ++ [0xA0, 9]

theorem attestedSample_fields :
    AttestedFields emptyMapReader
      ⟨List.replicate 32 0xAB, 0x41, 258, [7, 8], [0xA0]⟩ attestedSample where
  attested := by decide
  keyed := by decide
  read := by
    refine ⟨[], 1, ?_, ?_⟩
    · have rest : attestedSample.drop (kCredentialIdAt + credentialIdLength attestedSample) =
          [0xA0, 9] := by decide
      rw [rest]
      simp [parseCborPrefix, emptyMapReader, convert, convertPairs, Except.map, kMaxCborBytes,
        kMaxDepth, kMaxContainerElements]
    · rw [AuthenticatorData.mk.injEq]
      decide

theorem authenticatorData_decoding_sample :
    AttestedLayout emptyMapReader
      ⟨List.replicate 32 0xAB, 0x41, 258, [7, 8], [0xA0]⟩ attestedSample ∧
    readAuthenticatorData emptyMapReader attestedSample true =
      some (parseAuthenticatorData emptyMapReader attestedSample true) :=
  have decoding := authenticatorData_decoding emptyMapReader emptyMapReader_consumed attestedSample
  ⟨(decoding.2.1 _).mp (parse_attested_iff.mpr attestedSample_fields), decoding.1 true⟩

end Atomwall.WebAuthn
