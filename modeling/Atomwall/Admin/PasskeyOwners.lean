import Atomwall.Admin.Ceremonies
import Atomwall.Admin.SessionOwners
import Atomwall.Auth.Passkeys

/-!
Whose a passkey is: registrations take whatever credential id the client presents, so the lookup by id
tells the account that registered it exactly as long as nobody presents an id that is held.
-/

namespace Atomwall.Admin

open Http ByteString

/-- The account that a call stored a credential with the id for. The record keeps the credential also
where the file could not be written. -/
def registeredFor (credentialId : String) : Made → Option String
  | ⟨.usersAddWebauthnCredential username credential, result⟩ =>
    match result with
    | .error (.invalidArgument _) => none
    | _ => if credential.idB64url = credentialId then some username else none
  | _ => none

section Interleaving

variable {ι : Type}

/-- The account that the id was registered for last, in the run or else before it. -/
def registrantOf (start : UserStore) (log : List (Logged ι)) (credentialId : String) : Option String :=
  match log.findSome? fun e => registeredFor credentialId e.event with
  | some username => some username
  | none => (start.findByCredentialId credentialId).map (·.username)

/-- A passkey identifies one account: no id is held twice, an id resolves to the account that
registered it only, and to nobody once it has been removed. -/
structure Identifies (start : UserStore) (log : List (Logged ι)) (s : UserStore) : Prop where
  distinct : s.passkeyIds.Nodup
  registrant : ∀ credentialId user, s.findByCredentialId credentialId = some user →
    registrantOf start log credentialId = some user.username
  removed : ∀ m username credentialId t,
    s.removeWebauthnCredential m username credentialId = (.ok true, t) →
    t.findByCredentialId credentialId = none

abbrev RequestPool (ι : Type) := Prog.Pool ι Moment Call Call.Result Fault Response AppState

/-- A credential that the step adds to an account has an id that no account holds. -/
def AddsUnheld (now : RequestPool ι) (a : ι × Moment) : Prop :=
  ∀ username credential next,
    now.threads a.1 = .call (.usersAddWebauthnCredential username credential) next →
    (now.store.users.find username).isSome = true →
    now.store.users.findByCredentialId credential.idB64url = none

variable {libs : Libraries} {op : Call} {m : Moment} {s : AppState} {start : UserStore}
  {log : List (Logged ι)} {i : ι}

theorem perform_passkeys
    (other : ∀ username credential, op ≠ .usersAddWebauthnCredential username credential) :
    (perform libs op m s).2.users.passkeys.Sublist s.users.passkeys := by
  cases op with
  | usersCreate => exact UserStore.passkeys_create
  | usersCreateIfEmpty => exact UserStore.passkeys_createIfEmpty
  | usersRemove => exact UserStore.passkeys_remove
  | usersSetTotp => exact UserStore.passkeys_setTotp
  | usersClearTotp => exact UserStore.passkeys_clearTotp
  | usersRegenerateBackupCodes => exact UserStore.passkeys_regenerateBackupCodes
  | usersConsumeBackupCode => exact UserStore.passkeys_consumeBackupCode
  | usersConsumeTotpStep => exact UserStore.passkeys_consumeTotpStep
  | usersWebauthnUserHandle => exact UserStore.passkeys_webauthnUserHandle
  | usersAddWebauthnCredential username credential => exact absurd rfl (other username credential)
  | usersRemoveWebauthnCredential => exact UserStore.passkeys_removeWebauthnCredential
  | usersUpdateWebauthnSignCount => exact UserStore.passkeys_updateWebauthnSignCount
  | configUpdate mutator =>
    obtain ⟨config, left, _⟩ := @perform_configUpdate libs m s mutator
    rw [left]
  | _ => exact List.Sublist.refl _

theorem registrantOf_cons_none {e : Logged ι} {credentialId : String}
    (h : registeredFor credentialId e.event = none) :
    registrantOf start (e :: log) credentialId = registrantOf start log credentialId := by
  unfold registrantOf
  rw [List.findSome?_cons, h]

theorem registrantOf_cons_some {e : Logged ι} {credentialId username : String}
    (h : registeredFor credentialId e.event = some username) :
    registrantOf start (e :: log) credentialId = some username := by
  unfold registrantOf
  rw [List.findSome?_cons, h]

/-- The last clause follows from the others. -/
theorem identifies_of {users : UserStore} (distinct : users.passkeyIds.Nodup)
    (registrant : ∀ holder credentialId, (holder, credentialId) ∈ users.passkeys →
      registrantOf start log credentialId = some holder) : Identifies start log users where
  distinct := distinct
  registrant _ _ found := registrant _ _ (UserStore.findByCredentialId_holds found)
  removed _ _ _ _ removed := UserStore.findByCredentialId_removed distinct removed

theorem Identifies.holder {users : UserStore} (h : Identifies start log users)
    {holder credentialId : String} (holds : (holder, credentialId) ∈ users.passkeys) :
    registrantOf start log credentialId = some holder := by
  obtain ⟨user, found, rfl⟩ := UserStore.findByCredentialId_holder h.distinct holds
  exact h.registrant credentialId user found

theorem Identifies.fewer {users : UserStore} {e : Logged ι} (h : Identifies start log s.users)
    (fewer : users.passkeys.Sublist s.users.passkeys)
    (silent : ∀ credentialId, registeredFor credentialId e.event = none) :
    Identifies start (e :: log) users := by
  apply identifies_of
  · exact h.distinct.sublist (fewer.map _)
  · intro holder credentialId holds
    rw [registrantOf_cons_none (silent credentialId)]
    exact h.holder (fewer.subset holds)

theorem Identifies.add {username : String} {credential : WebAuthnCredential} {user : UserRecord}
    (known : s.users.find username = some user) (h : Identifies start log s.users) :
    Identifies start
        (⟨i, m, ⟨.usersAddWebauthnCredential username credential,
          (perform libs (.usersAddWebauthnCredential username credential) m s).1⟩⟩ :: log)
        (perform libs (.usersAddWebauthnCredential username credential) m s).2.users ↔
      s.users.findByCredentialId credential.idB64url = none := by
  obtain ⟨before, after, held, grown⟩ :=
    @UserStore.passkeys_addWebauthnCredential s.users m username user credential known
  have grown : (perform libs (.usersAddWebauthnCredential username credential) m s).2.users.passkeys =
      before ++ (username, credential.idB64url) :: after := grown
  have stored : ∀ credentialId, registeredFor credentialId
      ⟨.usersAddWebauthnCredential username credential,
        (perform libs (.usersAddWebauthnCredential username credential) m s).1⟩ =
      if credential.idB64url = credentialId then some username else none := by
    intro credentialId
    simp only [perform, onUsers_fst, UserStore.addWebauthnCredential, known, UserStore.saveLocked]
    cases m.saved <;> rfl
  have fresh_iff : s.users.findByCredentialId credential.idB64url = none ↔
      credential.idB64url ∉ (before ++ after).map Prod.snd := by
    rw [UserStore.findByCredentialId_eq_none, UserStore.passkeyIds, held]
  rw [fresh_iff]
  constructor
  · intro after_add
    have distinct := after_add.distinct
    rw [UserStore.passkeyIds, grown] at distinct
    grind
  · intro fresh
    have distinct : ((before ++ after).map Prod.snd).Nodup := by
      rw [← held]
      exact h.distinct
    apply identifies_of
    · rw [UserStore.passkeyIds, grown]
      grind
    · intro holder credentialId holds
      rw [grown, List.mem_append, List.mem_cons] at holds
      by_cases own : credential.idB64url = credentialId
      · rw [registrantOf_cons_some ((stored credentialId).trans (if_pos own))]
        rcases holds with left | here | right
        · exact absurd (List.mem_map.mpr ⟨_, List.mem_append_left _ left, own.symm⟩) fresh
        · rw [(Prod.mk.inj here).1]
        · exact absurd (List.mem_map.mpr ⟨_, List.mem_append_right _ right, own.symm⟩) fresh
      · rw [registrantOf_cons_none ((stored credentialId).trans (if_neg own))]
        apply h.holder
        rw [held, List.mem_append]
        rcases holds with left | here | right
        · exact Or.inl left
        · exact absurd (Prod.mk.inj here).2.symm own
        · exact Or.inr right

/-- One call: passkeys go on identifying accounts exactly when a credential that it adds has an id that
nobody holds. -/
theorem Identifies.call (h : Identifies start log s.users) :
    Identifies start (⟨i, m, ⟨op, (perform libs op m s).1⟩⟩ :: log) (perform libs op m s).2.users ↔
      ∀ username credential, op = .usersAddWebauthnCredential username credential →
        (s.users.find username).isSome = true →
        s.users.findByCredentialId credential.idB64url = none := by
  by_cases adds : ∃ username credential, op = .usersAddWebauthnCredential username credential
  · obtain ⟨username, credential, rfl⟩ := adds
    cases known : s.users.find username with
    | none =>
      have refused : s.users.addWebauthnCredential m username credential =
          (.error (.invalidArgument "user not found"), s.users) := by
        simp [UserStore.addWebauthnCredential, known]
      refine iff_of_true (h.fewer ?_ fun credentialId => ?_) ?_
      · simp [perform, refused]
      · simp [perform, refused, registeredFor]
      · intro name other same there
        obtain ⟨rfl, rfl⟩ := Call.usersAddWebauthnCredential.inj same
        rw [known] at there
        cases there
    | some user =>
      rw [h.add known]
      constructor
      · intro fresh name other same _
        obtain ⟨rfl, rfl⟩ := Call.usersAddWebauthnCredential.inj same
        exact fresh
      · intro fresh
        exact fresh username credential rfl (by rw [known]; rfl)
  · have other : ∀ username credential, op ≠ .usersAddWebauthnCredential username credential :=
      fun username credential same => adds ⟨username, credential, same⟩
    refine iff_of_true (h.fewer (perform_passkeys other) fun credentialId => ?_) ?_
    · cases op with
      | usersAddWebauthnCredential username credential => exact absurd rfl (other username credential)
      | _ => rfl
    · exact fun username credential same => absurd same (other username credential)

end Interleaving

/-- Admin requests whose calls interleave: passkeys identify accounts in every state reached exactly
when they do at the start and no step gives an account an id that is held. -/
theorem passkeys_identify_iff {ι : Type} [DecidableEq ι] (libs : Libraries) (others : OtherHandlers)
    (request : ι → Request) (clientIp : ι → String) (app : AppState) (actions : List (ι × Moment)) :
    Lts.Throughout (Prog.Pool.step (perform libs))
        (fun now : RequestPool ι => Identifies app.users now.log now.store.users)
        ⟨app, fun i => handleConnection libs others (request i) (clientIp i), []⟩ actions ↔
      app.users.passkeyIds.Nodup ∧
        Lts.Meets (Prog.Pool.step (perform libs)) AddsUnheld
          ⟨app, fun i => handleConnection libs others (request i) (clientIp i), []⟩ actions := by
  have idle : ∀ (now : RequestPool ι) a, Prog.Pool.step (perform libs) now a = none →
      AddsUnheld now a := by
    rintro now ⟨i, m⟩ none username credential next calls
    rw [Prog.Pool.step_of_call calls] at none
    cases none
  have kept : ∀ (now : RequestPool ι) a next, Identifies app.users now.log now.store.users →
      Prog.Pool.step (perform libs) now a = some next →
      (Identifies app.users next.log next.store.users ↔ AddsUnheld now a) := by
    rintro now ⟨i, m⟩ next h taken
    obtain ⟨op, rest, calls, rfl⟩ := Prog.Pool.step_call taken
    refine h.call.trans ⟨?_, ?_⟩
    · intro unheld username credential next' calls'
      have same : Prog.call op rest = .call (.usersAddWebauthnCredential username credential) next' :=
        calls.symm.trans calls'
      exact unheld username credential (Prog.call.inj same).1
    · rintro unheld username credential rfl
      exact unheld username credential rest calls
  rw [Lts.throughout_iff_meets idle kept]
  refine and_congr_left fun _ => ⟨Identifies.distinct, fun distinct => identifies_of distinct ?_⟩
  intro holder credentialId holds
  obtain ⟨user, found, rfl⟩ := UserStore.findByCredentialId_holder distinct holds
  show (app.users.findByCredentialId credentialId).map (·.username) = some user.username
  rw [found]
  rfl

/-! ### One passkey, registered twice -/

def ownersLibraries : Libraries :=
  { registrationLibraries with
    jsonParse := fun text => (registrationLibraries.jsonParse text).or (sampleLibraries.jsonParse text)
    pbkdf2 := sampleLibraries.pbkdf2 }

def passkeyRequest (draw : UInt8) (target body : String) : Request where
  methodString := "POST"
  target := target
  fields := [("Host", "localhost"), ("Cookie", sessionCookie draw)]
  body := body

/-- Two accounts sign in and go through one registration each. -/
def ownersRequest : Nat → Request
  | 0 => passkeyRequest 0 "/api/auth/login" rootLogin
  | 1 => passkeyRequest 1 "/api/auth/2fa/webauthn/register/options" ""
  | 2 => passkeyRequest 1 "/api/auth/2fa/webauthn/register/verify" sampleBody
  | 3 => passkeyRequest 0 "/api/auth/login" guestLogin
  | 4 => passkeyRequest 2 "/api/auth/2fa/webauthn/register/options" ""
  | _ => passkeyRequest 2 "/api/auth/2fa/webauthn/register/verify" sampleBody

def ownersDraw : Nat → UInt8
  | 0 => 1
  | 3 => 2
  | _ => 5

def ownersActions : List (Nat × Moment) :=
  (List.range 6).flatMap fun i =>
    List.replicate (if i % 3 = 1 then 6 else 7) (i, ⟨seconds 10, fun _ => some (ownersDraw i), true⟩)

def ownersRun : Option (RequestPool Nat) :=
  Lts.run (Prog.Pool.step (perform ownersLibraries))
    ⟨sampleApp, fun i => handleConnection ownersLibraries noOtherHandlers (ownersRequest i) "unknown", []⟩
    ownersActions

theorem owners_jsonParse (text : String) : ownersLibraries.jsonParse text =
    (registrationLibraries.jsonParse text).or (sampleLibraries.jsonParse text) := rfl

theorem ownersLibraries_reads : ReadsSample ownersLibraries := by
  have cborLoad : ownersLibraries.cborLoad = registrationLibraries.cborLoad := rfl
  have sha256 : ownersLibraries.sha256 = registrationLibraries.sha256 := rfl
  have validKey : ownersLibraries.validKey = registrationLibraries.validKey := rfl
  obtain ⟨body, clientData, attestation, coseKey, digest, key⟩ := registrationLibraries_reads
  refine ⟨?_, ?_, ?_, ?_, ?_, ?_⟩
  · rw [owners_jsonParse, body, Option.some_or]
  · rw [owners_jsonParse, clientData, Option.some_or]
  · rw [cborLoad, attestation]
  · rw [cborLoad, coseKey]
  · rw [sha256, digest]
  · rw [validKey, key]

/-- Both verify requests run any program that a connection is on requests which carry as much. -/
theorem ownersRun_eq {verify : Request → JsonObject → RegistrationCheck → Handler Response}
    (verifies : ∀ libs others request clientIp body fields check,
      Registers libs request.body body fields check →
      handlerFor request.method request.target = .webauthnRegisterVerify →
      handleConnection libs others request clientIp = verify request body check) :
    ownersRun = Lts.run (Prog.Pool.step (perform ownersLibraries))
      ⟨sampleApp, fun i =>
        if i = 2 ∨ 5 ≤ i then
          verify (ownersRequest i) [("credential", sampleCredential), ("label", .string "Laptop")]
            (sampleCheck ownersLibraries)
        else handleConnection ownersLibraries noOtherHandlers (ownersRequest i) "unknown", []⟩
      ownersActions := by
  have route : handlerFor .post "/api/auth/2fa/webauthn/register/verify" = .webauthnRegisterVerify := by
    decide +kernel
  have programs : (fun i => handleConnection ownersLibraries noOtherHandlers (ownersRequest i) "unknown") =
      fun i => if i = 2 ∨ 5 ≤ i then
        verify (ownersRequest i) [("credential", sampleCredential), ("label", .string "Laptop")]
          (sampleCheck ownersLibraries)
        else handleConnection ownersLibraries noOtherHandlers (ownersRequest i) "unknown" := by
    funext i
    split
    · next last =>
      have sent : ∃ draw, ownersRequest i =
          passkeyRequest draw "/api/auth/2fa/webauthn/register/verify" sampleBody := by
        obtain rfl | late := last
        · exact ⟨1, rfl⟩
        · obtain ⟨n, rfl⟩ := Nat.exists_eq_add_of_le' late
          exact ⟨2, rfl⟩
      obtain ⟨draw, sent⟩ := sent
      rw [sent]
      exact verifies _ _ _ _ _ _ _ (sample_registers ownersLibraries_reads) route
    · rfl
  unfold ownersRun
  rw [programs]

/-- The guest presents the credential id that root has registered. -/
theorem passkey_registered_twice :
    ¬ ∀ (libs : Libraries) (others : OtherHandlers) (request : Nat → Request) (clientIp : Nat → String)
        (app : AppState) (actions : List (Nat × Moment)) (s : RequestPool Nat),
        app.users.passkeyIds.Nodup →
        Lts.run (Prog.Pool.step (perform libs))
          ⟨app, fun i => handleConnection libs others (request i) (clientIp i), []⟩ actions = some s →
        s.store.users.passkeyIds.Nodup := by
  intro claim
  have held : ownersRun.map (fun s => s.store.users.passkeys) =
      some [("root", "AQIDBA"), ("guest", "AQIDBA")] := by
    rw [ownersRun_eq ?verifies]
    -- as in the run of one registration, the handler is evaluated on what the body carries
    case verifies =>
      intro libs others request clientIp body fields check registers route
      unfold handleConnection
      simp only [route, runRoute]
      unfold handleWebauthnRegisterVerify
      simp only [registers.parses, registers.sends, registers.checks]
      exact rfl
    decide +kernel
  obtain ⟨s, run, both⟩ := Option.map_eq_some_iff.mp held
  have distinct := claim ownersLibraries noOtherHandlers ownersRequest (fun _ => "unknown") sampleApp
    ownersActions s (by decide) run
  rw [UserStore.passkeyIds, both] at distinct
  revert distinct
  decide

end Atomwall.Admin
