import Atomwall.Auth.Accounts

/-!
The operations of `UserStore` as one type. Each changes `users_` before it saves, and nothing puts the
change back: this file says exactly which failing operations leave it.
-/

namespace Atomwall

namespace BackupCodes

theorem mapM_getElem? {α β : Type} {f : α → Except Fault β} {inputs : List α} {outputs : List β}
    (h : inputs.mapM f = .ok outputs) {i : Nat} {b : β} (there : outputs[i]? = some b) :
    ∃ a, inputs[i]? = some a ∧ f a = .ok b := by
  induction inputs generalizing outputs i with
  | nil =>
    obtain rfl : [] = outputs := Except.ok.inj h
    simp at there
  | cons first rest ih =>
    rw [List.mapM_cons] at h
    cases head : f first with
    | error fault => simp [head, bind, Except.bind] at h
    | ok value =>
      cases tail : rest.mapM f with
      | error fault => simp [head, tail, bind, Except.bind] at h
      | ok values =>
        simp only [head, tail, bind, Except.bind, pure, Except.pure, Except.ok.injEq] at h
        subst h
        cases i with
        | zero => exact ⟨first, rfl, by simpa [head] using there⟩
        | succ i => exact ih tail there

theorem consume_ne {libs : Libraries} {codes next : List BackupCode} {candidate : String}
    (h : consume libs codes candidate = .ok (some next)) : next ≠ codes := by
  unfold consume at h
  split at h
  · cases checked : codes.mapM fun code =>
        if code.used then .ok false else verifyPassword libs candidate code.hash with
    | error fault => simp [checked, bind, Except.bind] at h
    | ok matched =>
      simp only [checked, bind, Except.bind, pure, Except.pure] at h
      split at h
      · cases h
      · next index found =>
        obtain rfl := Option.some.inj (Except.ok.inj h)
        have hit : matched[index]? = some true := by
          rw [List.idxOf?, List.findIdx?_eq_some_iff_getElem] at found
          obtain ⟨bound, equal, -⟩ := found
          rw [List.getElem?_eq_getElem bound]
          simpa using equal
        obtain ⟨code, there, right⟩ := mapM_getElem? checked hit
        intro same
        have entries := congrArg (·[index]?) same
        rw [List.getElem?_modify_eq, there] at entries
        have marked : true = code.used := congrArg BackupCode.used (Option.some.inj entries)
        rw [if_pos marked.symm] at right
        cases right
  · cases h

end BackupCodes

namespace UserStore

/-- The operations that change the store. -/
inductive Op where
  | create (username password : String)
  | createIfEmpty (username password : String)
  | remove (username : String)
  | setTotp (username secretBase32 : String) (backupCodes : List String)
  | clearTotp (username : String)
  | regenerateBackupCodes (username : String)
  | consumeBackupCode (username candidate : String)
  | consumeTotpStep (username : String) (step : Int)
  | webauthnUserHandle (username : String)
  | addWebauthnCredential (username : String) (credential : WebAuthnCredential)
  | removeWebauthnCredential (username credentialId : String)
  | updateWebauthnSignCount (username credentialId : String) (newSignCount : UInt32)

def outcome {α : Type} (result : Except Fault α × UserStore) : Option Fault × UserStore :=
  (match result.1 with
    | .ok _ => none
    | .error fault => some fault, result.2)

variable (libs : Libraries) (m : Moment) (s : UserStore)

def Op.run : Op → Option Fault × UserStore
  | .create username password => outcome (s.create m libs username password)
  | .createIfEmpty username password => outcome (s.createIfEmpty m libs username password)
  | .remove username => outcome (s.remove m username)
  | .setTotp username secret codes => outcome (s.setTotp m libs username secret codes)
  | .clearTotp username => outcome (s.clearTotp m username)
  | .regenerateBackupCodes username => outcome (s.regenerateBackupCodes m libs username)
  | .consumeBackupCode username candidate => outcome (s.consumeBackupCode m libs username candidate)
  | .consumeTotpStep username step => (none, (s.consumeTotpStep username step).2)
  | .webauthnUserHandle username => outcome (s.webauthnUserHandle m username)
  | .addWebauthnCredential username credential => outcome (s.addWebauthnCredential m username credential)
  | .removeWebauthnCredential username id => outcome (s.removeWebauthnCredential m username id)
  | .updateWebauthnSignCount username id count => outcome (s.updateWebauthnSignCount m username id count)

def after (calls : List (Moment × Op)) : UserStore :=
  calls.foldl (fun s call => (call.2.run libs call.1 s).2) { users := [] }

/-! ### The operations that get as far as the save -/

def hashes (password : String) : Prop := ∃ hashed, (hashPassword libs password).value m = .ok hashed

def drawCodes : Rand (List String × List BackupCode) := do
  let plaintext ← BackupCodes.generate
  return (plaintext, ← BackupCodes.hash libs plaintext)

/-- Nothing stops the operation before `save_locked`. -/
def Op.Saves : Op → Prop
  | .create username password =>
    validateNewCredentials username password = .ok () ∧ s.find username = none ∧ hashes libs m password
  | .createIfEmpty username password =>
    validateNewCredentials username password = .ok () ∧ s.users = [] ∧ hashes libs m password
  | .remove username => (s.find username).isSome ∧ s.users.length ≠ 1
  | .setTotp username _ codes =>
    (s.find username).isSome ∧ ∃ hashed, (BackupCodes.hash libs codes).value m = .ok hashed
  | .clearTotp username | .addWebauthnCredential username _ => (s.find username).isSome
  | .regenerateBackupCodes username =>
    (∃ user, s.find username = some user ∧ user.totp.isSome) ∧ ∃ drawn, (drawCodes libs).value m = .ok drawn
  | .consumeBackupCode username candidate =>
    ∃ user, s.find username = some user ∧
      ∃ codes, BackupCodes.consume libs user.backupCodes candidate = .ok (some codes)
  | .consumeTotpStep _ _ => False
  | .webauthnUserHandle username =>
    (∃ user, s.find username = some user ∧ user.webauthnUserHandleB64 = none) ∧
      ∃ bytes, (randBytes 32).value m = .ok bytes
  | .removeWebauthnCredential username id | .updateWebauthnSignCount username id _ =>
    ∃ user, s.find username = some user ∧ user.webauthnCredentials.any (·.idB64url == id)

/-- The record already is what the operation would make of it. -/
def Op.Idle : Op → Prop
  | .setTotp username secret codes =>
    ∃ user, s.find username = some user ∧ user.totp = some ⟨secret⟩ ∧
      (BackupCodes.hash libs codes).value m = .ok user.backupCodes
  | .clearTotp username =>
    ∃ user, s.find username = some user ∧ user.totp = none ∧ user.backupCodes = []
  | .regenerateBackupCodes username =>
    ∃ user plaintext, s.find username = some user ∧
      (drawCodes libs).value m = .ok (plaintext, user.backupCodes)
  | .updateWebauthnSignCount username id count =>
    ∃ user credential, s.find username = some user ∧
      user.webauthnCredentials.find? (·.idB64url == id) = some credential ∧ credential.signCount = count
  | _ => False

/-- `set_totp` stores a new secret and then cannot hash the codes that go with it. -/
def Op.HalfEnrols : Op → Prop
  | .setTotp username secret codes =>
    ∃ user, s.find username = some user ∧ user.totp ≠ some ⟨secret⟩ ∧
      ∃ fault, (BackupCodes.hash libs codes).value m = .error fault
  | _ => False

/-! ### What a failing operation leaves -/

def Undone (result : Option Fault × UserStore) : Prop := result.1.isSome → result.2.users = s.users

variable {libs m s}

theorem undone_kept {α : Type} (result : Except Fault α) : Undone s (outcome (result, s)) := fun _ => rfl

theorem undone_save {α : Type} {value : α} {changed : UserStore} :
    Undone s (outcome (changed.saveLocked m value)) ↔ m.saved = true ∨ changed.users = s.users := by
  unfold Undone outcome saveLocked
  cases m.saved <;> simp

theorem modifyUser_same_iff {username : String} {user : UserRecord} {change : UserRecord → UserRecord}
    (found : s.find username = some user) :
    (s.modifyUser username change).users = s.users ↔ change user = user := by
  unfold find at found
  change (s.users.lookmap fun old => if old.username = username then some (change old) else none) = s.users ↔ _
  generalize s.users = users at found ⊢
  induction users with
  | nil => cases found
  | cons first rest ih =>
    by_cases named : first.username = username
    · obtain rfl : first = user := by simpa [named] using found
      rw [List.lookmap_cons_some _ _ (by rw [if_pos named]), List.cons.injEq]
      exact and_iff_left rfl
    · rw [List.lookmap_cons_none _ _ (by rw [if_neg named]), List.cons.injEq, and_iff_right rfl]
      exact ih (by simpa [named] using found)

theorem modifyUser_modifyUser {username : String} {first second : UserRecord → UserRecord}
    (keeps : ∀ user, (first user).username = user.username) :
    (s.modifyUser username first).modifyUser username second =
      s.modifyUser username fun user => second (first user) := by
  unfold modifyUser
  dsimp only
  congr 1
  induction s.users with
  | nil => rfl
  | cons user rest ih =>
    by_cases named : user.username = username
    · rw [List.lookmap_cons_some _ _ (by rw [if_pos named]),
        List.lookmap_cons_some _ _ (by rw [if_pos ((keeps user).trans named)]),
        List.lookmap_cons_some _ _ (by rw [if_pos named])]
    · rw [List.lookmap_cons_none _ _ (by rw [if_neg named]), List.lookmap_cons_none _ _ (by rw [if_neg named]),
        List.lookmap_cons_none _ _ (by rw [if_neg named]), ih]

/-- The exact condition for an operation to leave nothing behind when it throws. -/
def Op.Restores (libs : Libraries) (m : Moment) (s : UserStore) (op : Op) : Prop :=
  (op.Saves libs m s → m.saved = true ∨ op.Idle libs m s) ∧ ¬ op.HalfEnrols libs m s

theorem find_eq_none_iff {username : String} :
    s.find username = none ↔ s.users.any (·.username == username) = false := by
  simp [find]

section

variable {username password secret candidate id : String}

theorem undone_addUserLocked {α : Type} (value : α) :
    Undone s (outcome (s.addUserLocked m libs username password value)) ↔
      (s.find username = none → hashes libs m password → m.saved = true) := by
  unfold addUserLocked
  rw [find_eq_none_iff]
  cases taken : s.users.any (·.username == username) with
  | true => simp [undone_kept]
  | false =>
    cases hashed : (hashPassword libs password).value m with
    | error fault => simp [undone_kept, hashes, hashed]
    | ok hash => simp [undone_save, hashes, hashed]

theorem undone_create : Undone s ((Op.create username password).run libs m s) ↔
    (Op.create username password).Restores libs m s := by
  cases valid : validateNewCredentials username password with
  | error fault => simp [Op.run, create, valid, undone_kept, Op.Restores, Op.Saves, Op.HalfEnrols]
  | ok _ =>
    simp [Op.run, create, valid, undone_addUserLocked, Op.Restores, Op.Saves, Op.Idle, Op.HalfEnrols]

theorem undone_createIfEmpty : Undone s ((Op.createIfEmpty username password).run libs m s) ↔
    (Op.createIfEmpty username password).Restores libs m s := by
  cases valid : validateNewCredentials username password with
  | error fault => simp [Op.run, createIfEmpty, valid, undone_kept, Op.Restores, Op.Saves, Op.HalfEnrols]
  | ok _ =>
    by_cases empty : s.users = []
    · have unknown : s.find username = none := by simp [find, empty]
      simp [Op.run, createIfEmpty, valid, empty, undone_addUserLocked, unknown, Op.Restores, Op.Saves, Op.Idle,
        Op.HalfEnrols]
    · simp [Op.run, createIfEmpty, valid, empty, undone_kept, Op.Restores, Op.Saves, Op.HalfEnrols]

theorem undone_remove : Undone s ((Op.remove username).run libs m s) ↔
    (Op.remove username).Restores libs m s := by
  cases found : s.find username with
  | none => simp [Op.run, remove, found, undone_kept, Op.Restores, Op.Saves, Op.HalfEnrols]
  | some user =>
    by_cases last : s.users.length = 1
    · simp [Op.run, remove, found, last, undone_kept, Op.Restores, Op.Saves, Op.HalfEnrols]
    · have erased : ¬ s.users.eraseP (·.username == username) = s.users := by
        intro same
        have shorter := List.length_eraseP_of_mem (find_mem found) (p := (·.username == username))
          (by simpa using find_username found)
        have positive := List.length_pos_of_mem (find_mem found)
        rw [same] at shorter
        omega
      simp [Op.run, remove, found, last, undone_save, erased, Op.Restores, Op.Saves, Op.Idle, Op.HalfEnrols]

theorem undone_setTotp {codes : List String} : Undone s ((Op.setTotp username secret codes).run libs m s) ↔
    (Op.setTotp username secret codes).Restores libs m s := by
  cases found : s.find username with
  | none => simp [Op.run, setTotp, found, undone_kept, Op.Restores, Op.Saves, Op.HalfEnrols]
  | some user =>
    cases hashed : (BackupCodes.hash libs codes).value m with
    | error fault =>
      have enrolled : (s.modifyUser username fun user => { user with totp := some ⟨secret⟩ }).users = s.users ↔
          user.totp = some ⟨secret⟩ := by
        rw [modifyUser_same_iff found]
        exact ⟨fun same => (congrArg UserRecord.totp same).symm, fun same => by rw [← same]⟩
      simp [Op.run, setTotp, found, hashed, Undone, outcome, enrolled, Op.Restores, Op.Saves, Op.HalfEnrols]
    | ok hash =>
      have same : ((s.modifyUser username fun user => { user with totp := some ⟨secret⟩ }).modifyUser username
          fun user => { user with backupCodes := hash }).users = s.users ↔
          user.totp = some ⟨secret⟩ ∧ hash = user.backupCodes := by
        rw [modifyUser_modifyUser, modifyUser_same_iff found]
        · constructor
          · intro same
            exact ⟨(congrArg UserRecord.totp same).symm, congrArg UserRecord.backupCodes same⟩
          · rintro ⟨totp, rfl⟩
            rw [← totp]
        · exact fun _ => rfl
      simp [Op.run, setTotp, found, hashed, undone_save, same, Op.Restores, Op.Saves, Op.Idle, Op.HalfEnrols]

theorem undone_clearTotp : Undone s ((Op.clearTotp username).run libs m s) ↔
    (Op.clearTotp username).Restores libs m s := by
  cases found : s.find username with
  | none => simp [Op.run, clearTotp, found, undone_kept, Op.Restores, Op.Saves, Op.HalfEnrols]
  | some user =>
    have same : (s.modifyUser username fun user => { user with totp := none, backupCodes := [] }).users = s.users ↔
        user.totp = none ∧ user.backupCodes = [] := by
      rw [modifyUser_same_iff found]
      constructor
      · intro same
        exact ⟨(congrArg UserRecord.totp same).symm, (congrArg UserRecord.backupCodes same).symm⟩
      · rintro ⟨totp, codes⟩
        rw [← totp, ← codes]
    simp [Op.run, clearTotp, found, undone_save, same, Op.Restores, Op.Saves, Op.Idle, Op.HalfEnrols]

theorem modifyUser_codes_same_iff {user : UserRecord} {codes : List BackupCode}
    (found : s.find username = some user) :
    (s.modifyUser username fun user => { user with backupCodes := codes }).users = s.users ↔
      codes = user.backupCodes := by
  rw [modifyUser_same_iff found]
  exact ⟨congrArg UserRecord.backupCodes, fun same => by rw [same]⟩

theorem undone_regenerateBackupCodes : Undone s ((Op.regenerateBackupCodes username).run libs m s) ↔
    (Op.regenerateBackupCodes username).Restores libs m s := by
  cases found : s.find username with
  | none => simp [Op.run, regenerateBackupCodes, found, undone_kept, Op.Restores, Op.Saves, Op.HalfEnrols]
  | some user =>
    cases enrolled : user.totp with
    | none =>
      simp [Op.run, regenerateBackupCodes, found, enrolled, undone_kept, Op.Restores, Op.Saves, Op.HalfEnrols]
    | some totp =>
      cases drawn : (drawCodes libs).value m with
      | error fault =>
        have run : s.regenerateBackupCodes m libs username = (.error fault, s) := by
          have draw := drawn
          unfold drawCodes at draw
          simp only [regenerateBackupCodes, found, enrolled, Option.isNone_some, Bool.false_eq_true, if_false, draw]
        simp [Op.run, run, drawn, undone_kept, Op.Restores, Op.Saves, Op.HalfEnrols]
      | ok pair =>
        obtain ⟨plaintext, codes⟩ := pair
        have run : s.regenerateBackupCodes m libs username =
            (s.modifyUser username fun user => { user with backupCodes := codes }).saveLocked m plaintext := by
          have draw := drawn
          unfold drawCodes at draw
          simp only [regenerateBackupCodes, found, enrolled, Option.isNone_some, Bool.false_eq_true, if_false, draw]
        simp [Op.run, run, drawn, undone_save, modifyUser_codes_same_iff found, found, enrolled, Op.Restores,
          Op.Saves, Op.Idle, Op.HalfEnrols]

theorem undone_consumeBackupCode : Undone s ((Op.consumeBackupCode username candidate).run libs m s) ↔
    (Op.consumeBackupCode username candidate).Restores libs m s := by
  cases found : s.find username with
  | none => simp [Op.run, consumeBackupCode, found, undone_kept, Op.Restores, Op.Saves, Op.HalfEnrols]
  | some user =>
    cases consumed : BackupCodes.consume libs user.backupCodes candidate with
    | error fault =>
      simp [Op.run, consumeBackupCode, found, consumed, undone_kept, Op.Restores, Op.Saves, Op.HalfEnrols]
    | ok left =>
      cases left with
      | none =>
        simp [Op.run, consumeBackupCode, found, consumed, undone_kept, Op.Restores, Op.Saves, Op.HalfEnrols]
      | some codes =>
        have used : codes ≠ user.backupCodes := BackupCodes.consume_ne consumed
        simp [Op.run, consumeBackupCode, found, consumed, undone_save, modifyUser_codes_same_iff found, used,
          Op.Restores, Op.Saves, Op.Idle, Op.HalfEnrols]

theorem undone_webauthnUserHandle : Undone s ((Op.webauthnUserHandle username).run libs m s) ↔
    (Op.webauthnUserHandle username).Restores libs m s := by
  cases found : s.find username with
  | none => simp [Op.run, webauthnUserHandle, found, undone_kept, Op.Restores, Op.Saves, Op.HalfEnrols]
  | some user =>
    cases known : user.webauthnUserHandleB64 with
    | some handle =>
      simp [Op.run, webauthnUserHandle, found, known, undone_kept, Op.Restores, Op.Saves, Op.HalfEnrols]
    | none =>
      cases drawn : (randBytes 32).value m with
      | error fault =>
        simp [Op.run, webauthnUserHandle, found, known, drawn, undone_kept, Op.Restores, Op.Saves, Op.HalfEnrols]
      | ok bytes =>
        have given : ¬ (s.modifyUser username fun user =>
            { user with webauthnUserHandleB64 := some (base64urlEncode bytes) }).users = s.users := by
          rw [modifyUser_same_iff found]
          intro same
          cases (congrArg UserRecord.webauthnUserHandleB64 same).trans known
        simp [Op.run, webauthnUserHandle, found, known, drawn, undone_save, given, Op.Restores, Op.Saves, Op.Idle,
          Op.HalfEnrols]

theorem modifyUser_credentials_same_iff {user : UserRecord}
    {change : List WebAuthnCredential → List WebAuthnCredential} (found : s.find username = some user) :
    (s.modifyUser username fun user =>
        { user with webauthnCredentials := change user.webauthnCredentials }).users = s.users ↔
      change user.webauthnCredentials = user.webauthnCredentials := by
  rw [modifyUser_same_iff found]
  exact ⟨congrArg UserRecord.webauthnCredentials, fun same => by rw [same]⟩

theorem undone_addWebauthnCredential {credential : WebAuthnCredential} :
    Undone s ((Op.addWebauthnCredential username credential).run libs m s) ↔
      (Op.addWebauthnCredential username credential).Restores libs m s := by
  cases found : s.find username with
  | none => simp [Op.run, addWebauthnCredential, found, undone_kept, Op.Restores, Op.Saves, Op.HalfEnrols]
  | some user =>
    have added : ¬ (s.modifyUser username fun user =>
        { user with webauthnCredentials := user.webauthnCredentials ++ [credential] }).users = s.users := by
      rw [modifyUser_same_iff found]
      intro same
      have longer := congrArg UserRecord.webauthnCredentials same
      simp at longer
    simp [Op.run, addWebauthnCredential, found, undone_save, added, Op.Restores, Op.Saves, Op.Idle, Op.HalfEnrols]

theorem undone_removeWebauthnCredential :
    Undone s ((Op.removeWebauthnCredential username id).run libs m s) ↔
      (Op.removeWebauthnCredential username id).Restores libs m s := by
  cases found : s.find username with
  | none => simp [Op.run, removeWebauthnCredential, found, undone_kept, Op.Restores, Op.Saves, Op.HalfEnrols]
  | some user =>
    cases stored : user.webauthnCredentials.any (·.idB64url == id) with
    | false =>
      simp [Op.run, removeWebauthnCredential, found, stored, undone_kept, Op.Restores, Op.Saves, Op.HalfEnrols,
        -List.any_eq_true]
    | true =>
      have gone : ¬ (s.modifyUser username fun user =>
          { user with webauthnCredentials := user.webauthnCredentials.eraseP (·.idB64url == id) }).users =
            s.users := by
        rw [modifyUser_credentials_same_iff found]
        intro same
        obtain ⟨credential, member, -⟩ := List.any_eq_true.mp stored
        have shorter := congrArg List.length same
        have positive := List.length_pos_of_mem member
        rw [List.length_eraseP, if_pos stored] at shorter
        omega
      simp [Op.run, removeWebauthnCredential, found, stored, undone_save, gone, Op.Restores, Op.Saves, Op.Idle,
        Op.HalfEnrols, -List.any_eq_true]

theorem lookmap_count_same_iff {credentials : List WebAuthnCredential} {count : UInt32}
    {credential : WebAuthnCredential} (first : credentials.find? (·.idB64url == id) = some credential) :
    (credentials.lookmap fun c => if c.idB64url = id then some { c with signCount := count } else none) =
      credentials ↔ credential.signCount = count := by
  induction credentials with
  | nil => cases first
  | cons c rest ih =>
    by_cases named : c.idB64url = id
    · obtain rfl : c = credential := by simpa [named] using first
      rw [List.lookmap_cons_some _ _ (by rw [if_pos named]), List.cons.injEq, and_iff_left rfl]
      constructor
      · intro same
        exact (congrArg WebAuthnCredential.signCount same).symm
      · rintro rfl
        rfl
    · rw [List.lookmap_cons_none _ _ (by rw [if_neg named]), List.cons.injEq, and_iff_right rfl]
      exact ih (by simpa [named] using first)

theorem undone_updateWebauthnSignCount {count : UInt32} :
    Undone s ((Op.updateWebauthnSignCount username id count).run libs m s) ↔
      (Op.updateWebauthnSignCount username id count).Restores libs m s := by
  cases found : s.find username with
  | none => simp [Op.run, updateWebauthnSignCount, found, undone_kept, Op.Restores, Op.Saves, Op.HalfEnrols]
  | some user =>
    cases stored : user.webauthnCredentials.any (·.idB64url == id) with
    | false =>
      simp [Op.run, updateWebauthnSignCount, found, stored, undone_kept, Op.Restores, Op.Saves, Op.HalfEnrols,
        -List.any_eq_true]
    | true =>
      have there : (user.webauthnCredentials.find? (·.idB64url == id)).isSome = true := by
        rw [List.find?_isSome]
        simpa using stored
      obtain ⟨credential, first⟩ := Option.isSome_iff_exists.mp there
      have same : (s.modifyUser username fun user => { user with
          webauthnCredentials := user.webauthnCredentials.lookmap fun c =>
            if c.idB64url = id then some { c with signCount := count } else none }).users = s.users ↔
          credential.signCount = count := by
        rw [modifyUser_credentials_same_iff found]
        exact lookmap_count_same_iff first
      simp [Op.run, updateWebauthnSignCount, found, stored, undone_save, same, first, Op.Restores, Op.Saves,
        Op.Idle, Op.HalfEnrols, -List.any_eq_true]

end

/-- An operation that throws leaves the accounts as they were exactly where it has not come to the save,
the file is written or what it saves is no change, and where it is no enrolment broken off in the middle. -/
theorem throwing_op_undone_iff (op : Op) : Undone s (op.run libs m s) ↔ op.Restores libs m s := by
  cases op with
  | create username password => exact undone_create
  | createIfEmpty username password => exact undone_createIfEmpty
  | remove username => exact undone_remove
  | setTotp username secret codes => exact undone_setTotp
  | clearTotp username => exact undone_clearTotp
  | regenerateBackupCodes username => exact undone_regenerateBackupCodes
  | consumeBackupCode username candidate => exact undone_consumeBackupCode
  | consumeTotpStep username step => simp [Op.run, Undone, Op.Restores, Op.Saves, Op.HalfEnrols]
  | webauthnUserHandle username => exact undone_webauthnUserHandle
  | addWebauthnCredential username credential => exact undone_addWebauthnCredential
  | removeWebauthnCredential username id => exact undone_removeWebauthnCredential
  | updateWebauthnSignCount username id count => exact undone_updateWebauthnSignCount

def sampleLibraries : Libraries where
  jsonParse _ := none
  toIso8601 _ := "1970-01-01T00:00:00Z"
  pbkdf2 _ _ _ := some [0]
  hmacSha1 _ _ := none
  sha256 _ := none
  cborLoad _ := none
  validKey _ := false
  digestVerify _ _ _ := false

/-- On a full disk the first account is refused, and there nevertheless. -/
theorem unsaved_account_kept :
    ¬ ∀ (libs : Libraries) (calls : List (Moment × Op)) (m : Moment) (op : Op),
        Undone (after libs calls) (op.run libs m (after libs calls)) := by
  intro claim
  have undone := claim sampleLibraries [] ⟨0, fun _ => some 0, false⟩ (.createIfEmpty "ada" "correct horse")
    (by decide +kernel)
  exact absurd (congrArg List.length undone) (by decide +kernel)

end UserStore

end Atomwall
