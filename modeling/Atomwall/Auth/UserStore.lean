import Atomwall.Auth.Passwords
import Atomwall.Auth.Encoding
import Mathlib.Data.List.Lookmap

/-!
`UserStore`: the admin accounts and the newest TOTP step each of them has used. Every operation runs
under the store's mutex; one that saves changes memory first, whatever the file system then says.
-/

namespace Atomwall

structure TotpConfig where
  secretBase32 : String

structure WebAuthnCredential where
  idB64url : String
  label : String
  cosePublicKey : List UInt8
  signCount : UInt32
  createdAt : Int

structure UserRecord where
  username : String
  saltHex : String
  hashHex : String
  iterations : Int
  createdAt : Int
  totp : Option TotpConfig := none
  backupCodes : List BackupCode := []
  webauthnCredentials : List WebAuthnCredential := []
  webauthnUserHandleB64 : Option String := none

def UserRecord.passwordHash (user : UserRecord) : PasswordHash :=
  ⟨user.saltHex, user.hashHex, user.iterations⟩

def UserRecord.hasSecondFactor (user : UserRecord) : Bool :=
  user.totp.isSome || !user.webauthnCredentials.isEmpty

structure UserStore where
  users : List UserRecord
  lastTotpStep : KeyMap String Int := ∅

namespace UserStore

variable (s : UserStore) (m : Moment)

def find (username : String) : Option UserRecord := s.users.find? (·.username == username)

def isEmpty : Bool := s.users.isEmpty

def hasSecondFactor (username : String) : Bool :=
  match s.find username with
  | none => false
  | some user => user.hasSecondFactor

/-- `find_if` on the name, and the change made to the record found. -/
def modifyUser (username : String) (change : UserRecord → UserRecord) : UserStore :=
  { s with users := s.users.lookmap fun user =>
      if user.username = username then some (change user) else none }

/-- `save_locked` and the return of `value`. -/
def saveLocked {α : Type} (value : α) : Except Fault α × UserStore :=
  (if m.saved then .ok value else .error .runtimeError, s)

def validateNewCredentials (username password : String) : Except Fault Unit :=
  if username = "" then .error (.invalidArgument "username must not be empty")
  else if password.length < 8 then
    .error (.invalidArgument "password must be at least 8 characters")
  else .ok ()

def addUserLocked {α : Type} (libs : Libraries) (username password : String) (value : α) :
    Except Fault α × UserStore :=
  if s.users.any (·.username == username) then
    (.error (.invalidArgument "username already exists"), s)
  else
    match (hashPassword libs password).value m with
    | .error fault => (.error fault, s)
    | .ok hashed =>
      let user : UserRecord := { username, saltHex := hashed.saltHex, hashHex := hashed.hashHex,
                                 iterations := hashed.iterations, createdAt := m.now }
      { s with users := s.users ++ [user] }.saveLocked m value

def create (libs : Libraries) (username password : String) : Except Fault Unit × UserStore :=
  match validateNewCredentials username password with
  | .error fault => (.error fault, s)
  | .ok () => s.addUserLocked m libs username password ()

def createIfEmpty (libs : Libraries) (username password : String) : Except Fault Bool × UserStore :=
  match validateNewCredentials username password with
  | .error fault => (.error fault, s)
  | .ok () => if s.users.isEmpty then s.addUserLocked m libs username password true else (.ok false, s)

def remove (username : String) : Except Fault Bool × UserStore :=
  match s.find username with
  | none => (.ok false, s)
  | some _ =>
    if s.users.length = 1 then
      (.error (.invalidArgument "cannot remove the last remaining admin user"), s)
    else { s with users := s.users.eraseP (·.username == username) }.saveLocked m true

def setTotp (libs : Libraries) (username secretBase32 : String) (backupCodes : List String) :
    Except Fault Unit × UserStore :=
  match s.find username with
  | none => (.error (.invalidArgument "user not found"), s)
  | some _ =>
    let enrolled := s.modifyUser username fun user => { user with totp := some ⟨secretBase32⟩ }
    match (BackupCodes.hash libs backupCodes).value m with
    | .error fault => (.error fault, enrolled)
    | .ok codes =>
      (enrolled.modifyUser username fun user => { user with backupCodes := codes }).saveLocked m ()

def clearTotp (username : String) : Except Fault Unit × UserStore :=
  match s.find username with
  | none => (.error (.invalidArgument "user not found"), s)
  | some _ =>
    (s.modifyUser username fun user => { user with totp := none, backupCodes := [] }).saveLocked m ()

def regenerateBackupCodes (libs : Libraries) (username : String) :
    Except Fault (List String) × UserStore :=
  match s.find username with
  | none => (.error (.invalidArgument "user not found"), s)
  | some user =>
    if user.totp.isNone then (.error (.invalidArgument "TOTP is not enabled for this user"), s)
    else
      let draw : Rand (List String × List BackupCode) := do
        let plaintext ← BackupCodes.generate
        return (plaintext, ← BackupCodes.hash libs plaintext)
      match draw.value m with
      | .error fault => (.error fault, s)
      | .ok (plaintext, codes) =>
        (s.modifyUser username fun user => { user with backupCodes := codes }).saveLocked m plaintext

def consumeBackupCode (libs : Libraries) (username candidate : String) :
    Except Fault Bool × UserStore :=
  match s.find username with
  | none => (.ok false, s)
  | some user =>
    match BackupCodes.consume libs user.backupCodes candidate with
    | .error fault => (.error fault, s)
    | .ok none => (.ok false, s)
    | .ok (some codes) =>
      (s.modifyUser username fun user => { user with backupCodes := codes }).saveLocked m true

def consumeTotpStep (username : String) (step : Int) : Bool × UserStore :=
  match s.lastTotpStep.lookup username with
  | some last =>
    if step ≤ last then (false, s)
    else (true, { s with lastTotpStep := s.lastTotpStep.insert username step })
  | none => (true, { s with lastTotpStep := s.lastTotpStep.insert username step })

def webauthnUserHandle (username : String) : Except Fault String × UserStore :=
  match s.find username with
  | none => (.error (.invalidArgument "user not found"), s)
  | some user =>
    match user.webauthnUserHandleB64 with
    | some handle => (.ok handle, s)
    | none =>
      match (randBytes 32).value m with
      | .error fault => (.error fault, s)
      | .ok bytes =>
        let handle := base64urlEncode bytes
        (s.modifyUser username fun user => { user with webauthnUserHandleB64 := some handle }).saveLocked
          m handle

def addWebauthnCredential (username : String) (credential : WebAuthnCredential) :
    Except Fault Unit × UserStore :=
  match s.find username with
  | none => (.error (.invalidArgument "user not found"), s)
  | some _ =>
    (s.modifyUser username fun user => { user with
      webauthnCredentials := user.webauthnCredentials ++ [credential] }).saveLocked m ()

def removeWebauthnCredential (username credentialId : String) : Except Fault Bool × UserStore :=
  match s.find username with
  | none => (.ok false, s)
  | some user =>
    if user.webauthnCredentials.any (·.idB64url == credentialId) then
      (s.modifyUser username fun user => { user with
        webauthnCredentials := user.webauthnCredentials.eraseP (·.idB64url == credentialId) }).saveLocked
        m true
    else (.ok false, s)

def updateWebauthnSignCount (username credentialId : String) (newSignCount : UInt32) :
    Except Fault Unit × UserStore :=
  match s.find username with
  | none => (.ok (), s)
  | some user =>
    if user.webauthnCredentials.any (·.idB64url == credentialId) then
      (s.modifyUser username fun user => { user with
        webauthnCredentials := user.webauthnCredentials.lookmap fun c =>
          if c.idB64url = credentialId then some { c with signCount := newSignCount } else none
        }).saveLocked m ()
    else (.ok (), s)

def findByCredentialId (credentialId : String) : Option UserRecord :=
  s.users.find? fun user => user.webauthnCredentials.any (·.idB64url == credentialId)

/-! ### What the operations do to the record of a name -/

variable {s m}

theorem find_username {username : String} {user : UserRecord} (h : s.find username = some user) :
    user.username = username := by
  simpa using List.find?_some h

@[simp] theorem saveLocked_store {α : Type} (value : α) : (s.saveLocked m value).2 = s := rfl

@[simp] theorem modifyUser_lastTotpStep (username : String) (change : UserRecord → UserRecord) :
    (s.modifyUser username change).lastTotpStep = s.lastTotpStep := rfl

/-- Changing the first entry of a name changes what is found under that name and no other. -/
theorem find?_lookmap {α : Type} {name : α → String} {f : α → α} (keeps : ∀ a, name (f a) = name a)
    {l : List α} {changed sought : String} :
    (l.lookmap fun a => if name a = changed then some (f a) else none).find? (name · == sought) =
      if sought = changed then (l.find? (name · == sought)).map f else l.find? (name · == sought) := by
  induction l with
  | nil => simp
  | cons a rest ih =>
    by_cases named : name a = changed
    · rw [List.lookmap_cons_some _ _ (by rw [if_pos named])]
      by_cases same : sought = changed
      · subst same
        simp [named, keeps]
      · have apart : ¬ name a = sought := fun here => same (here.symm.trans named)
        simp [keeps, same, apart]
    · rw [List.lookmap_cons_none _ _ (by rw [if_neg named])]
      by_cases here : name a = sought
      · have other_named : ¬ sought = changed := by rwa [← here]
        simp [here, other_named]
      · simp only [List.find?_cons, beq_eq_false_iff_ne.mpr here]
        exact ih

theorem find_modifyUser {change : UserRecord → UserRecord}
    (keeps : ∀ user, (change user).username = user.username) (username other : String) :
    (s.modifyUser username change).find other =
      if other = username then (s.find other).map change else s.find other :=
  find?_lookmap keeps

theorem saveLocked_ok {α : Type} {value result : α} {next : UserStore}
    (h : s.saveLocked m value = (.ok result, next)) : result = value ∧ next = s := by
  unfold saveLocked at h
  split at h <;> cases h
  exact ⟨rfl, rfl⟩

end UserStore

end Atomwall
