import Atomwall.Auth.ChallengeStore
import Atomwall.Auth.Totp
import Atomwall.Auth.UserStore
import Atomwall.Auth.WebAuthn
import Atomwall.Base.Program
import Atomwall.Config.RuntimeConfig

/-!
The calls of the admin handlers on the services of `AppState`. Each takes one lock, so each is one
step of whoever makes it.
-/

namespace Atomwall.Admin

open Http

structure LoginEvent where
  seq : Nat
  timestamp : Int
  username : String
  clientIp : String

structure LoginHistory where
  buffer : List LoginEvent := []
  capacity : Nat := 200
  nextSeq : Nat := 1

def LoginHistory.record (history : LoginHistory) (timestamp : Int) (username clientIp : String) :
    LoginHistory :=
  let buffer := history.buffer ++ [⟨history.nextSeq, timestamp, username, clientIp⟩]
  { history with buffer := buffer.drop (buffer.length - history.capacity),
                 nextSeq := history.nextSeq + 1 }

def LoginHistory.recent (history : LoginHistory) (limit : Nat) : List LoginEvent :=
  history.buffer.drop (history.buffer.length - min limit history.buffer.length)

structure AppState where
  users : UserStore
  sessions : SessionStore := ∅
  pendingMfa : PendingMfaStore := ∅
  pendingTotp : PendingTotpStore := ∅
  challenges : ChallengeStore := {}
  loginHistory : LoginHistory := {}
  config : RuntimeConfig := {}

inductive Call where
  | usersEmpty
  | usersList
  | usersFind (username : String)
  | usersCreate (username password : String)
  | usersCreateIfEmpty (username password : String)
  | usersRemove (username : String)
  | usersSetTotp (username secretBase32 : String) (backupCodes : List String)
  | usersClearTotp (username : String)
  | usersRegenerateBackupCodes (username : String)
  | usersConsumeBackupCode (username candidate : String)
  | usersConsumeTotpStep (username : String) (step : Int)
  | usersWebauthnUserHandle (username : String)
  | usersAddWebauthnCredential (username : String) (credential : WebAuthnCredential)
  | usersRemoveWebauthnCredential (username credentialId : String)
  | usersUpdateWebauthnSignCount (username credentialId : String) (newSignCount : UInt32)
  | usersFindByCredentialId (credentialId : String)
  | sessionsCreate (username : String) (needsMfaSetup : Bool)
  | sessionsValidate (token : String)
  | sessionsInvalidate (token : String)
  | sessionsMarkMfaSatisfied (token : String)
  | pendingMfaCreate (username : String)
  | pendingMfaValidate (token : String)
  | pendingMfaInvalidate (token : String)
  | pendingTotpStart (username secretBase32 : String)
  | pendingTotpSecretFor (username : String)
  | pendingTotpClear (username : String)
  | challengesStart (key : String) (challenge : Challenge)
  | challengesConsume (key : String)
  | loginHistoryRecord (username clientIp : String)
  | loginHistoryRecent (limit : Nat)
  | configGet
  | configUpdate (mutator : RuntimeConfig → Except Fault RuntimeConfig)
  | now
  | randBytes (count : Nat)
  | generateTotpSecret
  | generateBackupCodes

@[reducible] def Call.Result : Call → Type
  | .usersEmpty => Bool
  | .usersList => List UserRecord
  | .usersFind _ => Option UserRecord
  | .usersCreate _ _ => Except Fault Unit
  | .usersCreateIfEmpty _ _ => Except Fault Bool
  | .usersRemove _ => Except Fault Bool
  | .usersSetTotp _ _ _ => Except Fault Unit
  | .usersClearTotp _ => Except Fault Unit
  | .usersRegenerateBackupCodes _ => Except Fault (List String)
  | .usersConsumeBackupCode _ _ => Except Fault Bool
  | .usersConsumeTotpStep _ _ => Bool
  | .usersWebauthnUserHandle _ => Except Fault String
  | .usersAddWebauthnCredential _ _ => Except Fault Unit
  | .usersRemoveWebauthnCredential _ _ => Except Fault Bool
  | .usersUpdateWebauthnSignCount _ _ _ => Except Fault Unit
  | .usersFindByCredentialId _ => Option UserRecord
  | .sessionsCreate _ _ => Except Fault String
  | .sessionsValidate _ => Option SessionInfo
  | .sessionsInvalidate _ => Unit
  | .sessionsMarkMfaSatisfied _ => Unit
  | .pendingMfaCreate _ => Except Fault String
  | .pendingMfaValidate _ => Option String
  | .pendingMfaInvalidate _ => Unit
  | .pendingTotpStart _ _ => Unit
  | .pendingTotpSecretFor _ => Option String
  | .pendingTotpClear _ => Unit
  | .challengesStart _ _ => Unit
  | .challengesConsume _ => Option Challenge
  | .loginHistoryRecord _ _ => Unit
  | .loginHistoryRecent _ => List LoginEvent
  | .configGet => RuntimeConfig
  | .configUpdate _ => Except Fault Unit
  | .now => Int
  | .randBytes _ => Except Fault (List UInt8)
  | .generateTotpSecret => Except Fault String
  | .generateBackupCodes => Except Fault (List String)

def AppState.onUsers {α : Type} (s : AppState) (r : α × UserStore) : α × AppState :=
  (r.1, { s with users := r.2 })

@[simp] theorem onUsers_fst {α : Type} (s : AppState) (r : α × UserStore) : (s.onUsers r).1 = r.1 := rfl

@[simp] theorem onUsers_snd {α : Type} (s : AppState) (r : α × UserStore) :
    (s.onUsers r).2 = { s with users := r.2 } := rfl

/-- What a call returns and does, made at the moment `m`. -/
def perform (libs : Libraries) (op : Call) (m : Moment) (s : AppState) : op.Result × AppState :=
  match op with
  | .usersEmpty => (s.users.isEmpty, s)
  | .usersList => (s.users.users, s)
  | .usersFind username => (s.users.find username, s)
  | .usersCreate username password => s.onUsers (s.users.create m libs username password)
  | .usersCreateIfEmpty username password => s.onUsers (s.users.createIfEmpty m libs username password)
  | .usersRemove username => s.onUsers (s.users.remove m username)
  | .usersSetTotp username secret codes => s.onUsers (s.users.setTotp m libs username secret codes)
  | .usersClearTotp username => s.onUsers (s.users.clearTotp m username)
  | .usersRegenerateBackupCodes username => s.onUsers (s.users.regenerateBackupCodes m libs username)
  | .usersConsumeBackupCode username candidate =>
    s.onUsers (s.users.consumeBackupCode m libs username candidate)
  | .usersConsumeTotpStep username step => s.onUsers (s.users.consumeTotpStep username step)
  | .usersWebauthnUserHandle username => s.onUsers (s.users.webauthnUserHandle m username)
  | .usersAddWebauthnCredential username credential =>
    s.onUsers (s.users.addWebauthnCredential m username credential)
  | .usersRemoveWebauthnCredential username credentialId =>
    s.onUsers (s.users.removeWebauthnCredential m username credentialId)
  | .usersUpdateWebauthnSignCount username credentialId count =>
    s.onUsers (s.users.updateWebauthnSignCount m username credentialId count)
  | .usersFindByCredentialId credentialId => (s.users.findByCredentialId credentialId, s)
  | .sessionsCreate username flag =>
    let made := s.sessions.create m username flag
    (made.1, { s with sessions := made.2 })
  | .sessionsValidate token => (s.sessions.validate m token, s)
  | .sessionsInvalidate token => ((), { s with sessions := s.sessions.invalidate token })
  | .sessionsMarkMfaSatisfied token => ((), { s with sessions := s.sessions.markMfaSatisfied token })
  | .pendingMfaCreate username =>
    let made := s.pendingMfa.create m username
    (made.1, { s with pendingMfa := made.2 })
  | .pendingMfaValidate token => (s.pendingMfa.validate m token, s)
  | .pendingMfaInvalidate token => ((), { s with pendingMfa := s.pendingMfa.invalidate token })
  | .pendingTotpStart username secret =>
    ((), { s with pendingTotp := s.pendingTotp.start m username secret })
  | .pendingTotpSecretFor username => (s.pendingTotp.secretFor m username, s)
  | .pendingTotpClear username => ((), { s with pendingTotp := s.pendingTotp.clear username })
  | .challengesStart key challenge =>
    ((), { s with challenges := s.challenges.start m key challenge })
  | .challengesConsume key =>
    let made := s.challenges.consume m key
    (made.1, { s with challenges := made.2 })
  | .loginHistoryRecord username clientIp =>
    ((), { s with loginHistory := s.loginHistory.record m.now username clientIp })
  | .loginHistoryRecent limit => (s.loginHistory.recent limit, s)
  | .configGet => (s.config, s)
  | .configUpdate mutator =>
    match mutator s.config with
    | .error fault => (.error fault, s)
    | .ok config => (.ok (), { s with config })
  | .now => (m.now, s)
  | .randBytes count => ((Atomwall.randBytes count).value m, s)
  | .generateTotpSecret => (Totp.generateSecretBase32.value m, s)
  | .generateBackupCodes => (BackupCodes.generate.value m, s)

abbrev Handler := Prog Call Call.Result Fault

abbrev Made := Prog.Event Call Call.Result

abbrev Logged (ι : Type) := Prog.Entry ι Moment Call Call.Result

def statusOf (p : Handler Response) : Option Nat :=
  match p with
  | .ret res => some res.status
  | _ => none

theorem statusOf_some {program : Handler Response} {status : Nat}
    (h : statusOf program = some status) : ∃ res, program = .ret res ∧ res.status = status := by
  unfold statusOf at h
  split at h
  · exact ⟨_, rfl, Option.some.inj h⟩
  · cases h

def act (op : Call) : Handler op.Result := Prog.make op

/-- A call as the code writes it: what it throws goes up. -/
def throwing {α : Type} (attempt : Handler (Except Fault α)) : Handler α := do
  Prog.orRaise (← attempt)

/-- `try { ... } catch (const std::invalid_argument& e)`, with `e.what()` where it was thrown. -/
def caught {α : Type} (body : Handler α) : Handler (Except String α) :=
  Prog.handle (do return .ok (← body)) fun
    | .invalidArgument what => Prog.ret (.error what)
    | .runtimeError => Prog.raise .runtimeError

def usersEmpty : Handler Bool := act .usersEmpty
def usersList : Handler (List UserRecord) := act .usersList
def usersFind (username : String) : Handler (Option UserRecord) := act (.usersFind username)
def usersCreate (username password : String) : Handler Unit :=
  throwing (act (.usersCreate username password))
def usersCreateIfEmpty (username password : String) : Handler Bool :=
  throwing (act (.usersCreateIfEmpty username password))
def usersRemove (username : String) : Handler Bool := throwing (act (.usersRemove username))
def usersSetTotp (username secretBase32 : String) (backupCodes : List String) : Handler Unit :=
  throwing (act (.usersSetTotp username secretBase32 backupCodes))
def usersClearTotp (username : String) : Handler Unit := throwing (act (.usersClearTotp username))
def usersRegenerateBackupCodes (username : String) : Handler (List String) :=
  throwing (act (.usersRegenerateBackupCodes username))
def usersConsumeBackupCode (username candidate : String) : Handler Bool :=
  throwing (act (.usersConsumeBackupCode username candidate))
def usersConsumeTotpStep (username : String) (step : Int) : Handler Bool :=
  act (.usersConsumeTotpStep username step)
def usersWebauthnUserHandle (username : String) : Handler String :=
  throwing (act (.usersWebauthnUserHandle username))
def usersAddWebauthnCredential (username : String) (credential : WebAuthnCredential) : Handler Unit :=
  throwing (act (.usersAddWebauthnCredential username credential))
def usersRemoveWebauthnCredential (username credentialId : String) : Handler Bool :=
  throwing (act (.usersRemoveWebauthnCredential username credentialId))
def usersUpdateWebauthnSignCount (username credentialId : String) (newSignCount : UInt32) :
    Handler Unit :=
  throwing (act (.usersUpdateWebauthnSignCount username credentialId newSignCount))
def usersFindByCredentialId (credentialId : String) : Handler (Option UserRecord) :=
  act (.usersFindByCredentialId credentialId)
def sessionsCreate (username : String) (needsMfaSetup : Bool) : Handler String :=
  throwing (act (.sessionsCreate username needsMfaSetup))
def sessionsValidate (token : String) : Handler (Option SessionInfo) :=
  act (.sessionsValidate token)
def sessionsInvalidate (token : String) : Handler Unit := act (.sessionsInvalidate token)
def sessionsMarkMfaSatisfied (token : String) : Handler Unit :=
  act (.sessionsMarkMfaSatisfied token)
def pendingMfaCreate (username : String) : Handler String :=
  throwing (act (.pendingMfaCreate username))
def pendingMfaValidate (token : String) : Handler (Option String) :=
  act (.pendingMfaValidate token)
def pendingMfaInvalidate (token : String) : Handler Unit := act (.pendingMfaInvalidate token)
def pendingTotpStart (username secretBase32 : String) : Handler Unit :=
  act (.pendingTotpStart username secretBase32)
def pendingTotpSecretFor (username : String) : Handler (Option String) :=
  act (.pendingTotpSecretFor username)
def pendingTotpClear (username : String) : Handler Unit := act (.pendingTotpClear username)
def challengesStart (key : String) (challenge : Challenge) : Handler Unit :=
  act (.challengesStart key challenge)
def challengesConsume (key : String) : Handler (Option Challenge) :=
  act (.challengesConsume key)
def loginHistoryRecord (username clientIp : String) : Handler Unit :=
  act (.loginHistoryRecord username clientIp)
def configGet : Handler RuntimeConfig := act .configGet
def configUpdate (mutator : RuntimeConfig → Except Fault RuntimeConfig) : Handler Unit :=
  throwing (act (.configUpdate mutator))
def systemClockNow : Handler Int := act .now
def generateTotpSecret : Handler String := throwing (act .generateTotpSecret)
def generateBackupCodes : Handler (List String) := throwing (act .generateBackupCodes)

attribute [simp] act throwing caught usersEmpty usersList usersFind usersCreate usersCreateIfEmpty
  usersRemove usersSetTotp usersClearTotp usersRegenerateBackupCodes usersConsumeBackupCode
  usersConsumeTotpStep usersWebauthnUserHandle usersAddWebauthnCredential
  usersRemoveWebauthnCredential usersUpdateWebauthnSignCount usersFindByCredentialId sessionsCreate
  sessionsValidate sessionsInvalidate sessionsMarkMfaSatisfied pendingMfaCreate pendingMfaValidate
  pendingMfaInvalidate pendingTotpStart pendingTotpSecretFor pendingTotpClear challengesStart
  challengesConsume loginHistoryRecord configGet configUpdate systemClockNow generateTotpSecret
  generateBackupCodes

end Atomwall.Admin
