import Atomwall.Base.KeyMap
import Atomwall.Platform.Libraries

/-!
`SessionStore`, `PendingMfaStore` and `PendingTotpStore`: maps under one mutex whose entries expire.
-/

namespace Atomwall

def kDigits : List Char :=
  ['0', '1', '2', '3', '4', '5', '6', '7', '8', '9', 'a', 'b', 'c', 'd', 'e', 'f']

def hexDigit (nibble : UInt8) : Char := kDigits.getD nibble.toNat '0'

def toHex (data : List UInt8) : String :=
  String.ofList (data.flatMap fun (b : UInt8) => [hexDigit (b >>> 4), hexDigit (b &&& 0x0F)])

def randomTokenHex : Rand String := do
  return toHex (← randBytes 32)

structure SessionInfo where
  username : String
  needsMfaSetup : Bool := false
  deriving DecidableEq

structure Session where
  username : String
  needsMfaSetup : Bool
  expiresAt : Int

abbrev SessionStore := KeyMap String Session

namespace SessionStore

variable (sessions : SessionStore) (m : Moment)

def create (username : String) (needsMfaSetup : Bool) : Except Fault String × SessionStore :=
  match randomTokenHex.value m with
  | .error fault => (.error fault, sessions)
  | .ok token =>
    (.ok token, (KeyMap.eraseIf (fun s => decide (s.expiresAt < m.now)) sessions).insert token
      ⟨username, needsMfaSetup, m.now + hours 12⟩)

def validate (token : String) : Option SessionInfo :=
  match sessions.lookup token with
  | none => none
  | some s => if s.expiresAt < m.now then none else some ⟨s.username, s.needsMfaSetup⟩

def invalidate (token : String) : SessionStore := sessions.erase token

def markMfaSatisfied (token : String) : SessionStore :=
  match sessions.lookup token with
  | none => sessions
  | some s => sessions.insert token { s with needsMfaSetup := false }

variable {sessions m}

theorem create_ok {username token : String} {flag : Bool} {next : SessionStore}
    (h : create sessions m username flag = (.ok token, next)) :
    next = (KeyMap.eraseIf (fun s => decide (s.expiresAt < m.now)) sessions).insert token
      ⟨username, flag, m.now + hours 12⟩ := by
  unfold create at h
  split at h <;> cases h
  rfl

theorem lookup_create {username token other : String} {flag : Bool} {next : SessionStore}
    {s : Session} (h : create sessions m username flag = (.ok token, next))
    (found : next.lookup other = some s) :
    (other = token ∧ s = ⟨username, flag, m.now + hours 12⟩) ∨ sessions.lookup other = some s := by
  rw [create_ok h, KeyMap.lookup_insert_ite] at found
  split at found
  · next same => exact Or.inl ⟨same, (Option.some.inj found).symm⟩
  · exact Or.inr (KeyMap.lookup_of_eraseIf found)

theorem create_error {username : String} {flag : Bool} {fault : Fault} {next : SessionStore}
    (h : create sessions m username flag = (.error fault, next)) : next = sessions := by
  unfold create at h
  split at h <;> cases h
  rfl

theorem validate_eq_some {token : String} {info : SessionInfo} :
    validate sessions m token = some info ↔ ∃ s, sessions.lookup token = some s ∧
      m.now ≤ s.expiresAt ∧ info = ⟨s.username, s.needsMfaSetup⟩ := by
  unfold validate
  cases sessions.lookup token with
  | none => simp
  | some s =>
    by_cases old : s.expiresAt < m.now
    · simp [old, Int.not_le.mpr old]
    · simp [old, Int.not_lt.mp old, eq_comm]

theorem lookup_markMfaSatisfied {token other : String} {s : Session}
    (found : (markMfaSatisfied sessions token).lookup other = some s) :
    ∃ old, sessions.lookup other = some old ∧ old.username = s.username ∧
      old.expiresAt = s.expiresAt ∧ (s.needsMfaSetup = old.needsMfaSetup ∨ other = token) := by
  unfold markMfaSatisfied at found
  split at found
  · exact ⟨s, found, rfl, rfl, Or.inl rfl⟩
  · next old known =>
    rw [KeyMap.lookup_insert_ite] at found
    split at found
    · next same =>
      obtain rfl := Option.some.inj found
      exact ⟨old, same ▸ known, rfl, rfl, Or.inr same⟩
    · exact ⟨s, found, rfl, rfl, Or.inl rfl⟩

end SessionStore

structure PendingMfa where
  username : String
  expiresAt : Int

abbrev PendingMfaStore := KeyMap String PendingMfa

namespace PendingMfaStore

variable (pending : PendingMfaStore) (m : Moment)

def create (username : String) : Except Fault String × PendingMfaStore :=
  match randomTokenHex.value m with
  | .error fault => (.error fault, pending)
  | .ok token =>
    (.ok token, (KeyMap.eraseIf (fun e => decide (e.expiresAt < m.now)) pending).insert token
      ⟨username, m.now + minutes 5⟩)

def validate (token : String) : Option String :=
  match pending.lookup token with
  | none => none
  | some e => if e.expiresAt < m.now then none else some e.username

def invalidate (token : String) : PendingMfaStore := pending.erase token

variable {pending m}

theorem create_ok {username token : String} {next : PendingMfaStore}
    (h : create pending m username = (.ok token, next)) :
    next = (KeyMap.eraseIf (fun e => decide (e.expiresAt < m.now)) pending).insert token
      ⟨username, m.now + minutes 5⟩ := by
  unfold create at h
  split at h <;> cases h
  rfl

theorem lookup_create {username token other : String} {next : PendingMfaStore} {e : PendingMfa}
    (h : create pending m username = (.ok token, next)) (found : next.lookup other = some e) :
    (other = token ∧ e = ⟨username, m.now + minutes 5⟩) ∨ pending.lookup other = some e := by
  unfold create at h
  split at h <;> cases h
  rw [KeyMap.lookup_insert_ite] at found
  split at found
  · next same => exact Or.inl ⟨same, (Option.some.inj found).symm⟩
  · exact Or.inr (KeyMap.lookup_of_eraseIf found)

theorem create_error {username : String} {fault : Fault} {next : PendingMfaStore}
    (h : create pending m username = (.error fault, next)) : next = pending := by
  unfold create at h
  split at h <;> cases h
  rfl

theorem validate_eq_some {token username : String} :
    validate pending m token = some username ↔
      ∃ e, pending.lookup token = some e ∧ m.now ≤ e.expiresAt ∧ e.username = username := by
  unfold validate
  cases pending.lookup token with
  | none => simp
  | some e =>
    by_cases old : e.expiresAt < m.now
    · simp [old, Int.not_le.mpr old]
    · simp [old, Int.not_lt.mp old]

end PendingMfaStore

structure PendingTotp where
  secretBase32 : String
  expiresAt : Int

abbrev PendingTotpStore := KeyMap String PendingTotp

namespace PendingTotpStore

variable (pending : PendingTotpStore) (m : Moment)

def start (username secretBase32 : String) : PendingTotpStore :=
  pending.insert username ⟨secretBase32, m.now + minutes 10⟩

def secretFor (username : String) : Option String :=
  match pending.lookup username with
  | none => none
  | some e => if e.expiresAt < m.now then none else some e.secretBase32

def clear (username : String) : PendingTotpStore := pending.erase username

end PendingTotpStore

end Atomwall
