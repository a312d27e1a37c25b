import Atomwall.Auth.Base64Url
import Atomwall.Auth.UserOps
import Atomwall.Platform.Yaml
import Mathlib.Data.List.Induction

/-!
The file of `UserStore`: `save_locked` writes it, `load` reads it. Optional parts and empty lists are
not written, and what is written comes back whole, times cut to seconds.
-/

namespace Atomwall

open Yaml

namespace UserStore

/-! ### Writing -/

def writeCode (code : BackupCode) : Node :=
  object [("salt", .scalar code.hash.saltHex), ("hash", .scalar code.hash.hashHex),
    ("iterations", ofInt code.hash.iterations), ("used", ofBool code.used)]

def writeCredential (credential : WebAuthnCredential) : Node :=
  object [("id", .scalar credential.idB64url), ("label", .scalar credential.label),
    ("public_key", .scalar (base64urlEncode credential.cosePublicKey)),
    ("sign_count", ofNat credential.signCount.toNat),
    ("created_at_epoch", ofInt (toSeconds credential.createdAt))]

def optionEntry (key : String) (node : Option Node) : List (String × Node) :=
  node.toList.map fun node => (key, node)

/-- An entry of a list, which is left out where the list is empty. -/
def listEntry (key : String) (items : List Node) : List (String × Node) :=
  if items.isEmpty then [] else [(key, .sequence items)]

def writeUser (user : UserRecord) : Node :=
  object ([("username", .scalar user.username), ("salt", .scalar user.saltHex),
      ("hash", .scalar user.hashHex), ("iterations", ofInt user.iterations),
      ("created_at_epoch", ofInt (toSeconds user.createdAt))] ++
    optionEntry "totp" (user.totp.map fun totp => object [("secret_base32", .scalar totp.secretBase32)]) ++
    listEntry "backup_codes" (user.backupCodes.map writeCode) ++
    optionEntry "webauthn_user_handle" (user.webauthnUserHandleB64.map .scalar) ++
    listEntry "webauthn_credentials" (user.webauthnCredentials.map writeCredential))

def writeUsers (users : List UserRecord) : Node := object [("users", .sequence (users.map writeUser))]

/-- The text that `save_locked` hands to `write_file_atomically`. -/
def saveText (yaml : Library) (s : UserStore) : String := yaml.emit (writeUsers s.users)

/-! ### Reading -/

def readCode (n : Ref) : Except Fault BackupCode := do
  let saltHex ← (← n.get "salt").string
  let hashHex ← (← n.get "hash").string
  let iterations ← (← n.get "iterations").int .int
  return { hash := { saltHex, hashHex, iterations }, used := (← n.get "used").boolOr false }

def readCredential (n : Ref) : Except Fault WebAuthnCredential := do
  let idB64url ← (← n.get "id").string
  let label := (← n.get "label").stringOr ""
  let cosePublicKey ← base64urlDecode (← (← n.get "public_key").string)
  let signCount := UInt32.ofNat ((← n.get "sign_count").natOr .uint32 0)
  let createdAt ← match ← n.get "created_at_epoch" with
    | none => pure 0
    | some ts => seconds <$> Ref.int .longLong (some ts)
  return { idB64url, label, cosePublicKey, signCount, createdAt }

def readTotp (n : Ref) : Except Fault (Option TotpConfig) := do
  match ← n.get "totp" with
  | none => return none
  | some totp => return some ⟨← (← Ref.get (some totp) "secret_base32").string⟩

/-- The items of a list that need not be there. -/
def readList {α : Type} (read : Ref → Except Fault α) (n : Ref) (key : String) : Except Fault (List α) := do
  match ← n.get key with
  | none => return []
  | some list => (Ref.items (some list)).mapM read

def readHandle (n : Ref) : Except Fault (Option String) := do
  match ← n.get "webauthn_user_handle" with
  | none => return none
  | some handle => return some (← Ref.string (some handle))

def readUser (n : Ref) : Except Fault UserRecord := do
  let username ← (← n.get "username").string
  let saltHex ← (← n.get "salt").string
  let hashHex ← (← n.get "hash").string
  let iterations ← (← n.get "iterations").int .int
  let createdAt := seconds (← (← n.get "created_at_epoch").int .longLong)
  let totp ← readTotp n
  let backupCodes ← readList readCode n "backup_codes"
  let webauthnUserHandleB64 ← readHandle n
  let webauthnCredentials ← readList readCredential n "webauthn_credentials"
  return { username, saltHex, hashHex, iterations, createdAt, totp, backupCodes, webauthnCredentials,
           webauthnUserHandleB64 }

/-- The accounts in the file, none of which are there before it is first written. -/
def load (yaml : Library) (file : Option String) : Except Fault UserStore :=
  match file with
  | none => .ok { users := [] }
  | some text =>
    match yaml.load text with
    | none => .error .runtimeError
    | some root => do
      match ← Ref.get (some root) "users" with
      | none => return { users := [] }
      | some list => return { users := ← (Ref.items (some list)).mapM readUser }

/-! ### What is read back -/

end UserStore

def WebAuthnCredential.truncated (credential : WebAuthnCredential) : WebAuthnCredential :=
  { credential with createdAt := seconds (toSeconds credential.createdAt) }

def UserRecord.truncated (user : UserRecord) : UserRecord :=
  { user with createdAt := seconds (toSeconds user.createdAt)
              webauthnCredentials := user.webauthnCredentials.map WebAuthnCredential.truncated }

/-- The record's numbers are of the types that the code declares them with. -/
structure UserRecord.Typed (user : UserRecord) : Prop where
  iterations : IntType.int.Holds user.iterations
  createdAt : IntType.longLong.Holds (toSeconds user.createdAt)
  codes : ∀ code ∈ user.backupCodes, IntType.int.Holds code.hash.iterations
  credentials : ∀ credential ∈ user.webauthnCredentials,
    IntType.longLong.Holds (toSeconds credential.createdAt)

namespace UserStore

theorem readCode_writeCode {code : BackupCode} (fits : IntType.int.Holds code.hash.iterations) :
    readCode (some (writeCode code)) = .ok code := by
  simp [readCode, writeCode, fits, bind, Except.bind, pure, Except.pure]

theorem holds_signCount (count : UInt32) : IntType.uint32.Holds count.toNat := by
  have bound := count.toNat_lt
  constructor
  · exact Int.natCast_nonneg _
  · simp only [IntType.greatest]
    omega

theorem readCredential_writeCredential {credential : WebAuthnCredential}
    (fits : IntType.longLong.Holds (toSeconds credential.createdAt)) :
    readCredential (some (writeCredential credential)) = .ok credential.truncated := by
  simp [readCredential, writeCredential, WebAuthnCredential.truncated, base64urlDecode_encode, fits,
    holds_signCount, bind, Except.bind, pure, Except.pure, Functor.map, Except.map]

/-! ### Entries that need not be there -/

theorem find_optionEntry (key other : String) (node : Option Node) :
    ((optionEntry key node).find? fun e => e.1 == other) =
      if key = other then node.map fun node => (key, node) else none := by
  unfold optionEntry
  cases node with
  | none => simp
  | some node =>
    by_cases same : key = other
    · simp [same]
    · simp [same]

theorem find_listEntry (key other : String) (items : List Node) :
    ((listEntry key items).find? fun e => e.1 == other) =
      if key = other ∧ items ≠ [] then some (key, .sequence items) else none := by
  unfold listEntry
  by_cases empty : items = []
  · simp [empty]
  · by_cases same : key = other
    · simp [empty, same]
    · simp [empty, same]

theorem readList_written {α β : Type} {read : Ref → Except Fault β} {written : α → Node} {result : α → β}
    {values : List α} {n : Ref} {key : String}
    (entry : n.get key = .ok (if values = [] then none else some (.sequence (values.map written))))
    (each : ∀ a ∈ values, read (some (written a)) = .ok (result a)) :
    readList read n key = .ok (values.map result) := by
  unfold readList
  rw [entry]
  by_cases empty : values = []
  · simp [empty, bind, Except.bind, pure, Except.pure]
  · have items := mapM_written each
    simpa [empty, bind, Except.bind, Function.comp_def] using items

theorem readUser_writeUser {user : UserRecord} (typed : user.Typed) :
    readUser (some (writeUser user)) = .ok user.truncated := by
  have codes : readList readCode (some (writeUser user)) "backup_codes" =
      .ok (user.backupCodes.map id) := by
    have each : ∀ code ∈ user.backupCodes, readCode (some (writeCode code)) = .ok (id code) :=
      fun code member => readCode_writeCode (typed.codes code member)
    refine readList_written ?_ each
    simp only [writeUser, get_object, List.find?_append, find_optionEntry, find_listEntry]
    by_cases empty : user.backupCodes = [] <;> simp [empty]
  have credentials : readList readCredential (some (writeUser user)) "webauthn_credentials" =
      .ok (user.webauthnCredentials.map WebAuthnCredential.truncated) := by
    have each : ∀ credential ∈ user.webauthnCredentials,
        readCredential (some (writeCredential credential)) = .ok credential.truncated :=
      fun credential member => readCredential_writeCredential (typed.credentials credential member)
    refine readList_written ?_ each
    simp only [writeUser, get_object, List.find?_append, find_optionEntry, find_listEntry]
    by_cases empty : user.webauthnCredentials = [] <;> simp [empty]
  have totp : readTotp (some (writeUser user)) = .ok user.totp := by
    cases given : user.totp <;>
      simp [readTotp, writeUser, List.find?_append, find_optionEntry, find_listEntry, given, bind, Except.bind,
        pure, Except.pure]
  have handle : readHandle (some (writeUser user)) = .ok user.webauthnUserHandleB64 := by
    cases given : user.webauthnUserHandleB64 <;>
      simp [readHandle, writeUser, List.find?_append, find_optionEntry, find_listEntry, given, bind,
        Except.bind, pure, Except.pure]
  unfold readUser
  rw [codes, credentials, totp, handle, List.map_id]
  simp [writeUser, typed.iterations, typed.createdAt, UserRecord.truncated, bind, Except.bind, pure,
    Except.pure]

/-- Where the emitter and the loader of YAML are inverse on the tree that is written, the accounts are
read back as they were, up to the fractions of seconds. -/
theorem load_saveText {yaml : Library} {s : UserStore} (typed : ∀ user ∈ s.users, user.Typed)
    (trees : yaml.load (yaml.emit (writeUsers s.users)) = some (writeUsers s.users)) :
    load yaml (some (saveText yaml s)) = .ok { users := s.users.map UserRecord.truncated } := by
  have read := mapM_written fun user member => readUser_writeUser (typed user member)
  unfold load saveText
  simp only [trees]
  simp [writeUsers, read, bind, Except.bind, pure, Except.pure, Function.comp_def]

end UserStore

/-! ### Every account that comes about can be written -/

namespace BackupCodes

theorem hashPassword_iterations {libs : Libraries} {password : String} {random next : Nat → Option UInt8}
    {hashed : PasswordHash} (h : hashPassword libs password random = .ok (hashed, next)) :
    hashed.iterations = kIterations := by
  obtain ⟨salt, mid, -, h⟩ := Rand.bind_ok h
  obtain ⟨key, last, -, h⟩ := Rand.bind_ok h
  rw [Rand.pure_ok h]

theorem hash_iterations {libs : Libraries} {codes : List String} {random next : Nat → Option UInt8}
    {hashed : List BackupCode} (h : hash libs codes random = .ok (hashed, next)) :
    ∀ code ∈ hashed, code.hash.iterations = kIterations := by
  induction codes generalizing random hashed next with
  | nil =>
    rw [Rand.pure_ok h]
    simp
  | cons first rest ih =>
    unfold hash at h
    rw [List.mapM_cons] at h
    obtain ⟨one, mid, drawn, h⟩ := Rand.bind_ok h
    obtain ⟨more, last, tail, h⟩ := Rand.bind_ok h
    obtain ⟨hashed_one, _, made, drawn⟩ := Rand.bind_ok drawn
    rw [Rand.pure_ok h]
    intro code member
    rcases List.mem_cons.mp member with rfl | later
    · rw [Rand.pure_ok drawn]
      exact hashPassword_iterations made
    · exact ih tail code later

theorem consume_hash {libs : Libraries} {codes next : List BackupCode} {candidate : String}
    (h : consume libs codes candidate = .ok (some next)) {code : BackupCode} (member : code ∈ next) :
    ∃ old ∈ codes, code.hash = old.hash := by
  unfold consume at h
  split at h
  · cases checked : codes.mapM fun code =>
        if code.used then .ok false else verifyPassword libs candidate code.hash with
    | error fault => simp [checked, bind, Except.bind] at h
    | ok matched =>
      simp only [checked, bind, Except.bind, pure, Except.pure] at h
      split at h
      · cases h
      · next index found =>
        obtain rfl := Option.some.inj (Except.ok.inj h)
        obtain ⟨i, there⟩ := List.mem_iff_getElem?.mp member
        rw [List.getElem?_modify] at there
        obtain ⟨old, at_index, rfl⟩ := Option.map_eq_some_iff.mp there
        refine ⟨old, List.mem_of_getElem? at_index, ?_⟩
        split <;> rfl
  · cases h
end BackupCodes

namespace UserStore

variable {libs : Libraries} {m : Moment} {s : UserStore}

/-- The times of the call are 64-bit counts of nanoseconds. -/
def Op.Timed (m : Moment) : Op → Prop
  | .addWebauthnCredential _ credential =>
    IntType.longLong.Holds m.now ∧ IntType.longLong.Holds credential.createdAt
  | _ => IntType.longLong.Holds m.now

theorem Op.Timed.now {op : Op} (timed : op.Timed m) : IntType.longLong.Holds m.now := by
  cases op with
  | addWebauthnCredential => exact timed.1
  | _ => exact timed

theorem holds_toSeconds {ns : Int} (fits : IntType.longLong.Holds ns) :
    IntType.longLong.Holds (toSeconds ns) := by
  obtain ⟨least, greatest⟩ := fits
  simp only [IntType.least, IntType.greatest] at least greatest
  have towards_zero : (0 ≤ toSeconds ns ∧ toSeconds ns ≤ ns) ∨ (ns ≤ toSeconds ns ∧ toSeconds ns ≤ 0) := by
    unfold toSeconds
    rcases Int.le_total 0 ns with positive | negative
    · rw [Int.tdiv_eq_ediv_of_nonneg positive]
      omega
    · have turned : ns.tdiv 1000000000 = -((-ns).tdiv 1000000000) := by
        rw [Int.neg_tdiv, Int.neg_neg]
      rw [turned, Int.tdiv_eq_ediv_of_nonneg (by omega)]
      omega
  constructor
  · simp only [IntType.least]
    omega
  · simp only [IntType.greatest]
    omega

theorem holds_kIterations : IntType.int.Holds kIterations := by decide

def AllTyped (s : UserStore) : Prop := ∀ user ∈ s.users, user.Typed

theorem allTyped_modifyUser {username : String} {change : UserRecord → UserRecord} (typed : s.AllTyped)
    (keeps : ∀ user, s.find username = some user → user.Typed → (change user).Typed) :
    (s.modifyUser username change).AllTyped := by
  intro user member
  rcases mem_modifyUser member with old | ⟨old, found, rfl⟩
  · exact typed user old
  · exact keeps old found (typed old (find_mem found))

theorem allTyped_addUserLocked {α : Type} {username password : String} {value : α}
    (now : IntType.longLong.Holds m.now) (typed : s.AllTyped) :
    (s.addUserLocked m libs username password value).2.AllTyped := by
  unfold addUserLocked
  split
  · exact typed
  · split
    · exact typed
    · next hashed drawn =>
      obtain ⟨rest, drawn⟩ := Rand.value_ok drawn
      intro user member
      rcases List.mem_append.mp member with old | new
      · exact typed user old
      · rw [List.mem_singleton.mp new]
        exact { iterations := BackupCodes.hashPassword_iterations drawn ▸ holds_kIterations
                createdAt := holds_toSeconds now
                codes := by simp
                credentials := by simp }

theorem typed_codes {user : UserRecord} {codes : List BackupCode} (typed : user.Typed)
    (hashed : ∀ code ∈ codes, code.hash.iterations = kIterations) :
    ({ user with backupCodes := codes } : UserRecord).Typed :=
  { typed with codes := fun code member => hashed code member ▸ holds_kIterations }

theorem step_allTyped (op : Op) (timed : op.Timed m) (typed : s.AllTyped) :
    (op.run libs m s).2.AllTyped := by
  cases op with
  | create username password =>
    change (s.create m libs username password).2.AllTyped
    unfold create
    split
    · exact typed
    · exact allTyped_addUserLocked timed.now typed
  | createIfEmpty username password =>
    change (s.createIfEmpty m libs username password).2.AllTyped
    unfold createIfEmpty
    split
    · exact typed
    · split
      · exact allTyped_addUserLocked timed.now typed
      · exact typed
  | remove username =>
    change (s.remove m username).2.AllTyped
    unfold remove
    split
    · exact typed
    · split
      · exact typed
      · exact fun user member => typed user (List.mem_of_mem_eraseP member)
  | setTotp username secret codes =>
    change (s.setTotp m libs username secret codes).2.AllTyped
    have enrolled : (s.modifyUser username fun user => { user with totp := some ⟨secret⟩ }).AllTyped :=
      allTyped_modifyUser typed fun user _ old => { old with }
    unfold setTotp
    split
    · exact typed
    · dsimp only
      split
      · exact enrolled
      · next hashed drawn =>
        obtain ⟨rest, drawn⟩ := Rand.value_ok drawn
        exact allTyped_modifyUser enrolled fun user _ old => typed_codes old (BackupCodes.hash_iterations drawn)
  | clearTotp username =>
    change (s.clearTotp m username).2.AllTyped
    unfold clearTotp
    split
    · exact typed
    · exact allTyped_modifyUser typed fun user _ old => { old with codes := by simp }
  | regenerateBackupCodes username =>
    change (s.regenerateBackupCodes m libs username).2.AllTyped
    unfold regenerateBackupCodes
    split
    · exact typed
    · split
      · exact typed
      · dsimp only
        split
        · exact typed
        · next plaintext codes drawn =>
          obtain ⟨rest, drawn⟩ := Rand.value_ok drawn
          obtain ⟨_, _, -, drawn⟩ := Rand.bind_ok drawn
          obtain ⟨hashed, _, made, drawn⟩ := Rand.bind_ok drawn
          obtain ⟨rfl, rfl⟩ := Prod.mk.inj (Rand.pure_ok drawn)
          exact allTyped_modifyUser typed fun user _ old => typed_codes old (BackupCodes.hash_iterations made)
  | consumeBackupCode username candidate =>
    change (s.consumeBackupCode m libs username candidate).2.AllTyped
    unfold consumeBackupCode
    split
    · exact typed
    · next user found =>
      split
      · exact typed
      · exact typed
      · next codes consumed =>
        refine allTyped_modifyUser typed fun other there old => { old with codes := ?_ }
        obtain rfl := Option.some.inj (found.symm.trans there)
        intro code member
        obtain ⟨stored, held, same⟩ := BackupCodes.consume_hash consumed member
        rw [same]
        exact old.codes stored held
  | consumeTotpStep username step =>
    have same : (s.consumeTotpStep username step).2.users = s.users := by
      unfold consumeTotpStep
      split
      · split <;> rfl
      · rfl
    intro user member
    exact typed user (same ▸ member)
  | webauthnUserHandle username =>
    change (s.webauthnUserHandle m username).2.AllTyped
    unfold webauthnUserHandle
    split
    · exact typed
    · split
      · exact typed
      · split
        · exact typed
        · exact allTyped_modifyUser typed fun user _ old => { old with }
  | addWebauthnCredential username credential =>
    change (s.addWebauthnCredential m username credential).2.AllTyped
    unfold addWebauthnCredential
    split
    · exact typed
    · refine allTyped_modifyUser typed fun user _ old => { old with credentials := ?_ }
      intro stored member
      rcases List.mem_append.mp member with before | new
      · exact old.credentials stored before
      · rw [List.mem_singleton.mp new]
        exact holds_toSeconds timed.2
  | removeWebauthnCredential username id =>
    change (s.removeWebauthnCredential m username id).2.AllTyped
    unfold removeWebauthnCredential
    split
    · exact typed
    · split
      · exact allTyped_modifyUser typed fun user _ old =>
          { old with credentials := fun stored member => old.credentials stored (List.mem_of_mem_eraseP member) }
      · exact typed
  | updateWebauthnSignCount username id count =>
    change (s.updateWebauthnSignCount m username id count).2.AllTyped
    unfold updateWebauthnSignCount
    split
    · exact typed
    · split
      · refine allTyped_modifyUser typed fun user _ old => { old with credentials := ?_ }
        intro stored member
        -- the change leaves the times alone
        have times : (user.webauthnCredentials.lookmap fun c =>
            if c.idB64url = id then some { c with signCount := count } else none).map
              WebAuthnCredential.createdAt = user.webauthnCredentials.map WebAuthnCredential.createdAt := by
          apply List.lookmap_map_eq
          intro c changed made
          split at made
          · rw [← Option.some.inj made]
          · cases made
        have there := List.mem_map_of_mem (f := WebAuthnCredential.createdAt) member
        rw [times] at there
        obtain ⟨c, held, same⟩ := List.mem_map.mp there
        exact same ▸ old.credentials c held
      · exact typed

theorem after_allTyped {calls : List (Moment × Op)} (timed : ∀ call ∈ calls, call.2.Timed call.1) :
    (after libs calls).AllTyped := by
  induction calls using List.reverseRecOn with
  | nil =>
    intro user member
    cases member
  | append_singleton calls call ih =>
    unfold after
    rw [List.foldl_append]
    exact step_allTyped call.2 (timed call (by simp)) (ih fun c member => timed c (by simp [member]))

/-- The accounts that any operations lead to are read back from their file as they were, up to the
fractions of seconds. -/
theorem saved_users_reload {yaml : Library} {calls : List (Moment × Op)}
    (timed : ∀ call ∈ calls, call.2.Timed call.1)
    (trees : yaml.load (yaml.emit (writeUsers (after libs calls).users)) =
      some (writeUsers (after libs calls).users)) :
    load yaml (some (saveText yaml (after libs calls))) =
      .ok { users := (after libs calls).users.map UserRecord.truncated } :=
  load_saveText (after_allTyped timed) trees

/-- Half a second past 22:13:20, with a source of zeros. -/
def sampleMoment : Moment := ⟨1700000000500000000, fun _ => some 0, true⟩

def sampleOps : List (Moment × Op) :=
  [(sampleMoment, .createIfEmpty "ada" "correct horse"),
    (sampleMoment, .addWebauthnCredential "ada" ⟨"AQID", "Key", [1, 2, 3], 7, 1700000000500000000⟩)]

def sampleUsersText : String :=
  "users:\n  - username: ada\n    salt: 00000000000000000000000000000000\n    hash: 00\n" ++
  "    iterations: 210000\n    created_at_epoch: 1700000000\n    webauthn_credentials:\n" ++
  "      - id: AQID\n        label: Key\n        public_key: AQID\n        sign_count: 7\n" ++
  "        created_at_epoch: 1700000000"

def sampleUsersYaml : Library where
  load := fun text =>
    if text = sampleUsersText then some (writeUsers (after sampleLibraries sampleOps).users) else none
  emit := fun _ => sampleUsersText
  doubleText := fun _ => ".nan"
  readDouble := fun _ => none

theorem sample_users_reload :
    load sampleUsersYaml (some (saveText sampleUsersYaml (after sampleLibraries sampleOps))) =
      .ok { users := (after sampleLibraries sampleOps).users.map UserRecord.truncated } := by
  apply saved_users_reload
  · intro call member
    simp only [sampleOps, List.mem_cons, List.not_mem_nil, or_false] at member
    rcases member with rfl | rfl
    · exact (by decide : IntType.longLong.Holds 1700000000500000000)
    · exact ⟨by decide, by decide⟩
  · simp only [sampleUsersYaml, if_true]

end UserStore

end Atomwall
