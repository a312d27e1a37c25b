import Atomwall.Base.Metered
import Atomwall.Admin.Handlers

/-!
The PBKDF2 derivations of `handle_auth_login`. The handler of this file is the one of the model with
each derivation shown as a piece of work.
-/

namespace Atomwall.Admin

open Http

/-- The arguments of one `PKCS5_PBKDF2_HMAC`. -/
structure Derivation where
  password : String
  salt : List UInt8
  iterations : Int

abbrev MeteredHandler :=
  Prog (Prog.Metered Call Derivation)
    (Prog.Metered.Result Call.Result fun _ => Option (List UInt8)) Fault

def pbkdf2 (libs : Libraries) (d : Derivation) : Option (List UInt8) :=
  libs.pbkdf2 d.password d.salt d.iterations

def lifted {α : Type} (handler : Handler α) : MeteredHandler α := Prog.lift _ handler

def deriveMetered (password : String) (salt : List UInt8) (iterations : Int) :
    MeteredHandler (List UInt8) := do
  match ← Prog.work (Derivation.mk password salt iterations) with
  | none => Prog.raise .runtimeError
  | some key => return key

def verifyPasswordMetered (password : String) (stored : PasswordHash) : MeteredHandler Bool := do
  let salt ← Prog.orRaise (fromHex stored.saltHex)
  let key ← deriveMetered password salt (if 0 < stored.iterations then stored.iterations else kIterations)
  let expected ← Prog.orRaise (fromHex stored.hashHex)
  return key == expected

def handleAuthLoginMetered (libs : Libraries) (request : Request) (clientIp : String) :
    MeteredHandler Response := do
  match credentialsOf libs request with
  | .error reply => return reply
  | .ok (username, password) =>
    match ← lifted (usersFind username) with
    | none => return errorResponse 401 "invalid username or password" request.version
    | some user =>
      if !(← verifyPasswordMetered password user.passwordHash) then
        return errorResponse 401 "invalid username or password" request.version
      else if user.hasSecondFactor then
        lifted (issueMfaChallengeResponse username user.totp.isSome (decide (0 < unusedCodes user))
          (!user.webauthnCredentials.isEmpty) request.version)
      else
        let config ← lifted configGet
        lifted (issueSessionResponse username config.security.require2fa request.version clientIp)

variable {libs : Libraries}

theorem derive_eq (password : String) (salt : List UInt8) (iterations : Int) :
    derive libs password salt iterations =
      match pbkdf2 libs ⟨password, salt, iterations⟩ with
      | none => .error .runtimeError
      | some key => .ok key := rfl

theorem erase_derive (password : String) (salt : List UInt8) (iterations : Int) :
    (deriveMetered password salt iterations).erase (pbkdf2 libs) =
      Prog.orRaise (derive libs password salt iterations) := by
  unfold deriveMetered
  rw [derive_eq, Prog.erase_bind, Prog.erase_work, Prog.bind_ret]
  cases pbkdf2 libs ⟨password, salt, iterations⟩ <;> rfl

theorem erase_verifyPassword (password : String) (stored : PasswordHash) :
    (verifyPasswordMetered password stored).erase (pbkdf2 libs) =
      Prog.orRaise (verifyPassword libs password stored) := by
  unfold verifyPasswordMetered verifyPassword
  simp only [Prog.erase_bind, Prog.erase_orRaise, erase_derive, Prog.orRaise_bind]
  rfl

theorem erase_handleAuthLogin (request : Request) (clientIp : String) :
    (handleAuthLoginMetered libs request clientIp).erase (pbkdf2 libs) =
      handleAuthLogin libs request clientIp := by
  unfold handleAuthLoginMetered handleAuthLogin
  cases credentialsOf libs request with
  | error reply => rfl
  | ok credentials =>
    obtain ⟨username, password⟩ := credentials
    simp only [Prog.erase_bind, lifted, Prog.erase_lift]
    congr 1
    funext found
    cases found with
    | none => rfl
    | some user =>
      simp only [Prog.erase_bind, erase_verifyPassword]
      congr 1
      funext verified
      cases verified with
      | false => rfl
      | true =>
        by_cases second : user.hasSecondFactor = true
        · simp [second]
        · simp [second]

/-! ### Two logins -/

/-- A login with nothing between its calls, the `n`-th call at `moments n`. -/
def login (libs : Libraries) (request : Request) (clientIp : String) (moments : Nat → Moment)
    (s : AppState) : Prog.Ran (Prog.Metered Call Derivation)
      (Prog.Metered.Result Call.Result fun _ => Option (List UInt8)) Fault Response AppState :=
  (handleAuthLoginMetered libs request clientIp).exec
    (Prog.meteredSem (perform libs) (pbkdf2 libs)) [] moments s

/-- The iteration counts of its derivations, in their order. -/
def iterationCounts {α : Type} (ran : Prog.Ran (Prog.Metered Call Derivation)
    (Prog.Metered.Result Call.Result fun _ => Option (List UInt8)) Fault α AppState) : List Int :=
  ran.works.map Derivation.iterations

variable {request : Request} {clientIp username password : String} {moments : Nat → Moment}
  {s : AppState} {user : UserRecord}

/-- A username that does not exist costs no derivation. -/
theorem login_unknown (credentials : credentialsOf libs request = .ok (username, password))
    (absent : s.users.find username = none) :
    iterationCounts (login libs request clientIp moments s) = [] ∧
      (login libs request clientIp moments s).result =
        .ok (errorResponse 401 "invalid username or password" request.version) := by
  have ran : login libs request clientIp moments s = ⟨[⟨.call (.usersFind username), none⟩],
      .ok (errorResponse 401 "invalid username or password" request.version), s⟩ := by
    unfold login handleAuthLoginMetered
    simp [credentials, lifted, usersFind, act, Prog.make, Prog.lift, Prog.exec, Prog.meteredSem,
      perform, absent]
  rw [ran]
  exact ⟨rfl, rfl⟩

theorem verifyPassword_bind {α : Type} {stored : PasswordHash} {salt : List UInt8}
    (read : fromHex stored.saltHex = .ok salt) (next : Bool → MeteredHandler α) :
    (verifyPasswordMetered password stored >>= next : MeteredHandler α) =
      Prog.work ⟨password, salt, if 0 < stored.iterations then stored.iterations else kIterations⟩ >>=
        fun made => match made with
          | none => Prog.raise .runtimeError
          | some key => Prog.orRaise (fromHex stored.hashHex) >>= fun expected => next (key == expected) := by
  unfold verifyPasswordMetered deriveMetered
  rw [read]
  refine congrArg (Prog.call _) (funext fun made => ?_)
  cases made with
  | none => rfl
  | some key =>
    cases fromHex stored.hashHex <;> rfl

/-- A wrong password for one that does costs one, where the salt can be read. The response is the same
where nothing is thrown. -/
theorem login_wrong (credentials : credentialsOf libs request = .ok (username, password))
    (found : s.users.find username = some user)
    (wrong : verifyPassword libs password user.passwordHash ≠ .ok true)
    {salt : List UInt8} (read : fromHex user.saltHex = .ok salt) :
    iterationCounts (login libs request clientIp moments s) =
        [if 0 < user.iterations then user.iterations else kIterations] ∧
      (login libs request clientIp moments s).result =
        (verifyPassword libs password user.passwordHash).map fun _ =>
          errorResponse 401 "invalid username or password" request.version := by
  unfold login handleAuthLoginMetered
  have read : fromHex user.passwordHash.saltHex = .ok salt := read
  have checked : verifyPassword libs password user.passwordHash =
      derive libs password salt
        (if 0 < user.passwordHash.iterations then user.passwordHash.iterations else kIterations) >>=
          fun key => fromHex user.passwordHash.hashHex >>= fun expected => .ok (key == expected) := by
    unfold verifyPassword
    rw [read]
    rfl
  rw [checked, derive_eq] at wrong ⊢
  simp only [credentials, lifted, usersFind, act, Prog.make, Prog.lift, Prog.exec, Prog.meteredSem,
    perform, found, Prog.bind_call, Prog.bind_ret, verifyPassword_bind read, Prog.exec_work_bind]
  cases made : pbkdf2 libs ⟨password, salt, _⟩ with
  | none => exact ⟨rfl, rfl⟩
  | some key =>
    cases hash : fromHex user.passwordHash.hashHex with
    | error fault => exact ⟨rfl, rfl⟩
    | ok expected =>
      rw [made, hash] at wrong
      have other : (key == expected) = false := by simpa [bind, Except.bind] using wrong
      simp only [Prog.orRaise_ok, Prog.bind_ret, other]
      exact ⟨rfl, rfl⟩

/-- Where the salt cannot be read, nothing is derived and nothing is answered. -/
theorem login_unreadable (credentials : credentialsOf libs request = .ok (username, password))
    (found : s.users.find username = some user) {fault : Fault}
    (read : fromHex user.saltHex = .error fault) :
    (login libs request clientIp moments s).result = .error fault := by
  unfold login handleAuthLoginMetered verifyPasswordMetered
  have read : fromHex user.passwordHash.saltHex = .error fault := read
  simp only [credentials, lifted, usersFind, act, Prog.make, Prog.lift, Prog.exec, Prog.meteredSem,
    perform, found, Prog.bind_call, Prog.bind_ret, read, Prog.orRaise_error, Prog.bind_raise]

def SameToTheClient (a b : Prog.Ran (Prog.Metered Call Derivation)
    (Prog.Metered.Result Call.Result fun _ => Option (List UInt8)) Fault Response AppState) : Prop :=
  iterationCounts a = iterationCounts b ∧ a.result = b.result

/-- A wrong password for a username that exists never looks like a login as one that does not. -/
theorem login_tells_existence (libs : Libraries) (request other : Request) (clientIp otherIp : String)
    (moments otherMoments : Nat → Moment) (known unknown : AppState)
    (username password absentName absentPassword : String) (user : UserRecord)
    (credentials : credentialsOf libs request = .ok (username, password))
    (found : known.users.find username = some user)
    (wrong : verifyPassword libs password user.passwordHash ≠ .ok true)
    (otherCredentials : credentialsOf libs other = .ok (absentName, absentPassword))
    (absent : unknown.users.find absentName = none) :
    ¬SameToTheClient (login libs request clientIp moments known)
      (login libs other otherIp otherMoments unknown) := by
  intro same
  obtain ⟨counts, results⟩ := same
  obtain ⟨none_derived, refused⟩ :=
    @login_unknown libs other otherIp absentName absentPassword otherMoments unknown otherCredentials
      absent
  cases read : fromHex user.saltHex with
  | error fault =>
    rw [login_unreadable credentials found read, refused] at results
    cases results
  | ok salt =>
    rw [(login_wrong credentials found wrong read).1, none_derived] at counts
    cases counts

def guessRequest : Request where
  methodString := "POST"
  target := "/api/auth/login"
  body := "\x7b\"username\":\"root\",\"password\":\"guess\"\x7d"

/-- A key that only tells passwords of different lengths apart. -/
def guessLibraries : Libraries where
  jsonParse := fun body =>
    if body = guessRequest.body then
      some (.object [("username", .string "root"), ("password", .string "guess")])
    else none
  toIso8601 := fun _ => ""
  pbkdf2 := fun password _ _ => some (List.replicate 32 (UInt8.ofNat password.length))
  hmacSha1 := fun _ _ => none
  sha256 := fun _ => none
  cborLoad := fun _ => none
  validKey := fun _ => false
  digestVerify := fun _ _ _ => false

/-- The user of a 12-character password. -/
def storedUser (username : String) : UserRecord where
  username
  saltHex := toHex (List.replicate 16 7)
  hashHex := toHex (List.replicate 32 12)
  iterations := 210000
  createdAt := 0

def storeOf (username : String) : AppState := { users := { users := [storedUser username] } }

def anyMoment : Nat → Moment := fun _ => ⟨0, fun _ => none, true⟩

theorem guess_credentials : credentialsOf guessLibraries guessRequest = .ok ("root", "guess") := rfl

theorem salt_read (username : String) :
    fromHex (storedUser username).saltHex = .ok (List.replicate 16 7) := fromHex_toHex _

theorem guess_refused :
    verifyPassword guessLibraries "guess" (storedUser "root").passwordHash = .ok false := by
  have key : (List.replicate 32 (UInt8.ofNat "guess".length) == List.replicate 32 12) = false := by
    decide +kernel
  simp only [verifyPassword, UserRecord.passwordHash, storedUser, fromHex_toHex, derive,
    guessLibraries, bind, Except.bind, pure, Except.pure, key]

theorem guess_wrong :
    verifyPassword guessLibraries "guess" (storedUser "root").passwordHash ≠ .ok true := by
  rw [guess_refused]
  simp

theorem login_tells_existence_root :
    ¬SameToTheClient (login guessLibraries guessRequest "192.0.2.1" anyMoment (storeOf "root"))
      (login guessLibraries guessRequest "192.0.2.1" anyMoment (storeOf "operator")) :=
  login_tells_existence guessLibraries guessRequest guessRequest "192.0.2.1" "192.0.2.1" anyMoment
    anyMoment (storeOf "root") (storeOf "operator") "root" "guess" "root" "guess" (storedUser "root")
    guess_credentials rfl guess_wrong guess_credentials rfl

/-- One derivation against none, for the same response. -/
theorem login_derives_for_root :
    iterationCounts (login guessLibraries guessRequest "192.0.2.1" anyMoment (storeOf "root")) =
        [210000] ∧
      iterationCounts (login guessLibraries guessRequest "192.0.2.1" anyMoment
        (storeOf "operator")) = [] ∧
      (login guessLibraries guessRequest "192.0.2.1" anyMoment (storeOf "root")).result =
        (login guessLibraries guessRequest "192.0.2.1" anyMoment (storeOf "operator")).result ∧
      ¬SameToTheClient (login guessLibraries guessRequest "192.0.2.1" anyMoment (storeOf "root"))
        (login guessLibraries guessRequest "192.0.2.1" anyMoment (storeOf "operator")) := by
  obtain ⟨derived, answered⟩ := @login_wrong guessLibraries guessRequest "192.0.2.1" "root" "guess"
    anyMoment (storeOf "root") (storedUser "root") guess_credentials rfl guess_wrong _ (salt_read "root")
  obtain ⟨underived, refused⟩ := @login_unknown guessLibraries guessRequest "192.0.2.1" "root" "guess"
    anyMoment (storeOf "operator") guess_credentials rfl
  rw [guess_refused] at answered
  refine ⟨derived, underived, answered.trans refused.symm, ?_⟩
  intro same
  have counts := same.1
  rw [derived, underived] at counts
  cases counts

end Atomwall.Admin
