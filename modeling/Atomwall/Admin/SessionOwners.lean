import Atomwall.Admin.Effects

/-! Whom the gate lets in: sessions outlive the accounts they were issued to. -/

namespace Atomwall.Admin

open Http ByteString

def SignedIn (s : AppState) (now : Int) (username : String) : Prop :=
  ∃ token session, s.sessions.lookup token = some session ∧ now ≤ session.expiresAt ∧
    session.username = username

def OwnersExist (s : AppState) (now : Int) : Prop :=
  ∀ username, SignedIn s now username → (s.users.find username).isSome = true

/-- The request takes the account away: it is one the router hands to `handle_users_delete`, and the
account is not the last. -/
def Deletes (app : AppState) (a : Arrival) (username : String) : Prop :=
  Reaches app a (.usersDelete username) ∧ (app.users.find username).isSome = true ∧
    app.users.users.length ≠ 1

def Deleted (served : Served) (username : String) : Prop :=
  ⟨.usersRemove username, .ok true⟩ ∈ served.done

def Issued (served : Served) (username token : String) : Prop :=
  ∃ flag, ⟨.sessionsCreate username flag, .ok token⟩ ∈ served.done

/-- The clock has not gone back, and an account that the request deletes is signed out. -/
def DeletesSignedOut (s : Server) (a : Arrival) : Prop :=
  s.clock ≤ a.now ∧ ∀ username, Deletes s.app a username → ¬ SignedIn s.app a.now username

variable {libs : Libraries} {others : OtherHandlers} {app s : AppState} {a : Arrival}
  {done : List Made} {op : Call} {n : Nat} {username token : String}

theorem SignedIn.later {now later : Int} (h : SignedIn s later username) (order : now ≤ later) :
    SignedIn s now username := by
  obtain ⟨token, session, stored, unexpired, owner⟩ := h
  exact ⟨token, session, stored, by omega, owner⟩

theorem MayIssue.user_exists {request : Request} {flag : Bool} {valid : Prop}
    (may : MayIssue libs request done username flag) (learnt : ∀ e ∈ done, Learnt valid s e) :
    (s.users.find username).isSome = true := by
  cases may with
  | setup sent created policy => exact learnt _ created
  | login proved noFactor policy =>
    obtain ⟨_, _, known, _⟩ := proved
    exact (learnt _ known).1
  | totp pending sent known enrolled clock verified fresh => exact (learnt _ known).1
  | backupCode pending sent consumed => exact (learnt _ consumed).1
  | passkeyLogin sent known stored verified => exact (learnt _ known).1
  | passkeySecond pending known stored verified => exact (learnt _ known).1

/-- Where the sessions come from that a call leaves. -/
theorem perform_session {m : Moment} {session : Session}
    (found : (perform libs op m s).2.sessions.lookup token = some session) :
    (∃ flag, op = .sessionsCreate session.username flag ∧
        (⟨op, (perform libs op m s).1⟩ : Made) = ⟨.sessionsCreate session.username flag, .ok token⟩) ∨
      ∃ old, s.sessions.lookup token = some old ∧ old.username = session.username ∧
        old.expiresAt = session.expiresAt := by
  cases op with
  | sessionsCreate username flag =>
    rcases made : s.sessions.create m username flag with ⟨(fault | issued), next⟩
    · simp only [perform, made] at found
      rw [SessionStore.create_error made] at found
      exact Or.inr ⟨session, found, rfl, rfl⟩
    · simp only [perform, made] at found ⊢
      rcases SessionStore.lookup_create made found with ⟨rfl, rfl⟩ | old
      · exact Or.inl ⟨flag, rfl, rfl⟩
      · exact Or.inr ⟨session, old, rfl, rfl⟩
  | sessionsMarkMfaSatisfied other =>
    obtain ⟨old, before, owner, expires, _⟩ := SessionStore.lookup_markMfaSatisfied found
    exact Or.inr ⟨old, before, owner, expires⟩
  | sessionsInvalidate other =>
    exact Or.inr ⟨session, @perform_sessions libs (.sessionsInvalidate other) m s id _ _ found, rfl, rfl⟩
  | configUpdate mutator =>
    obtain ⟨config, left, _⟩ := @perform_configUpdate libs m s mutator
    rw [left] at found
    exact Or.inr ⟨session, found, rfl, rfl⟩
  | _ => exact Or.inr ⟨session, found, rfl, rfl⟩

theorem perform_find_isSome {m : Moment} (known : (s.users.find username).isSome = true)
    (other : ∀ name, op = .usersRemove name → username ≠ name) :
    ((perform libs op m s).2.users.find username).isSome = true := by
  by_cases disrupts : op.Disrupts
  · cases op with
    | usersRemove name =>
      show ((s.users.remove m name).2.find username).isSome = true
      rwa [UserStore.find_remove_of_ne (other name rfl)]
    | usersClearTotp => exact UserStore.find_isSome_clearTotp known
    | usersRemoveWebauthnCredential => exact UserStore.find_isSome_removeWebauthnCredential known
    | configUpdate mutator =>
      obtain ⟨config, left, _⟩ := @perform_configUpdate libs m s mutator
      rwa [left]
    | _ => first | exact known | cases disrupts
  · exact (perform_grows disrupts).2.find_isSome known

theorem Context.reaches {actingUser : String} {route : Route} (context : Context libs app a done s)
    (entered : Entered a.request done actingUser)
    (routed : handlerFor a.request.method a.request.target = route) : Reaches app a route := by
  refine ⟨routed, fun auth => ⟨actingUser, auth, ?_⟩⟩
  obtain ⟨token, info, sent, known, _, passed⟩ := entered
  exact ⟨token, info, sent, context.seen _ known, passed⟩

/-- What a request keeps that deletes signed-out accounts only. -/
structure Owned (app : AppState) (a : Arrival) (done : List Made) (s : AppState) : Prop where
  owners : OwnersExist s a.now
  removed : ∀ username, ⟨.usersRemove username, .ok true⟩ ∈ done → ¬ SignedIn s a.now username
  sessions : ∀ token session, s.sessions.lookup token = some session →
    (∃ flag, ⟨.sessionsCreate session.username flag, .ok token⟩ ∈ done) ∨
      ∃ old, app.sessions.lookup token = some old ∧ old.username = session.username ∧
        old.expiresAt = session.expiresAt

theorem Context.deletes (context : Context libs app a done s)
    (may : MayCall libs a.request done (.usersRemove username))
    (known : (s.users.find username).isSome = true) (several : s.users.users.length ≠ 1) :
    s = app ∧ Deletes app a username := by
  obtain ⟨reads, routed, actingUser, entered⟩ := may
  obtain rfl := context.reads reads
  exact ⟨rfl, context.reaches entered routed, known, several⟩

theorem Owned.owners_perform (context : Context libs app a done s)
    (may : MayCall libs a.request done op)
    (signedOut : ∀ username, Deletes app a username → ¬ SignedIn app a.now username)
    (owned : Owned app a done s) : OwnersExist (perform libs op (a.moment n) s).2 a.now := by
  intro username signedIn
  obtain ⟨token, session, found, unexpired, rfl⟩ := signedIn
  rcases perform_session found with ⟨flag, rfl, _⟩ | ⟨old, before, owner, expires⟩
  · obtain ⟨quiet, issue⟩ := may
    apply perform_find_isSome (issue.user_exists (context.learnt quiet))
    intro name same
    cases same
  · have signedIn : SignedIn s a.now session.username := ⟨token, old, before, by omega, owner⟩
    have known := owned.owners _ signedIn
    by_cases own : op = .usersRemove session.username
    · subst own
      rcases @UserStore.remove_store s.users (a.moment n) session.username with same | ⟨_, several, _⟩
      · show ((s.users.remove (a.moment n) session.username).2.find session.username).isSome = true
        rwa [same]
      · obtain ⟨rfl, deletes⟩ := context.deletes may known several
        exact absurd signedIn (signedOut _ deletes)
    · apply perform_find_isSome known
      intro name same other
      exact own (other ▸ same)

theorem Owned.removed_perform (context : Context libs app a done s)
    (may : MayCall libs a.request done op)
    (signedOut : ∀ username, Deletes app a username → ¬ SignedIn app a.now username)
    (owned : Owned app a done s)
    (removed : ⟨.usersRemove username, .ok true⟩ ∈
      (⟨op, (perform libs op (a.moment n) s).1⟩ : Made) :: done) :
    ¬ SignedIn (perform libs op (a.moment n) s).2 a.now username := by
  rcases List.mem_cons.mp removed with here | before
  · injection here with same result
    subst same
    have result := eq_of_heq result
    obtain ⟨known, several⟩ := UserStore.remove_true (Prod.ext result.symm rfl)
    obtain ⟨rfl, deletes⟩ := context.deletes may known several
    exact signedOut username deletes
  · rintro ⟨token, session, found, unexpired, rfl⟩
    rcases perform_session found with ⟨flag, rfl, _⟩ | ⟨old, earlier, owner, expires⟩
    · exact may.1 _ before trivial
    · exact owned.removed _ before ⟨token, old, earlier, by omega, owner⟩

theorem Owned.perform (context : Context libs app a done s) (may : MayCall libs a.request done op)
    (signedOut : ∀ username, Deletes app a username → ¬ SignedIn app a.now username)
    (owned : Owned app a done s) :
    Owned app a (⟨op, (Admin.perform libs op (a.moment n) s).1⟩ :: done)
      (Admin.perform libs op (a.moment n) s).2 where
  owners := owned.owners_perform context may signedOut
  removed _ removed := owned.removed_perform context may signedOut removed
  sessions := by
    intro token session found
    rcases perform_session found with ⟨flag, _, made⟩ | ⟨old, before, owner, expires⟩
    · exact Or.inl ⟨flag, by rw [← made]; exact List.mem_cons_self⟩
    · rcases owned.sessions token old before with ⟨flag, made⟩ | ⟨first, stored, owner', expires'⟩
      · exact Or.inl ⟨flag, by rw [← owner]; exact List.mem_cons_of_mem _ made⟩
      · exact Or.inr ⟨first, stored, owner'.trans owner, expires'.trans expires⟩

theorem serve_owned (signedOut : ∀ username, Deletes app a username → ¬ SignedIn app a.now username)
    (owners : OwnersExist app a.now) :
    Owned app a (serve libs others app a).done (serve libs others app a).store := by
  refine (@serve_invariant libs app a others (Owned app a) ?_ ⟨owners, ?_, ?_⟩).2
  · intro done op n s context may owned
    exact owned.perform context may signedOut
  · intro username removed
    cases removed
  · intro token session found
    exact Or.inr ⟨session, found, rfl, rfl⟩

/-! ### Runs -/

/-- The sessions of a server belong to accounts, and those of an account that was deleted were all
issued since. -/
structure Guarded (s : Server) : Prop where
  owners : OwnersExist s.app s.clock
  reissued : ∀ newer served older username token session, s.log = newer ++ served :: older →
    Deleted served username → s.app.sessions.lookup token = some session →
    s.clock ≤ session.expiresAt → session.username = username →
    ∃ later ∈ newer, Issued later username token

theorem step_guarded {s t : Server} (guarded : Guarded s) (meets : DeletesSignedOut s a)
    (h : Server.step libs others s a = some t) : Guarded t := by
  obtain rfl := Option.some.inj h
  obtain ⟨order, signedOut⟩ := meets
  have owned : Owned s.app a (serve libs others s.app a).done (serve libs others s.app a).store :=
    serve_owned signedOut fun username signedIn => guarded.owners username (signedIn.later order)
  refine ⟨owned.owners, ?_⟩
  intro newer served older username token session log deleted found unexpired owner
  cases newer with
  | nil =>
    obtain ⟨rfl, rfl⟩ := List.cons.inj log
    exact absurd ⟨token, session, found, unexpired, owner⟩ (owned.removed username deleted)
  | cons first newer =>
    obtain ⟨rfl, rest⟩ := List.cons.inj log
    rcases owned.sessions token session found with ⟨flag, made⟩ | ⟨old, before, owner', expires⟩
    · exact ⟨_, List.mem_cons_self, flag, by rw [← owner]; exact made⟩
    · have still : s.clock ≤ old.expiresAt := by
        rw [expires]
        exact Int.le_trans order unexpired
      obtain ⟨later, member, issued⟩ := guarded.reissued newer served older username token old rest
        deleted before still (owner'.trans owner)
      exact ⟨later, List.mem_cons_of_mem _ member, issued⟩

/-- Where every account is signed out when it is deleted, the gate accepts requests of accounts that
exist only, and after an account was deleted only by sessions it was issued since. -/
theorem accepted_user_exists {clock : Int} {arrivals : List Arrival} {s : Server} {user : String}
    (fresh : app.sessions = ∅)
    (meets : Lts.Meets (Server.step libs others) DeletesSignedOut ⟨app, clock, []⟩ arrivals)
    (run : Lts.run (Server.step libs others) ⟨app, clock, []⟩ arrivals = some s)
    (later : s.clock ≤ a.now) (accepts : Accepts s.app a user) :
    (s.app.users.find user).isSome = true ∧
      ∀ newer served older token, s.log = newer ++ served :: older → Deleted served user →
        extractSessionToken a.request.fields = some token →
        ∃ issuing ∈ newer, Issued issuing user token := by
  have start : Guarded ⟨app, clock, []⟩ := by
    constructor
    · rintro username ⟨token, session, found, _⟩
      rw [fresh] at found
      cases found
    · intro newer served older username token session log
      simp at log
  have guarded : Guarded s := Lts.run_invariant (fun _ _ _ => step_guarded) start meets run
  obtain ⟨auth, token, info, sent, valid, passed⟩ := accepts
  obtain ⟨session, found, unexpired, rfl⟩ := SessionStore.validate_eq_some.mp valid
  have owner : session.username = user := gate_pass auth passed
  have current : s.clock ≤ session.expiresAt := Int.le_trans later unexpired
  refine ⟨guarded.owners user ⟨token, session, found, current, owner⟩, ?_⟩
  intro newer served older other log deleted sent'
  obtain rfl : token = other := Option.some.inj (sent.symm.trans sent')
  exact guarded.reissued newer served older user token session log deleted found current owner

/-! ### Two accounts -/

def sampleSalt : List UInt8 := [0, 1, 2, 3, 4, 5, 6, 7, 8, 9, 10, 11, 12, 13, 14, 15]

def sampleUser (username hashHex : String) : UserRecord where
  username := username
  saltHex := "000102030405060708090a0b0c0d0e0f"
  hashHex := hashHex
  iterations := 1
  createdAt := 0

def rootLogin : String := "\x7b\"username\": \"root\", \"password\": \"correct horse\"\x7d"
def guestLogin : String := "\x7b\"username\": \"guest\", \"password\": \"battery staple\"\x7d"
def requireOn : String := "\x7b\"require_2fa\": true\x7d"
def firstCode : String := "\x7b\"code\": \"287082\"\x7d"

/-- HMAC-SHA-1 under the key `12345678901234567890`, by counter. -/
def sampleDigests : List (List UInt8 × List UInt8) :=
  [([0, 0, 0, 0, 0, 0, 0, 0],
    [204, 147, 207, 24, 80, 141, 148, 147, 76, 100, 182, 93, 139, 167, 102, 127, 183, 205, 228, 176]),
   ([0, 0, 0, 0, 0, 0, 0, 1],
    [117, 164, 138, 25, 212, 203, 225, 0, 100, 78, 138, 193, 57, 126, 234, 116, 122, 45, 51, 171]),
   ([0, 0, 0, 0, 0, 0, 0, 2],
    [11, 172, 183, 250, 8, 47, 239, 48, 120, 34, 17, 147, 139, 193, 197, 231, 4, 22, 255, 68])]

/-- What the libraries return for the passwords, bodies and codes below. -/
def sampleLibraries : Libraries where
  jsonParse body :=
    [(rootLogin, .object [("username", .string "root"), ("password", .string "correct horse")]),
     (guestLogin, .object [("username", .string "guest"), ("password", .string "battery staple")]),
     (requireOn, .object [("require_2fa", .bool true)]),
     (firstCode, .object [("code", .string "287082")])].lookup body
  toIso8601 _ := "1970-01-01T00:00:00Z"
  pbkdf2 password salt iterations :=
    if salt = sampleSalt ∧ iterations = 1 then
      [("correct horse",
        [197, 25, 159, 82, 208, 149, 240, 59, 178, 122, 206, 123, 56, 87, 17, 153, 156, 103, 236, 74,
         172, 208, 242, 152, 166, 218, 54, 206, 71, 82, 13, 175]),
       ("battery staple",
        [149, 42, 2, 174, 28, 183, 99, 185, 119, 225, 98, 252, 58, 239, 183, 219, 207, 226, 184, 248,
         37, 200, 30, 54, 171, 50, 47, 218, 252, 232, 209, 172])].lookup password
    else none
  hmacSha1 key data :=
    if key = bytes "12345678901234567890" then
      (sampleDigests.lookup data).map fun digest i => digest.getD i 0
    else none
  sha256 _ := none
  cborLoad _ := none
  validKey _ := false
  digestVerify _ _ _ := false

def sampleApp : AppState where
  users := { users :=
    [sampleUser "root" "c5199f52d095f03bb27ace7b385711999c67ec4aacd0f298a6da36ce47520daf",
     sampleUser "guest" "952a02ae1cb763b977e162fc3aefb7dbcfe2b8f825c81e36ab322fdafce8d1ac"] }

def noOtherHandlers : OtherHandlers where
  run _ request _ := Prog.ret (errorResponse 404 "not found" request.version)
  frame _ _ _ _ := trivial

/-- A request at `now` seconds whose random bytes are all `draw`. -/
def sampleRequest (now : Int) (draw : UInt8) (method target cookie body : String) : Arrival where
  request := { methodString := method, target := target, fields := [("Cookie", cookie)], body := body }
  now := seconds now
  random _ _ := some draw

def sessionCookie (draw : UInt8) : String :=
  "atomwall_session=" ++ toHex (List.replicate 32 draw)

def rootSignsIn : Arrival := sampleRequest 30 1 "POST" "/api/auth/login" "" rootLogin
def guestSignsIn : Arrival := sampleRequest 35 2 "POST" "/api/auth/login" "" guestLogin
def guestDeleted : Arrival :=
  sampleRequest 40 0 "DELETE" "/api/users/guest" (sessionCookie 1) ""
def guestAsks : Arrival := sampleRequest 50 0 "GET" "/api/users" (sessionCookie 2) ""

def sampleStep : Server → Arrival → Option Server := Server.step sampleLibraries noOtherHandlers

def sampleServer : Server := ⟨sampleApp, seconds 29, []⟩

def afterDeletion : Server :=
  (Lts.run sampleStep sampleServer [rootSignsIn, guestSignsIn, guestDeleted]).getD sampleServer

theorem sample_is_let_in {draw : UInt8} {now : Int} {user : String}
    (valid : s.sessions.validate ((sampleRequest now 0 "GET" "/api/users" (sessionCookie draw) "").moment 0)
      (toHex (List.replicate 32 draw)) = some ⟨user, false⟩)
    (sent : extractSessionToken [("Cookie", sessionCookie draw)] =
      some (toHex (List.replicate 32 draw))) :
    Accepts s (sampleRequest now 0 "GET" "/api/users" (sessionCookie draw) "") user := by
  have auth : needsAuth "/api/users" = true := by decide
  refine ⟨auth, _, _, sent, valid, ?_⟩
  show gate (some ⟨user, false⟩) "/api/users" = .pass user
  simp [gate, auth]

theorem guest_session_outlives_account :
    (afterDeletion.app.users.find "guest").isSome = false ∧
      afterDeletion.app.sessions.validate (guestAsks.moment 0) (toHex (List.replicate 32 2)) =
        some ⟨"guest", false⟩ := by
  decide +kernel

/-- An account that is deleted while it is signed in goes on being accepted. -/
theorem deleted_user_accepted :
    ¬ ∀ (libs : Libraries) (others : OtherHandlers) (app : AppState) (clock : Int)
        (arrivals : List Arrival) (s : Server) (a : Arrival) (user : String), app.sessions = ∅ →
        Lts.run (Server.step libs others) ⟨app, clock, []⟩ arrivals = some s → s.clock ≤ a.now →
        Accepts s.app a user → (s.app.users.find user).isSome = true := by
  intro claim
  obtain ⟨gone, valid⟩ := guest_session_outlives_account
  have known := claim sampleLibraries noOtherHandlers sampleApp (seconds 29)
    [rootSignsIn, guestSignsIn, guestDeleted] afterDeletion guestAsks "guest" rfl rfl (by decide)
    (sample_is_let_in valid (by decide +kernel))
  rw [gone] at known
  cases known

def rootAsks : Arrival := sampleRequest 60 0 "GET" "/api/users" (sessionCookie 1) ""

def afterSignedOutDeletion : Server :=
  (Lts.run sampleStep sampleServer [rootSignsIn, guestDeleted]).getD sampleServer

theorem signedOut_of_entries {now : Int}
    (others : ∀ e ∈ s.sessions.entries, e.2.username ≠ username) : ¬ SignedIn s now username := by
  rintro ⟨token, session, found, _, owner⟩
  exact others _ (KeyMap.lookup_eq_some_iff.mp found) owner

theorem signedOutDeletion_meets :
    Lts.Meets sampleStep DeletesSignedOut sampleServer [rootSignsIn, guestDeleted] := by
  have login : handlerFor rootSignsIn.request.method rootSignsIn.request.target = .authLogin := by
    decide +kernel
  have deletion : handlerFor guestDeleted.request.method guestDeleted.request.target =
      .usersDelete "guest" := by
    decide +kernel
  refine ⟨⟨by decide, fun username deletes => ?_⟩, fun next taken => ⟨?_, fun _ _ => trivial⟩⟩
  · have routed := login.symm.trans deletes.1.1
    cases routed
  · obtain rfl := Option.some.inj taken
    refine ⟨by decide, fun username deletes => ?_⟩
    obtain rfl := Route.usersDelete.inj (deletion.symm.trans deletes.1.1)
    exact signedOut_of_entries (by decide +kernel)

theorem accepted_user_exists_root :
    (afterSignedOutDeletion.app.users.find "root").isSome = true := by
  have valid : afterSignedOutDeletion.app.sessions.validate (rootAsks.moment 0)
      (toHex (List.replicate 32 1)) = some ⟨"root", false⟩ := by
    decide +kernel
  exact (accepted_user_exists rfl signedOutDeletion_meets rfl (by decide)
    (sample_is_let_in valid (by decide +kernel))).1

end Atomwall.Admin
