import Atomwall.Admin.FactorRaces
import Atomwall.Admin.Provenance

/-!
The first account. `handle_auth_setup` asks whether there is an account before it reads the body; that the answer may
be old when the account is made costs nothing, and no request takes the last account away.
-/

namespace Atomwall.Admin

open Http

variable {libs : Libraries} {op : Call} {m : Moment} {s : AppState}

/-! ### The last account -/

theorem users_modify {users : UserStore} {username : String} {change : UserRecord → UserRecord} (some_left : users.users ≠ []) :
    (users.modifyUser username change).users ≠ [] := by
  have same := List.length_lookmap (fun user : UserRecord => if user.username = username then some (change user) else none)
    users.users
  exact List.ne_nil_of_length_pos (same ▸ List.length_pos_of_ne_nil some_left)

theorem users_remove {users : UserStore} {username : String} (some_left : users.users ≠ []) :
    (users.remove m username).2.users ≠ [] := by
  unfold UserStore.remove
  split
  · exact some_left
  · next user found =>
    split
    · exact some_left
    · next several =>
      have one := List.length_eraseP_of_mem (UserStore.find_mem found) (List.find?_some found)
      have more := List.length_pos_of_ne_nil some_left
      refine List.ne_nil_of_length_pos ?_
      show 0 < (users.users.eraseP _).length
      omega

theorem users_extend {users later : UserStore} (extends_ : users.Extends later) (some_left : users.users ≠ []) :
    later.users ≠ [] := by
  obtain ⟨user, rest, first⟩ := List.exists_cons_of_ne_nil some_left
  have found : (users.find user.username).isSome = true := by
    simp [UserStore.find, first]
  obtain ⟨other, there⟩ := Option.isSome_iff_exists.mp (extends_.find_isSome found)
  exact List.ne_nil_of_mem (UserStore.find_mem there)

/-- No call takes the last account away. -/
theorem perform_some_left (some_left : s.users.users ≠ []) : (perform libs op m s).2.users.users ≠ [] := by
  by_cases disrupts : op.Disrupts
  · cases op with
    | usersRemove => exact users_remove some_left
    | usersClearTotp =>
      simp only [perform, onUsers_snd, UserStore.clearTotp]
      split
      · exact some_left
      · exact users_modify some_left
    | usersRemoveWebauthnCredential =>
      simp only [perform, onUsers_snd, UserStore.removeWebauthnCredential]
      split
      · exact some_left
      · split
        · exact users_modify some_left
        · exact some_left
    | configUpdate mutator =>
      obtain ⟨config, left, -⟩ := @perform_configUpdate libs m s mutator
      rw [left]
      exact some_left
    | _ => first | exact some_left | cases disrupts
  · exact users_extend (perform_grows disrupts).2 some_left

/-! ### What the answer says -/

def SetUp (request : Request) : Prop := handlerFor request.method request.target = .authSetup

/-- `create_if_empty` found no account and made one. -/
def MadeFirst (made : Made) : Prop :=
  ∃ username password, made = ⟨.usersCreateIfEmpty username password, .ok true⟩

theorem madeFirst_perform (made : MadeFirst ⟨op, (perform libs op m s).1⟩) :
    s.users.users = [] ∧ (perform libs op m s).2.users.users ≠ [] := by
  obtain ⟨username, password, same⟩ := made
  injection same with call result
  subst call
  rcases created : s.users.createIfEmpty m libs username password with ⟨outcome, later⟩
  have first : outcome = .ok true := by
    have shown := eq_of_heq result
    simpa only [perform, onUsers_fst, created] using shown
  subst first
  obtain ⟨none_yet, found⟩ := UserStore.createIfEmpty_true created
  refine ⟨none_yet, ?_⟩
  simp only [perform, onUsers_snd, created]
  obtain ⟨user, there⟩ := Option.isSome_iff_exists.mp found
  exact List.ne_nil_of_mem (UserStore.find_mem there)

/-- A setup that is answered with 200 has made the first account. -/
def answersSetup (request : Request) : Prog.Contract Call Call.Result Fault Response where
  allowed _ _ := True
  post done result := SetUp request → ∀ response, result = .ok response → response.status = 200 →
    ∃ made ∈ done, MadeFirst made

variable {others : OtherHandlers} {request : Request} {clientIp user : String} {done : List Made}

theorem refused_answersSetup {status : Nat} {message : String} (other : status ≠ 200) :
    (answersSetup request).post done (.ok (errorResponse status message request.version)) := by
  rintro - response same answered
  obtain rfl := Except.ok.inj same
  exact absurd answered other

theorem credentialsOf_refused {reply : Response} (refused : credentialsOf libs request = .error reply) :
    ∃ message, reply = errorResponse 400 message request.version := by
  unfold credentialsOf at refused
  split at refused
  · exact ⟨_, (Except.error.inj refused).symm⟩
  · split at refused
    · cases refused
    · exact ⟨_, (Except.error.inj refused).symm⟩

theorem handleAuthSetup_answersSetup :
    Prog.Keeps (answersSetup request) done (handleAuthSetup libs request clientIp) := by
  refine ⟨trivial, fun empty => ?_⟩
  cases empty with
  | false => exact refused_answersSetup (by decide)
  | true =>
    cases sent : credentialsOf libs request with
    | error reply =>
      obtain ⟨message, rfl⟩ := credentialsOf_refused sent
      exact refused_answersSetup (by decide)
    | ok credentials =>
      obtain ⟨username, password⟩ := credentials
      simp only [Prog.bind_eq_bind, Prog.bind_ret, Bool.not_true, Bool.false_eq_true, if_false]
      refine ⟨trivial, ?_⟩
      rintro ((what | _) | created)
      · exact refused_answersSetup (by decide)
      · rintro - response same
        cases same
      · cases created with
        | false => exact refused_answersSetup (by decide)
        | true =>
          -- whatever the session is issued with, the account is made
          refine Prog.keeps_of_post (fun _ _ => trivial) fun later result _ _ _ _ => ?_
          exact ⟨_, List.mem_append_right later List.mem_cons_self, username, password, rfl⟩

theorem behindGate_answersSetup {answer : Gate} :
    Prog.Keeps (answersSetup request) done (behindGate libs others request clientIp answer) := by
  by_cases setup : SetUp request
  · cases answer with
    | unauthorized => exact refused_answersSetup (by decide)
    | mfaSetupRequired => exact refused_answersSetup (by decide)
    | pass actingUser =>
      show Prog.Keeps _ _ (runRoute libs others request actingUser clientIp (handlerFor request.method request.target))
      rw [setup]
      exact ⟨trivial, fun config => handleAuthSetup_answersSetup⟩
  · exact Prog.keeps_of_post (fun _ _ => trivial) fun _ _ routed => absurd routed setup

theorem handleConnection_answersSetup :
    Prog.Keeps (answersSetup request) done (handleConnection libs others request clientIp) := by
  rw [handleConnection_eq]
  unfold gateSession
  split
  · split
    · exact ⟨trivial, fun session => behindGate_answersSetup⟩
    · exact behindGate_answersSetup
  · exact behindGate_answersSetup

/-! ### Setups that race -/

section Interleaving

variable {ι : Type} [DecidableEq ι] {requests : ι → Request} {clientIps : ι → String} {app : AppState}

/-- The first account is made by one request, where there was none, and some account is there from then on. -/
structure FirstOnce (app : AppState) (log : List (Logged ι)) (s : AppState) : Prop where
  kept : app.users.users ≠ [] → s.users.users ≠ []
  made : ∀ e ∈ log, MadeFirst e.event → app.users.users = [] ∧ s.users.users ≠ []
  once : ∀ e ∈ log, ∀ other ∈ log, MadeFirst e.event → MadeFirst other.event → other.thread = e.thread

omit [DecidableEq ι] in
theorem FirstOnce.call {log : List (Logged ι)} {i : ι} (known : FirstOnce app log s) :
    FirstOnce app (⟨i, m, ⟨op, (perform libs op m s).1⟩⟩ :: log) (perform libs op m s).2 := by
  refine ⟨fun some_left => perform_some_left (known.kept some_left), ?_, ?_⟩
  · intro e member first
    rcases List.mem_cons.mp member with rfl | before
    · obtain ⟨none_yet, made⟩ := madeFirst_perform first
      refine ⟨Classical.byContradiction fun some_left => ?_, made⟩
      exact known.kept some_left none_yet
    · obtain ⟨empty, there⟩ := known.made e before first
      exact ⟨empty, perform_some_left there⟩
  · intro e member other otherMember first again
    rcases List.mem_cons.mp member with rfl | before <;> rcases List.mem_cons.mp otherMember with rfl | otherBefore
    · rfl
    · exact absurd (madeFirst_perform first).1 (known.made other otherBefore again).2
    · exact absurd (madeFirst_perform again).1 (known.made e before first).2
    · exact known.once e before other otherBefore first again

/-- Requests in any order of their calls: an account stays to log in with, and of all setups at most one is answered
with 200, and only where there was no account. -/
theorem setup_once {actions : List (ι × Moment)} {t : RequestPool ι}
    (ran : Lts.run (Prog.Pool.step (perform libs)) (arriving libs others requests clientIps app) actions = some t) :
    (app.users.users ≠ [] → t.store.users.users ≠ []) ∧
      ∀ i response, SetUp (requests i) → t.threads i = .ret response → response.status = 200 →
        app.users.users = [] ∧ t.store.users.users ≠ [] ∧
        ∀ j other, SetUp (requests j) → t.threads j = .ret other → other.status = 200 → j = i := by
  have start : FirstOnce app ([] : List (Logged ι)) app :=
    ⟨id, fun e none => by (cases none), fun e none => by (cases none)⟩
  have anyStep : Lts.Meets (Prog.Pool.step (perform libs)) (fun _ _ => True)
      (arriving libs others requests clientIps app) actions := Lts.meets_of_forall (fun _ _ => trivial) _ _
  obtain ⟨kept, known⟩ := Prog.Pool.run_kept (c := fun i => answersSetup (requests i))
    (fun now i m op next _ _ _ _ known => known.call) (fun i => handleConnection_answersSetup) start anyStep ran
  have first : ∀ i response, SetUp (requests i) → t.threads i = .ret response → response.status = 200 →
      ∃ e ∈ t.log, e.thread = i ∧ MadeFirst e.event := by
    intro i response setup answered ok
    have ends := kept i
    rw [answered] at ends
    obtain ⟨made, member, first⟩ := ends setup response rfl ok
    obtain ⟨moment, logged⟩ := Prog.mem_historyOf.mp member
    exact ⟨_, logged, rfl, first⟩
  refine ⟨known.kept, fun i response setup answered ok => ?_⟩
  obtain ⟨e, member, rfl, made⟩ := first i response setup answered ok
  obtain ⟨empty, there⟩ := known.made e member made
  refine ⟨empty, there, fun j other otherSetup otherAnswered otherOk => ?_⟩
  obtain ⟨e', otherMember, rfl, again⟩ := first j other otherSetup otherAnswered otherOk
  exact known.once e member e' otherMember made again

end Interleaving

/-! ### Two setups at once -/

/-- The derived keys of the two passwords, each under the salt that its request draws. -/
def setupLibraries : Libraries :=
  { sampleLibraries with
    pbkdf2 := fun password salt iterations =>
      [(("correct horse", List.replicate 16 1, 210000),
        [19, 89, 190, 16, 112, 40, 123, 162, 96, 35, 82, 133, 31, 211, 99, 83, 203, 144, 170, 161,
         153, 206, 18, 61, 225, 213, 21, 106, 113, 35, 156, 6]),
       (("battery staple", List.replicate 16 2, 210000),
        [46, 104, 25, 41, 36, 234, 198, 5, 255, 212, 250, 99, 148, 50, 116, 240, 31, 159, 179, 114,
         75, 11, 115, 210, 60, 72, 159, 251, 69, 23, 250, 111])].lookup (password, salt, iterations) }

def setupRequest (asRoot : Bool) : Request where
  methodString := "POST"
  target := "/api/auth/setup"
  body := if asRoot then rootLogin else guestLogin

/-- Both find no account before either makes one. -/
def setupActions : List (Bool × Moment) :=
  [true, true, false, false, true, false, true, true, true, true, true].map fun asRoot =>
    (asRoot, ⟨seconds 10, fun _ => some (if asRoot then 1 else 2), true⟩)

def setupStart : RequestPool Bool :=
  arriving setupLibraries noOtherHandlers setupRequest (fun _ => "unknown") { users := { users := [] } }

theorem setup_once_raced : ∃ t,
    Lts.run (Prog.Pool.step (perform setupLibraries)) setupStart setupActions = some t ∧
      statusOf (t.threads true) = some 200 ∧ statusOf (t.threads false) = some 409 ∧
      ∃ response, t.threads true = .ret response ∧ t.store.users.users ≠ [] ∧
        ∀ j other, SetUp (setupRequest j) → t.threads j = .ret other → other.status = 200 → j = true := by
  have ends : (Lts.run (Prog.Pool.step (perform setupLibraries)) setupStart setupActions).map (fun t =>
      (statusOf (t.threads true), statusOf (t.threads false))) = some (some 200, some 409) := by
    decide +kernel
  obtain ⟨t, ran, answers⟩ := Option.map_eq_some_iff.mp ends
  obtain ⟨first, second⟩ := Prod.mk.inj answers
  obtain ⟨response, answered, ok⟩ := statusOf_some first
  have setup : SetUp (setupRequest true) := by
    show handlerFor _ _ = _
    decide +kernel
  obtain ⟨-, there, alone⟩ := (setup_once ran).2 true response setup answered ok
  exact ⟨t, ran, first, second, response, answered, there, alone⟩

end Atomwall.Admin
