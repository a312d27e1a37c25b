import Atomwall.Admin.PasskeyOwners

/-!
The last second factor of an account where `require_2fa` is on: `handle_webauthn_delete` counts the
factors on a copy of the record and removes the passkey in a later call, so what it counted may be gone
by then.
-/

namespace Atomwall.Admin

open Http ByteString

section Interleaving

variable {ι : Type} [DecidableEq ι] {libs : Libraries} {others : OtherHandlers} {request : ι → Request}
  {clientIp : ι → String} {app : AppState} {username : String} {op : Call} {m : Moment} {s : AppState}

def arriving (libs : Libraries) (others : OtherHandlers) (request : ι → Request)
    (clientIp : ι → String) (app : AppState) : RequestPool ι :=
  ⟨app, fun i => handleConnection libs others (request i) (clientIp i), []⟩

theorem arriving_kept : Prog.Pool.Kept (fun i => discipline libs (request i))
    (arriving libs others request clientIp app) :=
  fun i => keeps_handleConnection others (clientIp i)

/-- A step that calls `remove` for the account does not delete it. -/
def NotDeleted (username : String) (now : RequestPool ι) (a : ι × Moment) : Prop :=
  ∀ next, now.threads a.1 = .call (.usersRemove username) next →
    (now.store.users.remove a.2 username).2 = now.store.users

/-- A passkey that the step takes away is not the only factor the account has by then. -/
def TakesSpare (username : String) (now : RequestPool ι) (a : ι × Moment) : Prop :=
  ∀ credentialId next user,
    now.threads a.1 = .call (.usersRemoveWebauthnCredential username credentialId) next →
    now.store.users.find username = some user →
    user.webauthnCredentials.any (·.idB64url == credentialId) = true →
    user.totp.isSome = true ∨ 2 ≤ user.webauthnCredentials.length

/-- Every request that asked for the policy saw it on. -/
def PolicySeen (log : List (Logged ι)) : Prop :=
  ∀ e ∈ log, ∀ config, e.event = ⟨.configGet, config⟩ → config.security.require2fa = true

theorem PolicySeen.returned {log : List (Logged ι)} {i : ι} {config : RuntimeConfig}
    (seen : PolicySeen log) (asked : Returned (Prog.historyOf i log) .configGet config) :
    config.security.require2fa = true := by
  obtain ⟨moment, member⟩ := Prog.mem_historyOf.mp asked
  exact seen _ member config rfl

omit [DecidableEq ι] in
theorem policySeen_call {log : List (Logged ι)} {i : ι} (seen : PolicySeen log)
    (policy : s.config.security.require2fa = true) :
    PolicySeen (⟨i, m, ⟨op, (perform libs op m s).1⟩⟩ :: log) := by
  intro e member config asked
  rcases List.mem_cons.mp member with rfl | before
  · cases op with
    | configGet =>
      injection asked with _ same
      rw [← same]
      exact policy
    | _ => cases asked
  · exact seen e before config asked

/-- A call of a request that keeps the contract: a removal of a passkey may take the account's last
factor, no other call does. -/
theorem factor_call {log : List (Logged ι)} {i : ι} (seen : PolicySeen log)
    (may : MayCall libs (request i) (Prog.historyOf i log) op)
    (undeleted : op = .usersRemove username → (s.users.remove m username).2 = s.users)
    (spare : ∀ credentialId user, op = .usersRemoveWebauthnCredential username credentialId →
      s.users.find username = some user →
      user.webauthnCredentials.any (·.idB64url == credentialId) = true →
      user.totp.isSome = true ∨ 2 ≤ user.webauthnCredentials.length)
    (has : s.users.hasSecondFactor username = true) :
    (perform libs op m s).2.users.hasSecondFactor username = true := by
  by_cases disrupts : op.Disrupts
  · cases op with
    | usersRemove name =>
      show (s.users.remove m name).2.hasSecondFactor username = true
      by_cases same : name = username
      · subst same
        rw [undeleted rfl]
        exact has
      · rcases @UserStore.remove_store s.users m name with kept | ⟨_, _, removed⟩
        · rw [kept]
          exact has
        · rw [UserStore.hasSecondFactor_congr (UserStore.find_remove_of_ne (Ne.symm same))]
          exact has
    | usersClearTotp name =>
      obtain ⟨_, config, asked, off⟩ := may
      exact absurd (off.symm.trans (seen.returned asked)) (by decide)
    | usersRemoveWebauthnCredential name credentialId =>
      show (s.users.removeWebauthnCredential m name credentialId).2.hasSecondFactor username = true
      by_cases same : name = username
      · subst same
        refine UserStore.factor_kept_removeWebauthnCredential.mpr (fun user found stored => ?_) has
        exact spare credentialId user rfl found stored
      · rw [UserStore.hasSecondFactor_congr]
        · exact has
        · exact UserStore.find_removeWebauthnCredential_of_ne (Ne.symm same)
    | configUpdate mutator =>
      obtain ⟨config, left, _⟩ := @perform_configUpdate libs m s mutator
      rw [left]
      exact has
    | sessionsCreate | sessionsMarkMfaSatisfied => exact has
    | _ => cases disrupts
  · exact (perform_grows disrupts).2.hasSecondFactor has

def Disciplined (libs : Libraries) (request : ι → Request) (now : RequestPool ι) : Prop :=
  Prog.Pool.Kept (fun i => discipline libs (request i)) now ∧ PolicySeen now.log

theorem step_disciplined {now next : RequestPool ι} {a : ι × Moment}
    (policy : now.store.config.security.require2fa = true) (known : Disciplined libs request now)
    (h : Prog.Pool.step (perform libs) now a = some next) : Disciplined libs request next := by
  refine ⟨Prog.Pool.step_kept known.1 h, ?_⟩
  obtain ⟨op, rest, calls, rfl⟩ := Prog.Pool.step_call h
  exact policySeen_call known.2 policy

/-- One step: the account keeps a second factor exactly when a passkey that the step takes away is not
its only one. -/
theorem step_factor_iff {now : RequestPool ι} {a : ι × Moment} (known : Disciplined libs request now)
    (undeleted : NotDeleted username now a) :
    (∀ next, Prog.Pool.step (perform libs) now a = some next →
      now.store.users.hasSecondFactor username = true →
      next.store.users.hasSecondFactor username = true) ↔ TakesSpare username now a := by
  obtain ⟨i, m⟩ := a
  constructor
  · intro kept credentialId rest user calls found stored
    have after := kept _ (Prog.Pool.step_of_call calls)
    exact UserStore.factor_kept_removeWebauthnCredential.mp after user found stored
  · intro spare next taken has
    obtain ⟨op, rest, calls, rfl⟩ := Prog.Pool.step_call taken
    have here := known.1 i
    rw [calls] at here
    refine factor_call known.2 here.1 ?_ ?_ has
    · intro same
      obtain rfl := same
      exact undeleted rest calls
    · intro credentialId user same
      obtain rfl := same
      exact spare credentialId rest user calls

/-- While `require_2fa` is on and the account is not deleted, in every interleaving of requests: an
account that has a second factor has one from then on exactly when no passkey is removed that is the
account's only factor at that moment. -/
theorem last_factor_stays_iff {actions : List (ι × Moment)}
    (policy : Lts.Throughout (Prog.Pool.step (perform libs))
      (fun now => now.store.config.security.require2fa = true)
      (arriving libs others request clientIp app) actions)
    (undeleted : Lts.Meets (Prog.Pool.step (perform libs)) (NotDeleted username)
      (arriving libs others request clientIp app) actions) :
    Lts.Along (Prog.Pool.step (perform libs))
        (fun now later => now.store.users.hasSecondFactor username = true →
          later.store.users.hasSecondFactor username = true)
        (arriving libs others request clientIp app) actions ↔
      Lts.Meets (Prog.Pool.step (perform libs)) (TakesSpare username)
        (arriving libs others request clientIp app) actions := by
  have start : Disciplined libs request (arriving libs others request clientIp app) :=
    ⟨arriving_kept, fun e none => by cases none⟩
  have known := (policy.invariant (fun now a next on known taken => step_disciplined on known taken)
    start).mono fun now both => both.2
  rw [Lts.along_iff_meets (fun _ has => has) (fun _ _ _ first second has => second (first has))]
  exact Lts.meets_congr_of (known.meets_and undeleted) fun now a both => step_factor_iff both.1 both.2

/-! ### Routes that leave the policy and the accounts alone -/

theorem perform_config (other : ∀ mutator, op ≠ .configUpdate mutator) :
    (perform libs op m s).2.config = s.config := by
  cases op with
  | configUpdate mutator => exact absurd rfl (other mutator)
  | _ => rfl

theorem policy_stays {actions : List (ι × Moment)} (on : app.config.security.require2fa = true)
    (routes : ∀ i, handlerFor (request i).method (request i).target ≠ .securityConfigUpdate) :
    Lts.Throughout (Prog.Pool.step (perform libs))
      (fun now => now.store.config.security.require2fa = true)
      (arriving libs others request clientIp app) actions := by
  have kept : Lts.Throughout (Prog.Pool.step (perform libs)) (fun now =>
        Prog.Pool.Kept (fun i => discipline libs (request i)) now ∧
          now.store.config.security.require2fa = true)
      (arriving libs others request clientIp app) actions := by
    refine Lts.throughout_of_meets ?_ ⟨arriving_kept, on⟩ (Lts.meets_of_forall (fun _ _ => trivial) _ _)
    intro now given next given' _ taken
    obtain ⟨i, m⟩ := given
    obtain ⟨kept, on⟩ := given'
    refine ⟨Prog.Pool.step_kept kept taken, ?_⟩
    obtain ⟨op, rest, calls, rfl⟩ := Prog.Pool.step_call taken
    have here := kept i
    rw [calls] at here
    have may := here.1
    by_cases updates : ∃ mutator, op = .configUpdate mutator
    · obtain ⟨mutator, rfl⟩ := updates
      obtain ⟨config, left, same | updated⟩ := @perform_configUpdate libs m now.store mutator
      · rw [left, same]
        exact on
      · rw [left]
        rcases may with leaves | ⟨_, route, _⟩
        · show config.security.require2fa = true
          rw [(leaves _ _ updated).1]
          exact on
        · exact absurd route (routes i)
    · rw [perform_config fun mutator same => updates ⟨mutator, same⟩]
      exact on
  exact kept.mono fun now both => both.2

theorem none_deleted {actions : List (ι × Moment)}
    (routes : ∀ i name, handlerFor (request i).method (request i).target ≠ .usersDelete name) :
    Lts.Meets (Prog.Pool.step (perform libs)) (NotDeleted username)
      (arriving libs others request clientIp app) actions := by
  have kept : Lts.Throughout (Prog.Pool.step (perform libs))
      (Prog.Pool.Kept fun i => discipline libs (request i))
      (arriving libs others request clientIp app) actions := by
    intro before after mid same taken
    obtain rfl := same
    exact Prog.Pool.run_keeps arriving_kept taken
  refine Lts.meets_of_throughout kept ?_
  intro now given here next calls
  obtain ⟨i, m⟩ := given
  have may := here i
  rw [calls] at may
  exact absurd may.1.2.1 (routes i username)

end Interleaving

/-! ### Two passkeys, deleted at once -/

/-- An account whose factors are two passkeys, signed in under the policy. -/
def spareApp : AppState where
  users := { users :=
    [{ sampleUser "root" "c5199f52d095f03bb27ace7b385711999c67ec4aacd0f298a6da36ce47520daf" with
       webauthnCredentials := [⟨"AQIDBA", "Laptop", [], 0, 0⟩, ⟨"BQYHCA", "Phone", [], 0, 0⟩] }] }
  sessions := (∅ : SessionStore).insert (toHex (List.replicate 32 3)) ⟨"root", false, hours 12⟩
  config := { security := ⟨true⟩ }

def deletionRequest (laptop : Bool) : Request where
  methodString := "DELETE"
  target := "/api/auth/2fa/webauthn/" ++ if laptop then "AQIDBA" else "BQYHCA"
  fields := [("Cookie", sessionCookie 3)]

theorem deletion_routed (laptop : Bool) :
    handlerFor (deletionRequest laptop).method (deletionRequest laptop).target =
      .webauthnDelete (if laptop then "AQIDBA" else "BQYHCA") := by
  cases laptop <;> decide +kernel

def deletionActions (order : List Bool) : List (Bool × Moment) :=
  order.map fun laptop => (laptop, ⟨seconds 10, fun _ => none, true⟩)

def deletionStart : RequestPool Bool :=
  arriving sampleLibraries noOtherHandlers deletionRequest (fun _ => "unknown") spareApp

def deletionRun (order : List Bool) : Option (RequestPool Bool) :=
  Lts.run (Prog.Pool.step (perform sampleLibraries)) deletionStart (deletionActions order)

theorem deletion_policy (order : List Bool) :
    Lts.Throughout (Prog.Pool.step (perform sampleLibraries))
      (fun now => now.store.config.security.require2fa = true) deletionStart (deletionActions order) :=
  policy_stays rfl fun laptop other => by cases (deletion_routed laptop).symm.trans other

theorem deletion_undeleted (order : List Bool) :
    Lts.Meets (Prog.Pool.step (perform sampleLibraries)) (NotDeleted "root") deletionStart
      (deletionActions order) :=
  none_deleted fun laptop name other => by cases (deletion_routed laptop).symm.trans other

/-- Each request counts two passkeys before either removes its own. -/
def racingOrder : List Bool := [true, true, true, false, false, false, true, false]

theorem both_passkeys_removed :
    ¬ ∀ (ι : Type) (_ : DecidableEq ι) (libs : Libraries) (others : OtherHandlers)
        (request : ι → Request) (clientIp : ι → String) (app : AppState) (username : String)
        (actions : List (ι × Moment)),
        Lts.Throughout (Prog.Pool.step (perform libs))
          (fun now => now.store.config.security.require2fa = true)
          (arriving libs others request clientIp app) actions →
        Lts.Meets (Prog.Pool.step (perform libs)) (NotDeleted username)
          (arriving libs others request clientIp app) actions →
        Lts.Along (Prog.Pool.step (perform libs))
          (fun now later => now.store.users.hasSecondFactor username = true →
            later.store.users.hasSecondFactor username = true)
          (arriving libs others request clientIp app) actions := by
  intro claim
  have along := claim Bool inferInstance sampleLibraries noOtherHandlers deletionRequest
    (fun _ => "unknown") spareApp "root" (deletionActions racingOrder) (deletion_policy racingOrder)
    (deletion_undeleted racingOrder)
  have ends : (deletionRun racingOrder).map (·.store.users.hasSecondFactor "root") = some false := by
    decide +kernel
  obtain ⟨s, run, without⟩ := Option.map_eq_some_iff.mp ends
  have kept := along [] (deletionActions racingOrder) deletionStart rfl rfl
    (deletionActions racingOrder) [] s (by simp) run (by decide)
  rw [without] at kept
  cases kept

/-- The second request comes when the first is done, and is refused. -/
def inTurn : List Bool := [true, true, true, true, false, false, false, false]

theorem last_factor_stays_in_turn :
    ((deletionRun inTurn).map fun s =>
      (s.store.users.hasSecondFactor "root", statusOf (s.threads true), statusOf (s.threads false))) =
        some (true, some 200, some 400) ∧
    (Lts.Along (Prog.Pool.step (perform sampleLibraries))
        (fun now later => now.store.users.hasSecondFactor "root" = true →
          later.store.users.hasSecondFactor "root" = true) deletionStart (deletionActions inTurn) ↔
      Lts.Meets (Prog.Pool.step (perform sampleLibraries)) (TakesSpare "root") deletionStart
        (deletionActions inTurn)) :=
  ⟨by decide +kernel, last_factor_stays_iff (deletion_policy inTurn) (deletion_undeleted inTurn)⟩

end Atomwall.Admin
