import Atomwall.Admin.TokenHistory
import Atomwall.System.Console

/-!
The session gate and the history of the requests: who is let in follows from the logins, logouts and enrolments that
came before, whatever the stores have forgotten.
-/

namespace Atomwall.System

open Admin TimedLog

variable {libs : Libraries} {makeAddress : MakeAddress} {text : AddressText} {p q next : Process} {call : AdminRequest}
  {input : Input} {ledger : Ledger} {a : Arrival} {user : String}

/-- The clock does not go back between two requests. -/
def Timely (p : Process) : Input → Prop
  | .admin call => p.server.clock ≤ call.arrival.now
  | .visit .. => True

theorem handle_ledger (kept : ledger.Kept p.server) (passed : p.server.clock ≤ call.arrival.now) :
    ledger.Kept (p.handle libs makeAddress call).2.server := by
  unfold Process.handle
  cases p.configCall libs makeAddress call with
  | none => exact kept.served passed
  | some handler => exact kept.configured passed _

theorem step_ledger (kept : ledger.Kept p.server) (timely : Timely p input)
    (taken : p.step libs makeAddress text input = some next) : ledger.Kept next.server := by
  cases input with
  | admin call =>
    obtain rfl := Option.some.inj taken
    exact handle_ledger kept timely
  | visit c x =>
    obtain rfl := Option.some.inj taken
    exact kept

theorem run_ledger {inputs : List Input} (kept : ledger.Kept p.server)
    (timely : Lts.Meets (Process.step libs makeAddress text) Timely p inputs)
    (reached : Lts.run (Process.step libs makeAddress text) p inputs = some q) : ledger.Kept q.server :=
  @Lts.run_invariant _ _ _ Timely _ _ (fun now => ledger.Kept now.server) _
    (fun _ _ _ kept timely taken => step_ledger kept timely taken) kept timely reached

/-- Nobody has signed in yet. -/
structure Unused (p : Process) : Prop where
  log : p.server.log = []
  sessions : p.server.app.sessions = ∅
  pendingMfa : p.server.app.pendingMfa = ∅
  pendingTotp : p.server.app.pendingTotp = ∅

theorem unused_kept {V : Type} {view : V → Option Grant} {store : AppState → KeyMap String V}
    (own : ledger.held = fun s => TimedMap.Holds view (store s)) (log : p.server.log = [])
    (empty : store p.server.app = ∅) : ledger.Kept p.server := by
  unfold Ledger.Kept Ledger.history
  rw [log, own]
  dsimp only
  rw [empty]
  exact TimedMap.tracks_empty

/-- What the history says of the key, in the time that is left to it. -/
def Stood (ledger : Ledger) (q : Process) (now : Int) (key text : String) (expiresAt : Int) : Prop :=
  now ≤ expiresAt ∧ Stands Prod.fst (ledger.history q.server.log) (key, ⟨text, expiresAt⟩)

theorem stood_iff (kept : ledger.Kept q.server) {now expiresAt : Int} (passed : q.server.clock ≤ now) {key text : String} :
    Stood ledger q now key text expiresAt ↔ now ≤ expiresAt ∧ ledger.held q.server.app (key, ⟨text, expiresAt⟩) := by
  have live := Tracks.live_iff kept passed (key, ⟨text, expiresAt⟩)
  have ends : now < (Grant.mk text expiresAt).ends ↔ now ≤ expiresAt := Int.lt_add_one_iff
  rw [ends] at live
  rw [Stood, and_comm, ← live, and_comm]

/-! ### The gate -/

theorem session_held {app : AppState} {token : String} {expiresAt : Int} :
    sessionLedger.held app (token, ⟨user, expiresAt⟩) ↔ ∃ session, app.sessions.lookup token = some session ∧
      session.username = user ∧ session.expiresAt = expiresAt := by
  show (app.sessions.lookup token).bind sessionGrant = some ⟨user, expiresAt⟩ ↔ _
  rw [Option.bind_eq_some_iff]
  simp only [sessionGrant, Option.some.injEq, Grant.mk.injEq]

theorem enrolment_held {app : AppState} {token : String} {session : Session}
    (found : app.sessions.lookup token = some session) :
    enrolmentLedger.held app (token, ⟨session.username, session.expiresAt⟩) ↔ session.needsMfaSetup = true := by
  show (app.sessions.lookup token).bind enrolmentGrant = some ⟨session.username, session.expiresAt⟩ ↔ _
  rw [found, Option.bind_some, enrolmentGrant]
  by_cases flagged : session.needsMfaSetup = true
  · rw [if_pos flagged]
    exact iff_of_true rfl flagged
  · rw [if_neg flagged]
    exact iff_of_false (by simp) flagged

theorem gateOf_pass_iff {app : AppState} (auth : needsAuth a.request.target = true) :
    gateOf app a = .pass user ↔ ∃ token session, extractSessionToken a.request.fields = some token ∧
      app.sessions.lookup token = some session ∧ a.now ≤ session.expiresAt ∧ session.username = user ∧
        (session.needsMfaSetup = true → isMfaSetupAllowedRoute a.request.target = true) := by
  constructor
  · intro passed
    obtain ⟨-, token, info, sent, valid, within⟩ := gateOf_accepts auth passed
    obtain ⟨session, held, unexpired, rfl⟩ := SessionStore.validate_eq_some.mp valid
    refine ⟨token, session, sent, held, unexpired, gate_pass auth within, fun flagged => ?_⟩
    rcases gate_flagged flagged within with free | allowed
    · rw [auth] at free
      cases free
    · simpa [isMfaSetupAllowedRoute] using allowed
  · rintro ⟨token, session, sent, held, unexpired, rfl, allowed⟩
    have valid : app.sessions.validate (a.moment 0) token = some ⟨session.username, session.needsMfaSetup⟩ :=
      SessionStore.validate_eq_some.mpr ⟨session, held, unexpired, rfl⟩
    unfold gateOf gate
    rw [if_pos auth, if_pos auth, sent, Option.bind_some, valid]
    cases flagged : session.needsMfaSetup with
    | false => simp
    | true => simp [allowed flagged]

/-- The gate lets a request in as a user exactly when, of all calls about its token, the newest one that counts gave
the session to that user not longer than twelve hours ago, and either it was not for enrolment, or the factor has
been enrolled since, or the request is about the enrolment. -/
theorem gate_matches_history (libs : Libraries) (makeAddress : MakeAddress) (text : AddressText) (p q : Process)
    (inputs : List Input) (a : Arrival) (user : String) (unused : Unused p)
    (timely : Lts.Meets (Process.step libs makeAddress text) Timely p inputs)
    (reached : Lts.run (Process.step libs makeAddress text) p inputs = some q) (passed : q.server.clock ≤ a.now)
    (auth : needsAuth a.request.target = true) :
    gateOf q.server.app a = .pass user ↔ ∃ token expiresAt, extractSessionToken a.request.fields = some token ∧
      Stood sessionLedger q a.now token user expiresAt ∧
        (Stood enrolmentLedger q a.now token user expiresAt → isMfaSetupAllowedRoute a.request.target = true) := by
  have sessions : sessionLedger.Kept q.server := run_ledger (unused_kept rfl unused.log unused.sessions) timely reached
  have enrolments : enrolmentLedger.Kept q.server :=
    run_ledger (unused_kept rfl unused.log unused.sessions) timely reached
  rw [gateOf_pass_iff auth]
  constructor
  · rintro ⟨token, session, sent, held, unexpired, rfl, allowed⟩
    refine ⟨token, session.expiresAt, sent, ?_, fun flagged => allowed ?_⟩
    · exact (stood_iff sessions passed).mpr ⟨unexpired, session_held.mpr ⟨session, held, rfl, rfl⟩⟩
    · exact (enrolment_held held).mp ((stood_iff enrolments passed).mp flagged).2
  · rintro ⟨token, expiresAt, sent, stood, allowed⟩
    obtain ⟨unexpired, there⟩ := (stood_iff sessions passed).mp stood
    obtain ⟨session, held, rfl, rfl⟩ := session_held.mp there
    refine ⟨token, session, sent, held, unexpired, rfl, fun flagged => allowed ?_⟩
    exact (stood_iff enrolments passed).mpr ⟨unexpired, (enrolment_held held).mpr flagged⟩

theorem startedProcess_unused : Unused startedProcess := ⟨rfl, rfl, rfl, rfl⟩

theorem rootEnters_timely : Lts.Meets (Process.step sampleLibraries IpBlockTracker.sampleMakeAddress fun _ => "") Timely
    startedProcess [.admin rootEnters] := by
  refine ⟨?_, fun _ _ => trivial⟩
  show sampleServer.clock ≤ rootSignsIn.now
  decide

/-- The session that lets root in was given to root. -/
theorem root_let_in_by_login : ∃ token expiresAt, extractSessionToken rootAsksRequests.arrival.request.fields = some token ∧
    Stood sessionLedger rootProcess rootAsksRequests.arrival.now token "root" expiresAt ∧
      (Stood enrolmentLedger rootProcess rootAsksRequests.arrival.now token "root" expiresAt →
        isMfaSetupAllowedRoute rootAsksRequests.arrival.request.target = true) :=
  (gate_matches_history sampleLibraries IpBlockTracker.sampleMakeAddress (fun _ => "") startedProcess rootProcess
    [.admin rootEnters] rootAsksRequests.arrival "root" startedProcess_unused rootEnters_timely rfl (by decide +kernel)
    (by decide +kernel)).mp (by decide +kernel)

/-! ### Logins and enrolments that are pending -/

theorem pendingMfa_held {app : AppState} {token : String} {expiresAt : Int} :
    pendingMfaLedger.held app (token, ⟨user, expiresAt⟩) ↔ app.pendingMfa.lookup token = some ⟨user, expiresAt⟩ := by
  show (app.pendingMfa.lookup token).bind pendingMfaGrant = some ⟨user, expiresAt⟩ ↔ _
  rw [Option.bind_eq_some_iff]
  constructor
  · rintro ⟨⟨owner, ends⟩, found, same⟩
    obtain ⟨rfl, rfl⟩ := Grant.mk.inj (Option.some.inj same)
    exact found
  · exact fun found => ⟨_, found, rfl⟩

theorem pendingTotp_held {app : AppState} {secret : String} {expiresAt : Int} :
    pendingTotpLedger.held app (user, ⟨secret, expiresAt⟩) ↔ app.pendingTotp.lookup user = some ⟨secret, expiresAt⟩ := by
  show (app.pendingTotp.lookup user).bind pendingTotpGrant = some ⟨secret, expiresAt⟩ ↔ _
  rw [Option.bind_eq_some_iff]
  constructor
  · rintro ⟨⟨kept, ends⟩, found, same⟩
    obtain ⟨rfl, rfl⟩ := Grant.mk.inj (Option.some.inj same)
    exact found
  · exact fun found => ⟨_, found, rfl⟩

theorem secretFor_eq_some {pending : PendingTotpStore} {m : Moment} {secret : String} :
    pending.secretFor m user = some secret ↔ ∃ expiresAt, m.now ≤ expiresAt ∧
      pending.lookup user = some ⟨secret, expiresAt⟩ := by
  unfold PendingTotpStore.secretFor
  cases found : pending.lookup user with
  | none => simp
  | some e =>
    obtain ⟨kept, expiresAt⟩ := e
    by_cases old : expiresAt < m.now
    · simp only [old, if_true]
      refine iff_of_false (by simp) ?_
      rintro ⟨ends, unexpired, same⟩
      injection Option.some.inj same with _ later
      omega
    · simp only [old, if_false, Option.some.injEq]
      constructor
      · rintro rfl
        exact ⟨expiresAt, Int.not_lt.mp old, rfl⟩
      · rintro ⟨ends, -, same⟩
        injection same

/-- A pending login is good for its user for five minutes, a pending enrolment for ten: exactly until a call ends it
or begins another one under its key. -/
theorem pending_matches_history (libs : Libraries) (makeAddress : MakeAddress) (text : AddressText) (p q : Process)
    (inputs : List Input) (m : Moment) (unused : Unused p)
    (timely : Lts.Meets (Process.step libs makeAddress text) Timely p inputs)
    (reached : Lts.run (Process.step libs makeAddress text) p inputs = some q) (passed : q.server.clock ≤ m.now) :
    (∀ token user, q.server.app.pendingMfa.validate m token = some user ↔
      ∃ expiresAt, Stood pendingMfaLedger q m.now token user expiresAt) ∧
    (∀ user secret, q.server.app.pendingTotp.secretFor m user = some secret ↔
      ∃ expiresAt, Stood pendingTotpLedger q m.now user secret expiresAt) := by
  have logins : pendingMfaLedger.Kept q.server := run_ledger (unused_kept rfl unused.log unused.pendingMfa) timely reached
  have enrolments : pendingTotpLedger.Kept q.server :=
    run_ledger (unused_kept rfl unused.log unused.pendingTotp) timely reached
  constructor
  · intro token user
    simp only [stood_iff logins passed, pendingMfa_held, PendingMfaStore.validate_eq_some]
    constructor
    · rintro ⟨⟨owner, expiresAt⟩, found, unexpired, rfl⟩
      exact ⟨expiresAt, unexpired, found⟩
    · rintro ⟨expiresAt, unexpired, found⟩
      exact ⟨_, found, unexpired, rfl⟩
  · intro user secret
    simp only [stood_iff enrolments passed, pendingTotp_held, secretFor_eq_some]

theorem none_pending_after_login :
    (∀ token user, rootProcess.server.app.pendingMfa.validate (rootAsksRequests.arrival.moment 0) token = some user ↔
      ∃ expiresAt, Stood pendingMfaLedger rootProcess (rootAsksRequests.arrival.moment 0).now token user expiresAt) ∧
    (∀ user secret, rootProcess.server.app.pendingTotp.secretFor (rootAsksRequests.arrival.moment 0) user = some secret ↔
      ∃ expiresAt, Stood pendingTotpLedger rootProcess (rootAsksRequests.arrival.moment 0).now user secret expiresAt) :=
  pending_matches_history sampleLibraries IpBlockTracker.sampleMakeAddress (fun _ => "") startedProcess rootProcess
    [.admin rootEnters] (rootAsksRequests.arrival.moment 0) startedProcess_unused rootEnters_timely rfl (by decide +kernel)

end Atomwall.System
