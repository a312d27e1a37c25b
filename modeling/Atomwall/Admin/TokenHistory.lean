import Atomwall.Admin.Provenance
import Atomwall.Base.TimedMap

/-!
What the history of the calls says about sessions, pending logins and pending enrolments. The stores forget what has
expired, and nothing else.
-/

namespace Atomwall.Admin

open TimedLog

/-- Whom or what a token stands for, and until when. -/
structure Grant where
  text : String
  expiresAt : Int

/-- A grant still counts in the moment in which it expires. -/
def Grant.ends (grant : Grant) : Int := grant.expiresAt + 1

abbrev Entry := String × Grant

abbrev Entries := List (TimedLog.Event String Entry)

def Tracked (log : Entries) (held : Entry → Prop) (now : Int) : Prop :=
  Tracks Prod.fst (fun entry : Entry => entry.2.ends) log held now

/-- The calls that begin or end something in a store, and what the store holds. -/
structure Ledger where
  events : Int → Made → Entries
  held : AppState → Entry → Prop
  frame : ∀ (s : AppState) config, held { s with config } = held s
  follows : ∀ (libs : Libraries) op m s log now, now ≤ m.now → Tracked log (held s) now →
    Tracked (log ++ events m.now ⟨op, (perform libs op m s).1⟩) (held (perform libs op m s).2) m.now

/-! ### The stores -/

variable {libs : Libraries} {s : AppState} {m : Moment} {log : Entries} {now : Int} {token username : String}

def sessionGrant (session : Session) : Option Grant := some ⟨session.username, session.expiresAt⟩

/-- The grants of sessions that are sent to enrol. -/
def enrolmentGrant (session : Session) : Option Grant :=
  if session.needsMfaSetup then sessionGrant session else none

def pendingMfaGrant (pending : PendingMfa) : Option Grant := some ⟨pending.username, pending.expiresAt⟩

def pendingTotpGrant (pending : PendingTotp) : Option Grant := some ⟨pending.secretBase32, pending.expiresAt⟩

def sessionEvents (now : Int) : Made → Entries
  | ⟨.sessionsCreate username _, .ok token⟩ => [.added (token, ⟨username, now + hours 12⟩)]
  | ⟨.sessionsInvalidate token, _⟩ => [.removed token]
  | _ => []

def enrolmentEvents (now : Int) : Made → Entries
  | ⟨.sessionsCreate username true, .ok token⟩ => [.added (token, ⟨username, now + hours 12⟩)]
  | ⟨.sessionsCreate _ false, .ok token⟩ => [.removed token]
  | ⟨.sessionsInvalidate token, _⟩ => [.removed token]
  | ⟨.sessionsMarkMfaSatisfied token, _⟩ => [.removed token]
  | _ => []

def pendingMfaEvents (now : Int) : Made → Entries
  | ⟨.pendingMfaCreate username, .ok token⟩ => [.added (token, ⟨username, now + minutes 5⟩)]
  | ⟨.pendingMfaInvalidate token, _⟩ => [.removed token]
  | _ => []

def pendingTotpEvents (now : Int) : Made → Entries
  | ⟨.pendingTotpStart username secret, _⟩ => [.added (username, ⟨secret, now + minutes 10⟩)]
  | ⟨.pendingTotpClear username, _⟩ => [.removed username]
  | _ => []

theorem tracked_later {held : Entry → Prop} {later : Int} (passed : now ≤ later) (tracked : Tracked log held now) :
    Tracked (log ++ []) held later := by
  rw [List.append_nil]
  exact Tracks.later_time tracked passed

/-- `create` of the two stores with random tokens. -/
theorem tracked_create {V : Type} {view : V → Option Grant} {expires : V → Int} {held : KeyMap String V}
    (seen : ∀ v grant, view v = some grant → grant.expiresAt = expires v) (passed : now ≤ m.now)
    (tracked : Tracked log (TimedMap.Holds view held) now) (token : String) (value : V) :
    Tracked (log ++ [TimedMap.stored token (view value)])
      (TimedMap.Holds view ((KeyMap.eraseIf (fun v => decide (expires v < m.now)) held).insert token value)) m.now := by
  refine TimedMap.tracks_insert (TimedMap.tracks_eraseIf (Tracks.later_time tracked passed) fun v grant shown => ?_)
  have same := seen v grant shown
  rw [decide_eq_false_iff_not, Grant.ends, same]
  omega

theorem sessionGrant_expires (session : Session) (grant : Grant) (seen : sessionGrant session = some grant) :
    grant.expiresAt = session.expiresAt := by
  obtain rfl := Option.some.inj seen
  rfl

theorem enrolmentGrant_expires (session : Session) (grant : Grant) (seen : enrolmentGrant session = some grant) :
    grant.expiresAt = session.expiresAt := by
  unfold enrolmentGrant at seen
  split at seen
  · exact sessionGrant_expires session grant seen
  · cases seen

theorem lookup_marked (sessions : SessionStore) (token other : String) :
    (sessions.markMfaSatisfied token).lookup other =
      if other = token then (sessions.lookup token).map fun session => { session with needsMfaSetup := false }
      else sessions.lookup other := by
  unfold SessionStore.markMfaSatisfied
  cases known : sessions.lookup token with
  | none =>
    by_cases same : other = token
    · subst same
      rw [if_pos rfl]
      exact known
    · rw [if_neg same]
  | some session =>
    dsimp only
    rw [KeyMap.lookup_insert_ite]
    rfl

def sessionLedger : Ledger where
  events := sessionEvents
  held s := TimedMap.Holds sessionGrant s.sessions
  frame _ _ := rfl
  follows libs op m s log now passed tracked := by
    cases op with
    | sessionsCreate username flag =>
      rcases made : s.sessions.create m username flag with ⟨answer, next⟩
      simp only [perform, made]
      cases answer with
      | error fault =>
        rw [SessionStore.create_error made]
        exact tracked_later passed tracked
      | ok token =>
        rw [SessionStore.create_ok made]
        exact tracked_create sessionGrant_expires passed tracked token ⟨username, flag, m.now + hours 12⟩
    | sessionsInvalidate token => exact TimedMap.tracks_erase (Tracks.later_time tracked passed)
    | sessionsMarkMfaSatisfied token =>
      refine TimedMap.tracks_congr (fun other => ?_) (tracked_later passed tracked)
      show ((s.sessions.markMfaSatisfied token).lookup other).bind _ = _
      rw [lookup_marked]
      by_cases same : other = token
      · subst same
        rw [if_pos rfl]
        cases s.sessions.lookup other <;> rfl
      · rw [if_neg same]
    | configUpdate mutator =>
      obtain ⟨config, left, -⟩ := @perform_configUpdate libs m s mutator
      rw [left]
      exact tracked_later passed tracked
    | _ => exact tracked_later passed tracked

def enrolmentLedger : Ledger where
  events := enrolmentEvents
  held s := TimedMap.Holds enrolmentGrant s.sessions
  frame _ _ := rfl
  follows libs op m s log now passed tracked := by
    cases op with
    | sessionsCreate username flag =>
      rcases made : s.sessions.create m username flag with ⟨answer, next⟩
      simp only [perform, made]
      cases answer with
      | error fault =>
        rw [SessionStore.create_error made]
        cases flag <;> exact tracked_later passed tracked
      | ok token =>
        rw [SessionStore.create_ok made]
        have created := tracked_create enrolmentGrant_expires passed tracked token ⟨username, flag, m.now + hours 12⟩
        cases flag <;> exact created
    | sessionsInvalidate token => exact TimedMap.tracks_erase (Tracks.later_time tracked passed)
    | sessionsMarkMfaSatisfied token =>
      -- the session is there as before, but shows no more as one that is sent to enrol
      have erased := TimedMap.tracks_erase (k := token) (Tracks.later_time tracked passed)
      refine TimedMap.tracks_congr (fun other => ?_) erased
      show ((s.sessions.markMfaSatisfied token).lookup other).bind _ = _
      rw [lookup_marked, KeyMap.lookup_erase_ite]
      by_cases same : other = token
      · subst same
        rw [if_pos rfl, if_pos rfl]
        cases s.sessions.lookup other <;> rfl
      · rw [if_neg same, if_neg same]
    | configUpdate mutator =>
      obtain ⟨config, left, -⟩ := @perform_configUpdate libs m s mutator
      rw [left]
      exact tracked_later passed tracked
    | _ => exact tracked_later passed tracked

def pendingMfaLedger : Ledger where
  events := pendingMfaEvents
  held s := TimedMap.Holds pendingMfaGrant s.pendingMfa
  frame _ _ := rfl
  follows libs op m s log now passed tracked := by
    cases op with
    | pendingMfaCreate username =>
      rcases made : s.pendingMfa.create m username with ⟨answer, next⟩
      simp only [perform, made]
      cases answer with
      | error fault =>
        rw [PendingMfaStore.create_error made]
        exact tracked_later passed tracked
      | ok token =>
        rw [PendingMfaStore.create_ok made]
        refine tracked_create (fun pending grant seen => ?_) passed tracked token ⟨username, m.now + minutes 5⟩
        obtain rfl := Option.some.inj seen
        rfl
    | pendingMfaInvalidate token => exact TimedMap.tracks_erase (Tracks.later_time tracked passed)
    | configUpdate mutator =>
      obtain ⟨config, left, -⟩ := @perform_configUpdate libs m s mutator
      rw [left]
      exact tracked_later passed tracked
    | _ => exact tracked_later passed tracked

/-- The enrolments are under the names of their users, and `start` leaves what has expired. -/
def pendingTotpLedger : Ledger where
  events := pendingTotpEvents
  held s := TimedMap.Holds pendingTotpGrant s.pendingTotp
  frame _ _ := rfl
  follows libs op m s log now passed tracked := by
    cases op with
    | pendingTotpStart username secret =>
      exact TimedMap.tracks_insert (v := ⟨secret, m.now + minutes 10⟩) (Tracks.later_time tracked passed)
    | pendingTotpClear username => exact TimedMap.tracks_erase (Tracks.later_time tracked passed)
    | configUpdate mutator =>
      obtain ⟨config, left, -⟩ := @perform_configUpdate libs m s mutator
      rw [left]
      exact tracked_later passed tracked
    | _ => exact tracked_later passed tracked

/-! ### Requests -/

/-- What the requests of the log did, oldest first. -/
def Ledger.history (ledger : Ledger) (log : List Served) : Entries :=
  log.reverse.flatMap fun served => served.done.reverse.flatMap (ledger.events served.arrival.now)

/-- The server's store answers like the log of its requests. -/
def Ledger.Kept (ledger : Ledger) (server : Server) : Prop :=
  Tracked (ledger.history server.log) (ledger.held server.app) server.clock

variable {others : OtherHandlers} {app : AppState} {a : Arrival} {ledger : Ledger} {server : Server}

theorem Ledger.after_serve (before : Tracked log (ledger.held app) now) (passed : now ≤ a.now) :
    Tracked (log ++ (serve libs others app a).done.reverse.flatMap (ledger.events a.now))
      (ledger.held (Admin.serve libs others app a).store) a.now := by
  refine (@serve_invariant libs app a others (fun done s =>
    Tracked (log ++ done.reverse.flatMap (ledger.events a.now)) (ledger.held s) a.now) ?_ ?_).2
  · intro done op n s _ _ tracked
    have after := ledger.follows libs op (a.moment n) s _ a.now (Int.le_refl _) tracked
    rw [List.reverse_cons, List.flatMap_append, ← List.append_assoc, List.flatMap_singleton]
    exact after
  · exact tracked_later passed before

theorem Ledger.Kept.served (kept : ledger.Kept server) (passed : server.clock ≤ a.now) :
    ledger.Kept ⟨(serve libs others server.app a).store, a.now,
      ⟨server.app, a, (serve libs others server.app a).done⟩ :: server.log⟩ := by
  have after := @Ledger.after_serve libs _ server.clock others server.app a ledger kept passed
  unfold Ledger.Kept Ledger.history
  rw [List.reverse_cons, List.flatMap_append, List.flatMap_singleton]
  exact after

/-- A request that reached the handlers of the configuration made none of these calls. -/
theorem Ledger.Kept.configured (kept : ledger.Kept server) (passed : server.clock ≤ a.now) (config : RuntimeConfig) :
    ledger.Kept ⟨{ server.app with config }, a.now, ⟨server.app, a, []⟩ :: server.log⟩ := by
  unfold Ledger.Kept Ledger.history
  rw [List.reverse_cons, List.flatMap_append, List.flatMap_singleton, ledger.frame]
  exact tracked_later passed kept

end Atomwall.Admin
