import Atomwall.Listener.HttpSession
import Mathlib.Algebra.Order.BigOperators.Group.List
import Mathlib.Algebra.Ring.Int.Defs

/-!
The accounts of `award_score`: which call bans, for which score and how long, over any sequence of
calls. A score is what an address was awarded since its last ban or since the tracker dropped it.
-/

namespace Atomwall.Listener

variable (text : AddressText)

structure Award where
  config : RuntimeConfig
  readings : Readings
  clientIp : Address
  checkName : String

/-- What the check scores; nothing while bans are off. -/
def Award.points (a : Award) : Int :=
  if a.config.ban.enabled then (a.config.ban.scores.lookup a.checkName).getD 0 else 0

/-- The block that the call hands to `IpBlockTracker::add`. -/
def Award.block (a : Award) (scores : ScoreTracker) : Option TemporaryIpBlock :=
  if 0 < a.points then
    let total := (scores.addPoints (text a.clientIp) a.points).1
    if a.config.ban.threshold ≤ total then
      some { text := text a.clientIp, address := a.clientIp, source := "score", scoreAtBlock := total
             createdAt := a.readings.ban
             expiresAt := a.readings.ban + hours (min a.config.ban.banDurationHours kMaxBanDurationHours) }
    else none
  else none

/-- The block that the call adds decides what becomes of both trackers. -/
theorem awardScore_eq (a : Award) (trackers : ScoreTracker × IpBlockTracker) :
    awardScore text a.config a.readings a.clientIp a.checkName trackers =
      match a.block text trackers.1 with
      | some block => ((trackers.1.addPoints (text a.clientIp) a.points).2.reset (text a.clientIp),
          trackers.2.add a.readings.added block)
      | none =>
        if 0 < a.points then ((trackers.1.addPoints (text a.clientIp) a.points).2, trackers.2)
        else trackers := by
  unfold awardScore Award.block
  cases on : a.config.ban.enabled with
  | false => simp [Award.points, on]
  | true =>
    cases configured : a.config.ban.scores.lookup a.checkName with
    | none => simp [Award.points, on, configured]
    | some points =>
      have scored : a.points = points := by simp [Award.points, on, configured]
      by_cases positive : 0 < points
      · have some_there : ¬ points ≤ 0 := by omega
        simp only [Bool.not_true, Bool.false_eq_true, if_false, if_neg some_there, scored, if_pos positive]
        split <;> rfl
      · have nothing : points ≤ 0 := by omega
        simp [scored, positive, nothing]

/-! ### Sequences of calls -/

structure Awarded where
  award : Award
  before : ScoreTracker × IpBlockTracker
  after : ScoreTracker × IpBlockTracker

/-- The calls so far, newest first, and the trackers they left. -/
structure Awards where
  trackers : ScoreTracker × IpBlockTracker
  log : List Awarded := []

def Awards.call (s : Awards) (a : Award) : Awards :=
  let after := awardScore text a.config a.readings a.clientIp a.checkName s.trackers
  ⟨after, ⟨a, s.trackers, after⟩ :: s.log⟩

def Awards.start (maxTrackedIps : Nat) (blocks : IpBlockTracker) : Awards :=
  { trackers := (ScoreTracker.make maxTrackedIps, blocks) }

/-- The score of the address, which the call was not about, was dropped in it. -/
def Awarded.Evicts (o : Awarded) (ip : String) : Prop :=
  (o.before.1.scores.lookup ip).isSome = true ∧ o.after.1.scores.lookup ip = none

instance (o : Awarded) (ip : String) : Decidable (o.Evicts ip) := inferInstanceAs (Decidable (_ ∧ _))

/-- The positive points that the address was awarded since its last ban or eviction, newest first. -/
def awardedSince (ip : String) : List Awarded → List Int
  | [] => []
  | o :: earlier =>
    if text o.award.clientIp = ip then
      if (o.award.block text o.before.1).isSome then []
      else if 0 < o.award.points then o.award.points :: awardedSince ip earlier
      else awardedSince ip earlier
    else if o.Evicts ip then []
    else awardedSince ip earlier

def saturatedSum (points : List Int) : Int := min kIntMax points.sum

/-- The sum with which the call leaves its address, unless it bans it. -/
def Awarded.total (o : Awarded) (earlier : List Awarded) : Int :=
  saturatedSum (o.award.points :: awardedSince text (text o.award.clientIp) earlier)

variable {text} {s : Awards} {a : Award} {ip : String} {blocks : IpBlockTracker} {block : TemporaryIpBlock}
  {now : Int}

/-- Saturating at each step is saturating the sum. -/
theorem saturatedSum_cons {points : List Int} {p : Int} (positive : ∀ q ∈ points, 0 < q) (more : 0 < p) :
    max kIntMin (min kIntMax (saturatedSum points + p)) = saturatedSum (p :: points) := by
  have sum : 0 ≤ points.sum := List.sum_nonneg fun q member => Int.le_of_lt (positive q member)
  unfold saturatedSum kIntMin kIntMax
  rw [List.sum_cons]
  omega

theorem add_exact_self (single : block.isCidr = false) :
    (blocks.add now block).exact.lookup block.address = some block := by
  unfold IpBlockTracker.add
  simp only [single, Bool.false_eq_true, if_false]
  exact AList.lookup_insert _

/-- The tracker holds what the log adds up to. -/
structure Tallied (text : AddressText) (s : Awards) : Prop where
  ordered : s.trackers.1.Ordered
  scored : ∀ ip entry, s.trackers.1.scores.lookup ip = some entry →
    entry.score = saturatedSum (awardedSince text ip s.log)
  absent : ∀ ip, s.trackers.1.scores.lookup ip = none → awardedSince text ip s.log = []
  positive : ∀ ip, ∀ p ∈ awardedSince text ip s.log, 0 < p

theorem Tallied.current (h : Tallied text s) (ip : String) :
    s.trackers.1.current ip = saturatedSum (awardedSince text ip s.log) := by
  unfold ScoreTracker.current
  cases found : s.trackers.1.scores.lookup ip with
  | none =>
    rw [h.absent ip found]
    rfl
  | some entry => exact h.scored ip entry found

theorem Tallied.total (h : Tallied text s) (positive : 0 < a.points) :
    (s.trackers.1.addPoints (text a.clientIp) a.points).1 =
      saturatedSum (a.points :: awardedSince text (text a.clientIp) s.log) := by
  rw [ScoreTracker.addPoints_total h.ordered, h.current, saturatedSum_cons (h.positive _) positive]

theorem Award.block_some {scores : ScoreTracker} (banned : a.block text scores = some block) :
    0 < a.points ∧ a.config.ban.threshold ≤ (scores.addPoints (text a.clientIp) a.points).1 ∧
      block = { text := text a.clientIp, address := a.clientIp, source := "score",
                scoreAtBlock := (scores.addPoints (text a.clientIp) a.points).1
                createdAt := a.readings.ban,
                expiresAt := a.readings.ban +
                  hours (min a.config.ban.banDurationHours kMaxBanDurationHours) } := by
  unfold Award.block at banned
  split at banned
  · next positive =>
    dsimp only at banned
    split at banned
    · next reached => exact ⟨positive, reached, (Option.some.inj banned).symm⟩
    · cases banned
  · cases banned

theorem call_banned (banned : a.block text s.trackers.1 = some block) :
    (s.call text a).trackers =
      ((s.trackers.1.addPoints (text a.clientIp) a.points).2.reset (text a.clientIp),
        s.trackers.2.add a.readings.added block) := by
  show awardScore text a.config a.readings a.clientIp a.checkName s.trackers = _
  rw [awardScore_eq, banned]

theorem call_scored (spared : a.block text s.trackers.1 = none) (positive : 0 < a.points) :
    (s.call text a).trackers = ((s.trackers.1.addPoints (text a.clientIp) a.points).2, s.trackers.2) := by
  show awardScore text a.config a.readings a.clientIp a.checkName s.trackers = _
  rw [awardScore_eq, spared]
  exact if_pos positive

theorem call_idle (nothing : ¬ 0 < a.points) : (s.call text a).trackers = s.trackers := by
  have spared : a.block text s.trackers.1 = none := if_neg nothing
  show awardScore text a.config a.readings a.clientIp a.checkName s.trackers = _
  rw [awardScore_eq, spared]
  exact if_neg nothing

theorem Tallied.awardedSince_other (h : Tallied text s) (apart : text a.clientIp ≠ ip)
    (kept : (s.call text a).trackers.1.scores.lookup ip = s.trackers.1.scores.lookup ip ∨
      (s.call text a).trackers.1.scores.lookup ip = none) :
    (∀ entry, (s.call text a).trackers.1.scores.lookup ip = some entry →
        entry.score = saturatedSum (awardedSince text ip (s.call text a).log)) ∧
      ((s.call text a).trackers.1.scores.lookup ip = none →
        awardedSince text ip (s.call text a).log = []) ∧
      ∀ p ∈ awardedSince text ip (s.call text a).log, 0 < p := by
  have unfolded : awardedSince text ip (s.call text a).log =
      if (⟨a, s.trackers, (s.call text a).trackers⟩ : Awarded).Evicts ip then []
      else awardedSince text ip s.log := by
    show awardedSince text ip (⟨a, s.trackers, (s.call text a).trackers⟩ :: s.log) = _
    rw [awardedSince, if_neg apart]
  rw [unfolded]
  cases after : (s.call text a).trackers.1.scores.lookup ip with
  | some entry =>
    have stays : ¬ (⟨a, s.trackers, (s.call text a).trackers⟩ : Awarded).Evicts ip := by
      intro given
      obtain ⟨_, gone⟩ := given
      rw [after] at gone
      cases gone
    have before : s.trackers.1.scores.lookup ip = some entry := by
      rcases kept with same | gone
      · rw [← same, after]
      · rw [after] at gone
        cases gone
    rw [if_neg stays]
    refine ⟨fun other found => ?_, fun absent => (by cases absent), h.positive ip⟩
    rw [← Option.some.inj found]
    exact h.scored ip entry before
  | none =>
    refine ⟨fun entry found => (by cases found), fun _ => ?_, ?_⟩
    · split
      · rfl
      · next stays =>
        apply h.absent
        rw [Option.eq_none_iff_forall_ne_some]
        intro entry found
        exact stays ⟨by rw [found]; rfl, after⟩
    · split
      · intro p member
        cases member
      · exact h.positive ip

theorem call_lookup_other (apart : ip ≠ text a.clientIp) :
    (s.call text a).trackers.1.scores.lookup ip = s.trackers.1.scores.lookup ip ∨
      (s.call text a).trackers.1.scores.lookup ip = none := by
  cases banned : a.block text s.trackers.1 with
  | some block =>
    rw [call_banned banned]
    dsimp only
    rw [ScoreTracker.lookup_reset, if_neg apart]
    exact ScoreTracker.lookup_addPoints_other apart
  | none =>
    by_cases positive : 0 < a.points
    · rw [call_scored banned positive]
      exact ScoreTracker.lookup_addPoints_other apart
    · rw [call_idle positive]
      exact Or.inl rfl

theorem Tallied.awardedSince_own (h : Tallied text s) :
    (∀ entry, (s.call text a).trackers.1.scores.lookup (text a.clientIp) = some entry →
        entry.score = saturatedSum (awardedSince text (text a.clientIp) (s.call text a).log)) ∧
      ((s.call text a).trackers.1.scores.lookup (text a.clientIp) = none →
        awardedSince text (text a.clientIp) (s.call text a).log = []) ∧
      ∀ p ∈ awardedSince text (text a.clientIp) (s.call text a).log, 0 < p := by
  have unfolded : awardedSince text (text a.clientIp) (s.call text a).log =
      if (a.block text s.trackers.1).isSome then []
      else if 0 < a.points then a.points :: awardedSince text (text a.clientIp) s.log
      else awardedSince text (text a.clientIp) s.log := by
    show awardedSince text (text a.clientIp) (⟨a, s.trackers, (s.call text a).trackers⟩ :: s.log) = _
    rw [awardedSince, if_pos rfl]
  rw [unfolded]
  cases banned : a.block text s.trackers.1 with
  | some block =>
    rw [call_banned banned]
    dsimp only
    rw [ScoreTracker.lookup_reset, if_pos rfl]
    exact ⟨fun entry found => (by cases found), fun _ => rfl, fun p member => (by cases member)⟩
  | none =>
    by_cases positive : 0 < a.points
    · rw [call_scored banned positive]
      obtain ⟨seq, stored⟩ := @ScoreTracker.lookup_addPoints s.trackers.1 (text a.clientIp) a.points
      dsimp only
      rw [stored, if_neg (by simp), if_pos positive]
      refine ⟨fun entry found => ?_, fun absent => (by cases absent), ?_⟩
      · rw [← Option.some.inj found]
        exact h.total positive
      · intro p member
        rcases List.mem_cons.mp member with rfl | old
        · exact positive
        · exact h.positive _ p old
    · rw [call_idle positive, if_neg (by simp), if_neg positive]
      exact ⟨h.scored _, h.absent _, h.positive _⟩

theorem Tallied.call (h : Tallied text s) : Tallied text (s.call text a) := by
  have each : ∀ ip, (∀ entry, (s.call text a).trackers.1.scores.lookup ip = some entry →
        entry.score = saturatedSum (awardedSince text ip (s.call text a).log)) ∧
      ((s.call text a).trackers.1.scores.lookup ip = none →
        awardedSince text ip (s.call text a).log = []) ∧
      ∀ p ∈ awardedSince text ip (s.call text a).log, 0 < p := by
    intro ip
    by_cases own : text a.clientIp = ip
    · subst own
      exact h.awardedSince_own
    · exact h.awardedSince_other own (call_lookup_other (Ne.symm own))
  refine ⟨?_, fun ip => (each ip).1, fun ip => (each ip).2.1, fun ip => (each ip).2.2⟩
  cases banned : a.block text s.trackers.1 with
  | some block =>
    rw [call_banned banned]
    exact @ScoreTracker.ordered_addPoints _ _ a.points h.ordered
  | none =>
    by_cases positive : 0 < a.points
    · rw [call_scored banned positive]
      exact @ScoreTracker.ordered_addPoints _ _ a.points h.ordered
    · rw [call_idle positive]
      exact h.ordered

def offender : Address := .v4 #v[192, 0, 2, 10]

end Atomwall.Listener
