import Atomwall.History.RequestRateTracker
import Mathlib.Data.List.Dedup
import Mathlib.Data.List.Induction

/-!
Sequences of `record` calls: what a call counts, and how long an address stays in the map. A sweep is
due one window after the last one, so an address outlives its last request by two windows at most.
-/

namespace Atomwall.RequestRateTracker

def after (window : Int) (log : List (String × Int)) : RequestRateTracker :=
  log.foldl (fun s call => (s.record call.1 call.2 window).2) {}

def trackedIps (s : RequestRateTracker) : Nat := s.history.entries.length

/-- The clock is not set back between the calls. -/
def Nondecreasing (log : List (String × Int)) : Prop := log.Pairwise fun call later => call.2 ≤ later.2

instance (log : List (String × Int)) : Decidable (Nondecreasing log) :=
  inferInstanceAs (Decidable (log.Pairwise _))

variable {s : RequestRateTracker} {window latest now : Int} {log : List (String × Int)} {ip : String}

theorem after_append : after window (log ++ [(ip, now)]) = ((after window log).record ip now window).2 := by
  simp [after, List.foldl_append]

theorem nondecreasing_append : Nondecreasing (log ++ [(ip, now)]) ↔
    Nondecreasing log ∧ ∀ call ∈ log, call.2 ≤ now := by
  simp [Nondecreasing, List.pairwise_append]

theorem tracks_after (sorted : Nondecreasing log) (bounded : ∀ call ∈ log, call.2 ≤ latest) :
    Tracks window latest log (after window log) := by
  induction log using List.reverseRecOn generalizing latest with
  | nil => exact tracks_empty
  | append_singleton log call ih =>
    obtain ⟨ip, now⟩ := call
    obtain ⟨earlier, older⟩ := nondecreasing_append.mp sorted
    have last : now ≤ latest := bounded (ip, now) (by simp)
    rw [after_append]
    exact ((ih earlier older).record (Int.le_refl now)).2.later last

theorem record_counts (sorted : Nondecreasing (log ++ [(ip, now)])) :
    ((after window log).record ip now window).1 =
      countSince (now - window) ip (log ++ [(ip, now)]) := by
  obtain ⟨earlier, older⟩ := nondecreasing_append.mp sorted
  exact ((tracks_after earlier older).record (Int.le_refl now)).1

/-! ### How long an address is kept -/

/-- Every address was recorded less than one window before the last sweep, or since. -/
structure Recent (window latest : Int) (log : List (String × Int)) (s : RequestRateTracker) : Prop where
  swept : s.lastSweep - window ≤ latest
  newest : ∀ ip times, s.history.lookup ip = some times → ∃ newest, times.getLast? = some newest ∧
    (ip, newest) ∈ log ∧ s.lastSweep - window ≤ newest

/-- The sweep that `record` makes first, when one is due. -/
def sweepDue (s : RequestRateTracker) (now window : Int) : RequestRateTracker :=
  if window ≤ now - s.lastSweep then { s.sweep (now - window) with lastSweep := now } else s

theorem record_lastSweep : (s.record ip now window).2.lastSweep = (s.sweepDue now window).lastSweep := rfl

theorem record_lookup {other : String} : (s.record ip now window).2.history.lookup other =
    if other = ip then
      some ((((s.sweepDue now window).history.lookup ip).getD [] ++ [now]).dropWhile fun timestamp =>
        decide (timestamp < now - window))
    else (s.sweepDue now window).history.lookup other :=
  KeyMap.lookup_insert_ite _ ip other _

theorem sweepDue_lastSweep (positive : 0 < window) : now - (s.sweepDue now window).lastSweep < window := by
  unfold sweepDue
  split
  · show now - now < window
    omega
  · next early => omega

theorem Recent.sweepDue (recent : Recent window latest log s) (later : latest ≤ now)
    (positive : 0 < window) : Recent window now log (s.sweepDue now window) := by
  obtain ⟨swept, newest⟩ := recent
  unfold RequestRateTracker.sweepDue
  split
  · refine ⟨by show now - window ≤ now; omega, fun ip times found => ?_⟩
    obtain ⟨held, fresh⟩ := KeyMap.lookup_eraseIf_eq_some.mp found
    obtain ⟨time, last, recorded, _⟩ := newest ip times held
    refine ⟨time, last, recorded, ?_⟩
    unfold isStale at fresh
    rw [last] at fresh
    exact Int.not_lt.mp (of_decide_eq_false fresh)
  · exact ⟨Int.le_trans swept later, newest⟩

theorem getLast_kept {times : List Int} (positive : 0 < window) :
    ((times ++ [now]).dropWhile fun timestamp => decide (timestamp < now - window)).getLast? =
      some now := by
  have inside : ¬ now < now - window := by omega
  rw [List.dropWhile_append]
  split
  · rw [List.dropWhile_cons_of_neg (by simpa using inside)]
    rfl
  · exact List.getLast?_concat

theorem Recent.record (recent : Recent window latest log s) (ip : String) (later : latest ≤ now)
    (positive : 0 < window) :
    Recent window now (log ++ [(ip, now)]) (s.record ip now window).2 := by
  obtain ⟨swept, newest⟩ := recent.sweepDue later positive
  refine ⟨swept, fun other times found => ?_⟩
  rw [record_lookup] at found
  rw [record_lastSweep]
  split at found
  · next own =>
    subst own
    obtain rfl := Option.some.inj found
    exact ⟨now, getLast_kept positive, by simp, swept⟩
  · obtain ⟨time, last, recorded, bound⟩ := newest other times found
    exact ⟨time, last, List.mem_append_left _ recorded, bound⟩

theorem recent_after (positive : 0 < window) (sorted : Nondecreasing log)
    (started : ∀ call ∈ log, -window ≤ call.2) (floor : -window ≤ latest)
    (bounded : ∀ call ∈ log, call.2 ≤ latest) : Recent window latest log (after window log) := by
  induction log using List.reverseRecOn generalizing latest with
  | nil =>
    refine ⟨?_, fun ip times found => by cases found⟩
    show 0 - window ≤ latest
    omega
  | append_singleton log call ih =>
    obtain ⟨ip, now⟩ := call
    obtain ⟨earlier, older⟩ := nondecreasing_append.mp sorted
    have last : now ≤ latest := bounded (ip, now) (by simp)
    have first : -window ≤ now := started (ip, now) (by simp)
    have before := ih earlier (fun call member => started call (by simp [member])) first older
    rw [after_append]
    obtain ⟨swept, newest⟩ := before.record ip (Int.le_refl now) positive
    exact ⟨Int.le_trans swept last, newest⟩

def addressesSince (time : Int) (log : List (String × Int)) : List String :=
  ((log.filter fun call => decide (time < call.2)).map Prod.fst).dedup

/-- After any sequence of calls that starts no earlier than one window before the epoch of the clock:
every address in the map has a request within the last two windows. -/
theorem tracked_recently (positive : 0 < window) (sorted : Nondecreasing (log ++ [(ip, now)]))
    (started : ∀ call ∈ log ++ [(ip, now)], -window ≤ call.2) :
    (∀ other times, (after window (log ++ [(ip, now)])).history.lookup other = some times →
        ∃ time ∈ times, (other, time) ∈ log ++ [(ip, now)] ∧ now - 2 * window < time) ∧
      (after window (log ++ [(ip, now)])).trackedIps ≤
        (addressesSince (now - 2 * window) (log ++ [(ip, now)])).length := by
  have kept : ∀ other times, (after window (log ++ [(ip, now)])).history.lookup other = some times →
      ∃ time ∈ times, (other, time) ∈ log ++ [(ip, now)] ∧ now - 2 * window < time := by
    intro other times found
    obtain ⟨earlier, older⟩ := nondecreasing_append.mp sorted
    have first : -window ≤ now := started (ip, now) (by simp)
    have before := recent_after positive earlier
      (fun call member => started call (List.mem_append_left _ member)) first older
    rw [after_append] at found
    obtain ⟨time, last, recorded, bound⟩ :=
      (before.record ip (Int.le_refl now) positive).newest other times found
    rw [record_lastSweep] at bound
    have due := @sweepDue_lastSweep (after window log) window now positive
    exact ⟨time, List.mem_of_getLast? last, recorded, by omega⟩
  refine ⟨kept, ?_⟩
  generalize after window (log ++ [(ip, now)]) = s at kept
  apply KeyMap.length_le_of_held
  intro other times found
  obtain ⟨time, _, recorded, recently⟩ := kept other times found
  refine List.mem_dedup.mpr (List.mem_map.mpr ⟨(other, time), ?_, rfl⟩)
  exact List.mem_filter.mpr ⟨recorded, decide_eq_true recently⟩

theorem tracked_recently_swept :
    (0 : Int) < 10 ∧
      (∀ other times,
        (after 10 ([("203.0.113.7", 0)] ++ [("203.0.113.8", 25)])).history.lookup other = some times →
          ∃ time ∈ times, (other, time) ∈ [("203.0.113.7", 0)] ++ [("203.0.113.8", 25)] ∧
            25 - 2 * 10 < time) ∧
      (after 10 ([("203.0.113.7", 0)] ++ [("203.0.113.8", 25)])).trackedIps ≤
        (addressesSince (25 - 2 * 10) ([("203.0.113.7", 0)] ++ [("203.0.113.8", 25)])).length :=
  ⟨by decide, tracked_recently (by decide) (by decide) (by decide)⟩

/-- No sweep is due before one window after the epoch, which is what `last_sweep_` starts from. -/
theorem early_request_kept :
    ¬ ∀ (window : Int) (log : List (String × Int)) (ip : String) (now : Int), 0 < window →
        Nondecreasing (log ++ [(ip, now)]) →
        ∀ other times, (after window (log ++ [(ip, now)])).history.lookup other = some times →
          ∃ time, (other, time) ∈ log ++ [(ip, now)] ∧ now - 2 * window < time := by
  intro claim
  obtain ⟨time, recorded, recently⟩ := claim 1 [("203.0.113.7", -10)] "203.0.113.8" 0 (by decide)
    (by decide) "203.0.113.7" [-10] (by decide)
  have same : time = -10 := by simpa using recorded
  omega

end Atomwall.RequestRateTracker
