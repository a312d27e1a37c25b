import Atomwall.Base.KeyMap
import Atomwall.Platform.Libraries

/-! `RequestRateTracker`: the recent requests of each address, and how many `record` counts. -/

namespace Atomwall

structure RequestRateTracker where
  history : KeyMap String (List Int) := ∅
  lastSweep : Int := 0

namespace RequestRateTracker

def isStale (cutoff : Int) (timestamps : List Int) : Bool :=
  match timestamps.getLast? with
  | none => true
  | some newest => decide (newest < cutoff)

def sweep (s : RequestRateTracker) (cutoff : Int) : RequestRateTracker :=
  { s with history := KeyMap.eraseIf (isStale cutoff) s.history }

def record (s : RequestRateTracker) (ip : String) (now window : Int) : Nat × RequestRateTracker :=
  let cutoff := now - window
  let s := if window ≤ now - s.lastSweep then { s.sweep cutoff with lastSweep := now } else s
  let timestamps :=
    ((s.history.lookup ip).getD [] ++ [now]).dropWhile fun timestamp => decide (timestamp < cutoff)
  (timestamps.length, { s with history := s.history.insert ip timestamps })

/-! ### The requests that were recorded -/

def timesOf (ip : String) (log : List (String × Int)) : List Int :=
  (log.filter fun e => e.1 == ip).map Prod.snd

def countSince (cutoff : Int) (ip : String) (log : List (String × Int)) : Nat :=
  ((timesOf ip log).filter fun time => decide (cutoff ≤ time)).length

/-- The tracker keeps what was recorded, but for timestamps that have left the window for good. -/
structure Tracks (window latest : Int) (log : List (String × Int)) (s : RequestRateTracker) : Prop where
  ordered : log.Pairwise fun e later => e.2 ≤ later.2
  bounded : ∀ e ∈ log, e.2 ≤ latest
  kept : ∀ ip, ∃ old, timesOf ip log = old ++ (s.history.lookup ip).getD [] ∧
    ∀ time ∈ old, time < latest - window

variable {s : RequestRateTracker} {window latest now cutoff : Int} {log : List (String × Int)}
  {ip : String}

theorem tracks_empty : Tracks window latest [] {} where
  ordered := List.Pairwise.nil
  bounded e member := by cases member
  kept ip := ⟨[], rfl, fun time member => by cases member⟩

theorem timesOf_append_same : timesOf ip (log ++ [(ip, now)]) = timesOf ip log ++ [now] := by
  simp [timesOf, List.filter_append]

theorem timesOf_append_other {other : String} (apart : ip ≠ other) :
    timesOf other (log ++ [(ip, now)]) = timesOf other log := by
  simp [timesOf, List.filter_append, apart]

theorem Tracks.timesOf_sorted (tracks : Tracks window latest log s) (ip : String) :
    (timesOf ip log).Pairwise (· ≤ ·) := by
  unfold timesOf
  rw [List.pairwise_map]
  exact tracks.ordered.filter _

theorem Tracks.timesOf_le (tracks : Tracks window latest log s) {time : Int}
    (member : time ∈ timesOf ip log) : time ≤ latest := by
  obtain ⟨e, there, rfl⟩ := List.mem_map.mp member
  exact tracks.bounded e (List.mem_filter.mp there).1

theorem Tracks.later {after : Int} (tracks : Tracks window latest log s) (later : latest ≤ after) :
    Tracks window after log s where
  ordered := tracks.ordered
  bounded e member := Int.le_trans (tracks.bounded e member) later
  kept ip := by
    obtain ⟨old, times, gone⟩ := tracks.kept ip
    refine ⟨old, times, fun time member => ?_⟩
    have := gone time member
    omega

theorem dropWhile_eq_filter {times : List Int} (sorted : times.Pairwise (· ≤ ·)) :
    times.dropWhile (fun time => decide (time < cutoff)) =
      times.filter fun time => decide (cutoff ≤ time) := by
  induction times with
  | nil => rfl
  | cons first rest ih =>
    obtain ⟨below, tail⟩ := List.pairwise_cons.mp sorted
    by_cases old : first < cutoff
    · have out : ¬ cutoff ≤ first := by omega
      rw [List.dropWhile_cons_of_pos (by simpa using old), List.filter_cons_of_neg (by simpa using out)]
      exact ih tail
    · rw [List.dropWhile_cons_of_neg (by simpa using old)]
      symm
      rw [List.filter_eq_self]
      intro time member
      rcases List.mem_cons.mp member with rfl | later
      · simpa using old
      · have := below time later
        simp only [decide_eq_true_eq]
        omega

theorem lt_of_isStale {times : List Int} (sorted : times.Pairwise (· ≤ ·))
    (stale : isStale cutoff times = true) : ∀ time ∈ times, time < cutoff := by
  intro time member
  unfold isStale at stale
  split at stale
  · next none =>
    rw [List.getLast?_eq_none_iff.mp none] at member
    cases member
  · next newest last =>
    obtain ⟨before, rfl⟩ := List.getLast?_eq_some_iff.mp last
    have newestOld : newest < cutoff := of_decide_eq_true stale
    rcases List.mem_append.mp member with earlier | same
    · have := (List.pairwise_append.mp sorted).2.2 time earlier newest (by simp)
      omega
    · obtain rfl := List.mem_singleton.mp same
      exact newestOld

theorem Tracks.kept_sweep (tracks : Tracks window latest log s) (later : latest - window ≤ cutoff)
    (ip : String) : ∃ old, timesOf ip log = old ++ ((s.sweep cutoff).history.lookup ip).getD [] ∧
      ∀ time ∈ old, time < cutoff := by
  obtain ⟨old, times, gone⟩ := tracks.kept ip
  have goneLater : ∀ time ∈ old, time < cutoff := by
    intro time member
    have := gone time member
    omega
  cases found : (s.sweep cutoff).history.lookup ip with
  | some kept =>
    have before : s.history.lookup ip = some kept := KeyMap.lookup_of_eraseIf found
    rw [before] at times
    exact ⟨old, times, goneLater⟩
  | none =>
    cases before : s.history.lookup ip with
    | none =>
      rw [before] at times
      exact ⟨old, times, goneLater⟩
    | some kept =>
      rw [before] at times
      have sorted := tracks.timesOf_sorted ip
      have stale : isStale cutoff kept = true := by
        by_contra fresh
        have still : (s.sweep cutoff).history.lookup ip = some kept :=
          KeyMap.lookup_eraseIf_eq_some.mpr ⟨before, by simpa using fresh⟩
        rw [found] at still
        cases still
      refine ⟨timesOf ip log, by simp, ?_⟩
      rw [times] at sorted ⊢
      intro time member
      rcases List.mem_append.mp member with early | late
      · exact goneLater time early
      · exact lt_of_isStale (List.pairwise_append.mp sorted).2.1 stale time late

theorem Tracks.append (tracks : Tracks window latest log s) (later : latest ≤ now)
    {t : RequestRateTracker}
    (kept : ∀ other, ∃ old, timesOf other (log ++ [(ip, now)]) =
      old ++ (t.history.lookup other).getD [] ∧ ∀ time ∈ old, time < now - window) :
    Tracks window now (log ++ [(ip, now)]) t where
  ordered := by
    rw [List.pairwise_append]
    refine ⟨tracks.ordered, List.pairwise_singleton _ _, ?_⟩
    intro e member last there
    obtain rfl := List.mem_singleton.mp there
    exact Int.le_trans (tracks.bounded e member) later
  bounded e member := by
    rcases List.mem_append.mp member with before | new
    · exact Int.le_trans (tracks.bounded e before) later
    · obtain rfl := List.mem_singleton.mp new
      exact Int.le_refl _
  kept := kept

/-- `record` counts the requests of the address in the window, itself included, while the clock is not
set back. -/
theorem Tracks.record (tracks : Tracks window latest log s) (later : latest ≤ now) :
    (s.record ip now window).1 = countSince (now - window) ip (log ++ [(ip, now)]) ∧
      Tracks window now (log ++ [(ip, now)]) (s.record ip now window).2 := by
  -- what is held when the new timestamp is added, swept or not
  obtain ⟨history, swept, sweep⟩ : ∃ history, (∀ other, ∃ old, timesOf other log =
      old ++ (history.lookup other).getD [] ∧ ∀ time ∈ old, time < now - window) ∧
      (if window ≤ now - s.lastSweep then { s.sweep (now - window) with lastSweep := now } else s).history =
        history := by
    refine ⟨_, ?_, rfl⟩
    split
    · exact fun other => tracks.kept_sweep (by omega) other
    · intro other
      obtain ⟨old, times, gone⟩ := tracks.kept other
      refine ⟨old, times, fun time member => ?_⟩
      have := gone time member
      omega
  obtain ⟨old, times, gone⟩ := swept ip
  have sorted : ((history.lookup ip).getD [] ++ [now]).Pairwise (· ≤ ·) := by
    rw [List.pairwise_append]
    have all := tracks.timesOf_sorted ip
    rw [times] at all
    refine ⟨(List.pairwise_append.mp all).2.1, List.pairwise_singleton _ _, ?_⟩
    intro time member last there
    obtain rfl := List.mem_singleton.mp there
    have : time ∈ timesOf ip log := by
      rw [times]
      exact List.mem_append_right _ member
    exact Int.le_trans (tracks.timesOf_le this) later
  have counted (times : List Int) : (old ++ times).filter (fun time => decide (now - window ≤ time)) =
      times.filter fun time => decide (now - window ≤ time) := by
    rw [List.filter_append, List.append_left_eq_self, List.filter_eq_nil_iff]
    intro time member
    have := gone time member
    simp only [decide_eq_true_eq]
    omega
  refine ⟨?_, tracks.append later fun other => ?_⟩
  · unfold RequestRateTracker.record countSince
    dsimp only
    rw [sweep, dropWhile_eq_filter sorted, timesOf_append_same, times, List.append_assoc, counted]
  · unfold RequestRateTracker.record
    dsimp only
    rw [sweep, KeyMap.lookup_insert_ite]
    by_cases same : other = ip
    · subst same
      rw [if_pos rfl, Option.getD_some, timesOf_append_same, times, List.append_assoc]
      refine ⟨old ++ (((history.lookup other).getD [] ++ [now]).takeWhile fun time =>
        decide (time < now - window)), ?_, ?_⟩
      · rw [List.append_assoc, List.takeWhile_append_dropWhile]
      · intro time member
        rcases List.mem_append.mp member with early | dropped
        · exact gone time early
        · simpa using List.all_eq_true.mp List.all_takeWhile time dropped
    · rw [if_neg same, timesOf_append_other (Ne.symm same)]
      exact swept other

end RequestRateTracker

end Atomwall
