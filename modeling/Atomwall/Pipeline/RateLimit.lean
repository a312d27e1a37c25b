import Atomwall.History.RateWindow
import Atomwall.Pipeline.Checks

/-!
The limit of `check_request_rate` over a sequence of requests. The tracker counts exactly; the check then
compares what `static_cast<int>` leaves of the count.
-/

namespace Atomwall

open RequestRateTracker Http

variable (text : AddressText) {config : SpeedCheckConfig} {clientIp : Address} {header : Fields}
  {path : String} {log : List (String × Int)} {now : Int}

theorem toInt_of_lt {count : Nat} (small : count < 0x80000000) : toInt count = count := by
  unfold toInt
  rw [Int.bmod_def]
  omega

/-- The check of a navigation, with the limit on, once the requests of the log were recorded. -/
def navigationBlocked (config : SpeedCheckConfig) (log : List (String × Int)) (clientIp : Address)
    (path : String) (header : Fields) (now : Int) : Bool :=
  (checkRequestRate text config (after (seconds config.windowSeconds) log) clientIp path header now).1.blocked

def requestsInWindow (config : SpeedCheckConfig) (log : List (String × Int)) (clientIp : Address)
    (now : Int) : Nat :=
  countSince (now - seconds config.windowSeconds) (text clientIp) (log ++ [(text clientIp, now)])

variable {text}

theorem navigationBlocked_iff (enabled : config.enabled = true)
    (navigation : isNavigationRequest header path = true)
    (sorted : Nondecreasing (log ++ [(text clientIp, now)])) :
    navigationBlocked text config log clientIp path header now = true ↔
      config.maxRequests < toInt (requestsInWindow text config log clientIp now) := by
  unfold navigationBlocked
  rw [checkRequestRate_eq.2.1, enabled, navigation, record_counts sorted, Bool.true_and, Bool.true_and]
  exact decide_eq_true_iff

/-- In every sequence of calls each one returns the requests of its address in the window, and the check
of a navigation blocks exactly when these exceed the limit, exactly when they are fewer than 2^31 or the
`int` made of them exceeds it too. -/
theorem rate_limit_exact_iff {window : Int} {ip : String} (sorted : Nondecreasing (log ++ [(ip, now)])) :
    ((after window log).record ip now window).1 = countSince (now - window) ip (log ++ [(ip, now)]) ∧
      ∀ (text : AddressText) (config : SpeedCheckConfig) (clientIp : Address) (path : String)
        (header : Fields), text clientIp = ip → config.maxRequests < 0x80000000 →
        config.enabled = true → isNavigationRequest header path = true →
        ((navigationBlocked text config log clientIp path header now = true ↔
            config.maxRequests < requestsInWindow text config log clientIp now) ↔
          requestsInWindow text config log clientIp now < 0x80000000 ∨
            config.maxRequests < toInt (requestsInWindow text config log clientIp now)) := by
  refine ⟨record_counts sorted, fun text config clientIp path header own int32 enabled navigation => ?_⟩
  subst own
  rw [navigationBlocked_iff enabled navigation sorted]
  generalize requestsInWindow text config log clientIp now = count
  by_cases small : count < 0x80000000
  · rw [toInt_of_lt small]
    exact iff_of_true Iff.rfl (Or.inl small)
  · have exceeds : config.maxRequests < count := by omega
    rw [iff_true_right exceeds, or_iff_right small]

theorem rate_limit_exact_crowded :
    ((after (seconds 10) (List.replicate 20 ("203.0.113.7", 5))).record "203.0.113.7" 6 (seconds 10)).1 =
        countSince (6 - seconds 10) "203.0.113.7"
          (List.replicate 20 ("203.0.113.7", 5) ++ [("203.0.113.7", 6)]) ∧
      ((navigationBlocked (fun _ => "203.0.113.7") { enabled := true }
            (List.replicate 20 ("203.0.113.7", 5)) (.v4 #v[203, 0, 113, 7]) "/" [] 6 = true ↔
          (20 : Int) < requestsInWindow (fun _ => "203.0.113.7") { enabled := true }
            (List.replicate 20 ("203.0.113.7", 5)) (.v4 #v[203, 0, 113, 7]) 6) ↔
        requestsInWindow (fun _ => "203.0.113.7") { enabled := true }
            (List.replicate 20 ("203.0.113.7", 5)) (.v4 #v[203, 0, 113, 7]) 6 < 0x80000000 ∨
          (20 : Int) < toInt (requestsInWindow (fun _ => "203.0.113.7") { enabled := true }
            (List.replicate 20 ("203.0.113.7", 5)) (.v4 #v[203, 0, 113, 7]) 6)) :=
  have exact := @rate_limit_exact_iff (List.replicate 20 ("203.0.113.7", 5)) 6 (seconds 10) "203.0.113.7"
    (by decide)
  ⟨exact.1, exact.2 (fun _ => "203.0.113.7") { enabled := true } (.v4 #v[203, 0, 113, 7]) "/" [] rfl
    (by decide) rfl (by decide)⟩

theorem countSince_replicate (cutoff : Int) (ip : String) (n : Nat) (inside : cutoff ≤ now) :
    countSince cutoff ip (List.replicate n (ip, now)) = n := by
  simp [countSince, timesOf, inside]

/-- 2^31 requests at one moment: the `int` made of their number is negative. -/
theorem flood_not_blocked :
    ¬ ∀ (text : AddressText) (config : SpeedCheckConfig) (log : List (String × Int)) (clientIp : Address)
        (path : String) (header : Fields) (now : Int),
        Nondecreasing (log ++ [(text clientIp, now)]) → config.maxRequests < 0x80000000 →
        config.enabled = true → isNavigationRequest header path = true →
        (navigationBlocked text config log clientIp path header now = true ↔
          config.maxRequests < requestsInWindow text config log clientIp now) := by
  intro claim
  let flood : List (String × Int) := List.replicate 0x7FFFFFFF ("203.0.113.7", 0)
  have whole : flood ++ [("203.0.113.7", 0)] = List.replicate 0x80000000 ("203.0.113.7", 0) :=
    (List.replicate_succ' (n := 0x7FFFFFFF)).symm
  have sorted : Nondecreasing (flood ++ [("203.0.113.7", 0)]) := by
    rw [whole]
    exact List.pairwise_replicate.mpr (Or.inr (Int.le_refl _))
  have requests : requestsInWindow (fun _ => "203.0.113.7") { enabled := true } flood
      (.v4 #v[203, 0, 113, 7]) 0 = 0x80000000 := by
    unfold requestsInWindow
    rw [whole]
    exact countSince_replicate _ _ _ (by decide)
  have blocked := claim (fun _ => "203.0.113.7") { enabled := true } flood (.v4 #v[203, 0, 113, 7]) "/" []
    0 sorted (by decide) rfl (by decide)
  rw [navigationBlocked_iff rfl (by decide) sorted, requests] at blocked
  exact absurd (blocked.mpr (by decide)) (by decide)

end Atomwall
