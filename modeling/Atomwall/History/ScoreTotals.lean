import Atomwall.History.ScoreEviction

/-!
The scores of `ScoreTracker` against the points that were added: the age queue and the map stay
consistent, the entry a call writes to is not one that it evicts, and each score is the sum of the points
since its entry was created, kept within an `int` after each of them.
-/

namespace Atomwall.ScoreTracker

/-- What `add_points` makes of a total. -/
def saturate (total points : Int) : Int := max kIntMin (min kIntMax (total + points))

def pointsFor (ip : String) (ops : List Op) : List Int :=
  ops.filterMap fun
    | .addPoints who points => if who = ip then some points else none
    | .reset _ => none

def erased (most : Nat) (scores : KeyMap String Entry) : List (String × Nat) → List String
  | [] => []
  | oldest :: rest =>
    if most < rest.length + 1 then
      if (scores.lookup oldest.1).any (·.seq == oldest.2) then
        oldest.1 :: erased most (scores.erase oldest.1) rest
      else erased most scores rest
    else []

def erasedFor (s : ScoreTracker) (ip : String) : List String :=
  match s.scores.lookup ip with
  | some _ => []
  | none => erased s.maxTrackedIps (s.scores.insert ip ⟨0, s.nextSeq⟩) (s.order ++ [(ip, s.nextSeq)])

structure Consistent (maxTrackedIps : Nat) (s : ScoreTracker) : Prop where
  increasing : (s.order.map Prod.snd).Pairwise (· < ·)
  queued : ∀ ip entry, s.scores.lookup ip = some entry → s.order.count (ip, entry.seq) = 1
  tracked : s.trackedIps ≤ s.order.length
  bounded : s.order.length ≤ max 1 maxTrackedIps

/-- The entry that `add_points` finds or inserts is there, and the same, when the loop is done. -/
def KeepsReference (s : ScoreTracker) : Op → Prop
  | .addPoints ip _ =>
    ip ∉ s.erasedFor ip ∧
      (s.track ip).scores.lookup ip = some ((s.scores.lookup ip).getD ⟨0, s.nextSeq⟩)
  | .reset _ => True

/-- The address has the entry with the number. -/
def Holds (ip : String) (seq : Nat) (s : ScoreTracker) : Prop :=
  ∃ entry, s.scores.lookup ip = some entry ∧ entry.seq = seq

/-- An entry was created by the call of `add_points` that found none, it stayed since, and its score is the
points of that call and those after it, added one by one. -/
def SumsUp (start : ScoreTracker) (ops : List Op) (t : ScoreTracker) (ip : String) : Prop :=
  match t.scores.lookup ip with
  | none => t.current ip = 0
  | some entry =>
    ∃ before points after mid, ops = before ++ .addPoints ip points :: after ∧
      Lts.run step start before = some mid ∧ mid.scores.lookup ip = none ∧ mid.nextSeq = entry.seq ∧
      Lts.Throughout step (Holds ip entry.seq) (mid.addPoints ip points).2 after ∧
      t.current ip = (points :: pointsFor ip after).foldl saturate 0

variable {s t : ScoreTracker} {ip : String} {points : Int} {most seq : Nat} {op : Op} {ops : List Op}

/-! ### The entry that a call writes to -/

theorem evict_erased (scores : KeyMap String Entry) (order : List (String × Nat)) :
    (evict most scores order).1 = (erased most scores order).foldl (fun left ip => left.erase ip) scores := by
  induction order generalizing scores with
  | nil => rfl
  | cons oldest rest ih =>
    unfold evict erased
    split
    · split
      · rw [ih, List.foldl_cons]
      · exact ih scores
    · rfl

theorem lookup_foldl_erase {gone : List String} {scores : KeyMap String Entry}
    (absent : ip ∈ gone ∨ scores.lookup ip = none) :
    (gone.foldl (fun left ip => left.erase ip) scores).lookup ip = none := by
  induction gone generalizing scores with
  | nil => exact absent.resolve_left List.not_mem_nil
  | cons first rest ih =>
    refine ih ?_
    rw [KeyMap.lookup_erase_ite]
    rcases absent with member | none_there
    · rcases List.mem_cons.mp member with same | later
      · exact Or.inr (if_pos same)
      · exact Or.inl later
    · right
      rw [none_there, ite_self]

theorem Aged.keepsReference (aged : s.Aged) : KeepsReference s op := by
  cases op with
  | reset ip => trivial
  | addPoints ip points =>
    change ip ∉ s.erasedFor ip ∧ (s.track ip).scores.lookup ip = _
    unfold erasedFor
    cases held : s.scores.lookup ip with
    | some entry =>
      rw [track_known held]
      exact ⟨List.not_mem_nil, held⟩
    | none =>
      have stays := @evict_newest ip s.maxTrackedIps s.nextSeq (s.scores.insert ip ⟨0, s.nextSeq⟩) s.order
        ⟨0, s.nextSeq⟩ s.tracksSome aged.ordered (by rw [KeyMap.lookup_insert_ite, if_pos rfl]) rfl
      constructor
      · intro gone
        have empty := @lookup_foldl_erase ip _ (s.scores.insert ip ⟨0, s.nextSeq⟩) (Or.inl gone)
        rw [← evict_erased, stays] at empty
        cases empty
      · unfold ScoreTracker.track
        rw [held]
        exact stays

/-! ### The queue and the map -/

theorem Aged.consistent {maxTrackedIps : Nat} (aged : s.Aged)
    (most : s.maxTrackedIps = max 1 maxTrackedIps) : s.Consistent maxTrackedIps := by
  have increasing : (s.order.map Prod.snd).Pairwise (· < ·) := by
    rw [aged.numbers]
    exact List.pairwise_lt_range'
  refine ⟨increasing, fun ip entry held => ?_, aged.queued.length_le, ?_⟩
  · obtain ⟨item, member, own, number⟩ := aged.queued ip entry held
    obtain rfl : item = (ip, entry.seq) := Prod.ext own number
    exact List.count_eq_one_of_mem (List.Nodup.of_map Prod.snd (increasing.imp Nat.ne_of_lt)) member
  · rw [← most, aged.length]
    exact Nat.min_le_left _ _

theorem maxTrackedIps_step (taken : step s op = some t) : t.maxTrackedIps = s.maxTrackedIps := by
  cases op with
  | reset ip =>
    obtain rfl := Option.some.inj taken
    rfl
  | addPoints ip points =>
    obtain rfl := Option.some.inj taken
    change (s.track ip).maxTrackedIps = _
    cases held : s.scores.lookup ip with
    | some entry => rw [track_known held]
    | none => exact (track_new held).2.2.2

theorem Aged.step (aged : s.Aged) (taken : ScoreTracker.step s op = some t) : t.Aged := by
  cases op with
  | reset ip =>
    obtain rfl := Option.some.inj taken
    exact aged.reset
  | addPoints ip points =>
    obtain rfl := Option.some.inj taken
    exact aged.addPoints

/-! ### One call and the score of an address -/

theorem Aged.lookup_own (aged : s.Aged) : (s.addPoints ip points).2.scores.lookup ip =
    some ⟨saturate (s.current ip) points, ((s.scores.lookup ip).getD ⟨0, s.nextSeq⟩).seq⟩ := by
  obtain ⟨_, kept⟩ : KeepsReference s (.addPoints ip points) := aged.keepsReference
  have score : s.current ip = ((s.scores.lookup ip).getD ⟨0, s.nextSeq⟩).score := by
    unfold current
    cases s.scores.lookup ip with
    | none => rfl
    | some entry => rfl
  unfold ScoreTracker.addPoints saturate
  dsimp only
  rw [KeyMap.lookup_insert_ite, if_pos rfl, kept, Option.getD_some, score]

theorem pointsFor_own : pointsFor ip [.addPoints ip points] = [points] := by
  simp [pointsFor]

theorem current_other (taken : step s op = some t) (idle : pointsFor ip [op] = [])
    (stays : (t.scores.lookup ip).isSome = true) : t.scores.lookup ip = s.scores.lookup ip := by
  cases op with
  | reset who =>
    obtain rfl := Option.some.inj taken
    rw [lookup_reset] at stays ⊢
    split at stays
    · cases stays
    · next apart => rw [if_neg apart]
  | addPoints who points =>
    obtain rfl := Option.some.inj taken
    have apart : ip ≠ who := by
      rintro rfl
      rw [pointsFor_own] at idle
      cases idle
    rcases @lookup_addPoints_other s who ip points apart with same | gone
    · exact same
    · rw [gone] at stays
      cases stays

theorem pointsFor_one (ip : String) (op : Op) :
    (∃ points, op = .addPoints ip points) ∨ pointsFor ip [op] = [] := by
  cases op with
  | reset who => exact Or.inr rfl
  | addPoints who points =>
    by_cases own : who = ip
    · exact Or.inl ⟨points, by rw [own]⟩
    · exact Or.inr (by simp [pointsFor, own])

theorem current_step (aged : s.Aged) (taken : step s op = some t) (stays : Holds ip seq t) :
    t.current ip = (pointsFor ip [op]).foldl saturate (s.current ip) := by
  rcases pointsFor_one ip op with ⟨points, rfl⟩ | idle
  · obtain rfl := Option.some.inj taken
    rw [pointsFor_own, current, aged.lookup_own]
    rfl
  · obtain ⟨entry, held, _⟩ := stays
    rw [idle, current, current_other taken idle (by rw [held]; rfl)]
    rfl

theorem created_step (aged : s.Aged) (taken : step s op = some t) (absent : ¬ Holds ip seq s)
    (created : Holds ip seq t) : ∃ points, op = .addPoints ip points ∧ s.scores.lookup ip = none ∧
      s.nextSeq = seq ∧ t.current ip = saturate 0 points := by
  obtain ⟨entry, held, number⟩ := created
  rcases pointsFor_one ip op with ⟨points, rfl⟩ | idle
  · obtain rfl := Option.some.inj taken
    have own := @Aged.lookup_own s ip points aged
    rw [held] at own
    obtain rfl := Option.some.inj own
    cases there : s.scores.lookup ip with
    | some old =>
      rw [there] at number
      exact absurd ⟨old, there, number⟩ absent
    | none =>
      rw [there] at number
      refine ⟨points, rfl, rfl, number, ?_⟩
      rw [current, held]
      change saturate (s.current ip) points = _
      rw [current, there]
      rfl
  · rw [current_other taken idle (by rw [held]; rfl)] at held
    exact absurd ⟨entry, held, number⟩ absent

theorem current_run (aged : s.Aged) (all : Lts.Throughout step (Holds ip seq) s ops)
    (ran : Lts.run step s ops = some t) :
    t.current ip = (pointsFor ip ops).foldl saturate (s.current ip) := by
  induction ops generalizing s with
  | nil =>
    obtain rfl := Option.some.inj ran
    rfl
  | cons op rest ih =>
    have later := (Lts.throughout_cons.mp all).2
    obtain ⟨next, taken, tail⟩ := Lts.run_cons_some.mp ran
    have stays := later next taken
    have one := current_step aged taken (stays [] rest next rfl rfl)
    have split : pointsFor ip (op :: rest) = pointsFor ip [op] ++ pointsFor ip rest := by
      unfold pointsFor
      rw [← List.filterMap_append, List.singleton_append]
    rw [ih (aged.step taken) stays tail, one, split, List.foldl_append]

theorem sumsUp (maxTrackedIps : Nat) (ran : Lts.run step (make maxTrackedIps) ops = some t) :
    SumsUp (make maxTrackedIps) ops t ip := by
  unfold SumsUp
  cases found : t.scores.lookup ip with
  | none =>
    dsimp only
    rw [current, found]
    rfl
  | some entry =>
    have broken : ¬ Lts.Throughout step (Holds ip entry.seq) (make maxTrackedIps) ops := by
      intro all
      obtain ⟨old, held, _⟩ := all [] ops _ rfl rfl
      cases held
    obtain ⟨before, op, after, mid, next, split, first, absent, taken, tail, all⟩ :=
      Lts.exists_onset ran broken ⟨entry, found, rfl⟩
    have aged := @aged_run maxTrackedIps ops before (op :: after) mid split first
    obtain ⟨points, rfl, new, number, start⟩ := created_step aged taken absent (all [] after next rfl rfl)
    have total := current_run (aged.step taken) all tail
    obtain rfl := Option.some.inj taken
    refine ⟨before, points, after, mid, split, first, new, number, all, ?_⟩
    rw [total, start]
    rfl

/-- The counter is no larger than the number of calls, so 64 bits last for as many. -/
theorem nextSeq_run (ran : Lts.run step s ops = some t) : t.nextSeq ≤ s.nextSeq + ops.length := by
  induction ops generalizing s with
  | nil =>
    obtain rfl := Option.some.inj ran
    exact Nat.le_refl _
  | cons op rest ih =>
    obtain ⟨next, taken, tail⟩ := Lts.run_cons_some.mp ran
    have later := ih tail
    have one : next.nextSeq ≤ s.nextSeq + 1 := by
      cases op with
      | reset ip =>
        obtain rfl := Option.some.inj taken
        exact Nat.le_succ _
      | addPoints ip points =>
        obtain rfl := Option.some.inj taken
        change (s.track ip).nextSeq ≤ _
        cases held : s.scores.lookup ip with
        | some entry =>
          rw [track_known held]
          exact Nat.le_succ _
        | none => exact Nat.le_of_eq (track_new held).2.2.1
    rw [List.length_cons]
    omega

/-- In every run of a fresh tracker: the queue and the map are consistent after each call, no call loses
the entry it writes to, and every score sums up. -/
theorem scores_consistent (maxTrackedIps : Nat) (ops : List Op) :
    Lts.Throughout step (Consistent maxTrackedIps) (make maxTrackedIps) ops ∧
      Lts.Meets step KeepsReference (make maxTrackedIps) ops ∧
      ∀ t, Lts.run step (make maxTrackedIps) ops = some t →
        (∀ ip, SumsUp (make maxTrackedIps) ops t ip) ∧ t.nextSeq ≤ ops.length := by
  refine ⟨?_, Lts.meets_of_throughout aged_run fun _ _ aged => aged.keepsReference, fun t ran => ?_⟩
  · have sized : Lts.Throughout step (fun s => s.Aged ∧ s.maxTrackedIps = max 1 maxTrackedIps)
        (make maxTrackedIps) ops :=
      aged_run.invariant (fun s op t _ same taken => (maxTrackedIps_step taken).trans same) rfl
    exact sized.mono fun s both => both.1.consistent both.2
  · have bound := nextSeq_run ran
    exact ⟨fun ip => sumsUp maxTrackedIps ran, by rwa [show (make maxTrackedIps).nextSeq = 0 from rfl,
      Nat.zero_add] at bound⟩

end Atomwall.ScoreTracker
