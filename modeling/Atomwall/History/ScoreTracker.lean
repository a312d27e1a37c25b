import Atomwall.Base.KeyMap

/-! `ScoreTracker`: points by address text, for the addresses that scored most recently. -/

namespace Atomwall

def kIntMin : Int := -2147483648
def kIntMax : Int := 2147483647

namespace ScoreTracker

structure Entry where
  score : Int := 0
  seq : Nat := 0

end ScoreTracker

structure ScoreTracker where
  maxTrackedIps : Nat := 100000
  tracksSome : 0 < maxTrackedIps := by decide
  scores : KeyMap String ScoreTracker.Entry := ∅
  order : List (String × Nat) := []
  nextSeq : Nat := 0

namespace ScoreTracker

/-- Pops the oldest items until at most `most` are left; one that is not stale takes its score away. -/
def evict (most : Nat) (scores : KeyMap String Entry) :
    List (String × Nat) → KeyMap String Entry × List (String × Nat)
  | [] => (scores, [])
  | oldest :: rest =>
    if most < rest.length + 1 then
      evict most (if (scores.lookup oldest.1).any (·.seq == oldest.2) then scores.erase oldest.1
        else scores) rest
    else (scores, oldest :: rest)

def track (s : ScoreTracker) (ip : String) : ScoreTracker :=
  match s.scores.lookup ip with
  | some _ => s
  | none =>
    let kept := evict s.maxTrackedIps (s.scores.insert ip ⟨0, s.nextSeq⟩) (s.order ++ [(ip, s.nextSeq)])
    { s with scores := kept.1, order := kept.2, nextSeq := s.nextSeq + 1 }

/-- The new total, within the range of an `int`. -/
def addPoints (s : ScoreTracker) (ip : String) (points : Int) : Int × ScoreTracker :=
  let tracked := s.track ip
  let entry := (tracked.scores.lookup ip).getD {}
  let total := max kIntMin (min kIntMax (entry.score + points))
  (total, { tracked with scores := tracked.scores.insert ip { entry with score := total } })

def reset (s : ScoreTracker) (ip : String) : ScoreTracker := { s with scores := s.scores.erase ip }

def current (s : ScoreTracker) (ip : String) : Int := ((s.scores.lookup ip).map Entry.score).getD 0

/-- The constructor: at least one address is tracked. -/
def make (maxTrackedIps : Nat) : ScoreTracker :=
  { maxTrackedIps := max 1 maxTrackedIps, tracksSome := Nat.lt_of_lt_of_le Nat.one_pos (Nat.le_max_left _ _) }

/-! ### What the operations do to a score -/

def Ordered (s : ScoreTracker) : Prop := ∀ item ∈ s.order, item.2 < s.nextSeq

variable {s : ScoreTracker} {ip other : String} {points : Int} {most n : Nat}

theorem evict_lookup {scores : KeyMap String Entry} {order : List (String × Nat)} :
    (evict most scores order).1.lookup ip = scores.lookup ip ∨
      (evict most scores order).1.lookup ip = none := by
  induction order generalizing scores with
  | nil => exact Or.inl rfl
  | cons oldest rest ih =>
    unfold evict
    split
    · split
      · rcases @ih (scores.erase oldest.1) with same | gone
        · rw [same, KeyMap.lookup_erase_ite]
          split
          · exact Or.inr rfl
          · exact Or.inl rfl
        · exact Or.inr gone
      · exact ih
    · exact Or.inl rfl

theorem evict_order {scores : KeyMap String Entry} {order : List (String × Nat)} {item : String × Nat}
    (kept : item ∈ (evict most scores order).2) : item ∈ order := by
  induction order generalizing scores with
  | nil => exact kept
  | cons oldest rest ih =>
    unfold evict at kept
    split at kept
    · exact List.mem_cons_of_mem _ (ih kept)
    · exact kept

theorem evict_newest {scores : KeyMap String Entry} {order : List (String × Nat)} {entry : Entry}
    (some_kept : 0 < most) (older : ∀ item ∈ order, item.2 < n) (stored : scores.lookup ip = some entry)
    (own : entry.seq = n) : (evict most scores (order ++ [(ip, n)])).1.lookup ip = some entry := by
  induction order generalizing scores with
  | nil =>
    have full : ¬ most < ([] : List (String × Nat)).length + 1 := by simp; omega
    rw [List.nil_append, evict, if_neg full]
    exact stored
  | cons oldest rest ih =>
    rw [List.cons_append, evict]
    split
    · apply ih fun item member => older item (List.mem_cons_of_mem _ member)
      split
      · next current =>
        rw [KeyMap.lookup_erase_ite, if_neg]
        · exact stored
        · intro same
          rw [← same, stored] at current
          have seq : entry.seq = oldest.2 := by simpa using current
          have lt := older oldest List.mem_cons_self
          omega
      · exact stored
    · exact stored

theorem lookup_track (ordered : s.Ordered) :
    ∃ entry, (s.track ip).scores.lookup ip = some entry ∧ entry.score = s.current ip := by
  unfold track current
  cases found : s.scores.lookup ip with
  | some entry => exact ⟨entry, found, rfl⟩
  | none =>
    refine ⟨⟨0, s.nextSeq⟩, ?_, rfl⟩
    exact evict_newest s.tracksSome ordered (by rw [KeyMap.lookup_insert_ite, if_pos rfl]) rfl

theorem lookup_track_other (apart : other ≠ ip) :
    (s.track ip).scores.lookup other = s.scores.lookup other ∨
      (s.track ip).scores.lookup other = none := by
  unfold track
  cases s.scores.lookup ip with
  | some entry => exact Or.inl rfl
  | none =>
    rcases @evict_lookup other s.maxTrackedIps (s.scores.insert ip ⟨0, s.nextSeq⟩)
      (s.order ++ [(ip, s.nextSeq)]) with same | gone
    · rw [KeyMap.lookup_insert_ite, if_neg apart] at same
      exact Or.inl same
    · exact Or.inr gone

theorem ordered_track (ordered : s.Ordered) : (s.track ip).Ordered := by
  unfold track
  cases s.scores.lookup ip with
  | some entry => exact ordered
  | none =>
    intro item kept
    show item.2 < s.nextSeq + 1
    rcases List.mem_append.mp (evict_order kept) with old | new
    · have lt := ordered item old
      omega
    · rw [List.mem_singleton.mp new]
      exact Nat.lt_succ_self _

theorem addPoints_total (ordered : s.Ordered) :
    (s.addPoints ip points).1 = max kIntMin (min kIntMax (s.current ip + points)) := by
  obtain ⟨entry, tracked, score⟩ := @lookup_track s ip ordered
  unfold addPoints
  dsimp only
  rw [tracked, Option.getD_some, score]

theorem lookup_addPoints :
    ∃ seq, (s.addPoints ip points).2.scores.lookup ip = some ⟨(s.addPoints ip points).1, seq⟩ := by
  refine ⟨((s.track ip).scores.lookup ip |>.getD {}).seq, ?_⟩
  unfold addPoints
  dsimp only
  rw [KeyMap.lookup_insert_ite, if_pos rfl]

theorem lookup_addPoints_other (apart : other ≠ ip) :
    (s.addPoints ip points).2.scores.lookup other = s.scores.lookup other ∨
      (s.addPoints ip points).2.scores.lookup other = none := by
  have kept : (s.addPoints ip points).2.scores.lookup other = (s.track ip).scores.lookup other := by
    simp only [addPoints, KeyMap.lookup_insert_ite, if_neg apart]
  rw [kept]
  exact lookup_track_other apart

theorem ordered_addPoints (ordered : s.Ordered) : (s.addPoints ip points).2.Ordered :=
  ordered_track ordered

theorem lookup_reset : (s.reset ip).scores.lookup other =
    if other = ip then none else s.scores.lookup other :=
  KeyMap.lookup_erase_ite s.scores ip other

end ScoreTracker

end Atomwall
