import Atomwall.Base.AgeQueue
import Atomwall.Base.Lts
import Atomwall.History.ScoreTracker

/-!
Which scores `ScoreTracker` forgets. Its age queue holds the last `max_tracked_ips` entries that were
created, whether they are still tracked or not, so a new entry drops the one created that many entries
before it.
-/

namespace Atomwall.ScoreTracker

def trackedIps (s : ScoreTracker) : Nat := s.scores.entries.length

/-- The calls that change the tracker. -/
inductive Op where
  | addPoints (ip : String) (points : Int)
  | reset (ip : String)

def step (s : ScoreTracker) : Op → Option ScoreTracker
  | .addPoints ip points => some (s.addPoints ip points).2
  | .reset ip => some (s.reset ip)

/-- The queue numbers the last entries that were created, as many as are tracked at most, and every
score has its item there. -/
structure Aged (s : ScoreTracker) : Prop where
  numbers : s.order.map Prod.snd = List.range' (s.nextSeq - s.order.length) s.order.length
  length : s.order.length = min s.maxTrackedIps s.nextSeq
  queued : AgeQueue.Queued Prod.fst Prod.snd Entry.seq s.scores s.order

variable {s t : ScoreTracker} {ip other : String} {points : Int} {most : Nat} {entry : Entry} {op : Op}

theorem evict_eq (scores : KeyMap String Entry) (order : List (String × Nat)) :
    evict most scores order =
      (AgeQueue.popItems Prod.fst Prod.snd Entry.seq scores (order.take (order.length - most)),
        order.drop (order.length - most)) := by
  induction order generalizing scores with
  | nil => simp [evict, AgeQueue.popItems]
  | cons oldest rest ih =>
    unfold evict
    split
    · have more : (oldest :: rest).length - most = rest.length - most + 1 := by
        rw [List.length_cons]
        omega
      have dropped : (if (scores.lookup oldest.1).any (·.seq == oldest.2) then scores.erase oldest.1
          else scores) = AgeQueue.dropStamped Prod.fst Prod.snd Entry.seq scores oldest := by
        unfold AgeQueue.dropStamped
        cases scores.lookup oldest.1 with
        | none => rfl
        | some held => simp
      rw [more, List.take_succ_cons, List.drop_succ_cons, AgeQueue.popItems, ih, dropped]
    · have fits : (oldest :: rest).length - most = 0 := by
        rw [List.length_cons]
        omega
      rw [fits, List.take_zero, List.drop_zero]
      rfl

theorem Aged.numbered (aged : s.Aged) {item : String × Nat} (member : item ∈ s.order) :
    s.nextSeq ≤ item.2 + s.order.length ∧ item.2 < s.nextSeq := by
  have number : item.2 ∈ s.order.map Prod.snd := List.mem_map_of_mem member
  have short : s.order.length ≤ s.nextSeq := by
    rw [aged.length]
    exact Nat.min_le_right _ _
  rw [aged.numbers, List.mem_range'_1] at number
  omega

theorem Aged.ordered (aged : s.Aged) : s.Ordered := fun _ member => (aged.numbered member).2

theorem Aged.seq_inj (aged : s.Aged) {item twin : String × Nat} (member : item ∈ s.order)
    (twinMember : twin ∈ s.order) (same : item.2 = twin.2) : item = twin := by
  have distinct : (s.order.map Prod.snd).Nodup := by
    rw [aged.numbers]
    exact List.nodup_range'
  exact List.inj_on_of_nodup_map distinct member twinMember same

theorem Aged.popped_iff (aged : s.Aged) {item pushed : String × Nat} :
    item ∈ (s.order ++ [pushed]).take (s.order.length + 1 - s.maxTrackedIps) ↔
      item ∈ s.order ∧ item.2 + s.maxTrackedIps = s.nextSeq := by
  have some_tracked := s.tracksSome
  have length := aged.length
  by_cases room : s.order.length < s.maxTrackedIps
  · have none_popped : s.order.length + 1 - s.maxTrackedIps = 0 := by omega
    rw [none_popped, List.take_zero]
    refine iff_of_false List.not_mem_nil fun given => ?_
    obtain ⟨member, oldest⟩ := given
    have bound := (aged.numbered member).1
    omega
  · have full : s.order.length = s.maxTrackedIps := by omega
    have one_popped : s.order.length + 1 - s.maxTrackedIps = 1 := by omega
    cases queue : s.order with
    | nil =>
      rw [queue, List.length_nil] at full
      omega
    | cons first rest =>
      have here : first ∈ s.order := by simp [queue]
      have oldest : first.2 + s.maxTrackedIps = s.nextSeq := by
        have head := congrArg List.head? aged.numbers
        have bound := (aged.numbered here).1
        rw [full] at head bound
        have number : first.2 = s.nextSeq - s.maxTrackedIps := by
          obtain ⟨n, more⟩ := Nat.exists_eq_succ_of_ne_zero (Nat.pos_iff_ne_zero.mp some_tracked)
          rw [queue, more, List.range'_succ] at head
          rw [more]
          simpa using head
        omega
      have take_one : (first :: rest ++ [pushed]).take ((first :: rest).length + 1 - s.maxTrackedIps) =
          [first] := by
        rw [← queue, one_popped, queue]
        rfl
      rw [take_one, List.mem_singleton, ← queue]
      constructor
      · intro same
        rw [same]
        exact ⟨here, oldest⟩
      · intro given
        obtain ⟨member, same⟩ := given
        exact aged.seq_inj member here (by omega)

/-! ### What a call does to the other scores -/

theorem Aged.seq_bound (aged : s.Aged) (held : s.scores.lookup ip = some entry) :
    s.nextSeq ≤ entry.seq + s.maxTrackedIps := by
  obtain ⟨item, member, _, same⟩ := aged.queued ip entry held
  have first := (aged.numbered member).1
  have length := aged.length
  rw [← same]
  omega

theorem track_new (absent : s.scores.lookup ip = none) :
    (s.track ip).scores = AgeQueue.popItems Prod.fst Prod.snd Entry.seq
        (s.scores.insert ip ⟨0, s.nextSeq⟩)
        ((s.order ++ [(ip, s.nextSeq)]).take (s.order.length + 1 - s.maxTrackedIps)) ∧
      (s.track ip).order =
        (s.order ++ [(ip, s.nextSeq)]).drop (s.order.length + 1 - s.maxTrackedIps) ∧
      (s.track ip).nextSeq = s.nextSeq + 1 ∧ (s.track ip).maxTrackedIps = s.maxTrackedIps := by
  unfold track
  simp only [absent, evict_eq, List.length_append, List.length_singleton, and_self]

theorem track_known (held : s.scores.lookup ip = some entry) : s.track ip = s := by
  unfold track
  rw [held]

theorem Aged.lookup_track_iff (aged : s.Aged) (absent : s.scores.lookup ip = none) (apart : other ≠ ip) :
    (s.track ip).scores.lookup other = some entry ↔
      s.scores.lookup other = some entry ∧ s.nextSeq < entry.seq + s.maxTrackedIps := by
  rw [(track_new absent).1, AgeQueue.lookup_popItems, KeyMap.lookup_insert_ite, if_neg apart]
  refine and_congr_right fun held => ?_
  have bound := aged.seq_bound held
  constructor
  · intro spared
    by_contra oldest
    obtain ⟨item, member, own, same⟩ := aged.queued other entry held
    exact spared item (aged.popped_iff.mpr ⟨member, by omega⟩) ⟨own, same⟩
  · intro young item popped stamps
    have oldest := (aged.popped_iff.mp popped).2
    have same : item.2 = entry.seq := stamps.2
    omega

theorem addPoints_other (apart : other ≠ ip) :
    (s.addPoints ip points).2.scores.lookup other = (s.track ip).scores.lookup other := by
  simp only [addPoints, KeyMap.lookup_insert_ite, if_neg apart]

/-! ### The invariant -/

theorem aged_make (maxTrackedIps : Nat) : (make maxTrackedIps).Aged where
  numbers := rfl
  length := (Nat.min_zero _).symm
  queued ip entry held := by cases held

theorem Aged.track (aged : s.Aged) : (s.track ip).Aged := by
  cases held : s.scores.lookup ip with
  | some entry =>
    rw [track_known held]
    exact aged
  | none =>
    obtain ⟨scores, order, next, most⟩ := track_new held
    have length := aged.length
    have some_tracked := s.tracksSome
    have pushed : (s.order ++ [(ip, s.nextSeq)]).map Prod.snd =
        List.range' (s.nextSeq - s.order.length) (s.order.length + 1) := by
      have last : s.nextSeq - s.order.length + 1 * s.order.length = s.nextSeq := by omega
      rw [List.map_append, aged.numbers, List.range'_concat, last]
      rfl
    have left : (s.track ip).order.length = min s.maxTrackedIps (s.nextSeq + 1) := by
      rw [order, List.length_drop, List.length_append, List.length_singleton]
      omega
    constructor
    · rw [left, order, next, List.map_drop, pushed, List.drop_range', length]
      congr 1 <;> omega
    · rw [left, next, most]
    · rw [scores, order]
      apply AgeQueue.Queued.pop
      rw [List.take_append_drop]
      exact aged.queued.push rfl rfl

theorem Aged.addPoints (aged : s.Aged) : (s.addPoints ip points).2.Aged := by
  have tracked := @Aged.track s ip aged
  obtain ⟨entry, held, _⟩ := @lookup_track s ip aged.ordered
  refine ⟨tracked.numbers, tracked.length, fun other kept found => ?_⟩
  by_cases own : other = ip
  · subst own
    unfold ScoreTracker.addPoints at found
    dsimp only at found
    rw [KeyMap.lookup_insert_ite, if_pos rfl, held, Option.getD_some] at found
    obtain rfl := Option.some.inj found
    exact tracked.queued other entry held
  · rw [addPoints_other own] at found
    exact tracked.queued other kept found

theorem Aged.reset (aged : s.Aged) : (s.reset ip).Aged := by
  refine ⟨aged.numbers, aged.length, aged.queued.of_lookup fun other kept found => ?_⟩
  rw [lookup_reset] at found
  split at found
  · cases found
  · exact found

theorem aged_run {maxTrackedIps : Nat} {ops : List Op} :
    Lts.Throughout step Aged (make maxTrackedIps) ops := by
  apply Lts.throughout_of_meets ?_ (aged_make maxTrackedIps) (Lts.meets_of_forall (fun _ _ => trivial) _ _)
  intro s op t aged _ taken
  cases op with
  | addPoints ip points =>
    obtain rfl := Option.some.inj taken
    exact aged.addPoints
  | reset ip =>
    obtain rfl := Option.some.inj taken
    exact aged.reset

/-! ### What is forgotten -/

/-- Scores are only forgotten when the tracker is full: while it is not, and where the address is
tracked already, the call leaves every other score. -/
def KeepsScores (s : ScoreTracker) : Op → Prop
  | .addPoints ip points =>
    s.trackedIps < s.maxTrackedIps ∨ (s.scores.lookup ip).isSome = true →
      ∀ other, other ≠ ip → (s.addPoints ip points).2.current other = s.current other
  | .reset _ => True

/-- A new address while the tracker is not full finds no score that was created as many entries ago as
are tracked at most. -/
def FindsYoung (s : ScoreTracker) : Op → Prop
  | .addPoints ip _ =>
    s.trackedIps < s.maxTrackedIps → s.scores.lookup ip = none →
      ∀ other entry, s.scores.lookup other = some entry → entry.score ≠ 0 →
        s.nextSeq < entry.seq + s.maxTrackedIps
  | .reset _ => True

/-- A call that drops an address drops the one whose entry was created first, and no other. -/
def EvictsOldest (s : ScoreTracker) : Op → Prop
  | .addPoints ip points =>
    ∀ gone entry, s.scores.lookup gone = some entry →
      (s.addPoints ip points).2.scores.lookup gone = none →
        gone ≠ ip ∧ ∀ other kept, other ≠ gone → s.scores.lookup other = some kept →
          entry.seq < kept.seq ∧ ((s.addPoints ip points).2.scores.lookup other).isSome = true
  | .reset _ => True

theorem addPoints_known (held : (s.scores.lookup ip).isSome = true) (apart : other ≠ ip) :
    (s.addPoints ip points).2.current other = s.current other := by
  obtain ⟨entry, same⟩ := Option.isSome_iff_exists.mp held
  unfold current
  rw [addPoints_other apart, track_known same]

/-- A new address leaves the score of another one exactly when that is not the oldest that fits. -/
theorem Aged.current_new (aged : s.Aged) (absent : s.scores.lookup ip = none) (apart : other ≠ ip) :
    (s.addPoints ip points).2.current other = s.current other ↔
      ∀ entry, s.scores.lookup other = some entry → entry.score ≠ 0 →
        s.nextSeq < entry.seq + s.maxTrackedIps := by
  have after := fun entry => @Aged.lookup_track_iff s ip other entry aged absent apart
  unfold current
  rw [addPoints_other apart]
  cases held : s.scores.lookup other with
  | none =>
    have gone : (s.track ip).scores.lookup other = none := by
      rw [Option.eq_none_iff_forall_ne_some]
      intro entry found
      rw [((after entry).mp found).1] at held
      cases held
    simp [gone]
  | some entry =>
    by_cases young : s.nextSeq < entry.seq + s.maxTrackedIps
    · simp [(after entry).mpr ⟨held, young⟩, young]
    · have gone : (s.track ip).scores.lookup other = none := by
        rw [Option.eq_none_iff_forall_ne_some]
        intro kept found
        obtain ⟨same, bound⟩ := (after kept).mp found
        rw [held] at same
        obtain rfl := Option.some.inj same
        exact young bound
      simp only [gone, Option.map_none, Option.getD_none, Option.map_some, Option.getD_some,
        Option.some.injEq, forall_eq', young, imp_false, not_not]
      exact eq_comm

theorem Aged.keeps_iff (aged : s.Aged) : KeepsScores s op ↔ FindsYoung s op := by
  cases op with
  | reset ip => exact Iff.rfl
  | addPoints ip points =>
    constructor
    · intro keeps room absent other entry held
      have apart : other ≠ ip := by
        rintro rfl
        rw [absent] at held
        cases held
      exact (aged.current_new absent apart).mp (keeps (Or.inl room) other apart) entry held
    · intro young room other apart
      cases known : s.scores.lookup ip with
      | some entry => exact addPoints_known (by rw [known]; rfl) apart
      | none =>
        have free : s.trackedIps < s.maxTrackedIps := by
          rcases room with free | held
          · exact free
          · rw [known] at held
            cases held
        exact (aged.current_new known apart).mpr fun entry held => young free known other entry held

theorem Aged.evictsOldest (aged : s.Aged) : EvictsOldest s op := by
  cases op with
  | reset ip => trivial
  | addPoints ip points =>
    intro gone entry held dropped
    have apart : gone ≠ ip := by
      rintro rfl
      obtain ⟨seq, stored⟩ := @lookup_addPoints s gone points
      rw [stored] at dropped
      cases dropped
    rw [addPoints_other apart] at dropped
    have absent : s.scores.lookup ip = none := by
      cases known : s.scores.lookup ip with
      | none => rfl
      | some old =>
        rw [track_known known, held] at dropped
        cases dropped
    have oldest : ¬ s.nextSeq < entry.seq + s.maxTrackedIps := by
      intro young
      rw [(aged.lookup_track_iff absent apart).mpr ⟨held, young⟩] at dropped
      cases dropped
    refine ⟨apart, fun other kept another there => ?_⟩
    have otherApart : other ≠ ip := by
      rintro rfl
      rw [absent] at there
      cases there
    -- two entries have two items, and so two numbers
    have distinct : kept.seq ≠ entry.seq := by
      intro same
      obtain ⟨item, member, own, number⟩ := aged.queued gone entry held
      obtain ⟨twin, twinMember, twinOwn, twinNumber⟩ := aged.queued other kept there
      have alike : twin.2 = item.2 := (twinNumber.trans same).trans number.symm
      obtain rfl := aged.seq_inj twinMember member alike
      exact another (twinOwn.symm.trans own)
    have bound := aged.seq_bound there
    have own := aged.seq_bound held
    have young : s.nextSeq < kept.seq + s.maxTrackedIps := by omega
    rw [addPoints_other otherApart, (aged.lookup_track_iff absent otherApart).mpr ⟨there, young⟩]
    exact ⟨by omega, rfl⟩

/-- In every run of a fresh tracker: no call forgets a score while the tracker is not full, exactly when
every call that finds it so finds young scores; and what is evicted is always the oldest, alone. -/
theorem scores_kept_iff (maxTrackedIps : Nat) (ops : List Op) :
    (Lts.Meets step KeepsScores (make maxTrackedIps) ops ↔
        Lts.Meets step FindsYoung (make maxTrackedIps) ops) ∧
      Lts.Meets step EvictsOldest (make maxTrackedIps) ops :=
  ⟨Lts.meets_congr aged_run fun _ _ aged => aged.keeps_iff,
    Lts.meets_of_throughout aged_run fun _ _ aged => aged.evictsOldest⟩

/-- The second address is reset before the third one scores; its item in the queue still counts. -/
def resetRun : List Op :=
  [.addPoints "198.51.100.1" 10, .addPoints "198.51.100.2" 10, .reset "198.51.100.2",
    .addPoints "198.51.100.3" 10]

theorem reset_forgets_other :
    ¬ ∀ (maxTrackedIps : Nat) (ops : List Op), Lts.Meets step KeepsScores (make maxTrackedIps) ops := by
  intro claim
  have last := ((((claim 2 resetRun).2 _ rfl).2 _ rfl).2 _ rfl).1
  have kept := last (Or.inl (by decide)) "198.51.100.1" (by decide)
  revert kept
  decide

end Atomwall.ScoreTracker
