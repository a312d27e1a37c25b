import Atomwall.Auth.ChallengeStore
import Atomwall.Base.AgeQueue
import Atomwall.Base.TimedLog

/-!
Which challenges `ChallengeStore` still has. Its queue is the last part of all stamps ever made; a stamp
leaves it when it has expired or `kMaxEntries` others came after it, and takes along only the entry it
was made for.
-/

namespace Atomwall.ChallengeStore

/-- `start` with the time to live it is given. -/
def startFor (s : ChallengeStore) (ttl : Int) (m : Moment) (key : String) (challenge : Challenge) :
    ChallengeStore :=
  let expiresAt := m.now + ttl
  drain m.now (s.entries.insert key ⟨challenge, expiresAt⟩) (s.order ++ [⟨key, expiresAt⟩])

/-- The handlers leave it at two minutes. -/
theorem start_eq (s : ChallengeStore) (m : Moment) (key : String) (challenge : Challenge) :
    s.start m key challenge = s.startFor (minutes 2) m key challenge := rfl

def size (s : ChallengeStore) : Nat := s.entries.entries.length

inductive Call where
  | start (key : String) (challenge : Challenge)
  | consume (key : String)

namespace Call

def key : Call → String
  | start key _ => key
  | consume key => key

def isStart : Call → Bool
  | start _ _ => true
  | consume _ => false

end Call

def perform (ttl : Int) (s : ChallengeStore) : Moment × Call → ChallengeStore
  | (m, .start key challenge) => s.startFor ttl m key challenge
  | (m, .consume key) => (s.consume m key).2

def after (ttl : Int) (log : List (Moment × Call)) : ChallengeStore := log.foldl (perform ttl) {}

def Increasing (log : List (Moment × Call)) : Prop := log.Pairwise fun call later => call.1.now < later.1.now

instance (log : List (Moment × Call)) : Decidable (Increasing log) :=
  inferInstanceAs (Decidable (log.Pairwise _))

/-- The latest start of the key was with the challenge, no `consume` of it came since, it has not
expired, and fewer than `kMaxEntries` starts came after it. -/
def Retains (ttl : Int) (log : List (Moment × Call)) (key : String) (challenge : Challenge) (now : Int) :
    Prop :=
  ∃ before m after, log = before ++ (m, .start key challenge) :: after ∧
    (∀ call ∈ after, call.2.key ≠ key) ∧ now ≤ m.now + ttl ∧
    (after.filter fun call => call.2.isStart).length < kMaxEntries

/-! ### The log as the store sees it -/

structure Started where
  key : String
  entry : ChallengeEntry

def event (ttl : Int) : Moment × Call → TimedLog.Event String Started
  | (m, .start key challenge) => .added ⟨key, challenge, m.now + ttl⟩
  | (_, .consume key) => .removed key

def stampOf (ttl : Int) : Moment × Call → Option Stamp
  | (m, .start key _) => some ⟨key, m.now + ttl⟩
  | (_, .consume _) => none

def stamps (ttl : Int) (log : List (Moment × Call)) : List Stamp := log.filterMap (stampOf ttl)

/-- How many stamps expire later than this one, and so were made after it. -/
def laterStamps (all : List Stamp) (stamp : Stamp) : Nat :=
  (all.filter fun other => decide (stamp.expiresAt < other.expiresAt)).length

abbrev Ascending (order : List Stamp) : Prop := order.Pairwise fun stamp later => stamp.expiresAt < later.expiresAt

abbrev Stands (ttl : Int) (log : List (Moment × Call)) (key : String) (e : ChallengeEntry) : Prop :=
  TimedLog.Stands Started.key (log.map (event ttl)) ⟨key, e⟩

variable {ttl now latest : Int} {s : ChallengeStore} {m : Moment} {key : String} {challenge : Challenge}
  {e : ChallengeEntry} {log : List (Moment × Call)} {order : List Stamp} {call : Moment × Call}
  {entries : KeyMap String ChallengeEntry}

theorem increasing_append : Increasing (log ++ [call]) ↔
    Increasing log ∧ ∀ earlier ∈ log, earlier.1.now < call.1.now := by
  simp [Increasing, List.pairwise_append]

theorem stampOf_some {stamp : Stamp} (made : stampOf ttl call = some stamp) :
    call.2.key = stamp.key ∧ stamp.expiresAt = call.1.now + ttl := by
  obtain ⟨m, started | consumed⟩ := call
  · obtain rfl := Option.some.inj made
    exact ⟨rfl, rfl⟩
  · cases made

theorem ascending_stamps (increasing : Increasing log) : Ascending (stamps ttl log) := by
  refine List.Pairwise.filterMap (stampOf ttl) (fun call later lt stamp made other madeLater => ?_) increasing
  have first := (stampOf_some made).2
  have second := (stampOf_some madeLater).2
  omega

theorem length_stamps : (stamps ttl log).length = (log.filter fun call => call.2.isStart).length := by
  induction log with
  | nil => rfl
  | cons call rest ih =>
    obtain ⟨m, started | consumed⟩ := call
    · exact congrArg Nat.succ ih
    · exact ih

/-- Of stamps in order, those that expire later are those that follow. -/
theorem laterStamps_split {before behind : List Stamp} {stamp : Stamp}
    (ascending : Ascending (before ++ stamp :: behind)) :
    laterStamps (before ++ stamp :: behind) stamp = behind.length := by
  obtain ⟨_, tail, across⟩ := List.pairwise_append.mp ascending
  have follows := (List.pairwise_cons.mp tail).1
  have early : before.filter (fun other => decide (stamp.expiresAt < other.expiresAt)) = [] := by
    rw [List.filter_eq_nil_iff]
    intro other member
    have earlier := across other member stamp List.mem_cons_self
    simp only [decide_eq_true_eq]
    omega
  have late : behind.filter (fun other => decide (stamp.expiresAt < other.expiresAt)) = behind := by
    rw [List.filter_eq_self]
    intro other member
    exact decide_eq_true (follows other member)
  unfold laterStamps
  rw [List.filter_append, early, List.nil_append, List.filter_cons_of_neg (by simp), late]

theorem laterStamps_le {some_stamps all : List Stamp} (part : some_stamps.Sublist all) (stamp : Stamp) :
    laterStamps some_stamps stamp ≤ laterStamps all stamp :=
  (part.filter _).length_le

theorem stands_iff : Stands ttl log key e ↔ ∃ before m behind,
    log = before ++ (m, .start key e.challenge) :: behind ∧ e.expiresAt = m.now + ttl ∧
      ∀ call ∈ behind, call.2.key ≠ key := by
  have ends : ∀ call : Moment × Call, (event ttl call).Ends Started.key key ↔ call.2.key = key := by
    intro call
    obtain ⟨m, started | consumed⟩ := call
    · exact Iff.rfl
    · exact Iff.rfl
  constructor
  · intro given
    obtain ⟨before, behind, same, kept⟩ := given
    obtain ⟨early, rest, rfl, rfl, late⟩ := List.map_eq_append_iff.mp same
    obtain ⟨call, tail, rfl, made, rfl⟩ := List.map_eq_cons_iff.mp late
    obtain ⟨m, started | consumed⟩ := call
    · obtain ⟨rfl, rfl⟩ : started = key ∧ _ := by simpa [event] using made
      refine ⟨early, m, tail, rfl, rfl, fun call member ended => ?_⟩
      exact kept (event ttl call) (List.mem_map_of_mem member) ((ends call).mpr ended)
    · cases made
  · intro given
    obtain ⟨before, m, behind, rfl, expires, kept⟩ := given
    refine ⟨before.map (event ttl), behind.map (event ttl), ?_, fun other member => ?_⟩
    · simp [event, ← expires]
    · obtain ⟨call, there, rfl⟩ := List.mem_map.mp member
      rw [ends]
      exact kept call there

/-! ### Leaving the queue -/

theorem dropStamped_eq (oldest : Stamp) : dropStamped entries oldest =
    AgeQueue.dropStamped Stamp.key Stamp.expiresAt ChallengeEntry.expiresAt entries oldest := by
  unfold dropStamped AgeQueue.dropStamped
  cases entries.lookup oldest.key with
  | none => rfl
  | some e => rfl

theorem stamps_iff {stamp : Stamp} :
    AgeQueue.Stamps Stamp.key Stamp.expiresAt ChallengeEntry.expiresAt stamp key e ↔
      stamp = ⟨key, e.expiresAt⟩ := by
  obtain ⟨k, expires⟩ := stamp
  simp [AgeQueue.Stamps]

theorem drain_eq (ascending : Ascending order) : ∃ gone kept, order = gone ++ kept ∧
    drain now entries order =
      ⟨AgeQueue.popItems Stamp.key Stamp.expiresAt ChallengeEntry.expiresAt entries gone, kept⟩ ∧
    kept.length ≤ kMaxEntries ∧
    ∀ stamp ∈ gone, stamp.expiresAt ≤ now ∨ kMaxEntries ≤ laterStamps order stamp := by
  induction order generalizing entries with
  | nil => exact ⟨[], [], rfl, rfl, Nat.zero_le _, fun stamp member => by cases member⟩
  | cons oldest rest ih =>
    obtain ⟨follows, ascending_rest⟩ := List.pairwise_cons.mp ascending
    unfold drain
    split
    · next due =>
      obtain ⟨gone, kept, parts, drained, few, causes⟩ :=
        @ih (dropStamped entries oldest) ascending_rest
      refine ⟨oldest :: gone, kept, by rw [parts, List.cons_append], ?_, few, ?_⟩
      · rw [drained, dropStamped_eq]
        rfl
      · intro stamp member
        rcases List.mem_cons.mp member with rfl | later
        · rcases due with many | expired
          · right
            have behind := @laterStamps_split [] rest stamp ascending
            rw [List.nil_append] at behind
            omega
          · exact Or.inl expired
        · rcases causes stamp later with expired | many
          · exact Or.inl expired
          · exact Or.inr (many.trans (laterStamps_le (List.sublist_cons_self oldest rest) stamp))
    · next early =>
      refine ⟨[], oldest :: rest, rfl, rfl, ?_, fun stamp member => by cases member⟩
      rw [List.length_cons]
      omega

/-- The store holds what stands in the log, as far as its stamps are still in the queue. -/
structure Retained (ttl latest : Int) (log : List (Moment × Call)) (s : ChallengeStore)
    (popped : List Stamp) : Prop where
  made : stamps ttl log = popped ++ s.order
  few : s.order.length ≤ kMaxEntries
  causes : ∀ stamp ∈ popped,
    stamp.expiresAt ≤ latest ∨ kMaxEntries ≤ laterStamps (stamps ttl log) stamp
  held : ∀ key e, s.entries.lookup key = some e ↔
    Stands ttl log key e ∧ (⟨key, e.expiresAt⟩ : Stamp) ∈ s.order

theorem retained_empty : Retained ttl latest [] {} [] where
  made := rfl
  few := Nat.zero_le _
  causes stamp member := by cases member
  held key e := by
    refine iff_of_false (fun found => by cases found) fun given => ?_
    exact TimedLog.not_stands_nil _ given.1

theorem stands_append : Stands ttl (log ++ [call]) key e ↔
    event ttl call = .added ⟨key, e⟩ ∨ Stands ttl log key e ∧ call.2.key ≠ key := by
  have ends : (event ttl call).Ends Started.key key ↔ call.2.key = key := by
    obtain ⟨m, started | consumed⟩ := call
    · exact Iff.rfl
    · exact Iff.rfl
  unfold Stands
  rw [List.map_append, List.map_singleton, TimedLog.stands_append, ends]

theorem Retained.consume {popped : List Stamp} (retained : Retained ttl latest log s popped)
    (later : latest ≤ m.now) :
    Retained ttl m.now (log ++ [(m, .consume key)]) (s.consume m key).2 popped := by
  obtain ⟨made, few, causes, held⟩ := retained
  have same : stamps ttl (log ++ [(m, .consume key)]) = stamps ttl log := by
    simp [stamps, stampOf]
  have order : (s.consume m key).2.order = s.order := by
    unfold ChallengeStore.consume
    split
    · rfl
    · rfl
  have lookup : ∀ other, (s.consume m key).2.entries.lookup other =
      if other = key then none else s.entries.lookup other := by
    intro other
    unfold ChallengeStore.consume
    split
    · next absent =>
      split
      · next own => rw [own, absent]
      · rfl
    · exact KeyMap.lookup_erase_ite s.entries key other
  refine ⟨by rw [same, order, made], by rw [order]; exact few, fun stamp member => ?_, fun other e => ?_⟩
  · rw [same]
    rcases causes stamp member with expired | many
    · exact Or.inl (Int.le_trans expired later)
    · exact Or.inr many
  · rw [lookup, order, stands_append]
    by_cases own : other = key
    · simp [own, event, Call.key]
    · rw [if_neg own, held]
      simp [event, Call.key, Ne.symm own]

theorem Retained.start {popped : List Stamp} (retained : Retained ttl latest log s popped)
    (later : latest ≤ m.now) (increasing : Increasing (log ++ [(m, .start key challenge)])) :
    ∃ gone, Retained ttl m.now (log ++ [(m, .start key challenge)]) (s.startFor ttl m key challenge)
      (popped ++ gone) := by
  obtain ⟨made, few, causes, held⟩ := retained
  have all : stamps ttl (log ++ [(m, .start key challenge)]) =
      popped ++ (s.order ++ [⟨key, m.now + ttl⟩]) := by
    have more : stamps ttl (log ++ [(m, .start key challenge)]) =
        stamps ttl log ++ [⟨key, m.now + ttl⟩] := by
      simp [stamps, stampOf]
    rw [more, made, List.append_assoc]
  have ascending := @ascending_stamps ttl _ increasing
  rw [all] at ascending
  have pushed := (List.pairwise_append.mp ascending).2.1
  obtain ⟨gone, kept, parts, drained, fits, leaving⟩ :=
    @drain_eq m.now _ (s.entries.insert key ⟨challenge, m.now + ttl⟩) pushed
  have result : s.startFor ttl m key challenge = ⟨_, kept⟩ := drained
  rw [result]
  refine ⟨gone, by rw [all, parts, List.append_assoc], fits, fun stamp member => ?_, fun other e => ?_⟩
  · rw [all]
    rcases List.mem_append.mp member with old | new
    · rcases causes stamp old with expired | many
      · exact Or.inl (Int.le_trans expired later)
      · right
        rw [made] at many
        refine many.trans (laterStamps_le ?_ stamp)
        exact List.Sublist.append_left (List.sublist_append_left _ _) _
    · rcases leaving stamp new with expired | many
      · exact Or.inl expired
      · exact Or.inr (many.trans (laterStamps_le (List.sublist_append_right _ _) stamp))
  · have spared : (∀ item ∈ gone, ¬ AgeQueue.Stamps Stamp.key Stamp.expiresAt ChallengeEntry.expiresAt
        item other e) ↔ (⟨other, e.expiresAt⟩ : Stamp) ∉ gone := by
      constructor
      · intro free member
        exact free _ member (stamps_iff.mpr rfl)
      · intro free item member stamps
        rw [stamps_iff.mp stamps] at member
        exact free member
    have still : (⟨other, e.expiresAt⟩ : Stamp) ∈ kept ↔
        (⟨other, e.expiresAt⟩ : Stamp) ∈ s.order ++ [⟨key, m.now + ttl⟩] ∧
          (⟨other, e.expiresAt⟩ : Stamp) ∉ gone := by
      rw [parts] at pushed ⊢
      have across := (List.pairwise_append.mp pushed).2.2
      constructor
      · intro member
        refine ⟨List.mem_append_right _ member, fun left => ?_⟩
        exact absurd (across _ left _ member) (Int.lt_irrefl _)
      · intro given
        obtain ⟨member, stays⟩ := given
        exact (List.mem_append.mp member).resolve_left stays
    rw [AgeQueue.lookup_popItems, KeyMap.lookup_insert_ite, spared, still, stands_append, ← and_assoc]
    refine and_congr_left fun _ => ?_
    by_cases own : other = key
    · subst own
      simp only [if_true, Option.some.injEq, event, Call.key, ne_eq, not_true, and_false, or_false,
        TimedLog.Event.added.injEq, Started.mk.injEq, true_and]
      constructor
      · intro same
        rw [← same]
        exact ⟨rfl, by simp⟩
      · exact And.left
    · rw [if_neg own, held]
      simp [event, Call.key, Ne.symm own, own]

theorem Retained.later {popped : List Stamp} {after : Int} (retained : Retained ttl latest log s popped)
    (passed : latest ≤ after) : Retained ttl after log s popped where
  made := retained.made
  few := retained.few
  causes stamp member := by
    rcases retained.causes stamp member with expired | many
    · exact Or.inl (Int.le_trans expired passed)
    · exact Or.inr many
  held := retained.held

theorem after_append : after ttl (log ++ [call]) = perform ttl (after ttl log) call := by
  simp [after, List.foldl_append]

theorem retained_after (increasing : Increasing log) (bounded : ∀ call ∈ log, call.1.now ≤ latest) :
    ∃ popped, Retained ttl latest log (after ttl log) popped := by
  induction log using List.reverseRecOn generalizing latest with
  | nil => exact ⟨[], retained_empty⟩
  | append_singleton log call ih =>
    obtain ⟨earlier, older⟩ := increasing_append.mp increasing
    have last : call.1.now ≤ latest := bounded call (by simp)
    obtain ⟨popped, before⟩ := ih earlier fun call member => Int.le_of_lt (older call member)
    rw [after_append]
    obtain ⟨m, started | consumed⟩ := call
    · obtain ⟨gone, now⟩ := before.start (Int.le_refl _) increasing
      exact ⟨popped ++ gone, now.later last⟩
    · exact ⟨popped, (before.consume (Int.le_refl _)).later last⟩

/-! ### What is consumed -/

theorem consume_iff : (s.consume m key).1 = some challenge ↔
    ∃ e, s.entries.lookup key = some e ∧ m.now ≤ e.expiresAt ∧ e.challenge = challenge := by
  unfold consume
  cases s.entries.lookup key with
  | none => simp
  | some e =>
    by_cases expired : e.expiresAt < m.now
    · have late : ¬ m.now ≤ e.expiresAt := by omega
      simp [expired, late]
    · have live : m.now ≤ e.expiresAt := by omega
      simp [expired, live]

theorem stamps_split {before behind : List (Moment × Call)} :
    stamps ttl (before ++ (m, .start key challenge) :: behind) =
      stamps ttl before ++ ⟨key, m.now + ttl⟩ :: stamps ttl behind := by
  simp [stamps, stampOf]

theorem starts_behind {before behind : List (Moment × Call)}
    (increasing : Increasing (before ++ (m, .start key challenge) :: behind)) :
    laterStamps (stamps ttl (before ++ (m, .start key challenge) :: behind)) ⟨key, m.now + ttl⟩ =
      (behind.filter fun call => call.2.isStart).length := by
  have ascending := @ascending_stamps ttl _ increasing
  rw [stamps_split] at ascending ⊢
  rw [laterStamps_split ascending, length_stamps]

theorem Retained.few_later {popped : List Stamp} {stamp : Stamp}
    (retained : Retained ttl latest log s popped) (increasing : Increasing log)
    (queued : stamp ∈ s.order) : laterStamps (stamps ttl log) stamp < kMaxEntries := by
  obtain ⟨front, behind, order⟩ := List.append_of_mem queued
  have ascending := @ascending_stamps ttl _ increasing
  have all : stamps ttl log = (popped ++ front) ++ stamp :: behind := by
    rw [retained.made, order, List.append_assoc]
  have few := retained.few
  rw [order, List.length_append, List.length_cons] at few
  rw [all] at ascending ⊢
  rw [laterStamps_split ascending]
  omega

theorem Retained.consume_iff_retains {popped : List Stamp} (retained : Retained ttl latest log s popped)
    (increasing : Increasing log) (passed : latest < m.now) :
    (s.consume m key).1 = some challenge ↔ Retains ttl log key challenge m.now := by
  rw [consume_iff]
  constructor
  · intro given
    obtain ⟨e, found, live, rfl⟩ := given
    obtain ⟨stands, queued⟩ := (retained.held key e).mp found
    obtain ⟨before, started, behind, rfl, expires, free⟩ := stands_iff.mp stands
    refine ⟨before, started, behind, rfl, free, by omega, ?_⟩
    have few := retained.few_later increasing queued
    rw [expires] at few
    rwa [starts_behind increasing] at few
  · intro given
    obtain ⟨before, started, behind, rfl, free, live, few⟩ := given
    refine ⟨⟨challenge, started.now + ttl⟩, (retained.held key _).mpr ⟨?_, ?_⟩, live, rfl⟩
    · exact stands_iff.mpr ⟨before, started, behind, rfl, rfl, free⟩
    · have made : (⟨key, started.now + ttl⟩ : Stamp) ∈ popped ++ s.order := by
        rw [← retained.made, stamps_split]
        simp
      refine (List.mem_append.mp made).resolve_left fun gone => ?_
      rcases retained.causes _ gone with expired | many
      · dsimp only at expired
        omega
      · rw [starts_behind increasing] at many
        omega

/-! ### Stale stamps -/

theorem behind_unique {x y : Moment × Call} {before behind before' behind' : List (Moment × Call)}
    (increasing : Increasing (before ++ x :: behind))
    (same : before ++ x :: behind = before' ++ y :: behind') (time : x.1.now = y.1.now) :
    behind = behind' := by
  have later : ∀ call ∈ behind, x.1.now < call.1.now :=
    (List.pairwise_cons.mp (List.pairwise_append.mp increasing).2.1).1
  rw [same] at increasing
  have later' : ∀ call ∈ behind', y.1.now < call.1.now :=
    (List.pairwise_cons.mp (List.pairwise_append.mp increasing).2.1).1
  rcases List.append_eq_append_iff.mp same with ⟨between, _, rest⟩ | ⟨between, _, rest⟩
  · cases between with
    | nil => exact (List.cons.inj rest).2
    | cons first more =>
      have there : y ∈ behind := by
        rw [(List.cons.inj rest).2]
        simp
      exact absurd (later y there) (by omega)
  · cases between with
    | nil => exact (List.cons.inj rest).2.symm
    | cons first more =>
      have there : x ∈ behind' := by
        rw [(List.cons.inj rest).2]
        simp
      exact absurd (later' x there) (by omega)

/-- The loop of a `start` finds the entries of before and the new one, less what it took away so far. The
stamp of an earlier start takes none of them if another call with its key came since. -/
theorem Retained.stale {popped : List Stamp} (retained : Retained ttl latest log s popped)
    {before behind : List (Moment × Call)} {stale : Moment} {key' : String} {challenge' : Challenge}
    (increasing : Increasing (log ++ [(m, .start key challenge)]))
    (split : log ++ [(m, .start key challenge)] = before ++ (stale, .start key' challenge') :: behind)
    (ended : ∃ call ∈ behind, call.2.key = key')
    (part : ∀ k e, entries.lookup k = some e →
      (s.entries.insert key ⟨challenge, m.now + ttl⟩).lookup k = some e) :
    dropStamped entries ⟨key', stale.now + ttl⟩ = entries := by
  obtain ⟨call, member, own⟩ := ended
  obtain ⟨increasing_log, older⟩ := increasing_append.mp increasing
  -- the start at hand is the last call, and so not the stale one
  obtain rfl | ⟨init, last, rfl⟩ := List.eq_nil_or_concat behind
  · cases member
  rw [List.concat_eq_append, ← List.cons_append, ← List.append_assoc] at split
  obtain ⟨rfl, last_eq⟩ := List.append_inj' split rfl
  obtain rfl := List.singleton_inj.mp last_eq
  have earlier : stale.now < m.now := older (stale, .start key' challenge') (by simp)
  unfold dropStamped
  cases found : entries.lookup key' with
  | none => rfl
  | some e =>
    refine if_neg fun same => ?_
    dsimp only at same
    have there := part key' e found
    rw [KeyMap.lookup_insert_ite] at there
    split at there
    · obtain rfl := Option.some.inj there
      dsimp only at same
      omega
    · next apart =>
      obtain ⟨before', started, after, parts, expires, free⟩ :=
        stands_iff.mp ((retained.held key' e).mp there).1
      obtain rfl := behind_unique increasing_log parts (by dsimp only; omega)
      rcases List.mem_append.mp (List.concat_eq_append ▸ member) with inside | new
      · exact free call inside own
      · rw [List.mem_singleton.mp new] at own
        exact apart own.symm

/-- A bounded, single-use, expiring map: for every sequence of calls with increasing times, the store
never holds more than `kMaxEntries` challenges, a later `consume` returns exactly what is retained, and
stale stamps take nothing away in the loop of a later `start`. -/
theorem challenges_retained_exactly (increasing : Increasing log) :
    (after ttl log).size ≤ kMaxEntries ∧
      ∀ m, (∀ call ∈ log, call.1.now < m.now) →
        (∀ key challenge,
          ((after ttl log).consume m key).1 = some challenge ↔ Retains ttl log key challenge m.now) ∧
        ∀ key challenge before stale key' challenge' behind,
          log ++ [(m, .start key challenge)] = before ++ (stale, .start key' challenge') :: behind →
          (∃ call ∈ behind, call.2.key = key') →
          ∀ entries : KeyMap String ChallengeEntry, (∀ k e, entries.lookup k = some e →
              ((after ttl log).entries.insert key ⟨challenge, m.now + ttl⟩).lookup k = some e) →
            dropStamped entries ⟨key', stale.now + ttl⟩ = entries := by
  constructor
  · obtain ⟨latest, bounded⟩ : ∃ latest : Int, ∀ call ∈ log, call.1.now ≤ latest := by
      induction log using List.reverseRecOn with
      | nil => exact ⟨0, fun call member => by cases member⟩
      | append_singleton earlier last _ =>
        refine ⟨last.1.now, fun call member => ?_⟩
        rcases List.mem_append.mp member with before | same
        · exact Int.le_of_lt ((increasing_append.mp increasing).2 call before)
        · obtain rfl := List.mem_singleton.mp same
          exact Int.le_refl _
    obtain ⟨popped, retained⟩ := @retained_after ttl latest log increasing bounded
    have queued : AgeQueue.Queued Stamp.key Stamp.expiresAt ChallengeEntry.expiresAt
        (after ttl log).entries (after ttl log).order := by
      intro key e found
      exact ⟨_, ((retained.held key e).mp found).2, rfl, rfl⟩
    exact queued.length_le.trans retained.few
  · intro m later
    obtain ⟨popped, retained⟩ := @retained_after ttl (m.now - 1) log increasing fun call member => by
      have lt := later call member
      omega
    refine ⟨fun key challenge => retained.consume_iff_retains increasing (by omega), ?_⟩
    intro key challenge before stale key' challenge' behind split ended entries part
    exact retained.stale (increasing_append.mpr ⟨increasing, later⟩) split ended part

def momentAt (now : Int) : Moment := ⟨now, fun _ => none, true⟩

def restarted : List (Moment × Call) :=
  [(momentAt 1, .start "register:root" [1]), (momentAt 2, .start "register:root" [2]),
    (momentAt 3, .consume "login:token")]

theorem challenges_retained_restarted :
    (after 10 restarted).size ≤ kMaxEntries ∧
      (((after 10 restarted).consume (momentAt 4) "register:root").1 = some [2] ↔
        Retains 10 restarted "register:root" [2] 4) ∧
      ((after 10 restarted).consume (momentAt 4) "register:root").1 = some [2] :=
  have exact := @challenges_retained_exactly 10 restarted (by decide)
  ⟨exact.1, ((exact.2 (momentAt 4) (by decide)).1 "register:root" [2]), by decide⟩

end Atomwall.ChallengeStore
