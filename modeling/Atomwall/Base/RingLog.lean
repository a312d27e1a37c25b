import Mathlib.Data.List.Basic

/-!
A log that numbers its events and keeps the last of them, measured against the list of everything
that was ever recorded.
-/

/-- An event with the number it was recorded under. -/
structure Numbered (Event : Type*) where
  seq : Nat
  event : Event
  deriving DecidableEq

/-- A bounded buffer, oldest entry first. -/
structure RingLog (Event : Type*) where
  capacity : Nat
  buffer : List (Numbered Event) := []
  nextSeq : Nat := 1

namespace RingLog

variable {Event : Type*}

/-- Pops from the front until no more than `capacity` entries are left. -/
def popExcess (capacity : Nat) : List (Numbered Event) → List (Numbered Event)
  | [] => []
  | first :: rest =>
    if capacity < rest.length + 1 then popExcess capacity rest else first :: rest

def record (log : RingLog Event) (event : Event) : RingLog Event :=
  { log with
    buffer := popExcess log.capacity (log.buffer ++ [⟨log.nextSeq, event⟩])
    nextSeq := log.nextSeq + 1 }

/-- The log once the events were recorded, from the first to the last. -/
def ofEvents (capacity : Nat) (events : List Event) : RingLog Event := events.foldl record { capacity }

/-- Appends the entries after `since` to `result` until it has `limit` of them. -/
def collect (since limit : Nat) (result : List (Numbered Event)) :
    List (Numbered Event) → List (Numbered Event)
  | [] => result
  | entry :: rest =>
    if since < entry.seq then
      if limit ≤ (result ++ [entry]).length then result ++ [entry]
      else collect since limit (result ++ [entry]) rest
    else collect since limit result rest

def eventsSince (log : RingLog Event) (since : Nat) (limit : Nat := 500) : List (Numbered Event) :=
  collect since limit [] log.buffer

def latestSeq (log : RingLog Event) : Nat := log.nextSeq - 1

def recent (log : RingLog Event) (limit : Nat) : List (Numbered Event) :=
  log.buffer.drop (log.buffer.length - min limit log.buffer.length)

theorem popExcess_eq (capacity : Nat) (entries : List (Numbered Event)) :
    popExcess capacity entries = entries.drop (entries.length - capacity) := by
  induction entries with
  | nil => simp [popExcess]
  | cons first rest ih =>
    unfold popExcess
    split
    · have more : (first :: rest).length - capacity = rest.length - capacity + 1 := by
        rw [List.length_cons]
        omega
      rw [more, List.drop_succ_cons, ih]
    · have fits : (first :: rest).length - capacity = 0 := by
        rw [List.length_cons]
        omega
      rw [fits, List.drop_zero]

theorem collect_eq {since limit : Nat} {result entries : List (Numbered Event)}
    (room : result.length < max 1 limit) :
    collect since limit result entries =
      result ++ (entries.filter (since < ·.seq)).take (max 1 limit - result.length) := by
  induction entries generalizing result with
  | nil => simp [collect]
  | cons entry rest ih =>
    by_cases after : since < entry.seq
    · have left : max 1 limit - result.length = max 1 limit - (result.length + 1) + 1 := by omega
      have kept : (entry :: rest).filter (since < ·.seq) = entry :: rest.filter (since < ·.seq) := by
        simp [after]
      rw [collect, if_pos after, kept, left, List.take_succ_cons]
      by_cases full : limit ≤ (result ++ [entry]).length
      · have none : max 1 limit - (result.length + 1) = 0 := by
          rw [List.length_append, List.length_singleton] at full
          omega
        rw [if_pos full, none, List.take_zero]
      · have more : (result ++ [entry]).length < max 1 limit := by omega
        rw [if_neg full, ih more, List.length_append, List.length_singleton, List.append_assoc,
          List.singleton_append]
    · have dropped : (entry :: rest).filter (since < ·.seq) = rest.filter (since < ·.seq) := by
        simp [after]
      rw [collect, if_neg after, dropped, ih room]

/-! ### Against everything recorded -/

/-- Numbered from `first` on without a gap. -/
def From (first : Nat) (entries : List (Numbered Event)) : Prop :=
  entries.map Numbered.seq = List.range' first entries.length

theorem from_cons {first : Nat} {entry : Numbered Event} {rest : List (Numbered Event)} :
    From first (entry :: rest) ↔ entry.seq = first ∧ From (first + 1) rest := by
  simp [From, List.range'_succ]

theorem from_append {first : Nat} {before after : List (Numbered Event)} :
    From first (before ++ after) ↔ From first before ∧ From (first + before.length) after := by
  induction before generalizing first with
  | nil => simp [From]
  | cons entry rest ih =>
    rw [List.cons_append, from_cons, from_cons, ih, List.length_cons, and_assoc, Nat.add_right_comm,
      Nat.add_assoc]

theorem from_drop {first i : Nat} {entries : List (Numbered Event)} (h : From first entries)
    (within : i ≤ entries.length) : From (first + i) (entries.drop i) := by
  rw [← List.take_append_drop i entries, from_append, List.length_take_of_le within] at h
  exact h.2

theorem from_take {first : Nat} {entries : List (Numbered Event)} (h : From first entries) (i : Nat) :
    From first (entries.take i) := by
  rw [← List.take_append_drop i entries, from_append] at h
  exact h.1

theorem mem_seqs {first n : Nat} {entries : List (Numbered Event)} (h : From first entries) :
    n ∈ entries.map Numbered.seq ↔ first ≤ n ∧ n < first + entries.length := by
  rw [h, List.mem_range'_1]

theorem seq_bounds {first : Nat} {entries : List (Numbered Event)} (h : From first entries)
    {entry : Numbered Event} (member : entry ∈ entries) :
    first ≤ entry.seq ∧ entry.seq < first + entries.length :=
  (mem_seqs h).mp (List.mem_map_of_mem member)

theorem from_increasing {first : Nat} {entries : List (Numbered Event)} (h : From first entries) :
    (entries.map Numbered.seq).Pairwise (· < ·) := by
  rw [h]
  exact List.pairwise_lt_range'

theorem mem_take {first i : Nat} {entries : List (Numbered Event)} (h : From first entries)
    {entry : Numbered Event} : entry ∈ entries.take i ↔ entry ∈ entries ∧ entry.seq < first + i := by
  constructor
  · intro member
    have bounds := seq_bounds (from_take h i) member
    rw [List.length_take] at bounds
    exact ⟨List.mem_of_mem_take member, by omega⟩
  · intro given
    obtain ⟨member, early⟩ := given
    by_cases within : i ≤ entries.length
    · rw [← List.take_append_drop i entries, List.mem_append] at member
      rcases member with kept | later
      · exact kept
      · have bounds := seq_bounds (from_drop h within) later
        omega
    · rw [List.take_of_length_le (by omega)]
      exact member

theorem filter_after {first since : Nat} {entries : List (Numbered Event)} (h : From first entries) :
    entries.filter (since < ·.seq) = entries.drop (since + 1 - first) := by
  induction entries generalizing first with
  | nil => simp
  | cons entry rest ih =>
    obtain ⟨rfl, later⟩ := from_cons.mp h
    by_cases after : since < entry.seq
    · have whole : since + 1 - (entry.seq + 1) = 0 := by omega
      have all : since + 1 - entry.seq = 0 := by omega
      rw [List.filter_cons_of_pos (by simpa using after), ih later, whole, all, List.drop_zero,
        List.drop_zero]
    · have next : since + 1 - entry.seq = since + 1 - (entry.seq + 1) + 1 := by omega
      rw [List.filter_cons_of_neg (by simpa using after), ih later, next, List.drop_succ_cons]

/-- The log holds the last `capacity` entries of what was recorded. -/
structure Keeps (log : RingLog Event) (recorded : List (Numbered Event)) : Prop where
  next : log.nextSeq = recorded.length + 1
  seqs : From 1 recorded
  buffer : log.buffer = recorded.drop (recorded.length - log.capacity)

theorem keeps_empty (capacity : Nat) : Keeps ({ capacity } : RingLog Event) [] :=
  ⟨rfl, rfl, by simp⟩

theorem keeps_record {log : RingLog Event} {recorded : List (Numbered Event)}
    (keeps : Keeps log recorded) (event : Event) :
    Keeps (log.record event) (recorded ++ [⟨log.nextSeq, event⟩]) := by
  obtain ⟨next, seqs, buffer⟩ := keeps
  refine ⟨?_, from_append.mpr ⟨seqs, ?_⟩, ?_⟩
  · simp [record, next]
  · simp [From, next, Nat.add_comm]
  · -- dropping from the kept entries is dropping from all of them
    let entry : Numbered Event := ⟨log.nextSeq, event⟩
    show popExcess log.capacity (log.buffer ++ [entry]) =
      (recorded ++ [entry]).drop ((recorded ++ [entry]).length - log.capacity)
    have within : recorded.length - log.capacity ≤ recorded.length := by omega
    rw [popExcess_eq, buffer, ← List.drop_append_of_le_length within, List.drop_drop]
    congr 1
    simp only [List.length_drop, List.length_append, List.length_singleton]
    omega

theorem latestSeq_eq {log : RingLog Event} {recorded : List (Numbered Event)}
    (keeps : Keeps log recorded) : log.latestSeq = recorded.length := by
  rw [latestSeq, keeps.next, Nat.add_sub_cancel]

theorem buffer_from {log : RingLog Event} {recorded : List (Numbered Event)}
    (keeps : Keeps log recorded) : From (1 + (recorded.length - log.capacity)) log.buffer := by
  rw [keeps.buffer]
  exact from_drop keeps.seqs (Nat.sub_le _ _)

theorem mem_buffer {log : RingLog Event} {recorded : List (Numbered Event)}
    (keeps : Keeps log recorded) {n : Nat} :
    n ∈ log.buffer.map Numbered.seq ↔
      recorded.length - log.capacity < n ∧ n ≤ recorded.length := by
  have length : log.buffer.length = recorded.length - (recorded.length - log.capacity) := by
    rw [keeps.buffer, List.length_drop]
  rw [mem_seqs (buffer_from keeps), length]
  omega

/-- A poll returns what was recorded after `since`, from the oldest entry that is still kept on. -/
theorem eventsSince_eq {log : RingLog Event} {recorded : List (Numbered Event)}
    (keeps : Keeps log recorded) (since limit : Nat) :
    log.eventsSince since limit =
      (recorded.drop (max since (recorded.length - log.capacity))).take (max 1 limit) := by
  have start : recorded.length - log.capacity +
      (since + 1 - (1 + (recorded.length - log.capacity))) =
        max since (recorded.length - log.capacity) := by omega
  rw [eventsSince, collect_eq (by simp only [List.length_nil]; omega), filter_after (buffer_from keeps),
    keeps.buffer, List.drop_drop, start]
  rfl

/-- The newest `limit` of the entries that are kept. -/
theorem recent_eq {log : RingLog Event} {recorded : List (Numbered Event)} (keeps : Keeps log recorded)
    (limit : Nat) : log.recent limit = recorded.drop (recorded.length - min limit log.capacity) := by
  rw [recent, keeps.buffer, List.drop_drop, List.length_drop]
  congr 1
  omega

/-! ### A log from its events -/

/-- The events with the numbers that they are recorded under. -/
def numbered (events : List Event) : List (Numbered Event) := (events.zipIdx 1).map fun item => ⟨item.2, item.1⟩

theorem capacity_foldl (log : RingLog Event) (events : List Event) :
    (events.foldl record log).capacity = log.capacity := by
  induction events generalizing log with
  | nil => rfl
  | cons event rest ih => exact ih (log.record event)

theorem keeps_foldl {log : RingLog Event} {recorded : List (Numbered Event)} (keeps : Keeps log recorded)
    (events : List Event) : Keeps (events.foldl record log)
      (recorded ++ (events.zipIdx (recorded.length + 1)).map fun item => ⟨item.2, item.1⟩) := by
  induction events generalizing log recorded with
  | nil => simpa using keeps
  | cons event rest ih =>
    have first := keeps_record keeps event
    have later := ih first
    rw [keeps.next] at first later
    rw [List.foldl_cons, List.zipIdx_cons, List.map_cons]
    rwa [List.length_append, List.length_singleton, List.append_assoc] at later

theorem keeps_ofEvents (capacity : Nat) (events : List Event) : Keeps (ofEvents capacity events) (numbered events) :=
  keeps_foldl (keeps_empty capacity) events

/-- The newest `limit` of the `capacity` events that are kept, in the order in which they came. -/
theorem recent_ofEvents (capacity limit : Nat) (events : List Event) :
    (ofEvents capacity events).recent limit = (numbered events).drop (events.length - min limit capacity) := by
  have length : (numbered events).length = events.length := by simp [numbered]
  have same : (ofEvents capacity events).capacity = capacity := capacity_foldl _ events
  rw [recent_eq (keeps_ofEvents capacity events), length, same]

end RingLog
