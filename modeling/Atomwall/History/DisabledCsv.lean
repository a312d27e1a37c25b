import Atomwall.History.RequestLog

/-!
`RequestLog` after `writer_loop` could not open its file. The thread has ended, and `record()` still
queues every event for it.
-/

namespace Atomwall.RequestLog

def held (s : State) : Nat :=
  s.ring.buffer.length + s.pendingBatch.length + s.writeQueue.flatten.length

/-- As long as the file is not open, whatever was recorded is queued or pending. -/
structure Queues (capacity : Nat) (s : State) : Prop where
  enabled : s.csvPath ≠ ""
  room : s.ring.capacity = capacity
  numbers : s.ring.Keeps s.recorded
  all : s.writer = .opening ∨ s.writer = .gaveUp → s.writeQueue.flatten ++ s.pendingBatch = s.recorded

variable {capacity : Nat} {csvPath : String} {file : Option String} {s t : State} {a : Action}

theorem queues_make (enabled : csvPath ≠ "") : Queues capacity (make capacity csvPath file) where
  enabled := enabled
  room := rfl
  numbers := RingLog.keeps_empty capacity
  all _ := rfl

theorem step_queues (inv : Queues capacity s) (h : step s a = some t) : Queues capacity t := by
  obtain ⟨enabled, room, numbers, all⟩ := inv
  cases step_transition h with
  | recordOnly disabled => exact absurd disabled enabled
  | @recordPending event _ fits =>
    refine ⟨enabled, room, RingLog.keeps_record numbers event, fun unopened => ?_⟩
    show s.writeQueue.flatten ++ (s.pendingBatch ++ [entryOf s event]) = s.recorded ++ [entryOf s event]
    rw [← List.append_assoc, all unopened]
  | @recordFull event _ full =>
    refine ⟨enabled, room, RingLog.keeps_record numbers event, fun unopened => ?_⟩
    show (s.writeQueue ++ [s.pendingBatch ++ [entryOf s event]]).flatten ++ [] =
      s.recorded ++ [entryOf s event]
    rw [List.flatten_append, List.flatten_singleton, List.append_nil, ← List.append_assoc, all unopened]
  | opened opening => exact ⟨enabled, room, numbers, by simp⟩
  | gaveUp opening => exact ⟨enabled, room, numbers, fun _ => all (Or.inl opening)⟩
  | swap waiting queued => exact ⟨enabled, room, numbers, by simp⟩
  | exit waiting drained stopped => exact ⟨enabled, room, numbers, by simp⟩
  | writeRow writing => exact ⟨enabled, room, numbers, by simp⟩
  | flush written => exact ⟨enabled, room, numbers, by simp⟩
  | closeDisabled absent => exact ⟨enabled, room, numbers, all⟩
  | close present drained => exact ⟨enabled, room, numbers, all⟩
  | closeFlush present partly =>
    refine ⟨enabled, room, numbers, fun unopened => ?_⟩
    rw [List.flatten_append, List.flatten_singleton, List.append_nil]
    exact all unopened

theorem held_gaveUp {actions : List Action} (enabled : csvPath ≠ "")
    (h : Lts.run step (make capacity csvPath file) actions = some s) (gone : s.writer = .gaveUp) :
    held s = s.recorded.length + min capacity s.recorded.length := by
  have inv : Queues capacity s := Lts.run_invariant (fun _ _ _ inv _ taken => step_queues inv taken)
    (queues_make enabled) (Lts.meets_of_forall (fun _ _ => trivial) _ actions) h
  have queued := congrArg List.length (inv.all (Or.inr gone))
  rw [List.length_append] at queued
  unfold held
  rw [inv.numbers.buffer, List.length_drop, inv.room]
  omega

/-- The file cannot be opened, and then events are recorded. -/
def disabledRun (n : Nat) : List Action := .openFile false :: List.replicate n (.record sampleVisit)

theorem records_gaveUp (n : Nat) (enabled : s.csvPath ≠ "") (gone : s.writer = .gaveUp) :
    ∃ t, Lts.run step s (List.replicate n (.record sampleVisit)) = some t ∧ t.writer = .gaveUp ∧
      t.recorded.length = s.recorded.length + n := by
  induction n generalizing s with
  | zero => exact ⟨s, rfl, gone, rfl⟩
  | succ n ih =>
    obtain ⟨next, first, path, phase, more⟩ : ∃ next, step s (.record sampleVisit) = some next ∧
        next.csvPath = s.csvPath ∧ next.writer = s.writer ∧
        next.recorded.length = s.recorded.length + 1 := by
      simp only [step, if_neg enabled]
      split
      · exact ⟨_, rfl, rfl, rfl, by simp⟩
      · exact ⟨_, rfl, rfl, rfl, by simp⟩
    obtain ⟨t, later, kept, length⟩ := ih (s := next) (by rw [path]; exact enabled) (by rw [phase, gone])
    refine ⟨t, Lts.run_cons_some.mpr ⟨next, first, later⟩, kept, ?_⟩
    omega

theorem disabledRun_gaveUp (n : Nat) (enabled : csvPath ≠ "") :
    ∃ s, Lts.run step (make capacity csvPath file) (disabledRun n) = some s ∧ s.writer = .gaveUp ∧
      s.recorded.length = n := by
  have opening : (make capacity csvPath file).writer = .opening := if_neg enabled
  have first : step (make capacity csvPath file) (.openFile false) =
      some { make capacity csvPath file with writer := .gaveUp } := by
    simp only [step, opening]
    rfl
  obtain ⟨s, later, gone, length⟩ := records_gaveUp (s := { make capacity csvPath file with
    writer := .gaveUp }) n enabled rfl
  refine ⟨s, Lts.run_cons_some.mpr ⟨_, first, later⟩, gone, ?_⟩
  rw [length]
  exact Nat.zero_add n

/-- Whatever the capacity and the path: in the runs whose file cannot be opened, the log holds every
event that was recorded and those of its buffer once more, so that no bound holds for all of them. -/
theorem disabled_log_unbounded (capacity : Nat) {csvPath : String} (file : Option String)
    (enabled : csvPath ≠ "") :
    (∀ actions s, Lts.run step (make capacity csvPath file) actions = some s → s.writer = .gaveUp →
        held s = s.recorded.length + min capacity s.recorded.length) ∧
      ∀ bound, ∃ actions s, Lts.run step (make capacity csvPath file) actions = some s ∧
        s.writer = .gaveUp ∧ bound < held s := by
  refine ⟨fun actions s h gone => held_gaveUp enabled h gone, fun bound => ?_⟩
  obtain ⟨s, h, gone, length⟩ := @disabledRun_gaveUp capacity csvPath file (bound + 1) enabled
  refine ⟨disabledRun (bound + 1), s, h, gone, ?_⟩
  rw [held_gaveUp enabled h gone]
  omega

theorem disabled_log_unbounded_default :
    (∀ actions s, Lts.run step (make 5000 "data/requests.csv" none) actions = some s →
        s.writer = .gaveUp → held s = s.recorded.length + min 5000 s.recorded.length) ∧
      ∀ bound, ∃ actions s, Lts.run step (make 5000 "data/requests.csv" none) actions = some s ∧
        s.writer = .gaveUp ∧ bound < held s :=
  disabled_log_unbounded 5000 none (by decide)

theorem no_memory_bound :
    ¬ ∃ bound : Nat → Nat → Nat, ∀ (capacity : Nat) (csvPath : String) (file : Option String)
      (actions : List Action) (s : State), csvPath ≠ "" →
      Lts.run step (make capacity csvPath file) actions = some s → s.writer = .gaveUp →
      held s ≤ bound capacity kCsvBatchSize := by
  intro claim
  obtain ⟨bound, bounded⟩ := claim
  have enabled : "data/requests.csv" ≠ "" := by decide
  obtain ⟨s, h, gone, length⟩ :=
    @disabledRun_gaveUp 1 "data/requests.csv" none (bound 1 kCsvBatchSize + 1) enabled
  have most := bounded 1 "data/requests.csv" none _ s enabled h gone
  rw [held_gaveUp enabled h gone] at most
  omega

end Atomwall.RequestLog
