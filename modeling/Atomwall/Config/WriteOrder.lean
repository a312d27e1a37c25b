import Atomwall.Base.WriteBehind
import Atomwall.Config.Persistence

/-!
`ConfigStore` as a queue behind a background writer. Polls, external edits and throwing mutators touch `current_`
and the file, but never the snapshots on their way, so every run of the store is a run of the queue.
-/

namespace Atomwall.ConfigStore

variable {Config Text : Type} {codec : YamlCodec Config Text}

def Recorded.queue (r : Recorded Config Text) : WriteBehind Config where
  fresh := r.store.update.held
  pending := r.store.pendingWrite
  held := r.store.writer.held
  published := r.published
  written := r.written

/-- What the action is to the queue. -/
inductive Queues : Recorded Config Text → Action Config Text → WriteBehind.Action Config → Prop where
  | swap {r base mutator snapshot} (copied : r.store.update = .copied base) (returns : mutator base = some snapshot) :
      Queues r (.updateSwap mutator) (.publish snapshot)
  | enqueue {r} : Queues r .updateEnqueue (.move .enqueue)
  | take {r} : Queues r .writerTake (.move .take)
  | rename {r mtime} : Queues r (.writerRename mtime) (.move .write)
  | fail {r} : Queues r .writerFail (.move .fail)

theorem step_queue {r next : Recorded Config Text} {a : Action Config Text} (h : Recorded.step codec r a = some next) :
    next.queue = r.queue ∨ ∃ b, Queues r a b ∧ WriteBehind.step r.queue b = some next.queue := by
  obtain ⟨t, taken, rfl⟩ := Option.map_eq_some_iff.mp h
  cases step_transition taken with
  | updateCopy free => exact Or.inl (by simp [Recorded.queue, free, UpdatePhase.held, publishes, writes])
  | updateThrow copied throws =>
    exact Or.inl (by simp [Recorded.queue, copied, throws, UpdatePhase.held, publishes, writes])
  | updateSwap copied returns =>
    refine Or.inr ⟨_, .swap copied returns, ?_⟩
    simp [Recorded.queue, WriteBehind.step, WriteBehind.publish, copied, returns, UpdatePhase.held, publishes, writes]
  | updateEnqueue published =>
    refine Or.inr ⟨_, .enqueue, ?_⟩
    simp [Recorded.queue, WriteBehind.step, WriteBehind.move, published, UpdatePhase.held, publishes, writes]
  | writerTake waiting queued =>
    refine Or.inr ⟨_, .take, ?_⟩
    simp [Recorded.queue, WriteBehind.step, WriteBehind.move, waiting, queued, WriterPhase.held, publishes, writes]
  | writerExit waiting => exact Or.inl (by simp [Recorded.queue, waiting, WriterPhase.held, publishes, writes])
  | writerRename took =>
    refine Or.inr ⟨_, .rename, ?_⟩
    simp [Recorded.queue, WriteBehind.step, WriteBehind.move, took, WriterPhase.held, publishes, writes]
  | writerStore renamed => exact Or.inl (by simp [Recorded.queue, renamed, WriterPhase.held, publishes, writes])
  | writeFail took =>
    refine Or.inr ⟨_, .fail, ?_⟩
    simp [Recorded.queue, WriteBehind.step, WriteBehind.move, took, WriterPhase.held, publishes, writes]
  | storeFail renamed => exact Or.inl (by simp [Recorded.queue, renamed, WriterPhase.held, publishes, writes])
  | _ => exact Or.inl (by simp [Recorded.queue, publishes, writes])

/-- Whatever fails and whoever edits the file: the snapshots up to the one written last stay so, and later writes
only add newer ones. -/
theorem queue_durable {r next : Recorded Config Text} {actions : List (Action Config Text)} {lost kept : List Config}
    (durable : r.queue.Durable lost kept) (h : Lts.run (Recorded.step codec) r actions = some next) :
    ∃ rest more, next.queue.Durable rest (more ++ kept) := by
  obtain ⟨others, -, taken⟩ := Lts.run_matched (fun _ _ _ => step_queue) h
  exact WriteBehind.run_durable durable taken

end Atomwall.ConfigStore
