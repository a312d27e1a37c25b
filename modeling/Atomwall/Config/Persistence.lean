import Atomwall.Config.PollRaces
import Mathlib.Data.Fintype.EquivFin

/-!
What reaches the file. `update()` publishes under `mutex_` and queues under `writer_mutex_`, and a
snapshot in `pending_write_` is replaced by the next one; `write_mutex_` spans both sections, so the
writer skips snapshots but never swaps two of them, and it exits with nothing left to write.
-/

namespace Atomwall.ConfigStore

variable {Config Text : Type} {codec : YamlCodec Config Text}

/-! ### The destructor returns -/

def Action.OfWriter : Action Config Text → Prop
  | .writerTake | .writerRename _ | .writerStore => True
  | _ => False

/-- The writer's own steps lead it out of its loop. -/
def Exits (codec : YamlCodec Config Text) (s : State Config Text) : Prop :=
  Lts.Reaches (step codec) Action.OfWriter (fun t => t.writer = .exited) s

theorem exits_of_waiting {pending : Option Config}
    (free : ∀ s : State Config Text, s.stop = true → s.writer = .waiting →
      s.pendingWrite = pending → Exits codec s)
    (s : State Config Text) (stop : s.stop = true) (queued : s.pendingWrite = pending) :
    Exits codec s := by
  have stored : ∀ (s : State Config Text) (written : Nat), s.stop = true →
      s.pendingWrite = pending → s.writer = .renamed written → Exits codec s := by
    intro s written stop queued renamed
    have first : step codec s .writerStore =
        some { s with lastMtime := s.disk.mtime, writer := .waiting } := by simp only [step, renamed]
    exact Lts.reaches_of_step first trivial (free _ stop rfl queued)
  cases writing : s.writer with
  | waiting => exact free s stop writing queued
  | took snapshot =>
    obtain ⟨mtime, fresh⟩ := Infinite.exists_notMem_finset s.mtimes.toFinset
    have unused : mtime ∉ s.mtimes := fun used => fresh (List.mem_toFinset.mpr used)
    have first : step codec s (.writerRename mtime) =
        some { s with disk := ⟨codec.toYaml snapshot, mtime⟩, writer := .renamed mtime,
                      mtimes := mtime :: s.mtimes } := by
      simp only [step, writing, unused, if_false]
    exact Lts.reaches_of_step first trivial (stored _ mtime stop queued rfl)
  | renamed written => exact stored s written stop queued writing
  | exited => exact Lts.reaches_here writing

/-- Once `stop_` is set, the writer writes what is pending and exits. -/
theorem stopped_exits (s : State Config Text) (stop : s.stop = true) : Exits codec s := by
  have drained : ∀ s : State Config Text, s.stop = true → s.writer = .waiting →
      s.pendingWrite = none → Exits codec s := by
    intro s stop waiting nothing
    have first : step codec s .writerTake = some { s with writer := .exited } := by
      simp only [step, waiting, nothing, stop, if_true]
    exact Lts.reaches_of_step first trivial (Lts.reaches_here rfl)
  cases queued : s.pendingWrite with
  | none => exact exits_of_waiting drained s stop queued
  | some snapshot =>
    refine exits_of_waiting (fun s stop waiting queued => ?_) s stop queued
    have first : step codec s .writerTake =
        some { s with writer := .took snapshot, pendingWrite := none } := by
      simp only [step, waiting, queued]
    exact Lts.reaches_of_step first trivial (exits_of_waiting drained _ stop rfl)

/-! ### The order of the writes -/

/-- The store with the snapshots its updates have published and those its writer has renamed onto the
file, newest first. -/
structure Recorded (Config Text : Type) where
  store : State Config Text
  published : List Config := []
  written : List Config := []

def publishes (s : State Config Text) : Action Config Text → Option Config
  | .updateSwap mutator =>
    match s.update with
    | .copied base => mutator base
    | _ => none
  | _ => none

def writes (s : State Config Text) : Action Config Text → Option Config
  | .writerRename _ => s.writer.held
  | _ => none

def Recorded.step (codec : YamlCodec Config Text) (r : Recorded Config Text)
    (a : Action Config Text) : Option (Recorded Config Text) :=
  (ConfigStore.step codec r.store a).map fun next =>
    { store := next
      published := (publishes r.store a).toList ++ r.published
      written := (writes r.store a).toList ++ r.written }

/-- No edit, no poll, no failing write, and no update while the destructor runs. -/
def Undisturbed (r : Recorded Config Text) : Action Config Text → Prop
  | .edit .. | .pollStat | .pollCompare | .pollRead | .pollSwap | .writerFail => False
  | .updateCopy => r.store.stop = false
  | .shutdown => r.store.update = .idle
  | _ => True

/-- The snapshots between `current_` and the file, newest first. -/
def onTheWay (s : State Config Text) : List Config :=
  s.update.held.toList ++ s.pendingWrite.toList ++ s.writer.held.toList

/-- What is on its way or written is a part of what was published, its newest snapshot included, and
the file holds what was written last. -/
structure InOrder (codec : YamlCodec Config Text) (file : File Text) (r : Recorded Config Text) :
    Prop where
  kept : (onTheWay r.store ++ r.written).Sublist r.published
  newest : (onTheWay r.store ++ r.written).head? = r.published.head?
  disk : r.store.disk.text = (r.written.head?.map codec.toYaml).getD file.text
  stopped : r.store.stop = true → r.store.update = .idle
  exited : r.store.writer = .exited → r.store.stop = true ∧ r.store.pendingWrite = none

theorem step_inOrder {file : File Text} {r next : Recorded Config Text} {a : Action Config Text}
    (inv : InOrder codec file r) (cond : Undisturbed r a)
    (h : Recorded.step codec r a = some next) : InOrder codec file next := by
  obtain ⟨kept, newest, disk, stopped, exited⟩ := inv
  obtain ⟨t, taken, rfl⟩ := Option.map_eq_some_iff.mp h
  cases step_transition taken with
  | updateCopy free =>
    refine ⟨?_, ?_, disk, ?_, exited⟩
    · simpa [onTheWay, UpdatePhase.held, free, publishes, writes] using kept
    · simpa [onTheWay, UpdatePhase.held, free, publishes, writes] using newest
    · intro stop
      exact absurd (stop.symm.trans cond) (by decide)
  | updateThrow copied throws =>
    refine ⟨?_, ?_, disk, fun _ => rfl, exited⟩
    · simpa [onTheWay, UpdatePhase.held, copied, throws, publishes, writes] using kept
    · simpa [onTheWay, UpdatePhase.held, copied, throws, publishes, writes] using newest
  | @updateSwap base mutator snapshot copied returns =>
    refine ⟨?_, ?_, disk, ?_, exited⟩
    · have longer := kept.cons_cons snapshot
      simpa [onTheWay, UpdatePhase.held, copied, returns, publishes, writes] using longer
    · simp [onTheWay, UpdatePhase.held, copied, returns, publishes]
    · intro stop
      exact absurd (copied.symm.trans (stopped stop)) (by simp)
  | @updateEnqueue snapshot swapped =>
    -- a snapshot still in `pending_write_` is skipped
    have skip : (snapshot :: (r.store.writer.held.toList ++ r.written)).Sublist r.published := by
      refine List.Sublist.trans (List.Sublist.cons_cons snapshot ?_) (by
        simpa [onTheWay, swapped, UpdatePhase.held] using kept)
      exact List.sublist_append_right _ _
    refine ⟨?_, ?_, disk, fun _ => rfl, ?_⟩
    · simpa [onTheWay, UpdatePhase.held, publishes, writes] using skip
    · simpa [onTheWay, UpdatePhase.held, swapped, publishes, writes] using newest
    · intro out
      have free := stopped (exited out).1
      exact absurd (swapped.symm.trans free) (by simp)
  | writerTake waiting queued =>
    refine ⟨?_, ?_, disk, stopped, by simp⟩
    · simpa [onTheWay, WriterPhase.held, waiting, queued, publishes, writes] using kept
    · simpa [onTheWay, WriterPhase.held, waiting, queued, publishes, writes] using newest
  | writerExit waiting drained stop =>
    refine ⟨?_, ?_, disk, stopped, fun _ => ⟨stop, drained⟩⟩
    · simpa [onTheWay, WriterPhase.held, waiting, publishes, writes] using kept
    · simpa [onTheWay, WriterPhase.held, waiting, publishes, writes] using newest
  | @writerRename snapshot mtime took fresh =>
    refine ⟨?_, ?_, ?_, stopped, by simp⟩
    · simpa [onTheWay, WriterPhase.held, took, publishes, writes] using kept
    · simpa [onTheWay, WriterPhase.held, took, publishes, writes] using newest
    · simp [writes, took, WriterPhase.held]
  | writerStore renamed =>
    refine ⟨?_, ?_, disk, stopped, by simp⟩
    · simpa [onTheWay, WriterPhase.held, renamed, publishes, writes] using kept
    · simpa [onTheWay, WriterPhase.held, renamed, publishes, writes] using newest
  | shutdown => exact ⟨kept, newest, disk, fun _ => cond, fun out => ⟨rfl, (exited out).2⟩⟩
  | writeFail | storeFail | pollStat | pollSame | pollDiffers | pollUnparsable | pollRead | pollSwap
  | edit => exact cond.elim

/-- Along the steps of updates, the writer and the destructor, the snapshots written are some of the
published ones in the order of their publication, and when the writer has exited, and so the
destructor returns, the file holds the last of them: the loaded text where there was none. -/
theorem persisted_in_order {file : File Text} {start : State Config Text} {r : Recorded Config Text}
    {actions : List (Action Config Text)} (loaded : load codec file = some start)
    (undisturbed : Lts.Meets (Recorded.step codec) Undisturbed ⟨start, [], []⟩ actions)
    (h : Lts.run (Recorded.step codec) ⟨start, [], []⟩ actions = some r) :
    r.written.Sublist r.published ∧
      (r.store.writer = .exited →
        r.store.disk.text = (r.published.head?.map codec.toYaml).getD file.text) := by
  obtain ⟨config, parses, rfl⟩ := load_some loaded
  have start : InOrder codec file ⟨loadedState file config, [], []⟩ :=
    ⟨by simp [onTheWay, loadedState, UpdatePhase.held, WriterPhase.held],
      by simp [onTheWay, loadedState, UpdatePhase.held, WriterPhase.held],
      rfl, fun _ => rfl, by simp [loadedState]⟩
  obtain ⟨kept, newest, disk, stopped, exited⟩ :=
    Lts.run_invariant (fun _ _ _ => step_inOrder) start undisturbed h
  refine ⟨(List.sublist_append_right _ _).trans kept, fun out => ?_⟩
  obtain ⟨stop, drained⟩ := exited out
  have nothing : onTheWay r.store = [] := by
    simp [onTheWay, stopped stop, drained, out, UpdatePhase.held, WriterPhase.held]
  rw [nothing, List.nil_append] at newest
  rw [disk, newest]

/-- The switch goes on and off while the writer is busy with the first change; the store is destroyed
with the second one still pending. -/
def closingRun : List (Action Bool String) :=
  setSwitch true ++ [.writerTake] ++ setSwitch false ++ setSwitch true ++ setSwitch false ++
    [.shutdown, .writerRename 101, .writerStore, .writerTake, .writerRename 102, .writerStore,
      .writerTake]

theorem closingRun_undisturbed : Lts.Meets (Recorded.step switchCodec) Undisturbed
    ⟨loadedState switchFile false, [], []⟩ closingRun := by
  simp [closingRun, setSwitch, Lts.Meets, Undisturbed, Recorded.step, step, loadedState, switchFile,
    switchCodec]

theorem persisted_in_order_closing : ∃ r, Lts.run (Recorded.step switchCodec)
    ⟨loadedState switchFile false, [], []⟩ closingRun = some r ∧
    r.published = [false, true, false, true] ∧ r.written = [false, true] ∧
    r.store.writer = .exited ∧ r.written.Sublist r.published ∧
      (r.store.writer = .exited → r.store.disk.text =
        (r.published.head?.map switchCodec.toYaml).getD switchFile.text) :=
  ⟨_, rfl, rfl, rfl, rfl, @persisted_in_order _ _ switchCodec switchFile _ _ _ rfl
    closingRun_undisturbed rfl⟩

end Atomwall.ConfigStore
