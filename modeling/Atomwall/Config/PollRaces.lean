import Atomwall.Config.ConfigStore
import Mathlib.Tactic.Common

/-!
The poll does not take `write_mutex_`, and the writer reads the file's mtime after its own rename.
This file shows which orders of steps lose an update or mark an external edit as seen, and that
every run without such a step keeps memory and disk together.
-/

namespace Atomwall.ConfigStore

variable {Config Text : Type} {codec : YamlCodec Config Text}

def Action.Own : Action Config Text → Prop
  | .edit .. => False
  | _ => True

def Action.Succeeds : Action Config Text → Prop
  | .writerFail => False
  | _ => True

/-- The file's text parses to `c` up to the truncation of timestamps. -/
def OnDisk (codec : YamlCodec Config Text) (s : State Config Text) (c : Config) : Prop :=
  ∃ d, codec.parse s.disk.text = some d ∧ codec.truncate c = codec.truncate d

theorem load_some {file : File Text} {s : State Config Text} (h : load codec file = some s) :
    ∃ config, codec.parse file.text = some config ∧ s = loadedState file config := by
  obtain ⟨config, parses, same⟩ := Option.map_eq_some_iff.mp h
  exact ⟨config, parses, same.symm⟩

/-! ### No update is undone -/

/-- The poll swaps in the newest snapshot: it was on the file when the poll read it, and no update
has published another since. -/
def SwapsNewest (s : State Config Text) : Action Config Text → Prop
  | .pollSwap => unwritten s = none ∧
      ∀ mtime read config, s.poll = .parsed mtime read config → s.disk.mtime = read
  | _ => True

/-- What is published last is in memory, and on the file unless it is still on its way there. -/
structure Newest (codec : YamlCodec Config Text) (s : State Config Text) (c : Config) : Prop where
  published : s.snapshots.head? = some c
  memory : codec.truncate s.current = codec.truncate c
  pending : ∀ w, unwritten s = some w → w = c
  written : unwritten s = none → OnDisk codec s c

/-- The mtimes in use are old, and a parsed file that is still there parses to what the poll holds. -/
structure PollHolds (codec : YamlCodec Config Text) (s : State Config Text) : Prop where
  disk : s.disk.mtime ∈ s.mtimes
  read : ∀ mtime read config, s.poll = .parsed mtime read config → read ∈ s.mtimes
  parsed : ∀ mtime read config, s.poll = .parsed mtime read config → s.disk.mtime = read →
    codec.parse s.disk.text = some config

theorem step_pollHolds {s t : State Config Text} {a : Action Config Text}
    (holds : PollHolds codec s) (h : step codec s a = some t) : PollHolds codec t := by
  obtain ⟨disk, read, parsed⟩ := holds
  cases step_transition h with
  | writerRename took fresh =>
    refine ⟨List.mem_cons_self, fun m r c h => List.mem_cons_of_mem _ (read m r c h), ?_⟩
    intro m r c h same
    have old := read m r c h
    rw [← same] at old
    exact absurd old fresh
  | edit fresh parses =>
    refine ⟨List.mem_cons_self, fun m r c h => List.mem_cons_of_mem _ (read m r c h), ?_⟩
    intro m r c h same
    have old := read m r c h
    rw [← same] at old
    exact absurd old fresh
  | pollRead differs parses =>
    refine ⟨disk, ?_, ?_⟩
    · rintro m r c ⟨⟩
      exact disk
    · rintro m r c ⟨⟩ -
      exact parses
  | pollStat | pollSame | pollDiffers | pollUnparsable | pollSwap =>
    exact ⟨disk, by rintro m r c ⟨⟩, by rintro m r c ⟨⟩⟩
  | _ => exact ⟨disk, read, parsed⟩

theorem step_newest {s t : State Config Text} {a : Action Config Text}
    (inv : PollHolds codec s ∧ ∃ c, Newest codec s c)
    (cond : SwapsNewest s a ∧ a.Own ∧ a.Succeeds)
    (h : step codec s a = some t) : PollHolds codec t ∧ ∃ c, Newest codec t c := by
  obtain ⟨holds, c, published, memory, pending, written⟩ := inv
  refine ⟨step_pollHolds holds h, ?_⟩
  cases step_transition h with
  | updateCopy free =>
    exact ⟨c, published, memory, by simpa [unwritten, free, UpdatePhase.held] using pending,
      by simpa [unwritten, free, UpdatePhase.held, OnDisk] using written⟩
  | updateThrow copied =>
    exact ⟨c, published, memory, by simpa [unwritten, copied, UpdatePhase.held] using pending,
      by simpa [unwritten, copied, UpdatePhase.held, OnDisk] using written⟩
  | @updateSwap base mutator snapshot copied returns =>
    exact ⟨snapshot, rfl, rfl, by simp [unwritten, UpdatePhase.held],
      by simp [unwritten, UpdatePhase.held]⟩
  | updateEnqueue swapped =>
    exact ⟨c, published, memory, by simpa [unwritten, swapped, UpdatePhase.held] using pending,
      by simp [unwritten, UpdatePhase.held]⟩
  | writerTake waiting queued =>
    refine ⟨c, published, memory, ?_, ?_⟩
    · cases held : s.update.held <;>
        simpa [unwritten, held, queued, WriterPhase.held] using pending
    · cases held : s.update.held <;> simp [unwritten, held, WriterPhase.held]
  | writerExit waiting =>
    exact ⟨c, published, memory, by simpa [unwritten, waiting, WriterPhase.held] using pending,
      by simpa [unwritten, waiting, WriterPhase.held, OnDisk] using written⟩
  | @writerRename snapshot mtime took fresh =>
    refine ⟨c, published, memory, ?_, ?_⟩
    · intro w held
      apply pending w
      simp only [unwritten, WriterPhase.held, Option.or_none] at held
      simp [unwritten, held]
    · intro nothing
      -- nothing newer is on its way, so what was written is the newest snapshot
      simp only [unwritten, WriterPhase.held, Option.or_none] at nothing
      obtain rfl : snapshot = c := pending _ (by simp [unwritten, nothing, took, WriterPhase.held])
      obtain ⟨d, parses, same⟩ := codec.parse_toYaml snapshot
      exact ⟨d, parses, same.symm⟩
  | writerStore renamed =>
    exact ⟨c, published, memory, by simpa [unwritten, renamed, WriterPhase.held] using pending,
      by simpa [unwritten, renamed, WriterPhase.held, OnDisk] using written⟩
  | writeFail | storeFail => exact cond.2.2.elim
  | edit => exact cond.2.1.elim
  | pollSwap parsed =>
    obtain ⟨nothing, unchanged⟩ := cond.1
    obtain ⟨d, parses, same⟩ := written nothing
    have held := holds.parsed _ _ _ parsed (unchanged _ _ _ parsed)
    obtain rfl := Option.some.inj (parses.symm.trans held)
    exact ⟨c, published, same.symm, pending, written⟩
  | _ => exact ⟨c, published, memory, pending, written⟩

/-- In a run without external edits, whose poll swaps in nothing but the newest snapshot, `get()`
returns the snapshot of the latest update. -/
theorem latest_update_in_memory {file : File Text} {start s : State Config Text}
    {actions : List (Action Config Text)} (loaded : load codec file = some start)
    (own : ∀ a ∈ actions, a.Own ∧ a.Succeeds)
    (ordered : Lts.Meets (step codec) SwapsNewest start actions)
    (h : Lts.run (step codec) start actions = some s) :
    ∃ c, s.snapshots.head? = some c ∧ codec.truncate (get s) = codec.truncate c := by
  obtain ⟨config, parses, rfl⟩ := load_some loaded
  have start : PollHolds codec (loadedState file config) ∧
      ∃ c, Newest codec (loadedState file config) c :=
    ⟨⟨by simp [loadedState], by simp [loadedState], by simp [loadedState]⟩, config, rfl, rfl,
      by simp [loadedState, unwritten, UpdatePhase.held, WriterPhase.held],
      fun _ => ⟨config, parses, rfl⟩⟩
  obtain ⟨_, c, published, memory, _⟩ :=
    Lts.run_invariant (fun _ _ _ => step_newest) start (Lts.meets_and ordered own) h
  exact ⟨c, published, memory⟩

/-- Config files that hold nothing but the `emergency_off` switch. -/
def switchCodec : YamlCodec Bool String where
  toYaml on := if on then "emergency_off:\n  enabled: true\n" else "emergency_off:\n  enabled: false\n"
  parse text :=
    if text = "emergency_off:\n  enabled: true\n" then some true
    else if text = "emergency_off:\n  enabled: false\n" then some false
    else none
  truncate := id
  parse_toYaml on := ⟨on, by cases on <;> decide, rfl⟩

def switchFile : File String := ⟨"emergency_off:\n  enabled: false\n", 100⟩

/-- `update()` with a mutator that sets the switch, all three sections of it. -/
def setSwitch (on : Bool) : List (Action Bool String) :=
  [.updateCopy, .updateSwap fun _ => some on, .updateEnqueue]

/-- The switch goes on and is written; the poll reads the file before the writer has stored its mtime;
the switch goes off; the poll swaps in what it read. -/
def undoneRun : List (Action Bool String) :=
  setSwitch true ++ [.writerTake, .writerRename 101, .pollStat, .pollCompare, .pollRead] ++
    setSwitch false ++ [.pollSwap]

theorem undoneRun_result : ((load switchCodec switchFile).bind fun s =>
    (Lts.run (step switchCodec) s undoneRun).map fun s => (s.snapshots, get s)) =
      some ([false, true, false], true) := by
  decide

theorem update_undone_by_poll : ¬ ∀ (Config Text : Type) (codec : YamlCodec Config Text)
    (file : File Text) (start s : State Config Text) (actions : List (Action Config Text)),
    load codec file = some start → (∀ a ∈ actions, a.Own ∧ a.Succeeds) →
    Lts.run (step codec) start actions = some s →
    ∃ c, s.snapshots.head? = some c ∧ codec.truncate (get s) = codec.truncate c := by
  intro claim
  obtain ⟨start, loaded, rest⟩ := Option.bind_eq_some_iff.mp undoneRun_result
  obtain ⟨s, run, result⟩ := Option.map_eq_some_iff.mp rest
  obtain ⟨published, memory⟩ := Prod.mk.inj result
  have own : ∀ a ∈ undoneRun, a.Own ∧ a.Succeeds := by
    simp [undoneRun, setSwitch, Action.Own, Action.Succeeds]
  obtain ⟨c, newest, same⟩ := claim Bool String switchCodec switchFile start s undoneRun loaded own run
  rw [published] at newest
  obtain rfl : false = c := Option.some.inj newest
  rw [memory] at same
  cases same

/-- The same two writes where the poll swaps before the switch goes off. -/
def orderedRun : List (Action Bool String) :=
  setSwitch true ++ [.writerTake, .writerRename 101, .pollStat, .pollCompare, .pollRead, .pollSwap] ++
    setSwitch false

theorem orderedRun_meets :
    Lts.Meets (step switchCodec) SwapsNewest (loadedState switchFile false) orderedRun := by
  simp [orderedRun, setSwitch, Lts.Meets, SwapsNewest, step, loadedState, switchFile, switchCodec,
    unwritten, UpdatePhase.held, WriterPhase.held]

theorem latest_update_in_memory_ordered : ∃ s, Lts.run (step switchCodec)
    (loadedState switchFile false) orderedRun = some s ∧
    ∃ c, s.snapshots.head? = some c ∧ switchCodec.truncate (get s) = switchCodec.truncate c :=
  ⟨_, rfl, @latest_update_in_memory _ _ switchCodec switchFile _ _ _ rfl
    (by simp [orderedRun, setSwitch, Action.Own, Action.Succeeds]) orderedRun_meets rfl⟩

/-! ### Disk and memory -/

/-- No update between publishing and handing over, nothing pending, the writer and the poll idle. -/
structure Quiet (s : State Config Text) : Prop where
  update : s.update.held = none
  pending : s.pendingWrite = none
  writer : s.writer = .waiting ∨ s.writer = .exited
  poll : s.poll = .idle

/-- The poll swaps only while no snapshot is on its way to the file; if the writer has renamed one
and not yet stored its mtime, the poll has read that one. The writer stores the mtime of its own
rename, or one the store already holds. -/
def KeepsTrack (s : State Config Text) : Action Config Text → Prop
  | .pollSwap => unwritten s = none ∧ (s.writer = .renamed s.disk.mtime →
      ∀ mtime read config, s.poll = .parsed mtime read config → s.disk.mtime = read)
  | .writerStore => s.writer = .renamed s.disk.mtime ∨ s.lastMtime = s.disk.mtime
  | _ => True

/-- The mtimes the actors hold were all given to the file before, and the writer's own is no edit's. -/
structure Stamped (s : State Config Text) : Prop where
  last : s.lastMtime ∈ s.mtimes
  edits : ∀ m ∈ s.edits, m ∈ s.mtimes
  renamed : ∀ w, s.writer = .renamed w → w ∈ s.mtimes ∧ w ∉ s.edits
  statted : ∀ m, s.poll = .statted m → m ∈ s.mtimes
  differs : ∀ m, s.poll = .differs m → m ∈ s.mtimes
  parsed : ∀ m read config, s.poll = .parsed m read config →
    m ∈ s.mtimes ∧ (s.disk.mtime = m → read = m)

theorem step_stamped {s t : State Config Text} {a : Action Config Text}
    (holds : PollHolds codec s) (stamped : Stamped s) (h : step codec s a = some t) : Stamped t := by
  obtain ⟨last, edits, renamed, statted, differs, parsed⟩ := stamped
  have older {m k : Nat} (fresh : k ∉ s.mtimes) (old : m ∈ s.mtimes) : k ≠ m :=
    fun same => fresh (same ▸ old)
  cases step_transition h with
  | @writerRename snapshot mtime took fresh =>
    refine ⟨List.mem_cons_of_mem _ last, fun m h => List.mem_cons_of_mem _ (edits m h), ?_,
      fun m h => List.mem_cons_of_mem _ (statted m h), fun m h => List.mem_cons_of_mem _ (differs m h),
      fun m r c h => ⟨List.mem_cons_of_mem _ (parsed m r c h).1,
        fun same => absurd same (older fresh (parsed m r c h).1)⟩⟩
    rintro w ⟨⟩
    exact ⟨List.mem_cons_self, fun edited => fresh (edits _ edited)⟩
  | @edit text mtime fresh parses =>
    refine ⟨List.mem_cons_of_mem _ last, ?_, ?_, fun m h => List.mem_cons_of_mem _ (statted m h),
      fun m h => List.mem_cons_of_mem _ (differs m h),
      fun m r c h => ⟨List.mem_cons_of_mem _ (parsed m r c h).1,
        fun same => absurd same (older fresh (parsed m r c h).1)⟩⟩
    · intro m member
      rcases List.mem_cons.mp member with rfl | member
      · exact List.mem_cons_self
      · exact List.mem_cons_of_mem _ (edits m member)
    · intro w h
      obtain ⟨old, own⟩ := renamed w h
      refine ⟨List.mem_cons_of_mem _ old, fun member => ?_⟩
      rcases List.mem_cons.mp member with same | member
      · exact older fresh old same.symm
      · exact own member
  | writerTake | writerExit | writeFail | storeFail =>
    exact ⟨last, edits, by rintro w ⟨⟩, statted, differs, parsed⟩
  | writerStore =>
    exact ⟨holds.disk, edits, by rintro w ⟨⟩, statted, differs, parsed⟩
  | pollStat free =>
    refine ⟨last, edits, renamed, ?_, by rintro m ⟨⟩, by rintro m r c ⟨⟩⟩
    rintro m ⟨⟩
    exact holds.disk
  | pollDiffers held =>
    refine ⟨last, edits, renamed, by rintro m ⟨⟩, ?_, by rintro m r c ⟨⟩⟩
    rintro m ⟨⟩
    exact statted _ held
  | pollRead held parses =>
    refine ⟨last, edits, renamed, by rintro m ⟨⟩, by rintro m ⟨⟩, ?_⟩
    rintro m r c ⟨⟩
    exact ⟨differs _ held, id⟩
  | pollSwap held =>
    exact ⟨(parsed _ _ _ held).1, edits, renamed, by rintro m ⟨⟩, by rintro m ⟨⟩, by rintro m r c ⟨⟩⟩
  | pollSame | pollUnparsable =>
    exact ⟨last, edits, renamed, by rintro m ⟨⟩, by rintro m ⟨⟩, by rintro m r c ⟨⟩⟩
  | _ => exact ⟨last, edits, renamed, statted, differs, parsed⟩

/-- A snapshot on its way to the file is the one in memory. With none on its way, memory is what the
file parses to whenever the store holds the file's mtime or the writer is about to store it. -/
structure Tracked (codec : YamlCodec Config Text) (s : State Config Text) : Prop where
  pending : ∀ w, unwritten s = some w → codec.truncate s.current = codec.truncate w
  settled : unwritten s = none → s.lastMtime = s.disk.mtime ∨ s.writer = .renamed s.disk.mtime →
    OnDisk codec s s.current
  seen : s.disk.mtime ∈ s.edits → s.lastMtime = s.disk.mtime → s.disk.mtime ∈ s.loaded

theorem step_tracked {s t : State Config Text} {a : Action Config Text}
    (inv : PollHolds codec s ∧ Stamped s ∧ Tracked codec s)
    (cond : KeepsTrack s a ∧ a.Succeeds)
    (h : step codec s a = some t) : PollHolds codec t ∧ Stamped t ∧ Tracked codec t := by
  obtain ⟨holds, stamped, pending, settled, seen⟩ := inv
  refine ⟨step_pollHolds holds h, step_stamped holds stamped h, ?_⟩
  cases step_transition h with
  | updateCopy free =>
    exact ⟨by simpa [unwritten, free, UpdatePhase.held] using pending,
      by simpa [unwritten, free, UpdatePhase.held, OnDisk] using settled, seen⟩
  | updateThrow copied =>
    exact ⟨by simpa [unwritten, copied, UpdatePhase.held] using pending,
      by simpa [unwritten, copied, UpdatePhase.held, OnDisk] using settled, seen⟩
  | updateSwap copied returns =>
    exact ⟨by simp [unwritten, UpdatePhase.held], by simp [unwritten, UpdatePhase.held], seen⟩
  | updateEnqueue swapped =>
    exact ⟨by simpa [unwritten, swapped, UpdatePhase.held] using pending,
      by simp [unwritten, UpdatePhase.held], seen⟩
  | writerTake waiting queued =>
    refine ⟨?_, ?_, seen⟩
    · cases held : s.update.held <;>
        simpa [unwritten, held, queued, WriterPhase.held] using pending
    · cases held : s.update.held <;> simp [unwritten, held, WriterPhase.held]
  | writerExit waiting =>
    exact ⟨by simpa [unwritten, waiting, WriterPhase.held] using pending,
      by simpa [unwritten, waiting, WriterPhase.held, OnDisk] using settled, seen⟩
  | @writerRename snapshot mtime took fresh =>
    refine ⟨?_, ?_, fun edited => absurd (stamped.edits _ edited) fresh⟩
    · intro w held
      apply pending w
      simp only [unwritten, WriterPhase.held, Option.or_none] at held
      simp [unwritten, held]
    · intro nothing _
      -- nothing newer is on its way, so memory is the snapshot just written
      simp only [unwritten, WriterPhase.held, Option.or_none] at nothing
      have memory := pending snapshot (by simp [unwritten, nothing, took, WriterPhase.held])
      obtain ⟨d, parses, same⟩ := codec.parse_toYaml snapshot
      exact ⟨d, parses, memory.trans same.symm⟩
  | @writerStore written renamed =>
    have before : s.lastMtime = s.disk.mtime ∨ s.writer = .renamed s.disk.mtime := cond.1.symm
    refine ⟨by simpa [unwritten, renamed, WriterPhase.held] using pending, ?_, ?_⟩
    · intro nothing _
      exact settled (by simpa [unwritten, renamed, WriterPhase.held] using nothing) before
    · intro edited _
      rcases before with same | own
      · exact seen edited same
      · exact absurd edited (stamped.renamed _ own).2
  | writeFail | storeFail => exact cond.2.elim
  | @pollSwap mtime read config parsed =>
    obtain ⟨nothing, own⟩ := cond.1
    have current : s.disk.mtime = mtime → s.disk.mtime = read := fun same =>
      same.trans ((stamped.parsed _ _ _ parsed).2 same).symm
    refine ⟨by simp_all [unwritten], ?_, ?_⟩
    · intro _ marked
      have same : s.disk.mtime = read := by
        rcases marked with same | renamed
        · exact current same.symm
        · exact own renamed _ _ _ parsed
      exact ⟨config, holds.parsed _ _ _ parsed same, rfl⟩
    · intro _ marked
      exact List.mem_cons.mpr (Or.inl (current marked.symm))
  | @edit text mtime fresh parses =>
    have old : s.lastMtime ≠ mtime := fun same => fresh (same ▸ stamped.last)
    refine ⟨pending, ?_, fun _ same => absurd same old⟩
    intro _ marked
    rcases marked with same | renamed
    · exact absurd same old
    · exact absurd (stamped.renamed _ renamed).1 fresh
  | _ => exact ⟨pending, settled, seen⟩

/-- In a run without failed writes whose poll and writer keep track of the file, a quiet store whose
mtime is the file's holds what the file parses to, and no edit is marked as seen before it is loaded. -/
theorem quiet_memory_on_disk {file : File Text} {start s : State Config Text}
    {actions : List (Action Config Text)} (loaded : load codec file = some start)
    (succeed : ∀ a ∈ actions, a.Succeeds)
    (tracks : Lts.Meets (step codec) KeepsTrack start actions)
    (h : Lts.run (step codec) start actions = some s) :
    (Quiet s → s.lastMtime = s.disk.mtime →
      ∃ d, codec.parse s.disk.text = some d ∧ codec.truncate s.current = codec.truncate d) ∧
    (s.disk.mtime ∈ s.edits → s.lastMtime = s.disk.mtime → s.disk.mtime ∈ s.loaded) := by
  obtain ⟨config, parses, rfl⟩ := load_some loaded
  have start : PollHolds codec (loadedState file config) ∧ Stamped (loadedState file config) ∧
      Tracked codec (loadedState file config) :=
    ⟨⟨by simp [loadedState], by simp [loadedState], by simp [loadedState]⟩,
      ⟨by simp [loadedState], by simp [loadedState], by simp [loadedState], by simp [loadedState],
        by simp [loadedState], by simp [loadedState]⟩,
      ⟨by simp [loadedState, unwritten, UpdatePhase.held, WriterPhase.held],
        fun _ _ => ⟨config, parses, rfl⟩, by simp [loadedState]⟩⟩
  obtain ⟨_, _, pending, settled, seen⟩ :=
    Lts.run_invariant (fun _ _ _ => step_tracked) start (Lts.meets_and tracks succeed) h
  refine ⟨fun quiet same => settled ?_ (Or.inl same), seen⟩
  rcases quiet.writer with waiting | exited
  · simp [unwritten, quiet.update, quiet.pending, waiting, WriterPhase.held]
  · simp [unwritten, quiet.update, quiet.pending, exited, WriterPhase.held]

/-- The switch goes on; an edit switches it off between the writer's rename and its `last_write_time`. -/
def unseenEditRun : List (Action Bool String) :=
  setSwitch true ++ [.writerTake, .writerRename 101,
    .edit "emergency_off:\n  enabled: false\n" 102, .writerStore]

theorem unseenEditRun_result : ∃ s, (Lts.run (step switchCodec) (loadedState switchFile false)
    unseenEditRun = some s ∧ Quiet s) ∧ s.lastMtime = s.disk.mtime ∧ get s = true ∧
      switchCodec.parse s.disk.text = some false :=
  ⟨_, ⟨rfl, rfl, rfl, Or.inl rfl, rfl⟩, rfl, rfl, by decide⟩

theorem edit_marked_unloaded : ¬ ∀ (Config Text : Type) (codec : YamlCodec Config Text)
    (file : File Text) (start s : State Config Text) (actions : List (Action Config Text)),
    load codec file = some start → (∀ a ∈ actions, a.Succeeds) →
    Lts.run (step codec) start actions = some s → Quiet s → s.lastMtime = s.disk.mtime →
    ∃ d, codec.parse s.disk.text = some d ∧ codec.truncate s.current = codec.truncate d := by
  intro claim
  obtain ⟨s, ⟨run, quiet⟩, marked, memory, disk⟩ := unseenEditRun_result
  have succeed : ∀ a ∈ unseenEditRun, a.Succeeds := by
    simp [unseenEditRun, setSwitch, Action.Succeeds]
  obtain ⟨d, parses, same⟩ := claim Bool String switchCodec switchFile _ s unseenEditRun rfl succeed
    run quiet marked
  obtain rfl := Option.some.inj (disk.symm.trans parses)
  exact absurd (memory.symm.trans same) (by decide)

/-- The same edit once the writer has stored its mtime; the poll then loads it. -/
def seenEditRun : List (Action Bool String) :=
  setSwitch true ++ [.writerTake, .writerRename 101, .writerStore,
    .edit "emergency_off:\n  enabled: false\n" 102, .pollStat, .pollCompare, .pollRead, .pollSwap]

theorem seenEditRun_meets :
    Lts.Meets (step switchCodec) KeepsTrack (loadedState switchFile false) seenEditRun := by
  simp [seenEditRun, setSwitch, Lts.Meets, KeepsTrack, step, loadedState, switchFile, switchCodec,
    unwritten, UpdatePhase.held, WriterPhase.held]

theorem quiet_memory_on_disk_seenEdit : ∃ s, Lts.run (step switchCodec)
    (loadedState switchFile false) seenEditRun = some s ∧ Quiet s ∧
    (Quiet s → s.lastMtime = s.disk.mtime →
      ∃ d, switchCodec.parse s.disk.text = some d ∧ switchCodec.truncate s.current = switchCodec.truncate d) ∧
    (s.disk.mtime ∈ s.edits → s.lastMtime = s.disk.mtime → s.disk.mtime ∈ s.loaded) :=
  ⟨_, rfl, ⟨rfl, rfl, Or.inl rfl, rfl⟩, @quiet_memory_on_disk _ _ switchCodec
    switchFile _ _ _ rfl (by simp [seenEditRun, setSwitch, Action.Succeeds]) seenEditRun_meets rfl⟩

end Atomwall.ConfigStore
