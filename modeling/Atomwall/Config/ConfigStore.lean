import Atomwall.Base.Lts

/-!
`ConfigStore` as a step function: `update()`, `writer_loop` and `poll_for_external_changes` share
`current_`, `last_mtime_`, `pending_write_` and the file. Every section that holds a lock, and every
call that touches the file, is one action.
-/

namespace Atomwall.ConfigStore

/-- `to_yaml_config` and `parse_yaml_config`, which throws on unparsable text. What is written reads
back up to the truncation of timestamps. -/
structure YamlCodec (Config Text : Type) where
  toYaml : Config → Text
  parse : Text → Option Config
  truncate : Config → Config
  parse_toYaml : ∀ c, ∃ d, parse (toYaml c) = some d ∧ truncate d = truncate c

/-- The file at `path_`. -/
structure File (Text : Type) where
  text : Text
  mtime : Nat

/-- The holder of `write_mutex_`: before its copy, running the mutator, or between publishing the
snapshot and handing it to the writer. -/
inductive UpdatePhase (Config : Type) where
  | idle
  | copied (base : Config)
  | published (snapshot : Config)

/-- `writer_loop`: waiting on `writer_cv_`, holding a taken snapshot, or after the rename with the
file's mtime still to be stored. `renamed` remembers the mtime the rename gave the file. -/
inductive WriterPhase (Config : Type) where
  | waiting
  | took (snapshot : Config)
  | renamed (written : Nat)
  | exited

/-- `poll_for_external_changes`: after `last_write_time`, after the comparison, and after parsing.
`parsed` remembers which version of the file it read. -/
inductive PollPhase (Config : Type) where
  | idle
  | statted (mtime : Nat)
  | differs (mtime : Nat)
  | parsed (mtime read : Nat) (config : Config)

/-- The fields of the store, the file and the phases of the three actors. The last four fields are
history: published snapshots (newest first), every mtime the file has had, those an external edit
gave it, and those of the versions the poll has swapped in. -/
structure State (Config Text : Type) where
  current : Config
  lastMtime : Nat
  disk : File Text
  pendingWrite : Option Config := none
  stop : Bool := false
  update : UpdatePhase Config := .idle
  writer : WriterPhase Config := .waiting
  poll : PollPhase Config := .idle
  snapshots : List Config
  mtimes : List Nat
  edits : List Nat := []
  loaded : List Nat := []

inductive Action (Config Text : Type) where
  | updateCopy
  | updateSwap (mutator : Config → Option Config)
  | updateEnqueue
  | writerTake
  | writerRename (mtime : Nat)
  | writerStore
  | writerFail
  | pollStat
  | pollCompare
  | pollRead
  | pollSwap
  | edit (text : Text) (mtime : Nat)
  | shutdown

variable {Config Text : Type} (codec : YamlCodec Config Text)

/-- The store after it has read `file` as `config`. -/
def loadedState (file : File Text) (config : Config) : State Config Text :=
  { current := config, lastMtime := file.mtime, disk := file, snapshots := [config],
    mtimes := [file.mtime], loaded := [file.mtime] }

/-- `load_or_create` on an existing file. -/
def load (file : File Text) : Option (State Config Text) :=
  (codec.parse file.text).map (loadedState file)

/-- One action, where it is enabled. Writes and edits give the file an mtime it never had. -/
def step (s : State Config Text) : Action Config Text → Option (State Config Text)
  | .updateCopy =>
    match s.update with
    | .idle => some { s with update := .copied s.current }
    | _ => none
  | .updateSwap mutator =>
    match s.update with
    | .copied base =>
      match mutator base with
      | none => some { s with update := .idle }
      | some snapshot =>
        some { s with current := snapshot, update := .published snapshot,
                      snapshots := snapshot :: s.snapshots }
    | _ => none
  | .updateEnqueue =>
    match s.update with
    | .published snapshot => some { s with pendingWrite := some snapshot, update := .idle }
    | _ => none
  | .writerTake =>
    match s.writer, s.pendingWrite with
    | .waiting, some snapshot => some { s with writer := .took snapshot, pendingWrite := none }
    | .waiting, none => if s.stop then some { s with writer := .exited } else none
    | _, _ => none
  | .writerRename mtime =>
    match s.writer with
    | .took snapshot =>
      if mtime ∈ s.mtimes then none
      else some { s with disk := ⟨codec.toYaml snapshot, mtime⟩, writer := .renamed mtime,
                         mtimes := mtime :: s.mtimes }
    | _ => none
  | .writerStore =>
    match s.writer with
    | .renamed _ => some { s with lastMtime := s.disk.mtime, writer := .waiting }
    | _ => none
  -- `write_to_disk` or `last_write_time` threw: logged, and the loop goes on
  | .writerFail =>
    match s.writer with
    | .took _ | .renamed _ => some { s with writer := .waiting }
    | _ => none
  | .pollStat =>
    match s.poll with
    | .idle => some { s with poll := .statted s.disk.mtime }
    | _ => none
  | .pollCompare =>
    match s.poll with
    | .statted mtime =>
      some { s with poll := if mtime = s.lastMtime then .idle else .differs mtime }
    | _ => none
  | .pollRead =>
    match s.poll with
    | .differs mtime =>
      match codec.parse s.disk.text with
      | none => some { s with poll := .idle }
      | some config => some { s with poll := .parsed mtime s.disk.mtime config }
    | _ => none
  | .pollSwap =>
    match s.poll with
    | .parsed mtime read config =>
      some { s with current := config, lastMtime := mtime, poll := .idle, loaded := read :: s.loaded }
    | _ => none
  | .edit text mtime =>
    if mtime ∈ s.mtimes ∨ codec.parse text = none then none
    else some { s with disk := ⟨text, mtime⟩, mtimes := mtime :: s.mtimes, edits := mtime :: s.edits }
  | .shutdown => some { s with stop := true }

def get (s : State Config Text) : Config := s.current

def UpdatePhase.held : UpdatePhase Config → Option Config
  | .published snapshot => some snapshot
  | _ => none

def WriterPhase.held : WriterPhase Config → Option Config
  | .took snapshot => some snapshot
  | _ => none

/-- The newest snapshot that is published and not yet renamed onto the file. -/
def unwritten (s : State Config Text) : Option Config :=
  (s.update.held.or s.pendingWrite).or s.writer.held

/-- What each enabled action does, guards included. -/
inductive Transition : State Config Text → Action Config Text → State Config Text → Prop where
  | updateCopy {s} (free : s.update = .idle) :
      Transition s .updateCopy { s with update := .copied s.current }
  | updateThrow {s base mutator} (copied : s.update = .copied base) (throws : mutator base = none) :
      Transition s (.updateSwap mutator) { s with update := .idle }
  | updateSwap {s base mutator snapshot} (copied : s.update = .copied base)
      (returns : mutator base = some snapshot) :
      Transition s (.updateSwap mutator) { s with current := snapshot, update := .published snapshot,
                                                  snapshots := snapshot :: s.snapshots }
  | updateEnqueue {s snapshot} (published : s.update = .published snapshot) :
      Transition s .updateEnqueue { s with pendingWrite := some snapshot, update := .idle }
  | writerTake {s snapshot} (waiting : s.writer = .waiting) (pending : s.pendingWrite = some snapshot) :
      Transition s .writerTake { s with writer := .took snapshot, pendingWrite := none }
  | writerExit {s} (waiting : s.writer = .waiting) (drained : s.pendingWrite = none)
      (stopped : s.stop = true) : Transition s .writerTake { s with writer := .exited }
  | writerRename {s snapshot mtime} (took : s.writer = .took snapshot) (fresh : mtime ∉ s.mtimes) :
      Transition s (.writerRename mtime) { s with disk := ⟨codec.toYaml snapshot, mtime⟩,
                                                  writer := .renamed mtime, mtimes := mtime :: s.mtimes }
  | writerStore {s written} (renamed : s.writer = .renamed written) :
      Transition s .writerStore { s with lastMtime := s.disk.mtime, writer := .waiting }
  | writeFail {s snapshot} (took : s.writer = .took snapshot) :
      Transition s .writerFail { s with writer := .waiting }
  | storeFail {s written} (renamed : s.writer = .renamed written) :
      Transition s .writerFail { s with writer := .waiting }
  | pollStat {s} (free : s.poll = .idle) :
      Transition s .pollStat { s with poll := .statted s.disk.mtime }
  | pollSame {s mtime} (statted : s.poll = .statted mtime) (same : mtime = s.lastMtime) :
      Transition s .pollCompare { s with poll := .idle }
  | pollDiffers {s mtime} (statted : s.poll = .statted mtime) (differs : mtime ≠ s.lastMtime) :
      Transition s .pollCompare { s with poll := .differs mtime }
  | pollUnparsable {s mtime} (differs : s.poll = .differs mtime) :
      Transition s .pollRead { s with poll := .idle }
  | pollRead {s mtime config} (differs : s.poll = .differs mtime)
      (parses : codec.parse s.disk.text = some config) :
      Transition s .pollRead { s with poll := .parsed mtime s.disk.mtime config }
  | pollSwap {s mtime read config} (parsed : s.poll = .parsed mtime read config) :
      Transition s .pollSwap { s with current := config, lastMtime := mtime, poll := .idle,
                                      loaded := read :: s.loaded }
  | edit {s text mtime} (fresh : mtime ∉ s.mtimes) (parses : codec.parse text ≠ none) :
      Transition s (.edit text mtime) { s with disk := ⟨text, mtime⟩, mtimes := mtime :: s.mtimes,
                                               edits := mtime :: s.edits }
  | shutdown {s} : Transition s .shutdown { s with stop := true }

variable {codec}

theorem step_transition {s t : State Config Text} {a : Action Config Text}
    (h : step codec s a = some t) : Transition codec s a t := by
  cases a with
  | updateCopy =>
    simp only [step] at h
    split at h <;> cases h
    exact .updateCopy (by assumption)
  | updateSwap mutator =>
    simp only [step] at h
    split at h
    · split at h <;> cases h
      · exact .updateThrow (by assumption) (by assumption)
      · exact .updateSwap (by assumption) (by assumption)
    · cases h
  | updateEnqueue =>
    simp only [step] at h
    split at h <;> cases h
    exact .updateEnqueue (by assumption)
  | writerTake =>
    simp only [step] at h
    split at h
    · cases h
      exact .writerTake (by assumption) (by assumption)
    · split at h <;> cases h
      exact .writerExit (by assumption) (by assumption) (by assumption)
    · cases h
  | writerRename mtime =>
    simp only [step] at h
    split at h
    · split at h <;> cases h
      exact .writerRename (by assumption) (by assumption)
    · cases h
  | writerStore =>
    simp only [step] at h
    split at h <;> cases h
    exact .writerStore (by assumption)
  | writerFail =>
    simp only [step] at h
    split at h <;> cases h
    · exact .writeFail (by assumption)
    · exact .storeFail (by assumption)
  | pollStat =>
    simp only [step] at h
    split at h <;> cases h
    exact .pollStat (by assumption)
  | pollCompare =>
    simp only [step] at h
    split at h <;> cases h
    rename_i mtime statted
    by_cases same : mtime = s.lastMtime
    · rw [if_pos same]
      exact .pollSame statted same
    · rw [if_neg same]
      exact .pollDiffers statted same
  | pollRead =>
    simp only [step] at h
    split at h
    · split at h <;> cases h
      · exact .pollUnparsable (by assumption)
      · exact .pollRead (by assumption) (by assumption)
    · cases h
  | pollSwap =>
    simp only [step] at h
    split at h <;> cases h
    exact .pollSwap (by assumption)
  | edit text mtime =>
    simp only [step] at h
    split at h <;> cases h
    rename_i fresh
    exact .edit (fun old => fresh (Or.inl old)) (fun unparsable => fresh (Or.inr unparsable))
  | shutdown =>
    cases h
    exact .shutdown

end Atomwall.ConfigStore
