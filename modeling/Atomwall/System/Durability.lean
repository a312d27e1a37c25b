import Atomwall.Base.WriteBehind
import Atomwall.System.Firewall

/-!
The process with the writer of its `ConfigStore`. Requests publish their configuration at once, the file follows
behind; the process may be stopped, or killed between any two steps, and the next one reads what the file holds.
Polls and external edits are left out.
-/

namespace Atomwall.System

open Yaml

/-- `queue` is history where it says what was published and written; what was read at the start counts as both. -/
structure Daemon where
  config : RuntimeConfig
  file : String
  queue : WriteBehind RuntimeConfig
  visitors : Listener.AppState := unvisited

namespace Daemon

/-- A handler may publish the configuration that it found; one that publishes nothing leaves it. -/
inductive Event (libs : Libraries) (makeAddress : MakeAddress) where
  | admin (call : Admin.ConfigRequest libs makeAddress) (published : Bool)
  | visit (c : Listener.Connection) (x : Listener.Exchange)
  | writer (m : WriteBehind.Move)
  | stop (later : Int)
  | kill (later : Int)

def state (d : Daemon) : State := ⟨d.config, d.visitors⟩

def booted (file : String) (config : RuntimeConfig) : Daemon :=
  { config, file, queue := { published := [config], written := [config] } }

section Step

variable {libs : Libraries} {makeAddress : MakeAddress} (text : AddressText) (yaml : Library)

/-- `load_or_create` on the file that is there. -/
def start (makeAddress : MakeAddress) (file : String) (later : Int) : Option Daemon :=
  match parseYamlConfig makeAddress yaml later file with
  | .ok config => some (booted file config)
  | .error _ => none

/-- What `write_to_disk` leaves on the file. -/
def fileAfter (d : Daemon) : WriteBehind.Move → String
  | .write =>
    match d.queue.held with
    | some config => toYamlConfig yaml config
    | none => d.file
  | _ => d.file

def step (d : Daemon) : Event libs makeAddress → Option Daemon
  | .admin call published =>
    let after := call.serve ⟨d.config, d.visitors.ipBlocks⟩
    let served := { d with config := after.config, visitors := { d.visitors with ipBlocks := after.ipBlocks } }
    if published then (d.queue.publish after.config).map fun queue => { served with queue } else some served
  | .visit c x => some { d with visitors := (Listener.runHttpSession text d.config c x d.visitors).2 }
  | .writer m => (d.queue.move m).map fun queue => { d with file := d.fileAfter yaml m, queue }
  -- the destructor joins a writer that has nothing left to write
  | .stop later => if d.queue.onTheWay.isEmpty then start yaml makeAddress d.file later else none
  | .kill later => start yaml makeAddress d.file later

def Event.Boots : Event libs makeAddress → Prop
  | .stop _ | .kill _ => True
  | _ => False

/-- What the YAML library writes of the configuration it reads back. -/
def ReadsBack (config : RuntimeConfig) : Prop :=
  DoublesReadBack yaml config ∧ yaml.load (yaml.emit (writeConfig yaml config)) = some (writeConfig yaml config)

def Sound (d : Daemon) : Event libs makeAddress → Prop
  | .admin call published => call.env.Running ∧
      (published = false → (call.serve ⟨d.config, d.visitors.ipBlocks⟩).config = d.config)
  | .writer .write => ∀ config, d.queue.held = some config → ReadsBack yaml config
  | _ => True

end Step

/-! ### What a crash leaves -/

variable {libs : Libraries} {makeAddress : MakeAddress} {text : AddressText} {yaml : Library} {d t u : Daemon}
  {e : Event libs makeAddress} {events : List (Event libs makeAddress)} {lost kept : List RuntimeConfig}

def Holds (makeAddress : MakeAddress) (yaml : Library) (file : String) (config : RuntimeConfig) : Prop :=
  ∀ later, parseYamlConfig makeAddress yaml later file = .ok config.restarted

/-- The process in the middle of its life: a crash would lose the versions `lost`. -/
structure Lives (makeAddress : MakeAddress) (yaml : Library) (d : Daemon) (lost kept : List RuntimeConfig) : Prop where
  durable : d.queue.Durable lost kept
  current : d.queue.published.head? = some d.config
  file : ∃ config, kept.head? = some config ∧ Holds makeAddress yaml d.file config
  versions : ∀ config ∈ d.queue.published, Admin.ConfigValid makeAddress config ∧ config.Typed
  blocks : d.visitors.ipBlocks.Kept

theorem Lives.healthy (lives : Lives makeAddress yaml d lost kept) : Healthy makeAddress d.state := by
  obtain ⟨valid, typed⟩ := lives.versions _ (List.mem_of_mem_head? lives.current)
  exact ⟨valid, typed, lives.blocks⟩

/-- Every version that waits was published. -/
theorem Lives.waiting (lives : Lives makeAddress yaml d lost kept) {config : RuntimeConfig}
    (waits : config ∈ d.queue.onTheWay) : config ∈ d.queue.published := by
  rw [lives.durable.split]
  exact List.mem_append_left _ (lives.durable.waiting.subset waits)

theorem booted_lives {file : String} {config : RuntimeConfig} (valid : Admin.ConfigValid makeAddress config)
    (typed : config.Typed) (holds : Holds makeAddress yaml file config) :
    Lives makeAddress yaml (booted file config) [] [config] where
  durable := ⟨rfl, rfl, List.nil_sublist _⟩
  current := rfl
  file := ⟨config, rfl, holds⟩
  versions other member := by
    obtain rfl := List.mem_singleton.mp member
    exact ⟨valid, typed⟩
  blocks := .empty _

theorem holds_written {config : RuntimeConfig} (valid : Admin.ConfigValid makeAddress config) (typed : config.Typed)
    (back : ReadsBack yaml config) : Holds makeAddress yaml (toYamlConfig yaml config) config :=
  fun _ => parse_restarted typed valid.kept valid.dated back.1 back.2

theorem start_restarted {file : String} {config : RuntimeConfig} {later : Int} (holds : Holds makeAddress yaml file config) :
    start yaml makeAddress file later = some (booted file config.restarted) := by
  unfold start
  rw [holds later]

/-- The file that was read holds what it was read as. -/
theorem holds_restarted {file : String} {config : RuntimeConfig} (holds : Holds makeAddress yaml file config) :
    Holds makeAddress yaml file config.restarted := by
  intro later
  rw [holds later, restarted_twice]

theorem Lives.boots (lives : Lives makeAddress yaml d lost kept) (later : Int) :
    ∃ config, kept.head? = some config ∧
      start yaml makeAddress d.file later = some (booted d.file config.restarted) ∧
      Lives makeAddress yaml (booted d.file config.restarted) [] [config.restarted] := by
  obtain ⟨config, newest, holds⟩ := lives.file
  have published : config ∈ d.queue.published := by
    rw [lives.durable.split]
    exact List.mem_append_right _ (List.mem_of_mem_head? newest)
  obtain ⟨valid, typed⟩ := lives.versions config published
  have restarted := valid_restarted valid
  exact ⟨config, newest, start_restarted holds,
    booted_lives restarted (typed_after typed restarted_listeners restarted) (holds_restarted holds)⟩

theorem fileAfter_ne {m : WriteBehind.Move} (other : m ≠ .write) : d.fileAfter yaml m = d.file := by
  cases m with
  | write => exact absurd rfl other
  | _ => rfl

theorem serve_lives {call : Admin.ConfigRequest libs makeAddress} {published : Bool}
    (lives : Lives makeAddress yaml d lost kept) (sound : Sound yaml d (.admin call published))
    (taken : step text yaml d (.admin call published) = some t) :
    ∃ rest, Lives makeAddress yaml t rest kept ∧ (d.queue.Newest lost → t.queue.Newest rest) := by
  obtain ⟨running, same⟩ := sound
  have healthy := lives.healthy
  have valid := @Admin.serve_valid _ _ call ⟨d.config, d.visitors.ipBlocks⟩ running healthy.valid
  have listeners := @Admin.serve_listeners _ _ call ⟨d.config, d.visitors.ipBlocks⟩
  have typed := typed_after healthy.typed listeners valid
  have blocks := @serve_kept libs makeAddress d.state call healthy.blocks
  cases published with
  | true =>
    obtain ⟨queue, accepted, rfl⟩ := Option.map_eq_some_iff.mp taken
    obtain ⟨durable, newest⟩ := WriteBehind.publish_durable lives.durable accepted
    obtain ⟨-, rfl⟩ := WriteBehind.publish_some accepted
    refine ⟨_, ⟨durable, rfl, lives.file, ?_, blocks⟩, fun _ => newest⟩
    exact List.forall_mem_cons.mpr ⟨⟨valid, typed⟩, lives.versions⟩
  | false =>
    obtain rfl := Option.some.inj taken
    refine ⟨lost, ⟨lives.durable, ?_, lives.file, lives.versions, blocks⟩, id⟩
    dsimp only
    rw [same rfl]
    exact lives.current

theorem write_lives {m : WriteBehind.Move} (lives : Lives makeAddress yaml d lost kept)
    (sound : Sound yaml d (.writer m : Event libs makeAddress))
    (taken : step text yaml d (.writer m : Event libs makeAddress) = some t) :
    ∃ rest more, Lives makeAddress yaml t rest (more ++ kept) ∧
      (d.queue.Newest lost → d.queue.Superseded m → t.queue.Newest rest) := by
  obtain ⟨queue, moved, rfl⟩ := Option.map_eq_some_iff.mp taken
  obtain ⟨rest, more, whole, durable, newest⟩ := WriteBehind.move_durable lives.durable moved
  have same : queue.published = d.queue.published := by
    rw [durable.split, lives.durable.split, whole, List.append_assoc]
  refine ⟨rest, more, ⟨durable, ?_, ?_, ?_, lives.blocks⟩, newest⟩
  · rw [same]
    exact lives.current
  · by_cases writes : m = .write
    · subst writes
      obtain ⟨config, held, rfl⟩ := Option.map_eq_some_iff.mp moved
      have waits : config ∈ d.queue.onTheWay := by simp [WriteBehind.onTheWay, held]
      obtain ⟨valid, typed⟩ := lives.versions config (lives.waiting waits)
      refine ⟨config, durable.written.symm, ?_⟩
      show Holds makeAddress yaml (d.fileAfter yaml .write) config
      unfold fileAfter
      rw [held]
      exact holds_written valid typed (sound config held)
    · obtain ⟨config, newest, holds⟩ := lives.file
      refine ⟨config, ?_, ?_⟩
      · rw [← durable.written, WriteBehind.move_written writes moved, lives.durable.written, newest]
      · show Holds makeAddress yaml (d.fileAfter yaml m) config
        rw [fileAfter_ne writes]
        exact holds
  · intro config member
    exact lives.versions config (same ▸ member)

/-- Within a life, what would survive a crash survives a later one. -/
theorem step_lives (lives : Lives makeAddress yaml d lost kept) (sound : Sound yaml d e) (live : ¬ e.Boots)
    (taken : step text yaml d e = some t) : ∃ rest more, Lives makeAddress yaml t rest (more ++ kept) := by
  cases e with
  | admin call published =>
    obtain ⟨rest, after, -⟩ := serve_lives lives sound taken
    exact ⟨rest, [], after⟩
  | visit c x =>
    obtain rfl := Option.some.inj taken
    exact ⟨lost, [], lives.durable, lives.current, lives.file, lives.versions,
      visit_kept (s := d.state) c x lives.blocks⟩
  | writer m =>
    obtain ⟨rest, more, after, -⟩ := write_lives lives sound taken
    exact ⟨rest, more, after⟩
  | stop | kill => exact absurd trivial live

theorem run_live {events : List (Event libs makeAddress)} (lives : Lives makeAddress yaml d lost kept)
    (sound : Lts.Meets (step text yaml) (Sound yaml) d events) (live : ∀ e ∈ events, ¬ e.Boots)
    (reached : Lts.run (step text yaml) d events = some t) :
    ∃ rest more, Lives makeAddress yaml t rest (more ++ kept) := by
  induction events generalizing d lost kept with
  | nil =>
    obtain rfl := Option.some.inj reached
    exact ⟨lost, [], lives⟩
  | cons e events ih =>
    obtain ⟨next, taken, tail⟩ := Lts.run_cons_some.mp reached
    obtain ⟨within, others⟩ := List.forall_mem_cons.mp live
    obtain ⟨less, more, after⟩ := step_lives lives sound.1 within taken
    obtain ⟨left, newer, final⟩ := ih after (sound.2 next taken) others tail
    rw [← List.append_assoc] at final
    exact ⟨left, newer ++ more, final⟩

def Living (makeAddress : MakeAddress) (yaml : Library) (d : Daemon) : Prop :=
  ∃ lost kept, Lives makeAddress yaml d lost kept

/-- Over all lives: the process is in the middle of one. -/
theorem run_living (start : Living makeAddress yaml d) (sound : Lts.Meets (step text yaml) (Sound yaml) d events)
    (reached : Lts.run (step text yaml) d events = some t) : Living makeAddress yaml t := by
  refine Lts.run_invariant ?_ start sound reached
  rintro d e next ⟨lost, kept, lives⟩ sound taken
  have boots {later : Int} (taken : Daemon.start yaml makeAddress d.file later = some next) :
      Living makeAddress yaml next := by
    obtain ⟨config, -, first, after⟩ := lives.boots later
    obtain rfl := Option.some.inj (first.symm.trans taken)
    exact ⟨_, _, after⟩
  cases e with
  | stop later =>
    dsimp only [step] at taken
    split at taken
    · exact boots taken
    · cases taken
  | kill later => exact boots taken
  | _ =>
    obtain ⟨rest, more, after⟩ := step_lives lives sound (fun h => h) taken
    exact ⟨rest, _, after⟩

/-- The versions `kept` survive a crash: the next process comes up with the newest of them. -/
def Survives (libs : Libraries) (makeAddress : MakeAddress) (text : AddressText) (yaml : Library) (d : Daemon)
    (kept : List RuntimeConfig) : Prop :=
  ∃ lost config, d.queue.published = lost ++ kept ∧ kept.head? = some config ∧
    ∀ later, step text yaml d (.kill later : Event libs makeAddress) = some (booted d.file config.restarted)

theorem Lives.survives (lives : Lives makeAddress yaml d lost kept) : Survives libs makeAddress text yaml d kept := by
  obtain ⟨config, newest, holds⟩ := lives.file
  exact ⟨lost, config, lives.durable.split, newest, fun later => start_restarted holds⟩

/-- Whatever was restarted or killed before: the process comes up again after a kill, with a valid configuration
that was published, and no kill in the same life takes it further back than an earlier one would have. -/
theorem crash_loses_newest (libs : Libraries) (makeAddress : MakeAddress) (text : AddressText) (yaml : Library)
    (d t u : Daemon) (before after : List (Event libs makeAddress)) (living : Living makeAddress yaml d)
    (sound : Lts.Meets (step text yaml) (Sound yaml) d (before ++ after)) (live : ∀ e ∈ after, ¬ e.Boots)
    (reached : Lts.run (step text yaml) d before = some t) (later : Lts.run (step text yaml) t after = some u) :
    ∃ kept more, Survives libs makeAddress text yaml t kept ∧ Survives libs makeAddress text yaml u (more ++ kept) ∧
      Healthy makeAddress u.state := by
  obtain ⟨sound, onwards⟩ := Lts.meets_append sound reached
  obtain ⟨lost, kept, lives⟩ := run_living living sound reached
  obtain ⟨rest, more, final⟩ := run_live lives onwards live later
  exact ⟨kept, more, lives.survives, final.survives, final.healthy⟩

/-- The defaults, as the first process reads them. -/
def firstConfig : RuntimeConfig := ({} : RuntimeConfig).restarted

def loggedConfig : RuntimeConfig := (loginRequest.serve { config := firstConfig }).config

def lifeYaml : Library :=
  { sampleYaml "" loggedConfig with
    load := fun file => some (writeConfig sampleDoubles (if file = "defaults" then {} else loggedConfig)) }

def firstDaemon : Daemon := booted "defaults" firstConfig

abbrev LoginEvent := Event guardLibraries IpBlockTracker.sampleMakeAddress

def loginPublished : List LoginEvent := [.admin loginRequest true]

def loginWritten : List LoginEvent := [.writer .enqueue, .writer .take, .writer .write]

theorem default_doubles {yaml : Library} : DoublesReadBack yaml {} := by
  rintro bits (lat | lon)
  · cases lat
  · cases lon

theorem defaults_held : Holds IpBlockTracker.sampleMakeAddress lifeYaml "defaults" {} := by
  intro later
  have valid : Admin.ConfigValid IpBlockTracker.sampleMakeAddress {} := .default
  exact parse_loaded default_typed valid.kept valid.dated default_doubles rfl

theorem firstDaemon_lives :
    Lives IpBlockTracker.sampleMakeAddress lifeYaml firstDaemon [] [firstConfig] := by
  have valid : Admin.ConfigValid IpBlockTracker.sampleMakeAddress firstConfig := valid_restarted .default
  exact booted_lives valid (typed_after default_typed restarted_listeners valid) (holds_restarted defaults_held)

theorem logged_reads : ReadsBack lifeYaml loggedConfig := by
  refine ⟨?_, rfl⟩
  rintro bits (lat | lon)
  · cases lat
  · cases lon

theorem login_sound : Lts.Meets (step (fun _ => "192.0.2.7") lifeYaml) (Sound lifeYaml) firstDaemon
    (loginPublished ++ loginWritten) := by
  refine ⟨⟨guard_running, fun other => by cases other⟩, fun next taken => ?_⟩
  obtain rfl := Option.some.inj taken
  refine ⟨trivial, fun next taken => ?_⟩
  obtain rfl := Option.some.inj taken
  refine ⟨trivial, fun next taken => ?_⟩
  obtain rfl := Option.some.inj taken
  refine ⟨fun config held => ?_, fun _ _ => trivial⟩
  obtain rfl := Option.some.inj held
  exact logged_reads

/-- A kill before the write would lose the request, one after it not. -/
theorem login_survives : ∃ t u kept more,
    Lts.run (step (fun _ => "192.0.2.7") lifeYaml) firstDaemon loginPublished = some t ∧
    Lts.run (step (fun _ => "192.0.2.7") lifeYaml) t loginWritten = some u ∧
    Survives guardLibraries IpBlockTracker.sampleMakeAddress (fun _ => "192.0.2.7") lifeYaml t kept ∧
    Survives guardLibraries IpBlockTracker.sampleMakeAddress (fun _ => "192.0.2.7") lifeYaml u (more ++ kept) ∧
      Healthy IpBlockTracker.sampleMakeAddress u.state := by
  obtain ⟨kept, more, before, after, healthy⟩ := crash_loses_newest guardLibraries IpBlockTracker.sampleMakeAddress
    (fun _ => "192.0.2.7") lifeYaml firstDaemon _ _ loginPublished loginWritten ⟨_, _, firstDaemon_lives⟩ login_sound
    (by simp [loginWritten, Event.Boots]) rfl rfl
  exact ⟨_, _, kept, more, rfl, rfl, before, after, healthy⟩

/-! ### Lives that end well -/

/-- The newest version is not given up, and the process is stopped and not killed. -/
def Clean (yaml : Library) (d : Daemon) : Event libs makeAddress → Prop
  | .kill _ => False
  | .writer m => d.queue.Superseded m
  | .stop _ => ReadsBack yaml d.config
  | _ => True

/-- What the firewall sees of the event. -/
inductive Shows : Daemon → Event libs makeAddress → System.Event libs makeAddress → Prop where
  | admin {d call published} : Shows d (.admin call published) (.admin call)
  | visit {d c x} : Shows d (.visit c x) (.visit c x)
  | stop {d later} : Shows d (.stop later) (.restart later)

/-- The newest version is on its way to the file, or on it. -/
def Current (makeAddress : MakeAddress) (yaml : Library) (d : Daemon) : Prop :=
  ∃ lost kept, Lives makeAddress yaml d lost kept ∧ d.queue.Newest lost

theorem booted_current {file : String} {config : RuntimeConfig} (lives : Lives makeAddress yaml (booted file config) [] [config]) :
    Current makeAddress yaml (booted file config) := ⟨[], [config], lives, rfl⟩

theorem step_clean (current : Current makeAddress yaml d) (sound : Sound yaml d e ∧ Clean yaml d e)
    (taken : step text yaml d e = some t) : Current makeAddress yaml t ∧
      (t.state = d.state ∨ ∃ b, Shows d e b ∧ System.step text yaml d.state b = some t.state) := by
  obtain ⟨lost, kept, lives, newest⟩ := current
  obtain ⟨sound, clean⟩ := sound
  cases e with
  | admin call published =>
    obtain ⟨rest, after, still⟩ := serve_lives lives sound taken
    refine ⟨⟨rest, kept, after, still newest⟩, Or.inr ⟨_, .admin, ?_⟩⟩
    cases published with
    | true =>
      obtain ⟨queue, -, rfl⟩ := Option.map_eq_some_iff.mp taken
      rfl
    | false =>
      obtain rfl := Option.some.inj taken
      rfl
  | visit c x =>
    obtain rfl := Option.some.inj taken
    have after : (Listener.runHttpSession text d.config c x d.visitors).2.ipBlocks.Kept :=
      visit_kept (s := d.state) c x lives.blocks
    exact ⟨⟨lost, kept, ⟨lives.durable, lives.current, lives.file, lives.versions, after⟩, newest⟩,
      Or.inr ⟨_, .visit, rfl⟩⟩
  | writer m =>
    obtain ⟨rest, more, after, still⟩ := write_lives lives sound taken
    obtain ⟨queue, -, rfl⟩ := Option.map_eq_some_iff.mp taken
    exact ⟨⟨rest, _, after, still newest clean⟩, Or.inl rfl⟩
  | stop later =>
    dsimp only [step] at taken
    split at taken
    · next drained =>
      obtain rfl := newest.settled (List.isEmpty_iff.mp drained)
      obtain ⟨config, first, again, after⟩ := lives.boots later
      obtain rfl := Option.some.inj (again.symm.trans taken)
      -- nothing is lost, so the version on the file is the one in force
      obtain rfl : config = d.config := by
        have whole : d.queue.published = kept := lives.durable.split
        have newest := lives.current
        rw [whole, first] at newest
        exact Option.some.inj newest
      exact ⟨booted_current after, Or.inr ⟨_, .stop, step_restart lives.healthy clean⟩⟩
    · cases taken
  | kill => exact clean.elim

/-- As long as the process is stopped and not killed, and no write of the newest version fails, the writer does not
show: every run is a run of the firewall, whatever the order of the requests and the writes. -/
theorem clean_lives_refine_firewall (libs : Libraries) (makeAddress : MakeAddress) (text : AddressText) (yaml : Library)
    (d t : Daemon) (events : List (Event libs makeAddress)) (current : Current makeAddress yaml d)
    (sound : Lts.Meets (step text yaml) (fun d e => Sound yaml d e ∧ Clean yaml d e) d events)
    (reached : Lts.run (step text yaml) d events = some t) :
    ∃ others, Lts.Matched (step text yaml) state Shows d events others ∧
      Lts.run (System.step text yaml) d.state others = some t.state :=
  Lts.run_matched_of (fun _ _ _ => step_clean) current sound reached

/-- A request, its write and a restart. -/
def loginLife : List LoginEvent := loginPublished ++ loginWritten ++ [.stop 0]

theorem loginLife_clean : Lts.Meets (step (fun _ => "192.0.2.7") lifeYaml) (fun d e => Sound lifeYaml d e ∧ Clean lifeYaml d e)
    firstDaemon loginLife := by
  refine ⟨⟨⟨guard_running, fun other => by cases other⟩, trivial⟩, fun next taken => ?_⟩
  obtain rfl := Option.some.inj taken
  refine ⟨⟨trivial, trivial⟩, fun next taken => ?_⟩
  obtain rfl := Option.some.inj taken
  refine ⟨⟨trivial, trivial⟩, fun next taken => ?_⟩
  obtain rfl := Option.some.inj taken
  refine ⟨⟨fun config held => ?_, trivial⟩, fun next taken => ?_⟩
  · obtain rfl := Option.some.inj held
    exact logged_reads
  · obtain rfl := Option.some.inj taken
    exact ⟨⟨trivial, logged_reads⟩, fun _ _ => trivial⟩

theorem loginLife_ends : ∃ t, Lts.run (step (fun _ => "192.0.2.7") lifeYaml) firstDaemon loginLife = some t := by
  have written : Lts.run (step (fun _ => "192.0.2.7") lifeYaml) firstDaemon (loginPublished ++ loginWritten) = some _ := rfl
  obtain ⟨lost, kept, lives⟩ := run_living ⟨_, _, firstDaemon_lives⟩ login_sound written
  obtain ⟨config, -, again, -⟩ := lives.boots 0
  unfold loginLife
  rw [Lts.run_append, written]
  exact ⟨_, Lts.run_cons_some.mpr ⟨_, again, rfl⟩⟩

theorem loginLife_seen_by_firewall : ∃ t others,
    Lts.Matched (step (fun _ => "192.0.2.7") lifeYaml) state Shows firstDaemon loginLife others ∧
      Lts.run (System.step (fun _ => "192.0.2.7") lifeYaml) firstDaemon.state others = some (t : Daemon).state := by
  obtain ⟨t, reached⟩ := loginLife_ends
  obtain ⟨others, matched, run⟩ := clean_lives_refine_firewall guardLibraries IpBlockTracker.sampleMakeAddress
    (fun _ => "192.0.2.7") lifeYaml firstDaemon t loginLife (booted_current firstDaemon_lives) loginLife_clean reached
  exact ⟨t, others, matched, run⟩

end Daemon

end Atomwall.System
