import Atomwall.Admin.ConfigRuns
import Atomwall.Config.Restart
import Atomwall.Listener.BanDuration
import Atomwall.Listener.Decision

/-!
The process as a whole. Requests to the admin API and requests of visitors share the configuration and the
trackers; a restart leaves what the file holds, which after the destructor of `ConfigStore` is the configuration
that was published last. Every event is taken as a whole.
-/

namespace Atomwall.System

open Yaml

structure State where
  config : RuntimeConfig := {}
  visitors : Listener.AppState := {}

inductive Event (libs : Libraries) (makeAddress : MakeAddress) where
  | admin (call : Admin.ConfigRequest libs makeAddress)
  | visit (c : Listener.Connection) (x : Listener.Exchange)
  | restart (later : Int)

section Step

variable {libs : Libraries} {makeAddress : MakeAddress} (text : AddressText) (yaml : Library)

/-- A process whose file cannot be parsed does not start. -/
def step (s : State) : Event libs makeAddress → Option State
  | .admin call =>
    let after := call.serve ⟨s.config, s.visitors.ipBlocks⟩
    some { config := after.config, visitors := { s.visitors with ipBlocks := after.ipBlocks } }
  | .visit c x => some { s with visitors := (Listener.runHttpSession text s.config c x s.visitors).2 }
  | .restart later =>
    match parseYamlConfig makeAddress yaml later (toYamlConfig yaml s.config) with
    | .ok config => some { config }
    | .error _ => none

/-- The clocks show times after the epoch, and what the YAML library writes at a restart it reads back. -/
def Sound (s : State) : Event libs makeAddress → Prop
  | .admin call => call.env.Running
  | .visit .. => True
  | .restart _ => DoublesReadBack yaml s.config ∧
      yaml.load (yaml.emit (writeConfig yaml s.config)) = some (writeConfig yaml s.config)

end Step

/-! ### The configuration at every time -/

structure Healthy (makeAddress : MakeAddress) (s : State) : Prop where
  valid : Admin.ConfigValid makeAddress s.config
  typed : s.config.Typed
  blocks : s.visitors.ipBlocks.Kept

section Health

variable {libs : Libraries} {makeAddress : MakeAddress} {text : AddressText} {yaml : Library} {s t : State}
  {e : Event libs makeAddress} {events : List (Event libs makeAddress)} {config next : RuntimeConfig}

/-- What the requests keep is within the types of the numbers. -/
theorem typed_after (typed : config.Typed) (same : SameListeners config next)
    (valid : Admin.ConfigValid makeAddress next) : next.Typed where
  httpPort := same.http ▸ typed.httpPort
  httpsPort := same.https ▸ typed.httpsPort
  upstreamPort := same.upstream ▸ typed.upstreamPort
  sitePort site member := by
    have port := valid.settings.ports site member
    show (0 : Int) ≤ site.upstream.port ∧ (site.upstream.port : Int) ≤ 65535
    omega
  adminPort := same.admin ▸ typed.adminPort
  maxHeaderBytes := same.limits ▸ typed.maxHeaderBytes
  maxBodyBytes := same.limits ▸ typed.maxBodyBytes
  upstreamConnectTimeout := same.limits ▸ typed.upstreamConnectTimeout
  requestTimeout := same.limits ▸ typed.requestTimeout
  maxBodySizeBytes := by
    have size := valid.settings.maxBodySizeBytes
    show (0 : Int) ≤ next.blacklist.maxBodySizeBytes ∧ (next.blacklist.maxBodySizeBytes : Int) ≤ 18446744073709551615
    omega
  threshold := by
    obtain ⟨least, most⟩ := valid.settings.threshold
    show (-2147483648 : Int) ≤ _ ∧ _ ≤ (2147483647 : Int)
    omega
  banDurationHours := by
    obtain ⟨least, most⟩ := valid.settings.banDurationHours
    unfold kMaxBanDurationHours at most
    show (-2147483648 : Int) ≤ _ ∧ _ ≤ (2147483647 : Int)
    omega
  scores score member := valid.settings.scores score.1 score.2 (KeyMap.lookup_eq_some_iff.mpr member)
  maxRequests := by
    obtain ⟨least, most⟩ := valid.settings.maxRequests
    show (-2147483648 : Int) ≤ _ ∧ _ ≤ (2147483647 : Int)
    omega
  windowSeconds := by
    obtain ⟨least, most⟩ := valid.settings.windowSeconds
    show (-2147483648 : Int) ≤ _ ∧ _ ≤ (2147483647 : Int)
    omega
  statusCode page member := by
    have code := valid.kept.codes.2 _ (List.mem_map_of_mem member)
    show (-2147483648 : Int) ≤ _ ∧ _ ≤ (2147483647 : Int)
    omega
  publicPort := by
    have port := valid.settings.publicPort
    show (0 : Int) ≤ next.globe.publicPort ∧ (next.globe.publicPort : Int) ≤ 65535
    omega
  historySize := by
    obtain ⟨least, most⟩ := valid.settings.historySize
    show (0 : Int) ≤ next.globe.historySize ∧ (next.globe.historySize : Int) ≤ 18446744073709551615
    omega

theorem restarted_listeners : SameListeners config config.restarted := ⟨rfl, rfl, rfl, rfl, rfl⟩

theorem valid_restarted (valid : Admin.ConfigValid makeAddress config) :
    Admin.ConfigValid makeAddress config.restarted where
  kept := valid.kept.restarted
  dated := valid.dated.restarted
  settings := { valid.settings with
    scores := fun category points found => valid.settings.scores category points (scores_restarted category ▸ found) }

/-- The next process reads the configuration, without the blanks and the fractions of its times. -/
theorem step_restart {later : Int} (healthy : Healthy makeAddress s) (sound : Sound yaml s (.restart later : Event libs makeAddress)) :
    step text yaml s (.restart later : Event libs makeAddress) = some { config := s.config.restarted } := by
  have read := @parse_restarted makeAddress later s.config yaml healthy.typed healthy.valid.kept healthy.valid.dated
    sound.1 sound.2
  simp only [step, read]

theorem serve_kept (call : Admin.ConfigRequest libs makeAddress) (kept : s.visitors.ipBlocks.Kept) :
    (call.serve ⟨s.config, s.visitors.ipBlocks⟩).ipBlocks.Kept := by
  obtain ⟨made, -, after⟩ := (call.serves ⟨s.config, s.visitors.ipBlocks⟩).accepted.blocks
  unfold Admin.ConfigRequest.serve
  rw [after]
  clear after
  induction made generalizing s with
  | nil => exact kept
  | cons first rest ih =>
    exact @ih { s with visitors := { s.visitors with ipBlocks := first.step makeAddress s.visitors.ipBlocks } }
      (IpBlockTracker.step_kept kept first)

/-- The block that a visit leads to. -/
def banOf (text : AddressText) (s : State) (c : Listener.Connection) (x : Listener.Exchange) : Option TemporaryIpBlock :=
  match Listener.decision text s.config c x s.visitors with
  | .blocked result =>
    (Listener.Award.mk s.config x.readings c.clientIp result.checkName).block text s.visitors.scores
  | _ => none

theorem visit_blocks (c : Listener.Connection) (x : Listener.Exchange) :
    (Listener.runHttpSession text s.config c x s.visitors).2.ipBlocks =
      match banOf text s c x with
      | some block => s.visitors.ipBlocks.add x.readings.added block
      | none => s.visitors.ipBlocks := by
  have after := congrArg Prod.snd (@Listener.request_trackers text s.config c x s.visitors)
  unfold banOf
  cases decided : Listener.decision text s.config c x s.visitors with
  | blocked result =>
    rw [decided] at after
    dsimp only [Listener.Outcome.award] at after ⊢
    rw [after, Listener.awardScore_eq text ⟨s.config, x.readings, c.clientIp, result.checkName⟩]
    cases (Listener.Award.mk s.config x.readings c.clientIp result.checkName).block text s.visitors.scores with
    | some block => rfl
    | none =>
      dsimp only
      split <;> rfl
  | _ =>
    rw [decided] at after
    exact after

theorem visit_kept (c : Listener.Connection) (x : Listener.Exchange) (kept : s.visitors.ipBlocks.Kept) :
    (Listener.runHttpSession text s.config c x s.visitors).2.ipBlocks.Kept := by
  rw [visit_blocks]
  split
  · exact kept.prunedWhenDue.put
  · exact kept

theorem step_healthy (text : AddressText) (healthy : Healthy makeAddress s) (sound : Sound yaml s e) :
    ∃ next, step text yaml s e = some next ∧ Healthy makeAddress next := by
  cases e with
  | admin call =>
    have valid := @Admin.serve_valid _ _ call ⟨s.config, s.visitors.ipBlocks⟩ sound healthy.valid
    have same := @Admin.serve_listeners _ _ call ⟨s.config, s.visitors.ipBlocks⟩
    exact ⟨_, rfl, valid, typed_after healthy.typed same valid, serve_kept call healthy.blocks⟩
  | visit c x => exact ⟨_, rfl, healthy.valid, healthy.typed, visit_kept c x healthy.blocks⟩
  | restart later =>
    have valid := valid_restarted healthy.valid
    exact ⟨_, step_restart healthy sound, valid, typed_after healthy.typed restarted_listeners valid, .empty _⟩

theorem Healthy.default : Healthy makeAddress {} := ⟨.default, default_typed, .empty _⟩

/-- Whatever the admins and the visitors send, the process comes up again after every restart, and its
configuration is valid at every time. -/
theorem process_stays_healthy (libs : Libraries) (makeAddress : MakeAddress) (text : AddressText) (yaml : Library)
    (s : State) (events : List (Event libs makeAddress)) (healthy : Healthy makeAddress s)
    (sound : Lts.Meets (step text yaml) (Sound yaml) s events) :
    ∃ t, Lts.run (step text yaml) s events = some t ∧ Healthy makeAddress t := by
  induction events generalizing s with
  | nil => exact ⟨s, rfl, healthy⟩
  | cons e rest ih =>
    obtain ⟨next, taken, kept⟩ := step_healthy text healthy sound.1
    obtain ⟨t, reached, final⟩ := ih next kept (sound.2 next taken)
    exact ⟨t, Lts.run_cons_some.mpr ⟨next, taken, reached⟩, final⟩

def guardLibraries : Libraries :=
  { Admin.blockLibraries with
    jsonParse text := if text = "login" then some (.object [("value", .string "/wp-login")])
      else if text = "health" then some (.object [("value", .string "/health")])
      else if text = "visitor" then some (.object [("value", .string "192.0.2.7"), ("duration_hours", .int64 1)])
      else none }

theorem guard_routes : Admin.handlerFor .post "/api/blacklist/routes" = .blacklistMutation .post "routes" ∧
    Admin.handlerFor .post "/api/whitelist/routes" = .whitelistRoutesMutation .post ∧
    Admin.handlerFor .post "/api/blacklist/ips" = .blacklistMutation .post "ips" := by
  delta Admin.handlerFor Admin.Rule.select Admin.Pattern.accepts Admin.Pattern.rest ByteString.startsWith
    ByteString.endsWith ByteString.dropFirst ByteString.takeFirst
  rw [ByteString.toList_eq_stored]
  decide +kernel

def postOf (target body : String) : Http.Request := { methodString := "POST", target, body }

def unvisited : Listener.AppState := {}

def visitor : Listener.Connection := { clientIp := IpBlockTracker.sampleBlock.address }

def visitOf (target : String) : Listener.Exchange where
  request := { methodString := "GET", target, fields := [("Host", "localhost")] }
  readings := ⟨0, 0, 0, 0, 0⟩
  origin _ _ := none

def loginRequest : Admin.ConfigRequest guardLibraries IpBlockTracker.sampleMakeAddress where
  request := postOf "/api/blacklist/routes" "login"
  env := Admin.thresholdEnv
  handler := Admin.handleBlacklistMutation guardLibraries IpBlockTracker.sampleMakeAddress Admin.thresholdEnv
    (postOf "/api/blacklist/routes" "login") .post "routes" ""
  known := by
    have route : Admin.handlerFor (postOf "/api/blacklist/routes" "login").method "/api/blacklist/routes" =
      .blacklistMutation .post "routes" := guard_routes.1
    show Admin.configHandler _ _ _ _ _ (Admin.handlerFor _ "/api/blacklist/routes") = _
    rw [route]
    rfl

/-- The configuration after the first request. -/
def guardConfig : RuntimeConfig := (loginRequest.serve {}).config

def guardYaml : Library := sampleYaml "" guardConfig

theorem guard_running : Admin.thresholdEnv.Running := ⟨fun _ => Int.le_refl 0, Int.le_refl 0⟩

theorem guard_sound : Sound guardYaml { config := guardConfig } (.restart 0 : Event guardLibraries IpBlockTracker.sampleMakeAddress) := by
  refine ⟨?_, sampleYaml_tree "" guardConfig⟩
  rintro bits (lat | lon)
  · cases lat
  · cases lon

/-- A route is listed, and the process restarted. -/
theorem listed_and_restarted : ∃ t,
    Lts.run (step (fun _ => "192.0.2.7") guardYaml) {} [.admin loginRequest, .restart 0] = some t ∧
      Healthy IpBlockTracker.sampleMakeAddress t := by
  refine process_stays_healthy _ _ _ guardYaml {} _ .default ⟨guard_running, fun next taken => ?_⟩
  obtain rfl := Option.some.inj taken
  exact ⟨guard_sound, fun _ _ => trivial⟩

/-! ### The values of the lists -/

/-- The event takes the value out of the list. -/
def Event.Drops (target : EntryList) (value : String) : Event libs makeAddress → Prop
  | .admin call => Admin.Drops libs call.request call.route target value
  | _ => False

theorem serve_held {call : Admin.ConfigRequest libs makeAddress} {state : Admin.IpBlockState} {target : EntryList}
    {value : String} (spared : ¬ Admin.Drops libs call.request call.route target value)
    (listed : value ∈ (target.lists state.config).values) :
    value ∈ (target.lists (call.serve state).config).values := by
  unfold Admin.ConfigRequest.serve
  rcases (call.serves state).accepted.config with same | ⟨part, -, change⟩
  · rwa [same]
  · rcases change.records with ⟨op, clock, -, drops, done⟩ | same
    · exact (op.run_edit done).held (fun gone => spared (drops target value gone)) listed
    · rwa [same.lists target]

theorem step_held {target : EntryList} {value : String} (full : ByteString.isBlank value = false) (healthy : Healthy makeAddress s)
    (sound : Sound yaml s e) (spared : ¬ e.Drops target value) (listed : value ∈ (target.lists s.config).values)
    (taken : step text yaml s e = some t) : value ∈ (target.lists t.config).values := by
  cases e with
  | admin call =>
    obtain rfl := Option.some.inj taken
    exact serve_held spared listed
  | visit c x =>
    obtain rfl := Option.some.inj taken
    exact listed
  | restart later =>
    rw [step_restart healthy sound] at taken
    obtain rfl := Option.some.inj taken
    exact mem_values_restarted.mpr ⟨listed, full⟩

structure Listed (makeAddress : MakeAddress) (target : EntryList) (value : String) (s : State) : Prop where
  healthy : Healthy makeAddress s
  listed : value ∈ (target.lists s.config).values

theorem guard_healthy : Healthy IpBlockTracker.sampleMakeAddress { config := guardConfig } := by
  obtain ⟨next, taken, healthy⟩ := @step_healthy guardLibraries IpBlockTracker.sampleMakeAddress guardYaml {}
    (.admin loginRequest) (fun _ => "192.0.2.7") .default guard_running
  obtain rfl := Option.some.inj taken
  exact healthy

/-- A value that is not blank stays in its list until a request takes it out, through restarts too. -/
theorem run_held {target : EntryList} {value : String} (full : ByteString.isBlank value = false)
    (listed : Listed makeAddress target value s) (sound : Lts.Meets (step text yaml) (Sound yaml) s events)
    (spared : ∀ e ∈ events, ¬ e.Drops target value) (reached : Lts.run (step text yaml) s events = some t) :
    Listed makeAddress target value t := by
  refine Lts.run_invariant ?_ listed (Lts.meets_and sound spared) reached
  rintro s e next ⟨healthy, listed⟩ ⟨sound, spared⟩ taken
  obtain ⟨other, same, kept⟩ := step_healthy text healthy sound
  obtain rfl := Option.some.inj (taken.symm.trans same)
  exact ⟨kept, step_held full healthy sound spared listed taken⟩

end Health

end Atomwall.System
