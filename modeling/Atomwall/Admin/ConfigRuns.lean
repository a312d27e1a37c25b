import Atomwall.Admin.ConfigChanges

/-!
Runs of requests to the handlers of the configuration: what the handlers check before they publish it holds
after any of them, and a part that no request was about is as it was.
-/

namespace Atomwall.Admin

open Http

/-! ### What a change leaves alone -/

section Changes

variable {libs : Libraries} {makeAddress : MakeAddress} {env : Surroundings} {request : Request} {route : Route}
  {state : IpBlockState} {config next : RuntimeConfig} {part : ConfigPart}

/-- A setter that was run to its end, one result after another. -/
theorem bind_eq_ok {α β : Type} {first : Except Fault α} {rest : α → Except Fault β} {b : β}
    (done : first >>= rest = .ok b) : ∃ a, first = .ok a ∧ rest a = .ok b := by
  cases first with
  | error fault => cases done
  | ok a => exact ⟨a, rfl, done⟩

theorem setBan_ok {body : JsonObject} (done : setBan body config = .ok next) :
    ∃ threshold banDurationHours, positiveField body "threshold" config.ban.threshold = .ok threshold ∧
      boundedField body "ban_duration_hours" kMaxBanDurationHours config.ban.banDurationHours = .ok banDurationHours ∧
      next = { config with ban :=
        { enabled := (jsonBoolField body "enabled").getD config.ban.enabled, threshold, banDurationHours
          scores := setScores body config.ban.scores } } := by
  obtain ⟨threshold, first, rest⟩ := bind_eq_ok done
  obtain ⟨banDurationHours, second, last⟩ := bind_eq_ok rest
  exact ⟨threshold, banDurationHours, first, second, (Except.ok.inj last).symm⟩

theorem setSpeedCheck_ok {body : JsonObject} (done : setSpeedCheck body config = .ok next) :
    ∃ maxRequests windowSeconds, positiveField body "max_requests" config.speedCheck.maxRequests = .ok maxRequests ∧
      positiveField body "window_seconds" config.speedCheck.windowSeconds = .ok windowSeconds ∧
      next = { config with speedCheck :=
        ⟨(jsonBoolField body "enabled").getD config.speedCheck.enabled, maxRequests, windowSeconds⟩ } := by
  obtain ⟨maxRequests, first, rest⟩ := bind_eq_ok done
  obtain ⟨windowSeconds, second, last⟩ := bind_eq_ok rest
  exact ⟨maxRequests, windowSeconds, first, second, (Except.ok.inj last).symm⟩

theorem setGlobe_ok {body : JsonObject} (done : setGlobe body config = .ok next) :
    ∃ publicPort historySize, boundedField body "public_port" 65535 config.globe.publicPort = .ok publicPort ∧
      coordinateField body "server_lat" 90 config.globe.serverLatBits = .ok next.globe.serverLatBits ∧
      coordinateField body "server_lon" 180 config.globe.serverLonBits = .ok next.globe.serverLonBits ∧
      positiveField body "history_size" config.globe.historySize = .ok historySize ∧
      next.globe.publicPort = publicPort.toNat ∧ next.globe.historySize = historySize.toNat ∧
      next = { config with globe := next.globe } := by
  obtain ⟨publicPort, first, rest⟩ := bind_eq_ok done
  obtain ⟨serverLatBits, second, rest⟩ := bind_eq_ok rest
  obtain ⟨serverLonBits, third, rest⟩ := bind_eq_ok rest
  obtain ⟨historySize, fourth, last⟩ := bind_eq_ok rest
  obtain rfl := Except.ok.inj last
  exact ⟨publicPort, historySize, first, second, third, fourth, rfl, rfl, rfl⟩

theorem setMethodCheck_frame {body : JsonObject} (done : setMethodCheck body config = .ok next) :
    next = { config with methodCheck := next.methodCheck } := by
  unfold setMethodCheck at done
  dsimp only at done
  split at done
  · obtain rfl := Except.ok.inj done
    rfl
  · split at done
    · cases done
    · obtain rfl := Except.ok.inj done
      rfl

theorem ConfigChange.frame (change : ConfigChange libs makeAddress env request route config part next) :
    next = part.take config next := by
  cases change with
  | ran op clock reads ports drops done => exact (op.run_edit done).frame
  | ban body done =>
    obtain ⟨_, _, -, -, rfl⟩ := setBan_ok done
    rfl
  | speedCheck body done =>
    obtain ⟨_, _, -, -, rfl⟩ := setSpeedCheck_ok done
    rfl
  | methodCheck body done => exact setMethodCheck_frame done
  | globe body done =>
    obtain ⟨_, _, -, -, -, -, -, -, frame⟩ := setGlobe_ok done
    exact frame
  | robotsTxt body =>
    unfold setRobotsTxt
    split <;> rfl
  | security body =>
    unfold setRequire2fa
    split <;> rfl
  | maxBodySize | emergencyOff | html | requestLog | geoip => rfl

/-! ### What is checked before it is published -/

/-- A coordinate that was set is no further from zero than the limit. -/
def CoordinateHolds (limit : Nat) (coordinate : Option UInt64) : Prop :=
  ∀ bits, coordinate = some bits → farFrom limit bits = false

def PositiveInt (n : Int) : Prop := 1 ≤ n ∧ n ≤ 2147483647

structure SettingsHold (config : RuntimeConfig) : Prop where
  threshold : PositiveInt config.ban.threshold
  banDurationHours : 1 ≤ config.ban.banDurationHours ∧ config.ban.banDurationHours ≤ kMaxBanDurationHours
  scores : ∀ category points, config.ban.scores.lookup category = some points → Yaml.IntType.int.Holds points
  maxRequests : PositiveInt config.speedCheck.maxRequests
  windowSeconds : PositiveInt config.speedCheck.windowSeconds
  maxBodySizeBytes : config.blacklist.maxBodySizeBytes ≤ 2147483647
  publicPort : 1 ≤ config.globe.publicPort ∧ config.globe.publicPort ≤ 65535
  historySize : PositiveInt config.globe.historySize
  serverLat : CoordinateHolds 90 config.globe.serverLatBits
  serverLon : CoordinateHolds 180 config.globe.serverLonBits
  ports : PortsHold config.sites

theorem positiveField_holds {body : JsonObject} {key : String} {current n : Int}
    (read : positiveField body key current = .ok n) (held : PositiveInt current) : PositiveInt n := by
  unfold positiveField at read
  split at read
  · obtain rfl := Except.ok.inj read
    exact held
  · next given number =>
    split at read
    · cases read
    · obtain rfl := Except.ok.inj read
      have bounded := (jsonIntField_holds number).2
      constructor
      · omega
      · exact bounded

theorem boundedField_holds {body : JsonObject} {key : String} {bound current n : Int}
    (read : boundedField body key bound current = .ok n) (held : 1 ≤ current ∧ current ≤ bound) : 1 ≤ n ∧ n ≤ bound := by
  unfold boundedField at read
  split at read
  · obtain rfl := Except.ok.inj read
    exact held
  · split at read
    · cases read
    · obtain rfl := Except.ok.inj read
      omega

/-- Below the limits of a coordinate the bits of whole numbers are ordered as the numbers are. -/
theorem natToDouble_le {limit n : Nat} (limited : limit = 90 ∨ limit = 180) (inside : n ≤ limit) :
    natToDouble n ≤ natToDouble limit ∧ natToDouble n < 9223372036854775808 := by
  revert n
  rcases limited with rfl | rfl <;> decide +kernel

theorem intToDouble_near {limit : Nat} {n : Int} (limited : limit = 90 ∨ limit = 180) (inside : n.natAbs ≤ limit) :
    farFrom limit (intToDouble n) = false := by
  obtain ⟨le, small⟩ := natToDouble_le limited inside
  have magnitude : (intToDouble n).toNat % kSignBit = natToDouble n.natAbs := by
    show (natToDouble n.natAbs + if n < 0 then kSignBit else 0) % 18446744073709551616 % kSignBit = _
    unfold kSignBit
    split <;> omega
  unfold farFrom
  rw [magnitude]
  simp only [decide_eq_false_iff_not]
  omega

theorem coordinateOf_near {limit : Nat} {value : Json} {bits : UInt64} (limited : limit = 90 ∨ limit = 180)
    (read : coordinateOf limit value = some (some bits)) : farFrom limit bits = false := by
  unfold coordinateOf at read
  split at read
  · next n =>
    have inner := Option.some.inj read
    split at inner
    · cases inner
    · next inside =>
      obtain rfl := Option.some.inj inner
      exact intToDouble_near limited (by omega)
  · next n =>
    have inner := Option.some.inj read
    split at inner
    · cases inner
    · next inside =>
      obtain rfl := Option.some.inj inner
      exact intToDouble_near limited (by omega)
  · next given =>
    have inner := Option.some.inj read
    split at inner
    · cases inner
    · next near =>
      obtain rfl := Option.some.inj inner
      simpa using near
  · cases read

theorem coordinateField_holds {body : JsonObject} {key : String} {limit : Nat} {current next : Option UInt64}
    (limited : limit = 90 ∨ limit = 180) (read : coordinateField body key limit current = .ok next)
    (held : CoordinateHolds limit current) : CoordinateHolds limit next := by
  unfold coordinateField at read
  split at read
  · obtain rfl := Except.ok.inj read
    exact held
  · obtain rfl := Except.ok.inj read
    rintro bits ⟨⟩
  · split at read
    · obtain rfl := Except.ok.inj read
      exact held
    · cases read
    · next near =>
      obtain rfl := Except.ok.inj read
      rintro bits ⟨⟩
      exact coordinateOf_near limited near

theorem foldl_setScore_holds {members : List (String × Json)} {scores : KeyMap String Int}
    (held : ∀ category points, scores.lookup category = some points → Yaml.IntType.int.Holds points) :
    ∀ category points, (members.foldl setScore scores).lookup category = some points → Yaml.IntType.int.Holds points := by
  induction members generalizing scores with
  | nil => exact held
  | cons member rest ih =>
    refine ih fun category points found => ?_
    unfold setScore at found
    split at found
    · next number read =>
      rw [KeyMap.lookup_insert_ite] at found
      split at found
      · obtain rfl := Option.some.inj found
        exact numberToInt_holds read
      · exact held category points found
    · exact held category points found

theorem setScores_holds {body : JsonObject} {scores : KeyMap String Int}
    (held : ∀ category points, scores.lookup category = some points → Yaml.IntType.int.Holds points) :
    ∀ category points, (setScores body scores).lookup category = some points → Yaml.IntType.int.Holds points := by
  unfold setScores
  split
  · exact foldl_setScore_holds held
  · exact held

/-- What an operation on the lists, the sites and the pages asks of the settings is asked of the sites only. -/
theorem Edit.settings {clock : Nat → Int} {op : ConfigOp} (edit : Edit makeAddress clock config op next)
    (supplied : ∀ port, op.Supplies port → 1 ≤ port ∧ port ≤ 65535) (held : SettingsHold config) :
    SettingsHold next := by
  have ports := edit.ports supplied held.ports
  cases edit with
  | entered target | kept target =>
    match target with
    | .blacklist category => cases category <;> exact { held with ports }
    | .whitelist => exact { held with ports }
    | .whitelistRoutes => exact { held with ports }
  | sites => exact { held with ports }
  | pages => exact { held with ports }

theorem ConfigChange.settings (change : ConfigChange libs makeAddress env request route config part next)
    (held : SettingsHold config) : SettingsHold next := by
  cases change with
  | ran op clock reads ports drops done => exact Edit.settings (op.run_edit done) ports held
  | maxBodySize maxBytes holds =>
    refine { held with maxBodySizeBytes := ?_ }
    show maxBytes.toNat ≤ 2147483647
    omega
  | ban body done =>
    obtain ⟨threshold, banDurationHours, first, second, rfl⟩ := setBan_ok done
    exact { held with
      threshold := positiveField_holds first held.threshold
      banDurationHours := boundedField_holds second held.banDurationHours
      scores := setScores_holds held.scores }
  | speedCheck body done =>
    obtain ⟨maxRequests, windowSeconds, first, second, rfl⟩ := setSpeedCheck_ok done
    exact { held with
      maxRequests := positiveField_holds first held.maxRequests
      windowSeconds := positiveField_holds second held.windowSeconds }
  | methodCheck body done =>
    rw [setMethodCheck_frame done]
    exact { held with }
  | globe body done =>
    obtain ⟨publicPort, historySize, first, second, third, fourth, port, size, frame⟩ := setGlobe_ok done
    have inside := boundedField_holds first ⟨by have := held.publicPort; omega, by have := held.publicPort; omega⟩
    have positive := positiveField_holds fourth held.historySize
    rw [frame]
    refine { held with
      publicPort := ?_, historySize := ?_
      serverLat := coordinateField_holds (.inl rfl) second held.serverLat
      serverLon := coordinateField_holds (.inr rfl) third held.serverLon }
    · show 1 ≤ next.globe.publicPort ∧ next.globe.publicPort ≤ 65535
      omega
    · show 1 ≤ (next.globe.historySize : Int) ∧ (next.globe.historySize : Int) ≤ 2147483647
      have lower := positive.1
      have upper := positive.2
      omega
  | robotsTxt body =>
    unfold setRobotsTxt
    split
    · exact { held with }
    · exact held
  | security body =>
    unfold setRequire2fa
    split
    · exact { held with }
    · exact held
  | emergencyOff | html | requestLog | geoip => exact { held with }

/-! ### What an accepted request keeps -/

structure ConfigValid (makeAddress : MakeAddress) (config : RuntimeConfig) : Prop where
  kept : ConfigKept makeAddress config
  dated : ConfigDated config
  settings : SettingsHold config

/-- The clocks showed times after the epoch. -/
structure Surroundings.Running (env : Surroundings) : Prop where
  clock : ∀ k, 0 ≤ env.clock k
  built : 0 ≤ env.readings.built

/-- The entries, the sites and the pages are the same. -/
structure SameRecords (config next : RuntimeConfig) : Prop where
  lists : ∀ target : EntryList, target.lists next = target.lists config
  sites : next.sites = config.sites
  statusPages : next.pages.statusPages = config.pages.statusPages

/-- A change is an operation on the records, or leaves them alone. -/
theorem ConfigChange.records (change : ConfigChange libs makeAddress env request route config part next) :
    (∃ (op : ConfigOp) (clock : Nat → Int), (clock = env.clock ∨ clock = fun _ => env.readings.built) ∧
      (∀ target value, op.Drops target value → Drops libs request route target value) ∧
      op.run makeAddress clock config = (.ok (), next)) ∨ SameRecords config next := by
  have frame := change.frame
  have others (apart : ∀ target, part ≠ .lists target) (sites : part ≠ .sites) (pages : part ≠ .statusPages) :
      SameRecords config next := by
    refine ⟨fun target => ?_, ?_, ?_⟩
    · have same := @read_take config next (.lists target) part (apart target).symm
      rwa [← frame] at same
    · have same := @read_take config next .sites part sites.symm
      rwa [← frame] at same
    · have same := @read_take config next .statusPages part pages.symm
      rwa [← frame] at same
  cases change with
  | ran op clock reads ports drops done => exact .inl ⟨op, clock, reads, drops, done⟩
  | _ => exact .inr (others nofun nofun nofun)

theorem ConfigChange.valid (change : ConfigChange libs makeAddress env request route config part next)
    (running : env.Running) (valid : ConfigValid makeAddress config) : ConfigValid makeAddress next where
  kept := by
    rcases change.records with ⟨op, clock, -, -, done⟩ | ⟨lists, sites, statusPages⟩
    · have kept := op.run_kept clock valid.kept
      rwa [done] at kept
    · refine ⟨fun target => ?_, ?_, ?_⟩
      · rw [lists target]
        exact valid.kept.lists target
      · rw [sites]
        exact valid.kept.domains
      · rw [statusPages]
        exact valid.kept.codes
  dated := by
    rcases change.records with ⟨op, clock, reads, -, done⟩ | ⟨lists, sites, statusPages⟩
    · refine (op.run_edit done).dated ?_ valid.dated
      rcases reads with rfl | rfl
      · exact running.clock
      · exact fun _ => running.built
    · refine ⟨fun target => ?_, ?_⟩
      · rw [lists target]
        exact valid.dated.lists target
      · rw [statusPages]
        exact valid.dated.pages
  settings := change.settings valid.settings

theorem ConfigValid.default : ConfigValid makeAddress {} where
  kept := .default
  dated := by
    refine ⟨fun target => ?_, by simp⟩
    have empty : target.lists {} = ⟨[], []⟩ := by
      match target with
      | .blacklist category => cases category <;> rfl
      | .whitelist => rfl
      | .whitelistRoutes => rfl
    rw [empty]
    exact ⟨by simp, by simp⟩
  settings :=
    { threshold := ⟨by decide, by decide⟩
      banDurationHours := ⟨by decide, by decide⟩
      scores := by
        intro category points found
        rw [KeyMap.lookup_eq_some_iff] at found
        have all : ∀ score ∈ ({} : BanConfig).scores.entries, Yaml.IntType.int.Holds score.2 := by decide +kernel
        exact all _ found
      maxRequests := ⟨by decide, by decide⟩
      windowSeconds := ⟨by decide, by decide⟩
      maxBodySizeBytes := by decide
      publicPort := ⟨by decide, by decide⟩
      historySize := ⟨by decide, by decide⟩
      serverLat := nofun
      serverLon := nofun
      ports := by simp [PortsHold] }

end Changes

/-! ### Runs -/

/-- A request to one of these handlers, and what the handler finds outside. -/
structure ConfigRequest (libs : Libraries) (makeAddress : MakeAddress) where
  request : Request
  actingUser : String := ""
  env : Surroundings
  handler : ConfigHandler
  known : configHandler libs makeAddress env request actingUser (handlerFor request.method request.target) = some handler

section Runs

variable {libs : Libraries} {makeAddress : MakeAddress} {call : ConfigRequest libs makeAddress} {state : IpBlockState}
  {calls : List (ConfigRequest libs makeAddress)} {part : ConfigPart}

def ConfigRequest.route (call : ConfigRequest libs makeAddress) : Route :=
  handlerFor call.request.method call.request.target

def ConfigRequest.accepted (call : ConfigRequest libs makeAddress) (state : IpBlockState) : Bool :=
  match (call.handler state).1 with
  | .ok response => response.status == 200
  | .error _ => false

def ConfigRequest.serve (state : IpBlockState) (call : ConfigRequest libs makeAddress) : IpBlockState :=
  (call.handler state).2

def serveAll (state : IpBlockState) (calls : List (ConfigRequest libs makeAddress)) : IpBlockState :=
  calls.foldl ConfigRequest.serve state

/-- The requests that are accepted when they come. -/
def acceptedOf : IpBlockState → List (ConfigRequest libs makeAddress) → List (ConfigRequest libs makeAddress)
  | _, [] => []
  | state, call :: rest =>
    if call.accepted state then call :: acceptedOf (call.serve state) rest else acceptedOf (call.serve state) rest

theorem ConfigRequest.serves (call : ConfigRequest libs makeAddress) (state : IpBlockState) :
    Serves libs makeAddress call.env call.request call.route state (call.handler state) :=
  configHandler_serves state call.known

theorem serve_refused (refused : call.accepted state = false) : call.serve state = state := by
  refine (call.serves state).refused fun response answered status => ?_
  unfold ConfigRequest.accepted at refused
  rw [answered] at refused
  simp [status] at refused

theorem serve_valid (running : call.env.Running) (valid : ConfigValid makeAddress state.config) :
    ConfigValid makeAddress (call.serve state).config := by
  rcases (call.serves state).accepted.config with same | ⟨part, -, change⟩
  · unfold ConfigRequest.serve
    rw [same]
    exact valid
  · exact change.valid running valid

theorem serve_read (other : call.route.part ≠ some part) :
    part.read (call.serve state).config = part.read state.config := by
  rcases (call.serves state).accepted.config with same | ⟨changed, own, change⟩
  · unfold ConfigRequest.serve
    rw [same]
  · have frame := change.frame
    have kept := @read_take state.config (call.handler state).2.config part changed fun same => other (same ▸ own)
    rw [← frame] at kept
    exact kept

theorem serve_listeners : SameListeners state.config (call.serve state).config := by
  rcases (call.serves state).accepted.config with same | ⟨part, -, change⟩
  · unfold ConfigRequest.serve
    rw [same]
    exact ⟨rfl, rfl, rfl, rfl, rfl⟩
  · have kept := @take_listeners state.config (call.handler state).2.config part
    rw [← change.frame] at kept
    exact kept

/-- The requests that reach the tracker of blocked addresses. -/
def Route.ReachesBlocks : Route → Prop
  | .ipBlocks => True
  | .blacklistMutation _ name => name = "ips"
  | _ => False

theorem serve_blocks (other : ¬ call.route.ReachesBlocks) : (call.serve state).ipBlocks = state.ipBlocks := by
  obtain ⟨made, own, after⟩ := (call.serves state).accepted.blocks
  unfold ConfigRequest.serve
  rw [after]
  revert other
  generalize call.route = route at own
  intro other
  cases own with
  | none => rfl
  | listed => exact absurd trivial other
  | permanent | added | removed => exact absurd rfl other

theorem serveAll_accepted (state : IpBlockState) (calls : List (ConfigRequest libs makeAddress)) :
    serveAll state (acceptedOf state calls) = serveAll state calls := by
  induction calls generalizing state with
  | nil => rfl
  | cons call rest ih =>
    rw [acceptedOf]
    cases accepted : call.accepted state with
    | true => exact ih (call.serve state)
    | false =>
      show serveAll state (acceptedOf (call.serve state) rest) = serveAll (call.serve state) rest
      rw [serve_refused accepted]
      exact ih state

theorem serveAll_read (others : ∀ call ∈ calls, call.route.part ≠ some part) :
    part.read (serveAll state calls).config = part.read state.config := by
  induction calls generalizing state with
  | nil => rfl
  | cons call rest ih =>
    have later := @ih (call.serve state) fun other member => others other (List.mem_cons_of_mem _ member)
    exact later.trans (serve_read (others call List.mem_cons_self))

theorem serveAll_listeners : SameListeners state.config (serveAll state calls).config := by
  induction calls generalizing state with
  | nil => exact ⟨rfl, rfl, rfl, rfl, rfl⟩
  | cons call rest ih => exact serve_listeners.trans ih

theorem serveAll_blocks (others : ∀ call ∈ calls, ¬ call.route.ReachesBlocks) :
    (serveAll state calls).ipBlocks = state.ipBlocks := by
  induction calls generalizing state with
  | nil => rfl
  | cons call rest ih =>
    have later := @ih (call.serve state) fun other member => others other (List.mem_cons_of_mem _ member)
    exact later.trans (serve_blocks (others call List.mem_cons_self))

/-- Requests that are refused leave no trace, a part of the configuration changes only by an accepted request
to a route of its own, and the listeners and limits never change. -/
theorem requests_change_their_part (libs : Libraries) (makeAddress : MakeAddress) (state : IpBlockState)
    (calls : List (ConfigRequest libs makeAddress)) :
    let after := serveAll state calls
    let accepted := acceptedOf state calls
    serveAll state accepted = after ∧ SameListeners state.config after.config ∧
      (∀ part : ConfigPart, (∀ call ∈ accepted, call.route.part ≠ some part) →
        part.read after.config = part.read state.config) ∧
      ((∀ call ∈ accepted, ¬ call.route.ReachesBlocks) → after.ipBlocks = state.ipBlocks) := by
  intro after accepted
  have same : serveAll state accepted = after := serveAll_accepted state calls
  refine ⟨same, serveAll_listeners, fun part others => ?_, fun others => ?_⟩
  · rw [← same]
    exact serveAll_read others
  · rw [← same]
    exact serveAll_blocks others

/-- What the handlers check holds of the configuration after any requests. -/
theorem requests_keep_config_valid (libs : Libraries) (makeAddress : MakeAddress) (state : IpBlockState)
    (calls : List (ConfigRequest libs makeAddress)) (running : ∀ call ∈ calls, call.env.Running)
    (valid : ConfigValid makeAddress state.config) : ConfigValid makeAddress (serveAll state calls).config := by
  induction calls generalizing state with
  | nil => exact valid
  | cons call rest ih =>
    refine ih (call.serve state) (fun other member => running other (List.mem_cons_of_mem _ member)) ?_
    exact serve_valid (running call List.mem_cons_self) valid

end Runs

def thresholdLibraries : Libraries :=
  { blockLibraries with
    jsonParse text := if text = "zero" then some (.object [("threshold", .int64 0)])
      else if text = "five" then some (.object [("threshold", .int64 5)]) else none }

def thresholdEnv : Surroundings := { clock := fun _ => 0, readings := ⟨0, 0, 0⟩ }

theorem banConfig_route : handlerFor .put "/api/ban-config" = .banConfigUpdate := by
  delta handlerFor Rule.select Pattern.accepts ByteString.startsWith ByteString.endsWith
  rw [ByteString.toList_eq_stored]
  decide +kernel

def thresholdRequest (body : String) : ConfigRequest thresholdLibraries IpBlockTracker.sampleMakeAddress where
  request := { methodString := "PUT", target := "/api/ban-config", body }
  env := thresholdEnv
  handler := handleBanConfigUpdate thresholdLibraries { methodString := "PUT", target := "/api/ban-config", body }
  known := by
    have route : handlerFor (Request.method { methodString := "PUT", target := "/api/ban-config", body })
        "/api/ban-config" = .banConfigUpdate := banConfig_route
    rw [route]
    rfl

/-- A threshold of zero is refused, one of five is not. -/
theorem thresholds_keep_config_valid :
    let after := serveAll {} [thresholdRequest "zero", thresholdRequest "five"]
    after.config.ban.threshold = 5 ∧ ConfigValid IpBlockTracker.sampleMakeAddress after.config := by
  refine ⟨rfl, requests_keep_config_valid _ _ {} _ ?_ .default⟩
  intro call member
  have env : call.env = thresholdEnv := by
    rcases List.mem_cons.mp member with rfl | later
    · rfl
    · obtain rfl := List.mem_singleton.mp later
      rfl
  rw [env]
  exact ⟨fun _ => Int.le_refl 0, Int.le_refl 0⟩

end Atomwall.Admin
