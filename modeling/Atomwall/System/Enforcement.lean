import Atomwall.System.Firewall

/-!
What the lists of the configuration do to visitors: a blacklisted value keeps requests that hit it from the
upstream servers, and a whitelisted one keeps requests from being banned or blocked, from the time it is listed
until a request takes it out.
-/

namespace Atomwall.System

open ByteString Listener

/-! ### The gates that block -/

section Gates

variable {text : AddressText} {config : RuntimeConfig} {c : Connection} {x : Exchange} {s : Listener.AppState}
  {otherwise : Outcome}

theorem firstApplicable_blocks {gates rest : List (Bool × Outcome)} (all : ∀ gate ∈ gates, gate.2.blocks = true)
    (shut : ∃ gate ∈ gates, gate.1 = true) : (firstApplicable otherwise (gates ++ rest)).blocks = true := by
  induction gates with
  | nil =>
    obtain ⟨gate, none, -⟩ := shut
    cases none
  | cons first later ih =>
    obtain ⟨applies, outcome⟩ := first
    rw [List.cons_append, firstApplicable_cons]
    cases applies with
    | true => exact all _ List.mem_cons_self
    | false =>
      refine ih (fun gate member => all gate (List.mem_cons_of_mem _ member)) ?_
      obtain ⟨gate, member, closed⟩ := shut
      rcases List.mem_cons.mp member with rfl | there
      · cases closed
      · exact ⟨gate, there, closed⟩

theorem firstApplicable_skip {gates rest : List (Bool × Outcome)} {outcome : Outcome} :
    firstApplicable otherwise (gates ++ (false, outcome) :: rest) = firstApplicable otherwise (gates ++ rest) := by
  induction gates with
  | nil => rfl
  | cons first later ih =>
    obtain ⟨applies, other⟩ := first
    rw [List.cons_append, List.cons_append, firstApplicable_cons, firstApplicable_cons, ih]

/-- The gates before that of robots.txt, and those behind it. -/
def headerGates (text : AddressText) (config : RuntimeConfig) (c : Connection) (x : Exchange) (s : Listener.AppState) :
    List (Bool × Outcome) :=
  (gates text config c x s).take 11

def bodyGates (text : AddressText) (config : RuntimeConfig) (c : Connection) (x : Exchange) (s : Listener.AppState) :
    List (Bool × Outcome) :=
  (gates text config c x s).drop 12

theorem gates_split : gates text config c x s =
    headerGates text config c x s ++ (asksForRobotsTxt config x, .robotsTxt) :: bodyGates text config c x s := rfl

theorem headerGates_block : ∀ gate ∈ headerGates text config c x s, gate.2.blocks = true := by
  have whole : headerGates text config c x s =
      (config.emergencyOff.enabled, .emergencyOff) :: (!(Listener.siteOf config x).enabled, .siteDisabled) ::
        guarded text config c x (s.ipBlocks.isBlocked x.readings.gate c.clientIp) .banned ::
        scored text config c x (rateOf text config c x s).1 :: (laterGates text config c x).take 7 := rfl
  rw [whole]
  simp only [laterGates, List.take_succ_cons, List.take_zero, List.forall_mem_cons, List.not_mem_nil, false_implies,
    implies_true, and_true]
  exact ⟨rfl, rfl, rfl, rfl, rfl, rfl, rfl, rfl, rfl, rfl, rfl⟩

theorem bodyGates_block : ∀ gate ∈ bodyGates text config c x s, gate.2.blocks = true := by
  have whole : bodyGates text config c x s =
      [scored text config c x (checkBodySize config.blacklist x.request.body.length),
        scored text config c x (checkBodyBlacklist config.blacklist x.request.body)] := rfl
  rw [whole]
  simp only [List.forall_mem_cons, List.not_mem_nil, false_implies, implies_true, and_true]
  exact ⟨rfl, rfl⟩

theorem blocks_of_header (shut : ∃ gate ∈ headerGates text config c x s, gate.1 = true) :
    (decision text config c x s).blocks = true := by
  unfold decision
  rw [gates_split]
  exact firstApplicable_blocks headerGates_block shut

theorem blocks_of_body (unasked : asksForRobotsTxt config x = false)
    (shut : ∃ gate ∈ bodyGates text config c x s, gate.1 = true) : (decision text config c x s).blocks = true := by
  unfold decision
  rw [gates_split, unasked, firstApplicable_skip, ← List.append_nil (headerGates text config c x s ++ _)]
  refine firstApplicable_blocks (List.forall_mem_append.mpr ⟨headerGates_block, bodyGates_block⟩) ?_
  obtain ⟨gate, member, closed⟩ := shut
  exact ⟨gate, List.mem_append_right _ member, closed⟩

theorem scored_shut {result : CheckResult} (free : isWhitelisted text config c x = false)
    (blocked : result.blocked = true) : (scored text config c x result).1 = true := by
  show (!isWhitelisted text config c x && result.blocked) = true
  rw [free, blocked]
  rfl

/-- A request that is blocked reaches no server. -/
theorem unforwarded_of_blocks (blocks : (decision text config c x s).blocks = true) :
    (runHttpSession text config c x s).1.forwarded = none := by
  rw [request_served]
  revert blocks
  cases decision text config c x s with
  | forwarded upstream => exact fun blocks => nomatch blocks
  | _ => exact fun _ => rfl

end Gates

/-! ### What an entry hits -/

/-- The entry of an address list stands for the client. -/
def NamesClient (makeAddress : MakeAddress) (text : AddressText) (clientIp : Address) (value : String) : Prop :=
  ('/' ∉ value.toList ∧ value = text clientIp) ∨
    ∃ range, parseCidr makeAddress 0 value = some range ∧ addressInCidr clientIp range = true

/-- A value of the blacklist hits the request. Countries are not looked at. -/
def Hits (makeAddress : MakeAddress) (text : AddressText) (c : Connection) (x : Exchange) (value : String) :
    BlacklistCategory → Prop
  | .ips => NamesClient makeAddress text c.clientIp value
  | .routes => icontains (pathOf x) value = true
  | .countries => False
  | .isps => ispOf c ≠ "" ∧ icontains (ispOf c) value = true
  | .userAgents => ∃ agent, x.request.fields.find "User-Agent" = some agent ∧ icontains agent value = true
  | .referrers => ∃ referrer, x.request.fields.find "Referer" = some referrer ∧ icontains referrer value = true
  | .bodyPatterns => icontains x.request.body value = true
  | .fakeRoutes => istartsWith (pathOf x) value = true

section Lists

variable {makeAddress : MakeAddress} {text : AddressText} {config : RuntimeConfig} {c : Connection} {x : Exchange}
  {value : String} {lists : IpLists} {target : EntryList}

theorem checkEntries_blocked {checkName what : String} {hits : String → Bool} {entries : List BlacklistEntry}
    (listed : value ∈ entries.map BlacklistEntry.value) (hit : hits value = true) :
    (checkEntries checkName what hits entries).blocked = true := by
  obtain ⟨entry, member, rfl⟩ := List.mem_map.mp listed
  have found : (entries.find? fun entry => hits entry.value).isSome = true :=
    List.find?_isSome.mpr ⟨entry, member, hit⟩
  obtain ⟨first, same⟩ := Option.isSome_iff_exists.mp found
  unfold checkEntries
  rw [same]
  rfl

theorem checkField_blocked {checkName fieldName field : String} {entries : List BlacklistEntry} {header : Http.Fields}
    (there : header.find fieldName = some field) (listed : value ∈ entries.map BlacklistEntry.value)
    (hit : icontains field value = true) : (checkField checkName fieldName entries header).blocked = true := by
  unfold checkField
  rw [there]
  exact checkEntries_blocked listed hit

/-- An entry that names the client is one of the single addresses, or of the ranges, that hold for it. -/
theorem names_listed {clientIp : Address} (kept : ListsKept makeAddress target lists) (ips : target.holdsIps = true)
    (listed : value ∈ lists.values) (names : NamesClient makeAddress text clientIp value) :
    (∃ entry ∈ lists.exact, entry.value = text clientIp) ∨ ∃ range ∈ lists.cidrs, addressInCidr clientIp range = true := by
  rcases mem_values.mp listed with exact | ranged
  · obtain ⟨entry, member, rfl⟩ := List.mem_map.mp exact
    rcases names with ⟨-, same⟩ | ⟨range, parsed, -⟩
    · exact .inl ⟨entry, member, same⟩
    · exact absurd (parseCidr_some parsed).2.1 (address_of_kept ips (kept.entries entry member)).1
  · obtain ⟨range, member, rfl⟩ := List.mem_map.mp ranged
    obtain ⟨made_at, source, made⟩ := kept.ranges range member
    have read := newRange_parsed made 0
    rcases names with ⟨slashless, -⟩ | ⟨other, parsed, covers⟩
    · exact absurd (parseCidr_some read).2.1 slashless
    · rw [read] at parsed
      obtain rfl := Option.some.inj parsed
      exact .inr ⟨range, member, covers⟩

theorem checkIpBlacklist_hit {clientIp : Address} (kept : ListsKept makeAddress (.blacklist .ips) config.blacklist.ips)
    (listed : value ∈ config.blacklist.ips.values) (names : NamesClient makeAddress text clientIp value) :
    (checkIpBlacklist text config.blacklist clientIp).blocked = true := by
  unfold checkIpBlacklist CheckResult.orElse
  by_cases first : (checkEntries "ip_blacklist" "exact match: " (· == text clientIp) config.blacklist.ipExact).blocked = true
  · rw [if_pos first]
    exact first
  · rw [if_neg first]
    rcases names_listed kept rfl listed names with ⟨entry, member, same⟩ | ⟨range, member, covers⟩
    · exact absurd (checkEntries_blocked (List.mem_map_of_mem member) (by simpa using same)) first
    · have found : (config.blacklist.ipCidrs.find? (addressInCidr clientIp)).isSome = true :=
        List.find?_isSome.mpr ⟨range, member, covers⟩
      obtain ⟨other, same⟩ := Option.isSome_iff_exists.mp found
      rw [same]
      rfl

theorem values_list (category : BlacklistCategory) (other : category ≠ .ips)
    (listed : value ∈ ((EntryList.blacklist category).lists config).values) :
    value ∈ (listFor config.blacklist category).map BlacklistEntry.value := by
  cases category <;> first | exact absurd rfl other | simpa [EntryList.lists, IpLists.values] using listed

/-- A listed value that hits the request closes a gate. -/
theorem blocked_of_hit {s : Listener.AppState} {category : BlacklistCategory} (kept : ConfigKept makeAddress config)
    (listed : value ∈ ((EntryList.blacklist category).lists config).values)
    (free : isWhitelisted text config c x = false) (hit : Hits makeAddress text c x value category)
    (unasked : category = .bodyPatterns → asksForRobotsTxt config x = false) :
    (decision text config c x s).blocks = true := by
  cases category with
  | ips =>
    refine blocks_of_header ⟨scored text config c x (checkIpBlacklist text config.blacklist c.clientIp), ?_, ?_⟩
    · simp [headerGates, gates, laterGates]
    · exact scored_shut free (checkIpBlacklist_hit (kept.lists (.blacklist .ips)) listed hit)
  | routes =>
    have values := values_list .routes (by decide) listed
    refine blocks_of_header ⟨scored text config c x (checkRouteBlacklist config.blacklist (pathOf x)), ?_, ?_⟩
    · simp [headerGates, gates, laterGates]
    · exact scored_shut free (checkEntries_blocked values hit)
  | countries => exact hit.elim
  | isps =>
    have values := values_list .isps (by decide) listed
    refine blocks_of_header ⟨scored text config c x (checkIspBlacklist config.blacklist (ispOf c)), ?_, ?_⟩
    · simp [headerGates, gates, laterGates]
    · refine scored_shut free ?_
      unfold checkIspBlacklist
      rw [if_neg hit.1]
      exact checkEntries_blocked values hit.2
  | userAgents =>
    have values := values_list .userAgents (by decide) listed
    obtain ⟨agent, there, hit⟩ := hit
    refine blocks_of_header ⟨scored text config c x (checkUserAgentBlacklist config.blacklist x.request.fields), ?_, ?_⟩
    · simp [headerGates, gates, laterGates]
    · exact scored_shut free (checkField_blocked there values hit)
  | referrers =>
    have values := values_list .referrers (by decide) listed
    obtain ⟨referrer, there, hit⟩ := hit
    refine blocks_of_header ⟨scored text config c x (checkReferrerBlacklist config.blacklist x.request.fields), ?_, ?_⟩
    · simp [headerGates, gates, laterGates]
    · exact scored_shut free (checkField_blocked there values hit)
  | fakeRoutes =>
    have values := values_list .fakeRoutes (by decide) listed
    refine blocks_of_header ⟨scored text config c x (checkFakeRoutes config.blacklist (pathOf x)), ?_, ?_⟩
    · simp [headerGates, gates, laterGates]
    · exact scored_shut free (checkEntries_blocked values hit)
  | bodyPatterns =>
    have values := values_list .bodyPatterns (by decide) listed
    refine blocks_of_body (unasked rfl)
      ⟨scored text config c x (checkBodyBlacklist config.blacklist x.request.body), ?_, ?_⟩
    · simp [bodyGates, gates, laterGates]
    · exact scored_shut free (checkEntries_blocked values hit)

theorem whitelisted_of_listed (kept : ConfigKept makeAddress config)
    (listed : (value ∈ (EntryList.whitelist.lists config).values ∧ NamesClient makeAddress text c.clientIp value) ∨
      (value ∈ (EntryList.whitelistRoutes.lists config).values ∧ icontains (pathOf x) value = true)) :
    isWhitelisted text config c x = true := by
  unfold isWhitelisted
  rcases listed with ⟨member, names⟩ | ⟨member, hit⟩
  · refine Bool.or_eq_true_iff.mpr (.inl ?_)
    unfold isIpWhitelisted
    rcases names_listed (kept.lists .whitelist) rfl member names with ⟨entry, there, same⟩ | ⟨range, there, covers⟩
    · exact Bool.or_eq_true_iff.mpr (.inl (List.any_eq_true.mpr ⟨entry, there, by simpa using same⟩))
    · exact Bool.or_eq_true_iff.mpr (.inr (List.any_eq_true.mpr ⟨range, there, covers⟩))
  · refine Bool.or_eq_true_iff.mpr (.inr ?_)
    have values : value ∈ config.whitelist.routes.map BlacklistEntry.value := by
      simpa [EntryList.lists, IpLists.values] using member
    obtain ⟨entry, there, rfl⟩ := List.mem_map.mp values
    exact List.any_eq_true.mpr ⟨entry, there, hit⟩

end Lists

/-! ### From the time it is listed until a request takes it out -/

section Runs

variable {libs : Libraries} {makeAddress : MakeAddress} {text : AddressText} {yaml : Yaml.Library} {s t : State}
  {events : List (Event libs makeAddress)} {value : String} {c : Connection} {x : Exchange}

/-- Whatever else admins and visitors do, and through restarts: a request that a blacklisted value hits is
blocked, and not forwarded, unless it is whitelisted or asks for robots.txt with a body that is hit. -/
theorem blacklisted_until_dropped {category : BlacklistCategory} (full : isBlank value = false)
    (listed : Listed makeAddress (.blacklist category) value s)
    (sound : Lts.Meets (step text yaml) (Sound yaml) s events)
    (spared : ∀ e ∈ events, ¬ e.Drops (.blacklist category) value)
    (reached : Lts.run (step text yaml) s events = some t) (free : isWhitelisted text t.config c x = false)
    (hit : Hits makeAddress text c x value category)
    (unasked : category = .bodyPatterns → asksForRobotsTxt t.config x = false) :
    (decision text t.config c x t.visitors).blocks = true ∧
      (runHttpSession text t.config c x t.visitors).1.forwarded = none := by
  obtain ⟨healthy, still⟩ := run_held full listed sound spared reached
  have blocks := @blocked_of_hit makeAddress text t.config c x value t.visitors category healthy.valid.kept still free
    hit unasked
  exact ⟨blocks, unforwarded_of_blocks blocks⟩

/-- The route that was listed before the restart is guarded after it. -/
theorem login_guarded_after_restart :
    let t : State := { config := guardConfig.restarted }
    Lts.run (step (fun _ => "192.0.2.7") guardYaml) { config := guardConfig }
        [(.restart 0 : Event guardLibraries IpBlockTracker.sampleMakeAddress)] = some t ∧
      (decision (fun _ => "192.0.2.7") t.config visitor (visitOf "/wp-login.php?user=1") t.visitors).blocks = true ∧
      (runHttpSession (fun _ => "192.0.2.7") t.config visitor (visitOf "/wp-login.php?user=1") t.visitors).1.forwarded =
        none := by
  intro t
  have reached : Lts.run (step (fun _ => "192.0.2.7") guardYaml) { config := guardConfig }
      [(.restart 0 : Event guardLibraries IpBlockTracker.sampleMakeAddress)] = some t :=
    Lts.run_cons_some.mpr ⟨t, step_restart guard_healthy guard_sound, rfl⟩
  refine ⟨reached, ?_⟩
  refine @blacklisted_until_dropped guardLibraries IpBlockTracker.sampleMakeAddress (fun _ => "192.0.2.7") guardYaml
    { config := guardConfig } t [.restart 0] "/wp-login" visitor (visitOf "/wp-login.php?user=1") .routes (by decide)
    ⟨guard_healthy, by decide +kernel⟩ ⟨guard_sound, fun _ _ => trivial⟩ ?_ reached rfl ?_ nofun
  · intro e member
    obtain rfl := List.mem_singleton.mp member
    exact id
  · show icontains _ _ = true
    decide +kernel

/-- A request that a whitelisted value stands for is neither banned nor blocked by a check. -/
theorem whitelisted_until_dropped {target : EntryList} (full : isBlank value = false)
    (listed : Listed makeAddress target value s)
    (stands : (target = .whitelist ∧ NamesClient makeAddress text c.clientIp value) ∨
      (target = .whitelistRoutes ∧ icontains (pathOf x) value = true))
    (sound : Lts.Meets (step text yaml) (Sound yaml) s events) (spared : ∀ e ∈ events, ¬ e.Drops target value)
    (reached : Lts.run (step text yaml) s events = some t) :
    decision text t.config c x t.visitors ≠ .banned ∧
      ∀ result, decision text t.config c x t.visitors ≠ .blocked result := by
  obtain ⟨healthy, still⟩ := run_held full listed sound spared reached
  refine decision_whitelisted ?_
  refine @whitelisted_of_listed makeAddress text t.config c x value healthy.valid.kept ?_
  rcases stands with ⟨rfl, names⟩ | ⟨rfl, hit⟩
  · exact .inl ⟨still, names⟩
  · exact .inr ⟨still, hit⟩

def healthRequest : Admin.ConfigRequest guardLibraries IpBlockTracker.sampleMakeAddress where
  request := postOf "/api/whitelist/routes" "health"
  env := Admin.thresholdEnv
  handler := Admin.handleWhitelistRoutesMutation guardLibraries IpBlockTracker.sampleMakeAddress Admin.thresholdEnv
    (postOf "/api/whitelist/routes" "health") .post ""
  known := by
    have route : Admin.handlerFor (postOf "/api/whitelist/routes" "health").method "/api/whitelist/routes" =
      .whitelistRoutesMutation .post := guard_routes.2.1
    show Admin.configHandler _ _ _ _ _ (Admin.handlerFor _ "/api/whitelist/routes") = _
    rw [route]
    rfl

def healthConfig : RuntimeConfig := (healthRequest.serve {}).config

theorem health_healthy : Healthy IpBlockTracker.sampleMakeAddress { config := healthConfig } := by
  obtain ⟨next, taken, healthy⟩ := @step_healthy guardLibraries IpBlockTracker.sampleMakeAddress guardYaml {}
    (.admin healthRequest) (fun _ => "192.0.2.7") .default guard_running
  obtain rfl := Option.some.inj taken
  exact healthy

/-- The health check answers after a restart, whoever asks. -/
theorem health_reached_after_restart :
    let yaml := sampleYaml "" healthConfig
    let t : State := { config := healthConfig.restarted }
    Lts.run (step (fun _ => "192.0.2.7") yaml) { config := healthConfig }
        [(.restart 0 : Event guardLibraries IpBlockTracker.sampleMakeAddress)] = some t ∧
      decision (fun _ => "192.0.2.7") t.config visitor (visitOf "/health?deep=1") t.visitors ≠ .banned ∧
      ∀ result, decision (fun _ => "192.0.2.7") t.config visitor (visitOf "/health?deep=1") t.visitors ≠
        .blocked result := by
  intro yaml t
  have sound : Sound yaml { config := healthConfig }
      (.restart 0 : Event guardLibraries IpBlockTracker.sampleMakeAddress) := by
    refine ⟨?_, sampleYaml_tree "" healthConfig⟩
    rintro bits (lat | lon)
    · cases lat
    · cases lon
  have reached : Lts.run (step (fun _ => "192.0.2.7") yaml) { config := healthConfig }
      [(.restart 0 : Event guardLibraries IpBlockTracker.sampleMakeAddress)] = some t :=
    Lts.run_cons_some.mpr ⟨t, step_restart health_healthy sound, rfl⟩
  refine ⟨reached, ?_⟩
  refine @whitelisted_until_dropped guardLibraries IpBlockTracker.sampleMakeAddress (fun _ => "192.0.2.7") yaml
    { config := healthConfig } t [.restart 0] "/health" visitor (visitOf "/health?deep=1") .whitelistRoutes (by decide)
    ⟨health_healthy, by decide +kernel⟩ (.inr ⟨rfl, ?_⟩) ⟨sound, fun _ _ => trivial⟩ ?_ reached
  · show icontains _ _ = true
    decide +kernel
  · intro e member
    obtain rfl := List.mem_singleton.mp member
    exact id

end Runs

end Atomwall.System
