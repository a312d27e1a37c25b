import Atomwall.System.Firewall

/-!
Temporary blocks over whole runs. Only an admin's request or the client's own blocked request brings one about,
and until it expires only a restart or a request that names the same address or range ends it: what visitors send
cannot shorten it.
-/

namespace Atomwall.System

open Listener

section Events

variable {libs : Libraries} {makeAddress : MakeAddress}

/-- The request adds a temporary block, or the visit leads to one. -/
def Bans (text : AddressText) (s : State) (block : TemporaryIpBlock) : Event libs makeAddress → Prop
  | .admin call => ∃ method object value, call.route = .blacklistMutation method "ips" ∧ method ≠ .delete ∧
      Admin.namedValue libs call.request.body = some (object, value) ∧
      (0 < Admin.durationOf object ∧ Admin.durationOf object ≤ kMaxBanDurationHours) ∧
      Admin.buildTemporaryBlock makeAddress call.env.readings.built value "manual" (hours (Admin.durationOf object)) =
        .ok block ∧ call.env.readings.listed < block.expiresAt
  | .visit c x => banOf text s c x = some block
  | .restart _ => False

/-- The value stands for the key of a block. -/
def NamesKey (makeAddress : MakeAddress) (value : String) (key : BlockKey) : Prop :=
  key = .cidr value ∨ ∃ address, makeAddress value = some address ∧ key = .exact address

/-- The event comes before the block expires, and does not name it. -/
def Leaves (block : TemporaryIpBlock) : Event libs makeAddress → Prop
  | .admin call => call.env.readings.added < block.expiresAt ∧ call.env.readings.listed < block.expiresAt ∧
      ∀ method object value, call.route = .blacklistMutation method "ips" →
        Admin.namedValue libs call.request.body = some (object, value) → ¬ NamesKey makeAddress value block.key
  | .visit _ x => x.readings.added < block.expiresAt ∧ x.readings.gate < block.expiresAt
  | .restart _ => False

end Events

variable {libs : Libraries} {makeAddress : MakeAddress} {text : AddressText} {yaml : Yaml.Library} {s t mid : State}
  {e : Event libs makeAddress} {events : List (Event libs makeAddress)} {block new : TemporaryIpBlock}
  {tracker : IpBlockTracker} {now : Int} {c : Connection} {x : Exchange}

/-! ### The tracker -/

theorem mem_of_prunedWhenDue (member : block ∈ (tracker.prunedWhenDue now).blocks) : block ∈ tracker.blocks := by
  unfold IpBlockTracker.prunedWhenDue at member
  split at member
  · exact (IpBlockTracker.mem_blocks_pruneExpired.mp member).1
  · exact member

theorem mem_prunedWhenDue (member : block ∈ tracker.blocks) (live : now < block.expiresAt) :
    block ∈ (tracker.prunedWhenDue now).blocks := by
  unfold IpBlockTracker.prunedWhenDue
  split
  · exact IpBlockTracker.mem_blocks_pruneExpired.mpr ⟨member, live⟩
  · exact member

theorem mem_add (kept : tracker.Kept) (member : block ∈ (tracker.add now new).blocks) :
    block = new ∨ block ∈ tracker.blocks := by
  rw [IpBlockTracker.add_eq] at member
  rcases (IpBlockTracker.mem_blocks_put kept.prunedWhenDue).mp member with same | ⟨old, -⟩
  · exact .inl same
  · exact .inr (mem_of_prunedWhenDue old)

theorem mem_add_new (kept : tracker.Kept) : new ∈ (tracker.add now new).blocks := by
  rw [IpBlockTracker.add_eq]
  exact (IpBlockTracker.mem_blocks_put kept.prunedWhenDue).mpr (.inl rfl)

theorem mem_add_old (kept : tracker.Kept) (member : block ∈ tracker.blocks) (live : now < block.expiresAt)
    (other : new.key ≠ block.key) : block ∈ (tracker.add now new).blocks := by
  rw [IpBlockTracker.add_eq]
  exact (IpBlockTracker.mem_blocks_put kept.prunedWhenDue).mpr (.inr ⟨mem_prunedWhenDue member live, other⟩)

theorem mem_listed : block ∈ (tracker.listActive now).2.blocks ↔ block ∈ tracker.blocks ∧ now < block.expiresAt :=
  IpBlockTracker.mem_blocks_pruneExpired

theorem namesKey_built {built : Int} {value source : String} {duration : Int}
    (made : Admin.buildTemporaryBlock makeAddress built value source duration = .ok new) :
    NamesKey makeAddress value new.key := by
  obtain ⟨same, formed⟩ := Admin.buildTemporaryBlock_wellFormed made
  unfold TemporaryIpBlock.WellFormed at formed
  unfold TemporaryIpBlock.key
  cases ranged : new.isCidr with
  | true => exact .inl (by rw [if_pos rfl, same])
  | false =>
    rw [ranged, if_neg Bool.false_ne_true, same] at formed
    exact .inr ⟨new.address, formed, if_neg Bool.false_ne_true⟩

theorem built_times {built : Int} {value source : String} {duration : Int}
    (made : Admin.buildTemporaryBlock makeAddress built value source duration = .ok new) :
    new.createdAt = built ∧ new.expiresAt = built + duration := by
  unfold Admin.buildTemporaryBlock at made
  split at made
  · split at made
    · cases made
    · obtain rfl := Except.ok.inj made
      exact ⟨rfl, rfl⟩
  · split at made
    · cases made
    · obtain rfl := Except.ok.inj made
      exact ⟨rfl, rfl⟩

theorem namesKey_removed (value : String) : NamesKey makeAddress value (IpBlockTracker.keyOf makeAddress value) := by
  unfold IpBlockTracker.keyOf
  cases parsed : makeAddress value with
  | some address => exact .inr ⟨address, parsed, rfl⟩
  | none => exact .inl rfl

/-! ### Where a block comes from -/

theorem restart_some {later : Int} (taken : step text yaml s (.restart later : Event libs makeAddress) = some t) :
    ∃ config, t = { config } := by
  simp only [step] at taken
  split at taken
  · next config _ => exact ⟨config, (Option.some.inj taken).symm⟩
  · cases taken

theorem step_blocks_kept (kept : s.visitors.ipBlocks.Kept) (taken : step text yaml s e = some t) :
    t.visitors.ipBlocks.Kept := by
  cases e with
  | admin call =>
    obtain rfl := Option.some.inj taken
    exact serve_kept call kept
  | visit c x =>
    obtain rfl := Option.some.inj taken
    exact visit_kept c x kept
  | restart later =>
    obtain ⟨config, rfl⟩ := restart_some taken
    exact .empty _

theorem run_blocks_kept (kept : s.visitors.ipBlocks.Kept) (reached : Lts.run (step text yaml) s events = some t) :
    t.visitors.ipBlocks.Kept := by
  induction events generalizing s with
  | nil =>
    obtain rfl := Option.some.inj reached
    exact kept
  | cons e rest ih =>
    obtain ⟨next, taken, later⟩ := Lts.run_cons_some.mp reached
    exact ih (step_blocks_kept kept taken) later

/-- A block that is held after an event was held before it, or is that of the event. -/
theorem step_brings (kept : s.visitors.ipBlocks.Kept) (taken : step text yaml s e = some t)
    (held : block ∈ t.visitors.ipBlocks.blocks) : block ∈ s.visitors.ipBlocks.blocks ∨ Bans text s block e := by
  cases e with
  | admin call =>
    obtain rfl := Option.some.inj taken
    obtain ⟨made, own, after⟩ := (call.serves ⟨s.config, s.visitors.ipBlocks⟩).accepted.blocks
    have held : block ∈ (call.serve ⟨s.config, s.visitors.ipBlocks⟩).ipBlocks.blocks := held
    unfold Admin.ConfigRequest.serve at held
    rw [after] at held
    generalize whole : call.route = route at own
    cases own with
    | none => exact .inl held
    | listed => exact .inl (mem_listed.mp held).1
    | permanent method => exact .inl (mem_listed.mp held).1
    | removed named =>
      exact .inl ((IpBlockTracker.mem_blocks_remove kept).mp (mem_listed.mp held).1).1
    | @added method object value added post named limited built =>
      obtain ⟨there, live⟩ := mem_listed.mp held
      rcases mem_add kept there with rfl | old
      · exact .inr ⟨method, object, value, whole, post, named, limited, built, live⟩
      · exact .inl old
  | visit c x =>
    obtain rfl := Option.some.inj taken
    have held : block ∈ (runHttpSession text s.config c x s.visitors).2.ipBlocks.blocks := held
    rw [visit_blocks] at held
    cases ban : banOf text s c x with
    | some new =>
      rw [ban] at held
      rcases mem_add kept held with rfl | old
      · exact .inr ban
      · exact .inl old
    | none =>
      rw [ban] at held
      exact .inl held
  | restart later =>
    obtain ⟨config, rfl⟩ := restart_some taken
    cases held

theorem banOf_some (ban : banOf text s c x = some block) :
    (∃ result, decision text s.config c x s.visitors = .blocked result) ∧ block.key = .exact c.clientIp ∧
      block.address = c.clientIp ∧ block.isCidr = false ∧ block.createdAt = x.readings.ban ∧
      block.expiresAt = x.readings.ban + hours (min s.config.ban.banDurationHours kMaxBanDurationHours) := by
  unfold banOf at ban
  split at ban
  · next result decided =>
    have shape := (Award.block_some ban).2.2
    rw [shape]
    exact ⟨⟨result, decided⟩, rfl, rfl, rfl, rfl, rfl⟩
  · cases ban

theorem covers_exact (single : block.isCidr = false) : block.Covers c.clientIp ↔ block.address = c.clientIp := by
  unfold TemporaryIpBlock.Covers
  rw [single, if_neg Bool.false_ne_true]

theorem isBlocked_of_banned (banned : decision text s.config c x s.visitors = .banned) :
    s.visitors.ipBlocks.isBlocked x.readings.gate c.clientIp = true := by
  rcases firstApplicable_mem banned with other | shut
  · cases other
  · simp only [gates, laterGates, guarded, scored, List.mem_cons, List.not_mem_nil, or_false, Prod.mk.injEq,
      reduceCtorEq, and_false, false_or, and_true, Bool.true_eq, Bool.and_eq_true] at shut
    exact shut.2

/-- Nobody is banned without a cause: where a visitor is turned away as banned, an admin's request has blocked the
address, or a range around it, or an earlier request from the same address was blocked and brought its points to the
threshold. That was after the last restart, and has not expired. -/
theorem banned_has_cause (libs : Libraries) (makeAddress : MakeAddress) (text : AddressText) (yaml : Yaml.Library)
    (s t : State) (events : List (Event libs makeAddress)) (c : Connection) (x : Exchange)
    (started : s.visitors.ipBlocks = {}) (reached : Lts.run (step text yaml) s events = some t)
    (banned : decision text t.config c x t.visitors = .banned) :
    ∃ before e after mid block, events = before ++ e :: after ∧ Lts.run (step text yaml) s before = some mid ∧
      Bans text mid block e ∧ (∀ later, .restart later ∉ after) ∧ x.readings.gate < block.expiresAt ∧
      block.Covers c.clientIp ∧ ∀ c' x', e = .visit c' x' → c'.clientIp = c.clientIp := by
  have kept_start : s.visitors.ipBlocks.Kept := started ▸ .empty _
  have kept := run_blocks_kept kept_start reached
  obtain ⟨block, held, live, covers⟩ := (IpBlockTracker.isBlocked_iff kept).mp (isBlocked_of_banned banned)
  have fresh : block ∉ s.visitors.ipBlocks.blocks := by
    rw [started]
    exact List.not_mem_nil
  obtain ⟨before, e, after, mid, next, split, first, without, taken, tail, onwards⟩ :=
    @Lts.exists_onset _ _ (step text yaml) s t (fun now => block ∈ now.visitors.ipBlocks.blocks) events reached
      (fun all => fresh (all [] events s rfl rfl)) held
  have arrived : block ∈ next.visitors.ipBlocks.blocks := onwards [] after next rfl rfl
  have bans : Bans text mid block e := (step_brings (run_blocks_kept kept_start first) taken arrived).resolve_left without
  refine ⟨before, e, after, mid, block, split, first, bans, fun later restarts => ?_, live, covers, ?_⟩
  · -- a restart would have forgotten the block
    obtain ⟨left, right, rfl⟩ := List.append_of_mem restarts
    rw [Lts.run_append, Option.bind_eq_some_iff] at tail
    obtain ⟨early, first, rest⟩ := tail
    obtain ⟨started, restarted, -⟩ := Lts.run_cons_some.mp rest
    have still : block ∈ started.visitors.ipBlocks.blocks := by
      refine onwards (left ++ [.restart later]) right started (by simp) ?_
      rw [Lts.run_append, first]
      exact Lts.run_cons_some.mpr ⟨started, restarted, rfl⟩
    obtain ⟨config, rfl⟩ := restart_some restarted
    cases still
  · rintro c' x' rfl
    obtain ⟨-, -, address, single, -⟩ := banOf_some bans
    exact address.symm.trans ((covers_exact single).mp covers)

def visitorRequest : Admin.ConfigRequest guardLibraries IpBlockTracker.sampleMakeAddress where
  request := postOf "/api/blacklist/ips" "visitor"
  env := Admin.thresholdEnv
  handler := Admin.handleBlacklistMutation guardLibraries IpBlockTracker.sampleMakeAddress Admin.thresholdEnv
    (postOf "/api/blacklist/ips" "visitor") .post "ips" ""
  known := by
    have route : Admin.handlerFor (postOf "/api/blacklist/ips" "visitor").method "/api/blacklist/ips" =
      .blacklistMutation .post "ips" := guard_routes.2.2
    show Admin.configHandler _ _ _ _ _ (Admin.handlerFor _ "/api/blacklist/ips") = _
    rw [route]
    rfl

def visitorBlock : TemporaryIpBlock where
  text := "192.0.2.7"
  address := visitor.clientIp
  source := "manual"
  createdAt := 0
  expiresAt := hours 1

def visitorBlocked : State where
  visitors := { unvisited with ipBlocks := (visitorRequest.serve {}).ipBlocks }

theorem visitorBlock_built : Admin.buildTemporaryBlock IpBlockTracker.sampleMakeAddress 0 "192.0.2.7" "manual" (hours 1) =
    .ok visitorBlock := by
  unfold Admin.buildTemporaryBlock
  rw [if_neg (by decide)]
  rfl

theorem visitorRequest_bans : Bans (fun _ => "192.0.2.7") {} visitorBlock
    (.admin visitorRequest : Event guardLibraries IpBlockTracker.sampleMakeAddress) :=
  ⟨.post, [("value", .string "192.0.2.7"), ("duration_hours", .int64 1)], "192.0.2.7", guard_routes.2.2, by decide, rfl,
    by decide, visitorBlock_built, by decide⟩

/-- The admin who blocked the visitor is the cause. -/
theorem visitor_banned_by_request : ∃ before e after mid block,
    [(.admin visitorRequest : Event guardLibraries IpBlockTracker.sampleMakeAddress)] = before ++ e :: after ∧
      Lts.run (step (fun _ => "192.0.2.7") guardYaml) {} before = some mid ∧
      Bans (fun _ => "192.0.2.7") mid block e ∧ (∀ later, .restart later ∉ after) ∧ 0 < block.expiresAt ∧
      block.Covers visitor.clientIp ∧ ∀ c' x', e = .visit c' x' → c'.clientIp = visitor.clientIp :=
  banned_has_cause guardLibraries IpBlockTracker.sampleMakeAddress (fun _ => "192.0.2.7") guardYaml {} visitorBlocked
    [.admin visitorRequest] visitor (visitOf "/") rfl rfl rfl

/-! ### How long a block holds -/

theorem route_serve {call : Admin.ConfigRequest libs makeAddress} {method : Http.Verb} {object : Http.JsonObject} {value : String}
    (route : call.route = .blacklistMutation method "ips") (post : method ≠ .delete)
    (named : Admin.namedValue libs call.request.body = some (object, value))
    (limited : 0 < Admin.durationOf object ∧ Admin.durationOf object ≤ kMaxBanDurationHours)
    (built : Admin.buildTemporaryBlock makeAddress call.env.readings.built value "manual"
      (hours (Admin.durationOf object)) = .ok block) (state : Admin.IpBlockState) :
    (call.serve state).ipBlocks =
      ((state.ipBlocks.add call.env.readings.added block).listActive call.env.readings.listed).2 := by
  have known := call.known
  have whole : Admin.handlerFor call.request.method call.request.target = .blacklistMutation method "ips" := route
  rw [whole] at known
  unfold Admin.ConfigRequest.serve
  rw [← Option.some.inj known]
  have exceeds : ¬ kMaxBanDurationHours < (Admin.jsonIntField object "duration_hours").getD 0 := Int.not_lt.mpr limited.2
  have positive : 0 < (Admin.jsonIntField object "duration_hours").getD 0 := limited.1
  have built : Admin.buildTemporaryBlock makeAddress call.env.readings.built value "manual"
      (hours ((Admin.jsonIntField object "duration_hours").getD 0)) = .ok block := built
  show (Admin.handleIpBlockMutation libs makeAddress call.env.readings state method call.request.body
    call.request.version).2.ipBlocks = _
  unfold Admin.handleIpBlockMutation
  simp only [named, if_neg post, if_neg exceeds, Admin.addIpBlock, if_pos positive, built, Except.map]
  rfl

theorem bans_held (kept : s.visitors.ipBlocks.Kept) (bans : Bans text s block e)
    (taken : step text yaml s e = some t) : block ∈ t.visitors.ipBlocks.blocks := by
  cases e with
  | admin call =>
    obtain rfl := Option.some.inj taken
    obtain ⟨method, object, value, route, post, named, limited, built, live⟩ := bans
    show block ∈ (call.serve ⟨s.config, s.visitors.ipBlocks⟩).ipBlocks.blocks
    rw [route_serve route post named limited built]
    exact mem_listed.mpr ⟨mem_add_new kept, live⟩
  | visit c x =>
    obtain rfl := Option.some.inj taken
    have ban : banOf text s c x = some block := bans
    show block ∈ (runHttpSession text s.config c x s.visitors).2.ipBlocks.blocks
    rw [visit_blocks, ban]
    exact mem_add_new kept
  | restart later => exact bans.elim

/-- A client that is blocked for some time is turned away before any check. -/
theorem turned_away (free : isWhitelisted text s.config c x = false)
    (blocked : s.visitors.ipBlocks.isBlocked x.readings.gate c.clientIp = true) :
    decision text s.config c x s.visitors = .emergencyOff ∨ decision text s.config c x s.visitors = .siteDisabled ∨
      decision text s.config c x s.visitors = .banned := by
  unfold decision gates
  simp only [firstApplicable_cons, guarded, free, blocked, Bool.not_false, Bool.and_self, if_true]
  split
  · exact .inl rfl
  · split
    · exact .inr (.inl rfl)
    · exact .inr (.inr rfl)

/-- Nor does it score, whether it is whitelisted or not. -/
theorem banOf_blocked (blocked : s.visitors.ipBlocks.isBlocked x.readings.gate c.clientIp = true) :
    banOf text s c x = none := by
  unfold banOf
  split
  · next result decided =>
    have away := turned_away (decision_blocked decided).1 blocked
    rw [decided] at away
    rcases away with away | away | away <;> cases away
  · rfl

theorem step_leaves (kept : s.visitors.ipBlocks.Kept) (held : block ∈ s.visitors.ipBlocks.blocks) (leaves : Leaves block e)
    (taken : step text yaml s e = some t) : block ∈ t.visitors.ipBlocks.blocks := by
  cases e with
  | admin call =>
    obtain rfl := Option.some.inj taken
    obtain ⟨added, listed, unnamed⟩ := leaves
    obtain ⟨made, own, after⟩ := (call.serves ⟨s.config, s.visitors.ipBlocks⟩).accepted.blocks
    show block ∈ (call.serve ⟨s.config, s.visitors.ipBlocks⟩).ipBlocks.blocks
    unfold Admin.ConfigRequest.serve
    rw [after]
    generalize whole : call.route = route at own
    cases own with
    | none => exact held
    | listed => exact mem_listed.mpr ⟨held, listed⟩
    | permanent method => exact mem_listed.mpr ⟨held, listed⟩
    | @removed object value named =>
      refine mem_listed.mpr ⟨(IpBlockTracker.mem_blocks_remove kept).mpr ⟨held, fun same => ?_⟩, listed⟩
      exact unnamed .delete object value whole named (same ▸ namesKey_removed value)
    | @added method object value new post named limited built =>
      refine mem_listed.mpr ⟨mem_add_old kept held added fun same => ?_, listed⟩
      exact unnamed method object value whole named (same ▸ namesKey_built built)
  | visit c x =>
    obtain rfl := Option.some.inj taken
    show block ∈ (runHttpSession text s.config c x s.visitors).2.ipBlocks.blocks
    rw [visit_blocks]
    cases ban : banOf text s c x with
    | none => exact held
    | some new =>
      refine mem_add_old kept held leaves.1 fun same => ?_
      -- a block of the client's own address would have turned the visit away
      obtain ⟨-, key, -⟩ := banOf_some ban
      have covers : block.Covers c.clientIp := by
        have own : block.key = .exact c.clientIp := same.symm.trans key
        unfold TemporaryIpBlock.key at own
        split at own
        · cases own
        · next single =>
          refine (covers_exact (by simpa using single)).mpr ?_
          exact BlockKey.exact.inj own
      have blocked := (IpBlockTracker.isBlocked_iff kept).mpr ⟨block, held, leaves.2, covers⟩
      rw [banOf_blocked blocked] at ban
      cases ban
  | restart later => exact leaves.elim

/-- Once an admin's request or a visit has brought a block about, every client that it covers is turned away
until it expires, unless whitelisted. Only a restart or a request that names it can end it before: the client's
further requests neither prolong nor shorten it. -/
theorem ban_holds (libs : Libraries) (makeAddress : MakeAddress) (text : AddressText) (yaml : Yaml.Library)
    (s mid t : State) (e : Event libs makeAddress) (events : List (Event libs makeAddress)) (block : TemporaryIpBlock)
    (c : Connection) (x : Exchange) (kept : s.visitors.ipBlocks.Kept) (bans : Bans text s block e)
    (taken : step text yaml s e = some mid) (leaves : ∀ later ∈ events, Leaves block later)
    (reached : Lts.run (step text yaml) mid events = some t) (live : x.readings.gate < block.expiresAt)
    (covers : block.Covers c.clientIp) (free : isWhitelisted text t.config c x = false) :
    decision text t.config c x t.visitors = .emergencyOff ∨ decision text t.config c x t.visitors = .siteDisabled ∨
      decision text t.config c x t.visitors = .banned := by
  have kept_mid := step_blocks_kept kept taken
  have held := bans_held kept bans taken
  have still : block ∈ t.visitors.ipBlocks.blocks := by
    clear bans taken
    induction events generalizing mid with
    | nil =>
      obtain rfl := Option.some.inj reached
      exact held
    | cons first rest ih =>
      obtain ⟨next, taken, onwards⟩ := Lts.run_cons_some.mp reached
      exact ih next (fun later member => leaves later (List.mem_cons_of_mem _ member)) onwards
        (step_blocks_kept kept_mid taken) (step_leaves kept_mid held (leaves first List.mem_cons_self) taken)
  refine turned_away free ((IpBlockTracker.isBlocked_iff ?_).mpr ⟨block, still, live, covers⟩)
  exact run_blocks_kept kept_mid reached

/-- The visitor comes back, and is turned away a second time. -/
theorem visitor_turned_away :
    let t : State := { visitorBlocked with
      visitors := (runHttpSession (fun _ => "192.0.2.7") {} visitor (visitOf "/") visitorBlocked.visitors).2 }
    decision (fun _ => "192.0.2.7") t.config visitor (visitOf "/login") t.visitors = .emergencyOff ∨
      decision (fun _ => "192.0.2.7") t.config visitor (visitOf "/login") t.visitors = .siteDisabled ∨
      decision (fun _ => "192.0.2.7") t.config visitor (visitOf "/login") t.visitors = .banned := by
  intro t
  refine ban_holds guardLibraries IpBlockTracker.sampleMakeAddress (fun _ => "192.0.2.7") guardYaml {} visitorBlocked t
    (.admin visitorRequest) [.visit visitor (visitOf "/")] visitorBlock visitor (visitOf "/login") (.empty _)
    visitorRequest_bans rfl ?_ rfl (by decide) rfl rfl
  intro later member
  obtain rfl := List.mem_singleton.mp member
  exact ⟨by decide, by decide⟩

/-! ### How long a block may last -/

/-- The block is for an hour at least, and for ten years at most. -/
def Lasting (block : TemporaryIpBlock) : Prop :=
  hours 1 ≤ block.expiresAt - block.createdAt ∧ block.expiresAt - block.createdAt ≤ hours kMaxBanDurationHours

theorem bans_lasting (healthy : Healthy makeAddress s) (bans : Bans text s block e) : Lasting block := by
  have hour : hours 1 = 3600000000000 := by decide
  have decade : hours kMaxBanDurationHours = 3600000000000 * 87600 := by decide
  have scale (n : Int) : hours n = 3600000000000 * n := by
    unfold hours minutes seconds
    omega
  have bound : kMaxBanDurationHours = 87600 := rfl
  unfold Lasting
  cases e with
  | admin call =>
    obtain ⟨method, object, value, -, -, -, ⟨positive, most⟩, built, -⟩ := bans
    obtain ⟨created, expires⟩ := built_times built
    have length := scale (Admin.durationOf object)
    constructor <;> omega
  | visit c x =>
    obtain ⟨-, -, -, -, created, expires⟩ := banOf_some bans
    obtain ⟨least, most⟩ := healthy.valid.settings.banDurationHours
    have length := scale (min s.config.ban.banDurationHours kMaxBanDurationHours)
    constructor <;> omega
  | restart later => exact bans.elim

/-- Whatever admins set and visitors do, no block is over before an hour and none outlives ten years: the bounds that
the settings keep carry over to every block in force. -/
theorem blocks_last_within_bounds (libs : Libraries) (makeAddress : MakeAddress) (text : AddressText) (yaml : Yaml.Library)
    (s t : State) (events : List (Event libs makeAddress)) (block : TemporaryIpBlock) (healthy : Healthy makeAddress s)
    (started : s.visitors.ipBlocks = {}) (sound : Lts.Meets (step text yaml) (Sound yaml) s events)
    (reached : Lts.run (step text yaml) s events = some t) (held : block ∈ t.visitors.ipBlocks.blocks) :
    Lasting block := by
  let invariant (now : State) : Prop := Healthy makeAddress now ∧ ∀ block ∈ now.visitors.ipBlocks.blocks, Lasting block
  have start : invariant s := by
    refine ⟨healthy, ?_⟩
    rw [started]
    intro block held
    cases held
  have all : invariant t := by
    refine Lts.run_invariant ?_ start sound reached
    rintro now e next ⟨healthy, lasting⟩ sound taken
    obtain ⟨other, same, kept⟩ := step_healthy text healthy sound
    obtain rfl := Option.some.inj (taken.symm.trans same)
    refine ⟨kept, fun block held => ?_⟩
    rcases step_brings healthy.blocks taken held with old | bans
    · exact lasting block old
    · exact bans_lasting healthy bans
  exact all.2 block held

theorem visitorBlock_lasting : Lasting visitorBlock := by
  refine blocks_last_within_bounds guardLibraries IpBlockTracker.sampleMakeAddress (fun _ => "192.0.2.7") guardYaml {}
    visitorBlocked [.admin visitorRequest] visitorBlock .default rfl ⟨guard_running, fun _ _ => trivial⟩ rfl ?_
  exact @bans_held _ _ _ guardYaml _ _ _ _ (.empty _) visitorRequest_bans rfl

end Atomwall.System
