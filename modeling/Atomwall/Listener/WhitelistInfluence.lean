import Atomwall.Base.Lts
import Atomwall.Listener.Decision

/-!
Two runs of the pipeline, one of them without the whitelisted requests: when the others are judged
alike. Whitelisted navigations are counted by the rate check before the whitelist is looked at.
-/

namespace Atomwall.Listener

open ByteString Http

structure Visit where
  connection : Connection
  exchange : Exchange

def Outcome.named : Outcome → Outcome
  | .blocked result => .blocked { result with reason := "" }
  | outcome => outcome

/-- What a request gets, the verdict with the name of the check, and what it leaves of the scores and
the bans. -/
structure Judgement where
  served : Served
  outcome : Outcome
  scores : ScoreTracker
  ipBlocks : IpBlockTracker

section Runs

variable (text : AddressText) (config : RuntimeConfig)

def Visit.listed (v : Visit) : Bool := isWhitelisted text config v.connection v.exchange

def Visit.decision (v : Visit) (s : AppState) : Outcome :=
  Listener.decision text config v.connection v.exchange s

def Visit.run (v : Visit) (s : AppState) : Served × AppState :=
  runHttpSession text config v.connection v.exchange s

def Visit.judge (v : Visit) (s : AppState) : Judgement where
  served := (v.run text config s).1
  outcome := (v.decision text config s).named
  scores := (v.run text config s).2.scores
  ipBlocks := (v.run text config s).2.ipBlocks

def judgements : AppState → List Visit → List (Visit × Judgement)
  | _, [] => []
  | s, v :: rest => (v, v.judge text config s) :: judgements (v.run text config s).2 rest

/-- The request is a navigation that gets as far as the rate check, which is on. -/
def Visit.counted (v : Visit) (s : AppState) : Bool :=
  !config.emergencyOff.enabled && (siteOf config v.exchange).enabled &&
    !(!v.listed text config && s.ipBlocks.isBlocked v.exchange.readings.gate v.connection.clientIp) &&
    (config.speedCheck.enabled &&
      isNavigationRequest v.exchange.request.fields (pathOf v.exchange))

/-- The state of a run, and each navigation that was counted: whether it was whitelisted, from where
and when. -/
structure Trace where
  state : AppState
  log : List (Bool × String × Int) := []

def Visit.entry (v : Visit) : String × Int :=
  (text v.connection.clientIp, v.exchange.readings.steady)

def Trace.all (t : Trace) : List (String × Int) := t.log.map Prod.snd

def Trace.unlisted (t : Trace) : List (String × Int) :=
  (t.log.filter fun e => !e.1).map Prod.snd

def Trace.step (t : Trace) (v : Visit) : Option Trace :=
  some
    { state := (v.run text config t.state).2
      log := if v.counted text config t.state then t.log ++ [(v.listed text config, v.entry text)]
        else t.log }

/-- With the navigations of the log before it, the request is over the limit. -/
def Visit.isOver (v : Visit) (log : List (String × Int)) : Bool :=
  isOverLimit config.speedCheck
    (RequestRateTracker.countSince
      (v.exchange.readings.steady - seconds config.speedCheck.windowSeconds)
      (text v.connection.clientIp) (log ++ [v.entry text]))

/-- Where a request that is not whitelisted is counted, the whitelisted ones make no difference to
whether it is over the limit. -/
def Undisturbed (t : Trace) (v : Visit) : Prop :=
  v.listed text config = false → v.counted text config t.state = true →
    v.isOver text config t.all = v.isOver text config t.unlisted

instance (t : Trace) (v : Visit) : Decidable (Undisturbed text config t v) := by
  unfold Undisturbed
  infer_instance

end Runs

variable {text : AddressText} {config : RuntimeConfig} {c : Connection} {x : Exchange}
  {s s' : AppState} {v : Visit} {t : Trace} {latest : Int}

/-! ### Two states of one request -/

theorem decision_eq : decision text config c x s =
    if config.emergencyOff.enabled then .emergencyOff
    else if !(siteOf config x).enabled then .siteDisabled
    else if !isWhitelisted text config c x && s.ipBlocks.isBlocked x.readings.gate c.clientIp then
      .banned
    else if !isWhitelisted text config c x && (rateOf text config c x s).1.blocked then
      .blocked (rateOf text config c x s).1
    else firstApplicable (.forwarded (siteOf config x).upstream) (laterGates text config c x) := rfl

theorem named_rate (blocks : (rateOf text config c x s).1.blocked = true) :
    (Outcome.blocked (rateOf text config c x s).1).named = .blocked (.block "speed_check" "") := by
  have name : (rateOf text config c x s).1.checkName = "speed_check" := checkRequestRate_eq.2.2 blocks
  have verdict : (rateOf text config c x s).1.verdict = .block := eq_of_beq blocks
  simp only [Outcome.named, name, verdict, CheckResult.block]

theorem scored_ne {result checked : CheckResult} {name : String} (named : checked.Names name)
    (other : name ≠ "speed_check")
    (shut : (true, Outcome.blocked result) = scored text config c x checked) :
    result.checkName ≠ "speed_check" := by
  injection shut with applies same
  injection same with same
  subst same
  simp only [Bool.true_eq, Bool.and_eq_true] at applies
  rw [named applies.2]
  exact other

theorem later_named_ne :
    (firstApplicable (.forwarded (siteOf config x).upstream) (laterGates text config c x)).named ≠
      .blocked (.block "speed_check" "") := by
  intro same
  cases later : firstApplicable (.forwarded (siteOf config x).upstream) (laterGates text config c x) with
  | blocked result =>
    rw [later] at same
    have name : result.checkName = "speed_check" :=
      congrArg CheckResult.checkName (Outcome.blocked.inj same)
    rcases firstApplicable_mem later with other | shut
    · cases other
    · simp only [laterGates, List.mem_cons, List.not_mem_nil, or_false] at shut
      rcases shut with method | ip | route | fake | isp | agent | referrer | other | size | body
      · exact scored_ne checkMethodAllowlist_names (by decide) method name
      · exact scored_ne checkIpBlacklist_names (by decide) ip name
      · exact scored_ne checkEntries_names (by decide) route name
      · exact scored_ne checkEntries_names (by decide) fake name
      · exact scored_ne checkIspBlacklist_names (by decide) isp name
      · exact scored_ne checkField_names (by decide) agent name
      · exact scored_ne checkField_names (by decide) referrer name
      · cases congrArg Prod.snd other
      · exact scored_ne checkBodySize_names (by decide) size name
      · exact scored_ne checkEntries_names (by decide) body name
  | _ =>
    rw [later] at same
    cases same

theorem counted_eq (same : s.ipBlocks = s'.ipBlocks) :
    v.counted text config s = v.counted text config s' := by
  unfold Visit.counted
  rw [same]

/-- Two states with the same bans judge a request alike exactly when the rate check, where it counts
the request, blocks in both or in neither. -/
theorem named_eq_iff (same : s.ipBlocks = s'.ipBlocks) (free : v.listed text config = false) :
    (v.decision text config s).named = (v.decision text config s').named ↔
      (v.counted text config s = true →
        (rateOf text config v.connection v.exchange s).1.blocked =
          (rateOf text config v.connection v.exchange s').1.blocked) := by
  have free' : isWhitelisted text config v.connection v.exchange = false := free
  unfold Visit.decision Visit.counted
  rw [decision_eq, decision_eq, same, free, free']
  cases config.emergencyOff.enabled with
  | true => simp
  | false =>
    cases (siteOf config v.exchange).enabled with
    | false => simp
    | true =>
      cases s'.ipBlocks.isBlocked v.exchange.readings.gate v.connection.clientIp with
      | true => simp
      | false =>
        simp only [Bool.not_false, Bool.not_true, Bool.and_false, Bool.and_self, Bool.true_and,
          Bool.false_eq_true, if_false]
        have verdict (state : AppState) :
            (if (rateOf text config v.connection v.exchange state).1.blocked = true then
                Outcome.blocked (rateOf text config v.connection v.exchange state).1
              else firstApplicable (.forwarded (siteOf config v.exchange).upstream)
                (laterGates text config v.connection v.exchange)).named =
              if (rateOf text config v.connection v.exchange state).1.blocked then
                .blocked (.block "speed_check" "")
              else (firstApplicable (.forwarded (siteOf config v.exchange).upstream)
                (laterGates text config v.connection v.exchange)).named := by
          split
          · next blocks => exact named_rate blocks
          · rfl
        have off (state : AppState) (quiet : (config.speedCheck.enabled &&
            isNavigationRequest v.exchange.request.fields (pathOf v.exchange)) = false) :
            (rateOf text config v.connection v.exchange state).1.blocked = false := by
          unfold rateOf
          rw [checkRequestRate_eq.2.1, quiet, Bool.false_and]
        rw [verdict, verdict]
        cases navigates : (config.speedCheck.enabled &&
            isNavigationRequest v.exchange.request.fields (pathOf v.exchange)) with
        | false => simp [off s navigates, off s' navigates]
        | true =>
          have apart := @later_named_ne text config v.connection v.exchange
          cases (rateOf text config v.connection v.exchange s).1.blocked <;>
            cases (rateOf text config v.connection v.exchange s').1.blocked <;>
              simp [apart, Ne.symm apart]

/-! ### What a request leaves -/

theorem served_named {outcome : Outcome} :
    outcome.named.served text config c x = outcome.served text config c x := by
  cases outcome <;> rfl

theorem award_named {outcome : Outcome} {trackers : ScoreTracker × IpBlockTracker} :
    outcome.named.award text config c x trackers = outcome.award text config c x trackers := by
  cases outcome <;> rfl

theorem later_reachesRate :
    (firstApplicable (.forwarded (siteOf config x).upstream) (laterGates text config c x)).reachesRate =
      true := by
  generalize later : firstApplicable (.forwarded (siteOf config x).upstream)
    (laterGates text config c x) = outcome
  rcases firstApplicable_mem later with rfl | shut
  · rfl
  · simp only [laterGates, List.mem_cons, List.not_mem_nil, or_false] at shut
    rcases shut with gate | gate | gate | gate | gate | gate | gate | gate | gate | gate
    all_goals
      obtain rfl := congrArg Prod.snd gate
      rfl

theorem run_rateTracker : (v.run text config s).2.rateTracker =
    if v.counted text config s then
      (s.rateTracker.record (text v.connection.clientIp) v.exchange.readings.steady
        (seconds config.speedCheck.windowSeconds)).2
    else s.rateTracker := by
  have reaches : (v.decision text config s).reachesRate =
      (!config.emergencyOff.enabled && (siteOf config v.exchange).enabled &&
        !(!v.listed text config &&
          s.ipBlocks.isBlocked v.exchange.readings.gate v.connection.clientIp)) := by
    unfold Visit.decision Visit.listed
    rw [decision_eq]
    cases config.emergencyOff.enabled with
    | true => rfl
    | false =>
      cases (siteOf config v.exchange).enabled with
      | false => rfl
      | true =>
        cases !isWhitelisted text config v.connection v.exchange &&
            s.ipBlocks.isBlocked v.exchange.readings.gate v.connection.clientIp with
        | true => rfl
        | false =>
          simp only [Bool.false_eq_true, Bool.not_true, Bool.not_false, Bool.and_self, if_false]
          split
          · rfl
          · exact later_reachesRate
  rw [show v.counted text config s = _ from congrArg (· && _) reaches.symm]
  exact request_rateTracker

theorem run_trackers : ((v.run text config s).2.scores, (v.run text config s).2.ipBlocks) =
    (v.decision text config s).award text config v.connection v.exchange (s.scores, s.ipBlocks) :=
  request_trackers

theorem run_listed (listed : v.listed text config = true) :
    (v.run text config s).2.scores = s.scores ∧ (v.run text config s).2.ipBlocks = s.ipBlocks := by
  have free := @decision_whitelisted text config v.connection v.exchange s listed
  have kept : (v.decision text config s).award text config v.connection v.exchange
      (s.scores, s.ipBlocks) = (s.scores, s.ipBlocks) := by
    unfold Visit.decision
    cases outcome : decision text config v.connection v.exchange s with
    | blocked result => exact absurd outcome (free.2 result)
    | _ => rfl
  have after := @run_trackers text config s v
  rw [kept] at after
  exact Prod.mk.inj after

theorem judge_eq_iff (scores : s.scores = s'.scores) (ipBlocks : s.ipBlocks = s'.ipBlocks) :
    v.judge text config s = v.judge text config s' ↔
      (v.decision text config s).named = (v.decision text config s').named := by
  constructor
  · intro alike
    exact congrArg Judgement.outcome alike
  · intro alike
    have served : (v.run text config s).1 = (v.run text config s').1 := by
      have first := @request_served text config v.connection v.exchange s
      have second := @request_served text config v.connection v.exchange s'
      rw [← served_named] at first second
      unfold Visit.decision at alike
      unfold Visit.run
      rw [first, second, alike]
    have trackers : ((v.run text config s).2.scores, (v.run text config s).2.ipBlocks) =
        ((v.run text config s').2.scores, (v.run text config s').2.ipBlocks) := by
      rw [run_trackers, run_trackers, ← award_named, alike, award_named, scores, ipBlocks]
    obtain ⟨left, right⟩ := Prod.mk.inj trackers
    unfold Visit.judge
    rw [served, alike, left, right]

/-! ### Two runs -/

/-- The run of all requests and the run of those that are not whitelisted: the same scores and bans,
and rate trackers that hold what each has counted. -/
structure Coupled (config : RuntimeConfig) (latest : Int) (t : Trace) (s' : AppState) : Prop where
  scores : t.state.scores = s'.scores
  ipBlocks : t.state.ipBlocks = s'.ipBlocks
  tracks : RequestRateTracker.Tracks (seconds config.speedCheck.windowSeconds) latest t.all
    t.state.rateTracker
  tracksUnlisted : RequestRateTracker.Tracks (seconds config.speedCheck.windowSeconds) latest t.unlisted
    s'.rateTracker

theorem rate_blocked {log : List (String × Int)} (tracks : RequestRateTracker.Tracks
      (seconds config.speedCheck.windowSeconds) latest log s.rateTracker)
    (later : latest ≤ v.exchange.readings.steady) (counted : v.counted text config s = true) :
    (rateOf text config v.connection v.exchange s).1.blocked = v.isOver text config log := by
  unfold rateOf Visit.isOver
  rw [checkRequestRate_eq.2.1, (tracks.record later).1]
  unfold Visit.counted at counted
  rw [(Bool.and_eq_true_iff.mp counted).2, Bool.true_and]
  rfl

theorem tracks_run {log : List (String × Int)} (tracks : RequestRateTracker.Tracks
      (seconds config.speedCheck.windowSeconds) latest log s.rateTracker)
    (later : latest ≤ v.exchange.readings.steady) :
    RequestRateTracker.Tracks (seconds config.speedCheck.windowSeconds) v.exchange.readings.steady
      (if v.counted text config s then log ++ [v.entry text] else log)
      (v.run text config s).2.rateTracker := by
  rw [run_rateTracker]
  split
  · exact (tracks.record later).2
  · exact tracks.later later

theorem Coupled.judge_eq_iff (coupled : Coupled config latest t s')
    (later : latest ≤ v.exchange.readings.steady) (free : v.listed text config = false) :
    v.judge text config t.state = v.judge text config s' ↔ Undisturbed text config t v := by
  rw [Listener.judge_eq_iff coupled.scores coupled.ipBlocks, named_eq_iff coupled.ipBlocks free]
  have same := @counted_eq text config _ _ v coupled.ipBlocks
  constructor
  · intro agree _ counted
    rw [← rate_blocked coupled.tracks later counted,
      ← rate_blocked coupled.tracksUnlisted later (same ▸ counted)]
    exact agree counted
  · intro undisturbed counted
    rw [rate_blocked coupled.tracks later counted,
      rate_blocked coupled.tracksUnlisted later (same ▸ counted)]
    exact undisturbed free counted

theorem Coupled.tracks_step (coupled : Coupled config latest t s')
    (later : latest ≤ v.exchange.readings.steady) {next : Trace}
    (taken : t.step text config v = some next) :
    RequestRateTracker.Tracks (seconds config.speedCheck.windowSeconds) v.exchange.readings.steady
      next.all next.state.rateTracker := by
  obtain rfl := Option.some.inj taken
  have tracks := @tracks_run text config t.state v latest t.all coupled.tracks later
  unfold Trace.all at tracks ⊢
  cases counted : v.counted text config t.state <;> simpa [counted] using tracks

theorem Coupled.step_listed (coupled : Coupled config latest t s')
    (later : latest ≤ v.exchange.readings.steady) (listed : v.listed text config = true)
    {next : Trace} (taken : t.step text config v = some next) :
    Coupled config v.exchange.readings.steady next s' := by
  have all := coupled.tracks_step later taken
  obtain rfl := Option.some.inj taken
  obtain ⟨scores, ipBlocks⟩ := @run_listed text config t.state v listed
  refine ⟨scores.trans coupled.scores, ipBlocks.trans coupled.ipBlocks, all, ?_⟩
  have tracks := coupled.tracksUnlisted.later later
  unfold Trace.unlisted at tracks ⊢
  cases counted : v.counted text config t.state <;>
    simpa [counted, listed, List.filter_append] using tracks

theorem Coupled.step_unlisted (coupled : Coupled config latest t s')
    (later : latest ≤ v.exchange.readings.steady) (free : v.listed text config = false)
    (alike : v.judge text config t.state = v.judge text config s')
    {next : Trace} (taken : t.step text config v = some next) :
    Coupled config v.exchange.readings.steady next (v.run text config s').2 := by
  have all := coupled.tracks_step later taken
  obtain rfl := Option.some.inj taken
  have same := @counted_eq text config _ _ v coupled.ipBlocks
  refine ⟨congrArg Judgement.scores alike, congrArg Judgement.ipBlocks alike, all, ?_⟩
  have tracks := @tracks_run text config s' v latest t.unlisted coupled.tracksUnlisted later
  rw [← same] at tracks
  unfold Trace.unlisted at tracks ⊢
  cases counted : v.counted text config t.state <;>
    simpa [counted, free, List.filter_append] using tracks

def unlistedJudgements (text : AddressText) (config : RuntimeConfig) (s : AppState)
    (visits : List Visit) : List (Visit × Judgement) :=
  (judgements text config s visits).filter fun j => !j.1.listed text config

theorem Coupled.judgements_eq_iff {visits : List Visit} (coupled : Coupled config latest t s')
    (later : ∀ v ∈ visits, latest ≤ v.exchange.readings.steady)
    (ordered : visits.Pairwise fun v w => v.exchange.readings.steady ≤ w.exchange.readings.steady) :
    unlistedJudgements text config t.state visits =
        judgements text config s' (visits.filter fun v => !v.listed text config) ↔
      Lts.Meets (Trace.step text config) (Undisturbed text config) t visits := by
  induction visits generalizing t s' latest with
  | nil => simp [unlistedJudgements, judgements, Lts.Meets]
  | cons v rest ih =>
    have first := later v List.mem_cons_self
    obtain ⟨after, orderedRest⟩ := List.pairwise_cons.mp ordered
    have taken : t.step text config v = some _ := rfl
    cases listed : v.listed text config with
    | true =>
      have rest' := ih (coupled.step_listed first listed taken) after orderedRest
      have dropped : unlistedJudgements text config t.state (v :: rest) =
          unlistedJudgements text config (v.run text config t.state).2 rest := by
        simp [unlistedJudgements, judgements, listed]
      rw [dropped, List.filter_cons_of_neg (by simp [listed])]
      refine rest'.trans ⟨fun meets => ⟨?_, ?_⟩, fun meets => meets.2 _ taken⟩
      · intro free
        rw [listed] at free
        cases free
      · intro next took
        obtain rfl := Option.some.inj (taken.symm.trans took)
        exact meets
    | false =>
      have kept : unlistedJudgements text config t.state (v :: rest) =
          (v, v.judge text config t.state) ::
            unlistedJudgements text config (v.run text config t.state).2 rest := by
        simp [unlistedJudgements, judgements, listed]
      rw [kept, List.filter_cons_of_pos (by simp [listed])]
      unfold judgements
      rw [List.cons.injEq, Prod.mk.injEq]
      have here := coupled.judge_eq_iff first listed
      constructor
      · rintro ⟨⟨_, alike⟩, tails⟩
        refine ⟨here.mp alike, fun next took => ?_⟩
        obtain rfl := Option.some.inj (taken.symm.trans took)
        exact (ih (coupled.step_unlisted first listed alike taken) after orderedRest).mp tails
      · intro meets
        have alike := here.mpr meets.1
        exact ⟨⟨rfl, alike⟩,
          (ih (coupled.step_unlisted first listed alike taken) after orderedRest).mpr
            (meets.2 _ taken)⟩

/-- Requests that are not whitelisted are judged as if the whitelisted ones had not been made, exactly
when no request that is counted is over the limit on their account. -/
theorem whitelisted_uncounted {text : AddressText} {config : RuntimeConfig} {start : AppState}
    {visits : List Visit} (fresh : start.rateTracker = {})
    (ordered : visits.Pairwise fun v w => v.exchange.readings.steady ≤ w.exchange.readings.steady) :
    unlistedJudgements text config start visits =
        judgements text config start (visits.filter fun v => !v.listed text config) ↔
      Lts.Meets (Trace.step text config) (Undisturbed text config) ⟨start, []⟩ visits := by
  cases visits with
  | nil => simp [unlistedJudgements, judgements, Lts.Meets]
  | cons v rest =>
    have coupled : Coupled config v.exchange.readings.steady ⟨start, []⟩ start := by
      refine ⟨rfl, rfl, ?_, ?_⟩
      all_goals
        rw [fresh]
        exact RequestRateTracker.tracks_empty
    refine coupled.judgements_eq_iff ?_ ordered
    intro w member
    rcases List.mem_cons.mp member with rfl | later
    · exact Int.le_refl _
    · exact (List.pairwise_cons.mp ordered).1 w later

/-! ### A route that is polled -/

def dottedText : AddressText
  | .v4 bytes => ".".intercalate (bytes.toList.map fun byte => toString byte.toNat)
  | .v6 _ _ => "::"

def pollingConfig (maxRequests : Int) : RuntimeConfig where
  whitelist := { routes := [{ value := "/health", createdAt := 0 }] }
  speedCheck := ⟨true, maxRequests, 10⟩

def visitAt (second : Int) (target : String) : Visit where
  connection := { clientIp := .v4 #v[203, 0, 113, 7] }
  exchange :=
    { request := { methodString := "GET", target := target, fields := [("Host", "localhost")] }
      readings := ⟨seconds second, seconds second, seconds second, seconds second, seconds second⟩
      origin := fun _ _ => none }

def polledAndVisited : List Visit := [visitAt 1 "/health", visitAt 2 "/"]

theorem polledAndVisited_ordered : polledAndVisited.Pairwise fun v w =>
    v.exchange.readings.steady ≤ w.exchange.readings.steady := by
  refine List.pairwise_pair.mpr ?_
  decide

/-- One poll of a whitelisted route and one page are one navigation too many. -/
theorem poll_blocks_page :
    ¬ ∀ (text : AddressText) (config : RuntimeConfig) (start : AppState) (visits : List Visit),
        start.rateTracker = {} →
        (visits.Pairwise fun v w => v.exchange.readings.steady ≤ w.exchange.readings.steady) →
        unlistedJudgements text config start visits =
          judgements text config start (visits.filter fun v => !v.listed text config) := by
  intro claim
  have alike := claim dottedText (pollingConfig 1) {} polledAndVisited rfl polledAndVisited_ordered
  have outcomes := congrArg (List.map fun j => j.2.outcome) alike
  revert outcomes
  decide +kernel

theorem poll_within_limit :
    unlistedJudgements dottedText (pollingConfig 2) {} polledAndVisited =
      judgements dottedText (pollingConfig 2) {}
        (polledAndVisited.filter fun v => !v.listed dottedText (pollingConfig 2)) := by
  refine (whitelisted_uncounted rfl polledAndVisited_ordered).mpr ⟨by decide +kernel, ?_⟩
  intro next taken
  obtain rfl := Option.some.inj taken
  exact ⟨by decide +kernel, fun _ _ => trivial⟩

end Atomwall.Listener
