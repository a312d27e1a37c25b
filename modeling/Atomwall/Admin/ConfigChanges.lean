import Atomwall.Admin.ConfigHandlers
import Atomwall.Config.Edits

/-!
What a request to the handlers of the configuration does. One that is not answered with 200 changes nothing;
one that is changes the part of the configuration that its route is about.
-/

namespace Atomwall.Admin

open Http

/-! ### What a route is about -/

def Route.mutates : Route → Option (Verb × EntryList)
  | .blacklistMutation method name => (parseBlacklistCategory name).map fun category => (method, .blacklist category)
  | .whitelistMutation method => some (method, .whitelist)
  | .whitelistRoutesMutation method => some (method, .whitelistRoutes)
  | _ => none

def Route.clears : Route → Option EntryList
  | .blacklistClear name => (parseBlacklistCategory name).map .blacklist
  | .whitelistClear => some .whitelist
  | .whitelistRoutesClear => some .whitelistRoutes
  | _ => none

def Route.imports : Route → Option EntryList
  | .blacklistImport name | .blacklistImportUrl name => (parseBlacklistCategory name).map .blacklist
  | .whitelistImport | .whitelistImportUrl => some .whitelist
  | .whitelistRoutesImport | .whitelistRoutesImportUrl => some .whitelistRoutes
  | _ => none

/-- The part of the configuration that the route may change. -/
def Route.part : Route → Option ConfigPart
  | .sitesCreate | .sitesUpdate _ | .sitesDelete _ => some .sites
  | .statusPageAdd | .statusPageUpdate _ | .statusPageDelete _ => some .statusPages
  | .bodySizeLimitUpdate => some .maxBodySize
  | .banConfigUpdate => some .ban
  | .methodCheckUpdate => some .methodCheck
  | .speedCheckUpdate => some .speedCheck
  | .emergencyOffUpdate => some .emergencyOff
  | .pagesUpdate => some .html
  | .robotsTxtUpdate => some .robotsTxt
  | .requestLogConfigUpdate => some .requestLog
  | .geoipUpload | .asnUpload | .geoipConfigUpdate => some .geoip
  | .globeConfigUpdate => some .globe
  | .securityConfigUpdate => some .security
  | route => (((route.mutates.map Prod.snd).or route.clears).or route.imports).map .lists

/-- The request takes the value out of the list. -/
def Drops (libs : Libraries) (request : Request) (route : Route) (target : EntryList) (value : String) : Prop :=
  (∃ method object, method ≠ .post ∧ route.mutates = some (method, target) ∧
    namedValue libs request.body = some (object, value)) ∨ route.clears = some target

/-! ### What a request does -/

section Changes

variable (libs : Libraries) (makeAddress : MakeAddress) (env : Surroundings) (request : Request) (route : Route)

/-- What an accepted request makes of the configuration. -/
inductive ConfigChange (config : RuntimeConfig) : ConfigPart → RuntimeConfig → Prop where
  | ran (op : ConfigOp) (clock : Nat → Int) {next : RuntimeConfig}
      (reads : clock = env.clock ∨ clock = fun _ => env.readings.built)
      (ports : ∀ port, op.Supplies port → 1 ≤ port ∧ port ≤ 65535)
      (drops : ∀ target value, op.Drops target value → Drops libs request route target value)
      (done : op.run makeAddress clock config = (.ok (), next)) : ConfigChange config op.part next
  | maxBodySize (maxBytes : Int) (holds : 0 ≤ maxBytes ∧ maxBytes ≤ 2147483647) :
      ConfigChange config .maxBodySize (setBodySizeLimit maxBytes config)
  | ban (body : JsonObject) {next : RuntimeConfig} (done : setBan body config = .ok next) : ConfigChange config .ban next
  | methodCheck (body : JsonObject) {next : RuntimeConfig} (done : setMethodCheck body config = .ok next) :
      ConfigChange config .methodCheck next
  | speedCheck (body : JsonObject) {next : RuntimeConfig} (done : setSpeedCheck body config = .ok next) :
      ConfigChange config .speedCheck next
  | emergencyOff (enabled : Bool) : ConfigChange config .emergencyOff (setEmergencyOff enabled config)
  | html (body : JsonObject) : ConfigChange config .html (setPages body config)
  | robotsTxt (body : JsonObject) : ConfigChange config .robotsTxt (setRobotsTxt body config)
  | requestLog (body : JsonObject) : ConfigChange config .requestLog (setRequestLog body config)
  | geoip (path asnPath : Option String) : ConfigChange config .geoip (setGeoip path asnPath config)
  | globe (body : JsonObject) {next : RuntimeConfig} (done : setGlobe body config = .ok next) :
      ConfigChange config .globe next
  | security (body : JsonObject) : ConfigChange config .security (setRequire2fa body config)

/-- The hours for which a request blocks an address, none for good. -/
def durationOf (object : JsonObject) : Int := (jsonIntField object "duration_hours").getD 0

/-- The calls that an accepted request makes on the tracker of blocked addresses. -/
inductive BlockCalls : Route → List IpBlockTracker.Call → Prop where
  | none (route : Route) : BlockCalls route []
  | listed : BlockCalls .ipBlocks [.listActive env.readings.listed]
  | permanent (method : Verb) : BlockCalls (.blacklistMutation method "ips") [.listActive env.readings.listed]
  | added {method : Verb} {object : JsonObject} {value : String} {block : TemporaryIpBlock} (post : method ≠ .delete)
      (named : namedValue libs request.body = some (object, value))
      (limited : 0 < durationOf object ∧ durationOf object ≤ kMaxBanDurationHours)
      (built : buildTemporaryBlock makeAddress env.readings.built value "manual" (hours (durationOf object)) = .ok block) :
      BlockCalls (.blacklistMutation method "ips")
        [.add env.readings.added block, .listActive env.readings.listed]
  | removed {object : JsonObject} {value : String} (named : namedValue libs request.body = some (object, value)) :
      BlockCalls (.blacklistMutation .delete "ips") [.remove value, .listActive env.readings.listed]

structure Accepted (state next : IpBlockState) : Prop where
  config : next.config = state.config ∨
    ∃ part, route.part = some part ∧ ConfigChange libs makeAddress env request route state.config part next.config
  blocks : ∃ calls, BlockCalls libs makeAddress env request route calls ∧
    next.ipBlocks = calls.foldl (IpBlockTracker.Call.step makeAddress) state.ipBlocks

/-- How a handler ends. -/
structure Serves (state : IpBlockState) (served : Except Fault Response × IpBlockState) : Prop where
  refused : (∀ response, served.1 = .ok response → response.status ≠ 200) → served.2 = state
  accepted : Accepted libs makeAddress env request route state served.2

end Changes

section Handlers

variable {libs : Libraries} {makeAddress : MakeAddress} {env : Surroundings} {request : Request} {route : Route}
  {state : IpBlockState} {config next : RuntimeConfig} {part : ConfigPart} {version : Nat}

theorem Accepted.same : Accepted libs makeAddress env request route state state where
  config := .inl rfl
  blocks := ⟨[], .none route, rfl⟩

theorem serves_same {answer : Except Fault Response} : Serves libs makeAddress env request route state (answer, state) :=
  ⟨fun _ => rfl, .same⟩

theorem serves_changed (own : route.part = some part) {response : Response} (answered : response.status = 200)
    (change : ConfigChange libs makeAddress env request route state.config part next) :
    Serves libs makeAddress env request route state (.ok response, { state with config := next }) where
  refused none := absurd answered (none response rfl)
  accepted := ⟨.inr ⟨part, own, change⟩, [], .none route, rfl⟩

theorem serves_updating {mutator : RuntimeConfig → Except Fault RuntimeConfig} {refused : Nat}
    {view : RuntimeConfig → Json} (own : route.part = some part)
    (changes : ∀ next, mutator state.config = .ok next →
      ConfigChange libs makeAddress env request route state.config part next) :
    Serves libs makeAddress env request route state (updating mutator refused view version state) := by
  unfold updating
  split
  · next config done => exact serves_changed own rfl (changes config done)
  · exact serves_same
  · exact serves_same

theorem serves_persisting {α : Type} {mutator : InPlace RuntimeConfig α} {invalid : String → Response}
    {view : α → RuntimeConfig → Json} (own : route.part = some part)
    (changes : ∀ a next, mutator state.config = (.ok a, next) →
      ConfigChange libs makeAddress env request route state.config part next) :
    Serves libs makeAddress env request route state (persisting mutator invalid view version state) := by
  unfold persisting
  split
  · next a config done => exact serves_changed own rfl (changes a config done)
  · exact serves_same
  · exact serves_same

theorem serves_withBody {rest : JsonObject → ConfigHandler}
    (serves : ∀ body, Serves libs makeAddress env request route state (rest body state)) :
    Serves libs makeAddress env request route state (withBody libs request rest state) := by
  unfold withBody
  cases libs.parseJsonObject request.body with
  | none => exact serves_same
  | some body => exact serves body

theorem serves_withCategory {name : String} {rest : BlacklistCategory → ConfigHandler}
    (serves : ∀ category, parseBlacklistCategory name = some category →
      Serves libs makeAddress env request route state (rest category state)) :
    Serves libs makeAddress env request route state (withCategory request name rest state) := by
  unfold withCategory
  cases known : parseBlacklistCategory name with
  | none => exact serves_same
  | some category => exact serves category known

theorem serves_withCode {codeText : String} {rest : Int → ConfigHandler}
    (serves : ∀ code, Serves libs makeAddress env request route state (rest code state)) :
    Serves libs makeAddress env request route state (withCode request codeText rest state) := by
  unfold withCode
  cases fromCharsInt codeText with
  | none => exact serves_same
  | some code => exact serves code

/-! ### The lists -/

theorem serves_listMutation {target : EntryList} {view : RuntimeConfig → Json} {method : Verb} {actingUser : String}
    (own : route.mutates = some (method, target)) (part : route.part = some (.lists target)) :
    Serves libs makeAddress env request route state
      (listMutation libs makeAddress env request target view method actingUser state) := by
  unfold listMutation
  cases named : namedValue libs request.body with
  | none => exact serves_same
  | some pair =>
    refine serves_persisting part fun _ next done => ?_
    by_cases post : method = .post
    · rw [if_pos post] at done
      exact .ran (.add target pair.2 actingUser "manual") env.clock (.inl rfl) (fun _ given => given.elim)
        (fun _ _ dropped => dropped.elim) done
    · rw [if_neg post] at done
      refine .ran (.remove target pair.2) env.clock (.inl rfl) (fun _ given => given.elim) ?_ done
      rintro other gone ⟨rfl, rfl⟩
      exact .inl ⟨method, pair.1, post, own, named⟩

theorem serves_listClear {target : EntryList} {view : RuntimeConfig → Json} (own : route.clears = some target)
    (part : route.part = some (.lists target)) :
    Serves libs makeAddress env request route state (listClear request target view state) := by
  refine serves_persisting part fun _ next done => ?_
  refine .ran (.clear target) env.clock (.inl rfl) (fun _ given => given.elim) ?_ done
  rintro other gone rfl
  exact .inr own

theorem serves_listImport {target : EntryList} {view : RuntimeConfig → Json} {actingUser text : String}
    (part : route.part = some (.lists target)) :
    Serves libs makeAddress env request route state
      (listImport makeAddress env request target view actingUser text state) := by
  refine serves_persisting part fun _ next done => ?_
  exact .ran (.importText target text actingUser) env.clock (.inl rfl) (fun _ given => given.elim)
    (fun _ _ dropped => dropped.elim) (discard_ok done)

theorem serves_listImportUrl {importText : String → ConfigHandler}
    (serves : ∀ text, Serves libs makeAddress env request route state (importText text state)) :
    Serves libs makeAddress env request route state (listImportUrl libs env request importText state) := by
  unfold listImportUrl
  cases (libs.parseJsonObject request.body).bind (jsonStringField · "url") with
  | none => exact serves_same
  | some url =>
    by_cases fetched : (env.fetched url).ok = true
    · simp only [if_pos fetched]
      exact serves _
    · simp only [if_neg fetched]
      exact serves_same

theorem parseBlacklistCategory_ips {name : String} (known : parseBlacklistCategory name = some .ips) : name = "ips" := by
  unfold parseBlacklistCategory at known
  by_contra other
  simp only [if_neg other] at known
  repeat' split at known
  all_goals cases known

theorem inPlace_ok {change : InPlace RuntimeConfig Unit} {f : RuntimeConfig → Except Fault RuntimeConfig}
    (whole : change = InPlace.ofExcept f) (done : f config = .ok next) : change config = (.ok (), next) := by
  rw [whole]
  unfold InPlace.ofExcept
  simp only [done]

theorem addIpBlock_accepted {method : Verb} {object : JsonObject} {value : String} {after : IpBlockState}
    (own : route = .blacklistMutation method "ips") (post : method ≠ .delete)
    (named : namedValue libs request.body = some (object, value)) (limited : durationOf object ≤ kMaxBanDurationHours)
    (added : addIpBlock makeAddress env.readings state value (durationOf object) = .ok after) :
    Accepted libs makeAddress env request route state
      { after with ipBlocks := (after.ipBlocks.listActive env.readings.listed).2 } := by
  subst own
  unfold addIpBlock at added
  split at added
  · next positive =>
    obtain ⟨block, built, rfl⟩ := map_eq_ok added
    exact ⟨.inl rfl, _, .added post named ⟨positive, limited⟩ built, rfl⟩
  · obtain ⟨config, done, rfl⟩ := map_eq_ok added
    refine ⟨.inr ⟨.lists (.blacklist .ips), rfl, ?_⟩, _, .permanent method, rfl⟩
    exact .ran (.add (.blacklist .ips) value "" "manual") (fun _ => env.readings.built) (.inr rfl)
      (fun _ given => given.elim) (fun _ _ dropped => dropped.elim)
      (inPlace_ok (@addInPlace_eq makeAddress (.blacklist .ips) ..) done)

theorem removeIpBlock_accepted {object : JsonObject} {value : String} (own : route = .blacklistMutation .delete "ips")
    (named : namedValue libs request.body = some (object, value)) :
    Accepted libs makeAddress env request route state
      { removeIpBlock makeAddress state value with
        ipBlocks := ((removeIpBlock makeAddress state value).ipBlocks.listActive env.readings.listed).2 } := by
  subst own
  refine ⟨?_, _, .removed named, rfl⟩
  cases removed : (state.ipBlocks.remove makeAddress value).1 with
  | true => exact .inl (by simp [removeIpBlock, removed])
  | false =>
    refine .inr ⟨.lists (.blacklist .ips), rfl, ?_⟩
    refine .ran (.remove (.blacklist .ips) value) env.clock (.inl rfl) (fun _ given => given.elim) ?_ ?_
    · rintro other gone ⟨rfl, rfl⟩
      exact .inl ⟨.delete, object, by decide, rfl, named⟩
    · show EntryList.removeInPlace value (.blacklist .ips) state.config = _
      rw [removeInPlace_run]
      simp [removeIpBlock, removed, removeBlacklistEntry, EntryList.withLists, EntryList.lists]

theorem serves_ipBlockMutation {method : Verb} (own : route = .blacklistMutation method "ips") :
    Serves libs makeAddress env request route state
      (.ok (handleIpBlockMutation libs makeAddress env.readings state method request.body version).1,
        (handleIpBlockMutation libs makeAddress env.readings state method request.body version).2) := by
  refine ⟨fun none => handleIpBlockMutation_refused (none _ rfl), ?_⟩
  unfold handleIpBlockMutation
  cases named : namedValue libs request.body with
  | none => exact .same
  | some pair =>
    by_cases delete : method = .delete
    · simp only [if_pos delete]
      subst delete
      exact removeIpBlock_accepted own named
    · simp only [if_neg delete]
      by_cases exceeds : kMaxBanDurationHours < (jsonIntField pair.1 "duration_hours").getD 0
      · rw [if_pos exceeds]
        exact .same
      · rw [if_neg exceeds]
        cases added : addIpBlock makeAddress env.readings state pair.2
            ((jsonIntField pair.1 "duration_hours").getD 0) with
        | error fault => cases fault <;> exact .same
        | ok after => exact addIpBlock_accepted own delete named (Int.not_lt.mp exceeds) added

/-! ### Sites and settings -/

theorem siteOfBody_port {body : Option JsonObject} {site : SiteConfig} (read : siteOfBody body = .ok site) :
    1 ≤ site.upstream.port ∧ site.upstream.port ≤ 65535 := by
  unfold siteOfBody at read
  split at read
  · split at read
    · cases read
    · next bounded =>
      obtain rfl := Except.ok.inj read
      show 1 ≤ Int.toNat _ ∧ Int.toNat _ ≤ 65535
      omega
  · cases read

theorem siteUpdateOf_port {body : JsonObject} {update : SiteUpdate} {port : Nat} (read : siteUpdateOf body = .ok update)
    (given : update.upstreamPort = some port) : 1 ≤ port ∧ port ≤ 65535 := by
  unfold siteUpdateOf at read
  split at read
  · obtain rfl := Except.ok.inj read
    cases given
  · split at read
    · cases read
    · next bounded =>
      obtain rfl := Except.ok.inj read
      obtain rfl := Option.some.inj given
      omega

theorem saturate_holds (n : Int) : Yaml.IntType.int.Holds (saturate n) := by
  show -2147483648 ≤ max (-2147483648) (min n 2147483647) ∧ max (-2147483648) (min n 2147483647) ≤ 2147483647
  omega

theorem saturatingToInt_holds (bits : UInt64) : Yaml.IntType.int.Holds (saturatingToInt bits) := by
  unfold saturatingToInt
  dsimp only
  split
  · split <;> decide
  · exact saturate_holds _

theorem jsonIntField_holds {body : JsonObject} {key : String} {n : Int} (read : jsonIntField body key = some n) :
    Yaml.IntType.int.Holds n := by
  unfold jsonIntField at read
  split at read
  · obtain rfl := Option.some.inj read
    exact saturate_holds _
  · obtain rfl := Option.some.inj read
    exact saturate_holds _
  · obtain rfl := Option.some.inj read
    exact saturatingToInt_holds _
  · cases read

theorem numberToInt_holds {value : Json} {n : Int} (read : numberToInt value = some n) : Yaml.IntType.int.Holds n := by
  unfold numberToInt at read
  split at read
  · obtain rfl := Option.some.inj read
    exact saturate_holds _
  · obtain rfl := Option.some.inj read
    exact saturate_holds _
  · obtain rfl := Option.some.inj read
    exact saturatingToInt_holds _
  · cases read

theorem serves_sitesCreate :
    Serves libs makeAddress env request .sitesCreate state (handleSitesCreate libs request state) := by
  unfold handleSitesCreate
  cases read : siteOfBody (libs.parseJsonObject request.body) with
  | error what => exact serves_same
  | ok site =>
    refine serves_updating rfl fun next done => ?_
    refine .ran (.addSite site) env.clock (.inl rfl) ?_ (fun _ _ dropped => dropped.elim) ?_
    · rintro port rfl
      exact siteOfBody_port read
    · exact inPlace_ok (InPlace.addSite_eq site) done

theorem serves_sitesUpdate (domain : String) :
    Serves libs makeAddress env request (.sitesUpdate domain) state (handleSitesUpdate libs request domain state) := by
  refine serves_withBody fun body => ?_
  cases read : siteUpdateOf body with
  | error what => exact serves_same
  | ok update =>
    refine serves_updating rfl fun next done => ?_
    refine .ran (.updateSite domain update) env.clock (.inl rfl) ?_ (fun _ _ dropped => dropped.elim) ?_
    · intro port given
      exact siteUpdateOf_port read given
    · exact inPlace_ok (InPlace.updateSite_eq domain update) done

theorem serves_statusPageAdd :
    Serves libs makeAddress env request .statusPageAdd state (handleStatusPageAdd libs env request state) := by
  unfold handleStatusPageAdd
  cases (libs.parseJsonObject request.body).bind (jsonIntField · "code") with
  | none => exact serves_same
  | some code =>
    cases (libs.parseJsonObject request.body).bind (jsonStringField · "html") with
    | none => exact serves_same
    | some html =>
      refine serves_updating rfl fun next done => ?_
      exact .ran (.addStatusPage code html) env.clock (.inl rfl) (fun _ given => given.elim)
        (fun _ _ dropped => dropped.elim) (inPlace_ok (InPlace.addStatusPage_eq _ code html) done)

theorem serves_statusPageUpdate (codeText : String) :
    Serves libs makeAddress env request (.statusPageUpdate codeText) state
      (handleStatusPageUpdate libs request codeText state) := by
  refine serves_withCode fun code => ?_
  cases (libs.parseJsonObject request.body).bind (jsonStringField · "html") with
  | none => exact serves_same
  | some html =>
    refine serves_updating rfl fun next done => ?_
    exact .ran (.updateStatusPage code html) env.clock (.inl rfl) (fun _ given => given.elim)
      (fun _ _ dropped => dropped.elim) (inPlace_ok (InPlace.updateStatusPage_eq code html) done)

theorem serves_emergencyOff :
    Serves libs makeAddress env request .emergencyOffUpdate state (handleEmergencyOffUpdate libs request state) := by
  unfold handleEmergencyOffUpdate
  cases (libs.parseJsonObject request.body).bind (jsonBoolField · "enabled") with
  | none => exact serves_same
  | some enabled => exact serves_changed rfl rfl (.emergencyOff enabled)

theorem serves_bodySizeLimit :
    Serves libs makeAddress env request .bodySizeLimitUpdate state (handleBodySizeLimitUpdate libs request state) := by
  unfold handleBodySizeLimitUpdate
  cases read : ((libs.parseJsonObject request.body).bind (jsonIntField · "max_bytes")).filter (0 ≤ ·) with
  | none => exact serves_same
  | some maxBytes =>
    obtain ⟨given, positive⟩ := Option.filter_eq_some_iff.mp read
    obtain ⟨body, -, number⟩ := Option.bind_eq_some_iff.mp given
    exact serves_changed rfl rfl (.maxBodySize maxBytes ⟨by simpa using positive, (jsonIntField_holds number).2⟩)

theorem serves_mmdbUpload {filename : String} (own : route.part = some .geoip) (path asnPath : String → Option String) :
    Serves libs makeAddress env request route state
      (handleMmdbUpload env request filename (fun path' => setGeoip (path path') (asnPath path')) state) := by
  unfold handleMmdbUpload
  by_cases empty : request.body = ""
  · rw [if_pos empty]
    exact serves_same
  · rw [if_neg empty]
    cases env.saveUpload (uploadPath env filename) with
    | error what => exact serves_same
    | ok _ => exact serves_changed own rfl (.geoip _ _)

theorem serves_geoipConfigUpdate :
    Serves libs makeAddress env request .geoipConfigUpdate state (handleGeoipConfigUpdate libs env request state) := by
  refine serves_withBody fun body => ?_
  cases neither : (jsonStringField body "mmdb_path").isNone && (jsonStringField body "asn_mmdb_path").isNone with
  | true => exact serves_same
  | false => exact serves_changed rfl rfl (.geoip _ _)

theorem mutates_part {target : EntryList} {method : Verb} (own : route.mutates = some (method, target)) :
    route.part = some (.lists target) := by
  unfold Route.mutates at own
  split at own
  · next _ name =>
    obtain ⟨category, known, same⟩ := Option.map_eq_some_iff.mp own
    obtain ⟨rfl, rfl⟩ := Prod.mk.inj same
    simp [Route.part, Route.mutates, known]
  · obtain ⟨rfl, rfl⟩ := Prod.mk.inj (Option.some.inj own)
    rfl
  · obtain ⟨rfl, rfl⟩ := Prod.mk.inj (Option.some.inj own)
    rfl
  · cases own

theorem serves_blacklistMutation (method : Verb) (name actingUser : String) :
    Serves libs makeAddress env request (.blacklistMutation method name) state
      (handleBlacklistMutation libs makeAddress env request method name actingUser state) := by
  refine serves_withCategory fun category known => ?_
  by_cases ips : category = .ips
  · subst ips
    obtain rfl := parseBlacklistCategory_ips known
    exact serves_ipBlockMutation rfl
  · simp only [if_neg ips]
    have own : (Route.blacklistMutation method name).mutates = some (method, .blacklist category) := by
      simp [Route.mutates, known]
    exact serves_listMutation own (mutates_part own)

theorem import_part {name : String} {category : BlacklistCategory} (known : parseBlacklistCategory name = some category) :
    (Route.blacklistImport name).part = some (.lists (.blacklist category)) ∧
      (Route.blacklistImportUrl name).part = some (.lists (.blacklist category)) ∧
      (Route.blacklistClear name).part = some (.lists (.blacklist category)) := by
  simp [Route.part, Route.mutates, Route.clears, Route.imports, known]

/-- Every handler of the configuration, case by case. -/
theorem configHandler_serves {actingUser : String} {handler : ConfigHandler} (state : IpBlockState)
    (known : configHandler libs makeAddress env request actingUser route = some handler) :
    Serves libs makeAddress env request route state (handler state) := by
  cases route with
  | securityConfig | config | blacklist | sites | banConfig | speedCheck | methodCheck | emergencyOff | pages
  | requestLogConfig | robotsTxt | geoipConfig | globeConfig =>
    obtain rfl := Option.some.inj known
    exact serves_same
  | ipBlocks =>
    obtain rfl := Option.some.inj known
    exact ⟨fun none => absurd rfl (none _ rfl), .inl rfl, _, .listed, rfl⟩
  | sitesCreate =>
    obtain rfl := Option.some.inj known
    exact serves_sitesCreate
  | sitesUpdate domain =>
    obtain rfl := Option.some.inj known
    exact serves_sitesUpdate domain
  | sitesDelete domain =>
    obtain rfl := Option.some.inj known
    exact serves_updating rfl fun next done => .ran (.removeSite domain) env.clock (.inl rfl)
      (fun _ given => given.elim) (fun _ _ dropped => dropped.elim) (inPlace_ok (InPlace.removeSite_eq domain) done)
  | banConfigUpdate =>
    obtain rfl := Option.some.inj known
    exact serves_withBody fun body => serves_updating rfl fun next => .ban body
  | speedCheckUpdate =>
    obtain rfl := Option.some.inj known
    exact serves_withBody fun body => serves_updating rfl fun next => .speedCheck body
  | methodCheckUpdate =>
    obtain rfl := Option.some.inj known
    exact serves_withBody fun body => serves_updating rfl fun next => .methodCheck body
  | emergencyOffUpdate =>
    obtain rfl := Option.some.inj known
    exact serves_emergencyOff
  | pagesUpdate =>
    obtain rfl := Option.some.inj known
    exact serves_withBody fun body => serves_changed rfl rfl (.html body)
  | statusPageAdd =>
    obtain rfl := Option.some.inj known
    exact serves_statusPageAdd
  | statusPageUpdate code =>
    obtain rfl := Option.some.inj known
    exact serves_statusPageUpdate code
  | statusPageDelete codeText =>
    obtain rfl := Option.some.inj known
    exact serves_withCode fun code => serves_updating rfl fun next done =>
      .ran (.removeStatusPage code) env.clock (.inl rfl) (fun _ given => given.elim)
        (fun _ _ dropped => dropped.elim) (inPlace_ok (InPlace.removeStatusPage_eq code) done)
  | requestLogConfigUpdate =>
    obtain rfl := Option.some.inj known
    exact serves_withBody fun body => serves_changed rfl rfl (.requestLog body)
  | robotsTxtUpdate =>
    obtain rfl := Option.some.inj known
    exact serves_withBody fun body => serves_changed rfl rfl (.robotsTxt body)
  | securityConfigUpdate =>
    obtain rfl := Option.some.inj known
    exact serves_withBody fun body => serves_changed rfl rfl (.security body)
  | bodySizeLimitUpdate =>
    obtain rfl := Option.some.inj known
    exact serves_bodySizeLimit
  | geoipUpload =>
    obtain rfl := Option.some.inj known
    exact serves_mmdbUpload rfl some fun _ => none
  | asnUpload =>
    obtain rfl := Option.some.inj known
    exact serves_mmdbUpload rfl (fun _ => none) some
  | geoipConfigUpdate =>
    obtain rfl := Option.some.inj known
    exact serves_geoipConfigUpdate
  | globeConfigUpdate =>
    obtain rfl := Option.some.inj known
    exact serves_withBody fun body => serves_updating rfl fun next => .globe body
  | blacklistImport name =>
    obtain rfl := Option.some.inj known
    exact serves_withCategory fun category own => serves_listImport (import_part own).1
  | blacklistImportUrl name =>
    obtain rfl := Option.some.inj known
    exact serves_withCategory fun category own =>
      serves_listImportUrl fun text => serves_listImport (import_part own).2.1
  | blacklistClear name =>
    obtain rfl := Option.some.inj known
    refine serves_withCategory fun category own => serves_listClear ?_ (import_part own).2.2
    simp [Route.clears, own]
  | blacklistMutation method name =>
    obtain rfl := Option.some.inj known
    exact serves_blacklistMutation method name actingUser
  | whitelistImport | whitelistRoutesImport =>
    obtain rfl := Option.some.inj known
    exact serves_listImport rfl
  | whitelistImportUrl | whitelistRoutesImportUrl =>
    obtain rfl := Option.some.inj known
    exact serves_listImportUrl fun text => serves_listImport rfl
  | whitelistClear | whitelistRoutesClear =>
    obtain rfl := Option.some.inj known
    exact serves_listClear rfl rfl
  | whitelistMutation method | whitelistRoutesMutation method =>
    obtain rfl := Option.some.inj known
    exact serves_listMutation rfl rfl
  | _ => cases known

end Handlers

end Atomwall.Admin
