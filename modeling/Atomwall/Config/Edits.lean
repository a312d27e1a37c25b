import Atomwall.Config.WellFormed

/-!
What one operation of the admin API makes of the configuration: entries are put into one list or taken out
of it, or the sites or the pages change. What an invariant asks of entries, sites and pages is then asked of
the new ones only.
-/

namespace Atomwall

/-- The lists with the entries and ranges whose values are new. -/
def IpLists.enter (lists : IpLists) (entries : List BlacklistEntry) (ranges : List CidrRange) : IpLists where
  exact := entries.foldl (FirstSeen.insert BlacklistEntry.value) lists.exact
  cidrs := ranges.foldl (FirstSeen.insert CidrRange.text) lists.cidrs

def IpLists.keep (lists : IpLists) (keeps : String → Bool) : IpLists where
  exact := lists.exact.filter fun entry => keeps entry.value
  cidrs := lists.cidrs.filter fun range => keeps range.text

/-- What a request works on. -/
inductive ConfigPart where
  | lists (target : EntryList)
  | sites | statusPages
  | maxBodySize | ban | methodCheck | speedCheck | emergencyOff | html | robotsTxt | requestLog | geoip | globe | security

/-- The configuration with that part of the next one. -/
def ConfigPart.take (config next : RuntimeConfig) : ConfigPart → RuntimeConfig
  | .lists target => target.withLists config (target.lists next)
  | .sites => { config with sites := next.sites }
  | .statusPages => config.withStatusPages next.pages.statusPages
  | .maxBodySize =>
    { config with blacklist := { config.blacklist with maxBodySizeBytes := next.blacklist.maxBodySizeBytes } }
  | .ban => { config with ban := next.ban }
  | .methodCheck => { config with methodCheck := next.methodCheck }
  | .speedCheck => { config with speedCheck := next.speedCheck }
  | .emergencyOff => { config with emergencyOff := next.emergencyOff }
  | .html => { config with pages := { next.pages with statusPages := config.pages.statusPages } }
  | .robotsTxt => { config with robotsTxt := next.robotsTxt }
  | .requestLog => { config with requestLog := next.requestLog }
  | .geoip => { config with geoip := next.geoip }
  | .globe => { config with globe := next.globe }
  | .security => { config with security := next.security }

def ConfigPart.Value : ConfigPart → Type
  | .lists _ => IpLists
  | .sites => List SiteConfig
  | .statusPages => List StatusPageEntry
  | .maxBodySize => Nat
  | .ban => BanConfig
  | .methodCheck => MethodCheckConfig
  | .speedCheck => SpeedCheckConfig
  | .emergencyOff => EmergencyOffConfig
  | .html => String × String
  | .robotsTxt => RobotsTxtConfig
  | .requestLog => RequestLogConfig
  | .geoip => GeoIpConfig
  | .globe => GlobeConfig
  | .security => SecurityConfig

def ConfigPart.read (config : RuntimeConfig) : (part : ConfigPart) → part.Value
  | .lists target => target.lists config
  | .sites => config.sites
  | .statusPages => config.pages.statusPages
  | .maxBodySize => config.blacklist.maxBodySizeBytes
  | .ban => config.ban
  | .methodCheck => config.methodCheck
  | .speedCheck => config.speedCheck
  | .emergencyOff => config.emergencyOff
  | .html => (config.pages.blockedHtml, config.pages.bannedHtml)
  | .robotsTxt => config.robotsTxt
  | .requestLog => config.requestLog
  | .geoip => config.geoip
  | .globe => config.globe
  | .security => config.security

def ConfigOp.part : ConfigOp → ConfigPart
  | .add target .. | .remove target _ | .clear target | .importText target .. => .lists target
  | .addSite _ | .updateSite .. | .removeSite _ => .sites
  | .addStatusPage .. | .updateStatusPage .. | .removeStatusPage _ => .statusPages

/-- The operation takes the value out of the list. -/
def ConfigOp.Drops (target : EntryList) (value : String) : ConfigOp → Prop
  | .remove other gone => other = target ∧ gone = value
  | .clear other => other = target
  | _ => False

/-- The operation gives a site the port of its upstream. -/
def ConfigOp.Supplies (port : Nat) : ConfigOp → Prop
  | .addSite site => site.upstream.port = port
  | .updateSite _ update => update.upstreamPort = some port
  | _ => False

inductive Edit (makeAddress : MakeAddress) (clock : Nat → Int) (config : RuntimeConfig) (op : ConfigOp) :
    RuntimeConfig → Prop where
  | entered (target : EntryList) (entries : List BlacklistEntry) (ranges : List CidrRange)
      (own : op.part = .lists target) (fits : target.Fits ⟨[], ranges⟩) (entry : ∀ e ∈ entries, ∃ k, e.createdAt = clock k)
      (range : ∀ r ∈ ranges, ∃ k, r.createdAt = clock k) :
      Edit makeAddress clock config op (target.withLists config ((target.lists config).enter entries ranges))
  | kept (target : EntryList) (keeps : String → Bool) (own : op.part = .lists target)
      (lost : ∀ value, keeps value = false → op.Drops target value) :
      Edit makeAddress clock config op (target.withLists config ((target.lists config).keep keeps))
  | sites (sites : List SiteConfig) (own : op.part = .sites)
      (port : ∀ site ∈ sites, (∃ other ∈ config.sites, site.upstream.port = other.upstream.port) ∨
        op.Supplies site.upstream.port) :
      Edit makeAddress clock config op { config with sites }
  | pages (statusPages : List StatusPageEntry) (own : op.part = .statusPages)
      (created : ∀ page ∈ statusPages, (∃ other ∈ config.pages.statusPages, page.createdAt = other.createdAt) ∨
        ∃ k, page.createdAt = clock k) :
      Edit makeAddress clock config op (config.withStatusPages statusPages)

variable {makeAddress : MakeAddress} {clock : Nat → Int} {config next : RuntimeConfig} {target : EntryList}
  {lists : IpLists} {op : ConfigOp}

/-! ### Every operation is an edit or throws -/

theorem newRange_createdAt {now : Int} {source value : String} {range : CidrRange}
    (made : newRange makeAddress now source value = some range) : range.createdAt = now := by
  obtain ⟨parsed, read, rfl⟩ := Option.map_eq_some_iff.mp made
  have again := (parseCidr_some read).2.2 now
  rw [read] at again
  exact congrArg CidrRange.createdAt (Option.some.inj again)

theorem insert_enter {now : Int} {value createdBy source : String} :
    ∃ entries ranges, target.insert makeAddress now createdBy source value lists = lists.enter entries ranges ∧
      (target.holdsIps = false → ranges = []) ∧ (∀ e ∈ entries, e.createdAt = now) ∧
      ∀ r ∈ ranges, r.createdAt = now := by
  unfold EntryList.insert
  split
  · next range =>
    refine ⟨[], (newRange makeAddress now source value).toList, rfl, fun plain => ?_, by simp, ?_⟩
    · simp [EntryList.isRange, plain] at range
    · intro r member
      exact newRange_createdAt (by simpa using member)
  · refine ⟨[newEntry now createdBy source value], [], rfl, fun _ => rfl, ?_, by simp⟩
    intro e member
    rw [List.mem_singleton.mp member]
    rfl

theorem importText_enter {createdBy text : String} :
    ∃ entries ranges, target.importEntries makeAddress clock text createdBy config =
        (.ok { added := (listLines text.toList).countP (target.accepts makeAddress)
               skipped := (listLines text.toList).countP fun line => !target.accepts makeAddress line },
          target.withLists config ((target.lists config).enter entries ranges)) ∧
      (target.holdsIps = false → ranges = []) ∧ (∀ e ∈ entries, ∃ k, e.createdAt = clock k) ∧
      ∀ r ∈ ranges, ∃ k, r.createdAt = clock k := by
  refine ⟨_, _, importEntries_lists text, fun plain => rangeInputs_plain plain 0, ?_, ?_⟩
  · intro e member
    obtain ⟨item, -, rfl⟩ := List.mem_map.mp member
    exact ⟨item.2, rfl⟩
  · intro r member
    obtain ⟨item, -, made⟩ := List.mem_flatMap.mp member
    exact ⟨item.2, newRange_createdAt (by simpa using made)⟩

theorem removeIpFrom_keep (value : String) : removeIpFrom lists value = lists.keep (· != value) := rfl

theorem keep_none : lists.keep (fun _ => false) = ⟨[], []⟩ := by
  simp [IpLists.keep]

theorem mem_lookmap {α : Type} {f : α → Option α} {items : List α} {item : α} (member : item ∈ items.lookmap f) :
    item ∈ items ∨ ∃ other ∈ items, f other = some item := by
  induction items with
  | nil =>
    rw [List.lookmap_nil] at member
    exact .inl member
  | cons first rest ih =>
    cases taken : f first with
    | none =>
      rw [List.lookmap_cons_none f rest taken] at member
      rcases List.mem_cons.mp member with rfl | later
      · exact .inl List.mem_cons_self
      · rcases ih later with old | ⟨other, there, changed⟩
        · exact .inl (List.mem_cons_of_mem _ old)
        · exact .inr ⟨other, List.mem_cons_of_mem _ there, changed⟩
    | some changed =>
      rw [List.lookmap_cons_some f rest taken] at member
      rcases List.mem_cons.mp member with rfl | later
      · exact .inr ⟨first, List.mem_cons_self, taken⟩
      · exact .inl (List.mem_cons_of_mem _ later)

theorem addSite_edit {site : SiteConfig} (done : addSite config site = .ok next) :
    Edit makeAddress clock config (.addSite site) next := by
  obtain ⟨-, -, rfl⟩ := addSite_ok done
  refine .sites _ rfl fun other member => ?_
  rcases List.mem_append.mp member with old | new
  · exact .inl ⟨other, old, rfl⟩
  · obtain rfl := List.mem_singleton.mp new
    exact .inr rfl

theorem updateSite_edit {domain : String} {update : SiteUpdate} (done : updateSite config domain update = .ok next) :
    Edit makeAddress clock config (.updateSite domain update) next := by
  unfold updateSite at done
  split at done
  · obtain rfl := Except.ok.inj done
    refine .sites _ rfl fun site member => ?_
    rcases mem_lookmap member with old | ⟨other, there, taken⟩
    · exact .inl ⟨site, old, rfl⟩
    · split at taken
      · obtain rfl := Option.some.inj taken
        cases given : update.upstreamPort with
        | none => exact .inl ⟨other, there, by simp [SiteUpdate.apply, given]⟩
        | some port => exact .inr (by simp [SiteUpdate.apply, ConfigOp.Supplies, given])
      · cases taken
  · cases done

theorem removeSite_edit {domain : String} (done : removeSite config domain = .ok next) :
    Edit makeAddress clock config (.removeSite domain) next := by
  obtain ⟨sites, rfl, fewer⟩ := removeSite_ok done
  exact .sites _ rfl fun site member => .inl ⟨site, fewer.subset member, rfl⟩

theorem addStatusPage_edit {code : Int} {html : String} (done : addStatusPage (clock 0) config code html = .ok next) :
    Edit makeAddress clock config (.addStatusPage code html) next := by
  rw [addStatusPage_frame done, (addStatusPage_ok done).2.2]
  refine .pages _ rfl fun page member => ?_
  rcases List.mem_append.mp member with old | new
  · exact .inl ⟨page, old, rfl⟩
  · obtain rfl := List.mem_singleton.mp new
    exact .inr ⟨0, rfl⟩

theorem updateStatusPage_edit {code : Int} {html : String} (done : updateStatusPage config code html = .ok next) :
    Edit makeAddress clock config (.updateStatusPage code html) next := by
  unfold updateStatusPage at done
  split at done
  · cases done
  · obtain rfl := Except.ok.inj done
    refine .pages _ rfl fun page member => ?_
    rcases mem_lookmap member with old | ⟨other, there, taken⟩
    · exact .inl ⟨page, old, rfl⟩
    · split at taken
      · obtain rfl := Option.some.inj taken
        exact .inl ⟨other, there, rfl⟩
      · cases taken

theorem removeStatusPage_edit {code : Int} (done : removeStatusPage config code = .ok next) :
    Edit makeAddress clock config (.removeStatusPage code) next := by
  rw [removeStatusPage_frame done]
  exact .pages _ rfl fun page member => .inl ⟨page, (removeStatusPage_sublist done).subset member, rfl⟩

theorem ofExcept_edit {change : InPlace RuntimeConfig Unit} {f : RuntimeConfig → Except Fault RuntimeConfig}
    (whole : change = InPlace.ofExcept f) (edit : ∀ next, f config = .ok next → Edit makeAddress clock config op next)
    (done : change config = (.ok (), next)) : Edit makeAddress clock config op next := by
  rw [whole] at done
  unfold InPlace.ofExcept at done
  cases outcome : f config with
  | error fault =>
    rw [outcome] at done
    cases done
  | ok later =>
    rw [outcome] at done
    obtain rfl := (Prod.mk.inj done).2
    exact edit later outcome

theorem add_edit {value createdBy source : String}
    (done : target.add makeAddress (clock 0) config value createdBy source = .ok next) :
    Edit makeAddress clock config (.add target value createdBy source) next := by
  cases valid : target.accepts makeAddress value with
  | false =>
    obtain ⟨what, thrown⟩ := @add_rejects makeAddress (clock 0) createdBy source value target config valid
    rw [thrown] at done
    cases done
  | true =>
    rw [add_accepts valid] at done
    obtain rfl := Except.ok.inj done
    obtain ⟨entries, ranges, same, fits, entry, range⟩ :=
      @insert_enter makeAddress target (target.lists config) (clock 0) value createdBy source
    rw [same]
    exact .entered target entries ranges rfl fits (fun e member => ⟨0, entry e member⟩)
      fun r member => ⟨0, range r member⟩

theorem ConfigOp.run_edit (op : ConfigOp) (done : op.run makeAddress clock config = (.ok (), next)) :
    Edit makeAddress clock config op next := by
  cases op with
  | add target value createdBy source => exact ofExcept_edit (addInPlace_eq ..) (fun _ => add_edit) done
  | remove target value =>
    obtain rfl := (Prod.mk.inj ((removeInPlace_run value).symm.trans done)).2
    rw [removeIpFrom_keep]
    exact .kept target _ rfl fun other gone => ⟨rfl, (by simpa using gone : other = value).symm⟩
  | clear target =>
    obtain rfl := (Prod.mk.inj (clearInPlace_run.symm.trans done)).2
    rw [← keep_none]
    exact .kept target _ rfl fun other gone => rfl
  | importText target text createdBy =>
    obtain ⟨entries, ranges, imported, fits, entry, range⟩ :=
      @importText_enter makeAddress clock config target createdBy text
    obtain rfl := (Prod.mk.inj ((discard_ok imported).symm.trans done)).2
    exact .entered target entries ranges rfl fits entry range
  | addSite site => exact ofExcept_edit (InPlace.addSite_eq site) (fun _ => addSite_edit) done
  | updateSite domain update =>
    exact ofExcept_edit (InPlace.updateSite_eq domain update) (fun _ => updateSite_edit) done
  | removeSite domain => exact ofExcept_edit (InPlace.removeSite_eq domain) (fun _ => removeSite_edit) done
  | addStatusPage code html =>
    exact ofExcept_edit (InPlace.addStatusPage_eq _ code html) (fun _ => addStatusPage_edit) done
  | updateStatusPage code html =>
    exact ofExcept_edit (InPlace.updateStatusPage_eq code html) (fun _ => updateStatusPage_edit) done
  | removeStatusPage code =>
    exact ofExcept_edit (InPlace.removeStatusPage_eq code) (fun _ => removeStatusPage_edit) done

/-! ### What an edit keeps -/

/-- What no request changes. -/
structure SameListeners (config next : RuntimeConfig) : Prop where
  http : next.http = config.http
  https : next.https = config.https
  upstream : next.upstream = config.upstream
  admin : next.admin = config.admin
  limits : next.limits = config.limits

theorem SameListeners.trans {last : RuntimeConfig} (first : SameListeners config next)
    (second : SameListeners next last) : SameListeners config last where
  http := second.http.trans first.http
  https := second.https.trans first.https
  upstream := second.upstream.trans first.upstream
  admin := second.admin.trans first.admin
  limits := second.limits.trans first.limits

theorem take_listeners (part : ConfigPart) : SameListeners config (part.take config next) := by
  cases part with
  | lists target =>
    match target with
    | .blacklist category => cases category <;> exact ⟨rfl, rfl, rfl, rfl, rfl⟩
    | .whitelist => exact ⟨rfl, rfl, rfl, rfl, rfl⟩
    | .whitelistRoutes => exact ⟨rfl, rfl, rfl, rfl, rfl⟩
  | _ => exact ⟨rfl, rfl, rfl, rfl, rfl⟩

theorem lists_same (blacklist : next.blacklist = config.blacklist) (whitelist : next.whitelist = config.whitelist) :
    target.lists next = target.lists config := by
  unfold EntryList.lists
  rw [blacklist, whitelist]

theorem lists_maxBodySize (maxBodySizeBytes : Nat) :
    target.lists { config with blacklist := { config.blacklist with maxBodySizeBytes } } = target.lists config := by
  match target with
  | .blacklist category => cases category <;> rfl
  | .whitelist => rfl
  | .whitelistRoutes => rfl

/-- Lists other than its target, and everything beside them, are left as they are. -/
theorem read_withLists {part : ConfigPart} (apart : part ≠ .lists target) :
    part.read (target.withLists config lists) = part.read config := by
  cases part with
  | lists other => exact lists_other fun same => apart (congrArg ConfigPart.lists same)
  | _ =>
    match target with
    | .blacklist category => cases category <;> rfl
    | .whitelist => rfl
    | .whitelistRoutes => rfl

theorem read_take {part other : ConfigPart} (apart : part ≠ other) :
    part.read (other.take config next) = part.read config := by
  cases other with
  | lists target => exact read_withLists apart
  | maxBodySize =>
    cases part with
    | lists target => exact lists_maxBodySize _
    | maxBodySize => exact absurd rfl apart
    | _ => rfl
  | _ =>
    cases part with
    | lists target => exact lists_same rfl rfl
    | _ => first | rfl | exact absurd rfl apart

theorem enter_fits {entries : List BlacklistEntry} {ranges : List CidrRange} (held : target.Fits lists)
    (fits : target.Fits ⟨[], ranges⟩) : target.Fits (lists.enter entries ranges) := by
  intro plain
  have none : ranges = [] := fits plain
  rw [none]
  exact held plain

theorem keep_fits {keeps : String → Bool} (held : target.Fits lists) : target.Fits (lists.keep keeps) := by
  intro plain
  have none : lists.cidrs = [] := held plain
  unfold IpLists.keep
  rw [none]
  rfl

/-- An edit leaves the other parts alone. -/
theorem Edit.frame (edit : Edit makeAddress clock config op next) : next = op.part.take config next := by
  cases edit with
  | entered target entries ranges own fits _ _ =>
    rw [own, ConfigPart.take, lists_withLists (enter_fits lists_fits fits)]
  | kept target keeps own _ =>
    rw [own, ConfigPart.take, lists_withLists (keep_fits lists_fits)]
  | sites sites own _ =>
    rw [own]
    rfl
  | pages statusPages own _ =>
    rw [own]
    rfl

/-- What was created when the clock showed a time after the epoch. -/
structure ListsDated (lists : IpLists) : Prop where
  entries : ∀ entry ∈ lists.exact, 0 ≤ entry.createdAt
  ranges : ∀ range ∈ lists.cidrs, 0 ≤ range.createdAt

structure ConfigDated (config : RuntimeConfig) : Prop where
  lists : ∀ target : EntryList, ListsDated (target.lists config)
  pages : ∀ page ∈ config.pages.statusPages, 0 ≤ page.createdAt

theorem ListsDated.enter {entries : List BlacklistEntry} {ranges : List CidrRange} (dated : ListsDated lists)
    (entry : ∀ e ∈ entries, 0 ≤ e.createdAt) (range : ∀ r ∈ ranges, 0 ≤ r.createdAt) :
    ListsDated (lists.enter entries ranges) where
  entries e member := (FirstSeen.of_mem_foldl_insert member).elim (dated.entries e) (entry e)
  ranges r member := (FirstSeen.of_mem_foldl_insert member).elim (dated.ranges r) (range r)

theorem ListsDated.keep {keeps : String → Bool} (dated : ListsDated lists) : ListsDated (lists.keep keeps) where
  entries e member := dated.entries e (List.mem_filter.mp member).1
  ranges r member := dated.ranges r (List.mem_filter.mp member).1

/-- What holds of every list holds still when one of them is replaced by one of which it holds. -/
theorem withLists_all {holds : EntryList → IpLists → Prop} (fits : target.Fits lists)
    (all : ∀ other : EntryList, holds other (other.lists config)) (own : holds target lists) (other : EntryList) :
    holds other (other.lists (target.withLists config lists)) := by
  by_cases same : other = target
  · subst same
    rw [lists_withLists fits]
    exact own
  · rw [lists_other same]
    exact all other

theorem Edit.dated (edit : Edit makeAddress clock config op next) (running : ∀ k, 0 ≤ clock k)
    (dated : ConfigDated config) : ConfigDated next := by
  cases edit with
  | entered target entries ranges _ fits entry range =>
    have entered := (dated.lists target).enter
      (fun e member => by obtain ⟨k, at_k⟩ := entry e member; rw [at_k]; exact running k)
      (fun r member => by obtain ⟨k, at_k⟩ := range r member; rw [at_k]; exact running k)
    refine ⟨withLists_all (enter_fits lists_fits fits) dated.lists entered, ?_⟩
    rw [withLists_pages]
    exact dated.pages
  | kept target keeps _ _ =>
    refine ⟨withLists_all (keep_fits lists_fits) dated.lists (dated.lists target).keep, ?_⟩
    rw [withLists_pages]
    exact dated.pages
  | sites sites _ _ =>
    refine ⟨fun other => ?_, dated.pages⟩
    rw [lists_sites]
    exact dated.lists other
  | pages statusPages _ created =>
    refine ⟨fun other => ?_, fun page member => ?_⟩
    · rw [lists_pages]
      exact dated.lists other
    · rcases created page member with ⟨other, there, same⟩ | ⟨k, at_k⟩
      · rw [same]
        exact dated.pages other there
      · rw [at_k]
        exact running k

def PortsHold (sites : List SiteConfig) : Prop :=
  ∀ site ∈ sites, 1 ≤ site.upstream.port ∧ site.upstream.port ≤ 65535

theorem Edit.ports (edit : Edit makeAddress clock config op next)
    (supplied : ∀ port, op.Supplies port → 1 ≤ port ∧ port ≤ 65535) (held : PortsHold config.sites) :
    PortsHold next.sites := by
  cases edit with
  | entered | kept =>
    rw [withLists_sites]
    exact held
  | sites sites _ port =>
    intro site member
    rcases port site member with ⟨other, there, same⟩ | given
    · rw [same]
      exact held other there
    · exact supplied _ given
  | pages => exact held

theorem mem_values {value : String} : value ∈ lists.values ↔
    value ∈ lists.exact.map BlacklistEntry.value ∨ value ∈ lists.cidrs.map CidrRange.text := by
  rw [IpLists.values, List.mem_append]

theorem foldl_insert_map {α κ : Type} [DecidableEq κ] {key : α → κ} {k : κ} {items : List α} (inputs : List α)
    (member : k ∈ items.map key) : k ∈ (inputs.foldl (FirstSeen.insert key) items).map key := by
  obtain ⟨added, whole, -, -⟩ := @FirstSeen.foldl_insert α κ _ key items inputs
  rw [whole, List.map_append]
  exact List.mem_append_left _ member

/-- A value stays in its list until an operation takes it out. -/
theorem Edit.held {value : String} (edit : Edit makeAddress clock config op next) (spared : ¬ op.Drops target value)
    (there : value ∈ (target.lists config).values) : value ∈ (target.lists next).values := by
  cases edit with
  | entered other entries ranges _ fits _ _ =>
    by_cases same : target = other
    · subst same
      rw [lists_withLists (enter_fits lists_fits fits)]
      exact mem_values.mpr ((mem_values.mp there).imp (foldl_insert_map _) (foldl_insert_map _))
    · rwa [lists_other same]
  | kept other keeps _ lost =>
    by_cases same : target = other
    · subst same
      have stays : keeps value = true := by
        by_contra gone
        exact spared (lost value (by simpa using gone))
      rw [lists_withLists (keep_fits lists_fits), mem_values]
      refine (mem_values.mp there).imp (fun exact => ?_) (fun range => ?_)
      · obtain ⟨entry, member, rfl⟩ := List.mem_map.mp exact
        exact List.mem_map_of_mem (List.mem_filter.mpr ⟨member, stays⟩)
      · obtain ⟨entry, member, rfl⟩ := List.mem_map.mp range
        exact List.mem_map_of_mem (List.mem_filter.mpr ⟨member, stays⟩)
    · rwa [lists_other same]
  | sites => rwa [lists_sites]
  | pages => rwa [lists_pages]

end Atomwall
