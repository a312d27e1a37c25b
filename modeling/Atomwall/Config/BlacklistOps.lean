import Atomwall.Config.YamlRoundTrip

/-!
`config/blacklist_ops.cpp`: what the admin API does to the lists of the configuration, and which of the
entries it accepts are still there after the file has been read again.
-/

namespace Atomwall

open ByteString Yaml

inductive BlacklistCategory where
  | ips | routes | countries | isps | userAgents | referrers | bodyPatterns | fakeRoutes
  deriving DecidableEq

def parseBlacklistCategory (name : String) : Option BlacklistCategory :=
  if name = "ips" then some .ips
  else if name = "routes" then some .routes
  else if name = "countries" then some .countries
  else if name = "isps" then some .isps
  else if name = "user_agents" then some .userAgents
  else if name = "referrers" then some .referrers
  else if name = "body_patterns" then some .bodyPatterns
  else if name = "fake_routes" then some .fakeRoutes
  else none

/-! ### Addresses and ranges -/

structure IpLists where
  exact : List BlacklistEntry
  cidrs : List CidrRange

def BlacklistConfig.ips (config : BlacklistConfig) : IpLists := ⟨config.ipExact, config.ipCidrs⟩

def BlacklistConfig.withIps (config : BlacklistConfig) (lists : IpLists) : BlacklistConfig :=
  { config with ipExact := lists.exact, ipCidrs := lists.cidrs }

def WhitelistConfig.ips (config : WhitelistConfig) : IpLists := ⟨config.ipExact, config.ipCidrs⟩

def WhitelistConfig.withIps (config : WhitelistConfig) (lists : IpLists) : WhitelistConfig :=
  { config with ipExact := lists.exact, ipCidrs := lists.cidrs }

variable (makeAddress : MakeAddress) (now : Int)

def addIpTo (lists : IpLists) (value createdBy source : String) : Except Fault IpLists :=
  if '/' ∈ value.toList then
    match parseCidr makeAddress now value with
    | none => .error (.invalidArgument ("not a valid CIDR range: " ++ value))
    | some range =>
      let range := { range with source }
      .ok (if lists.cidrs.all (·.text != range.text) then { lists with cidrs := lists.cidrs ++ [range] }
        else lists)
  else
    match makeAddress value with
    | none => .error (.invalidArgument ("not a valid IP address: " ++ value))
    | some _ =>
      .ok (if lists.exact.all (·.value != value) then
          { lists with exact := lists.exact ++ [{ value, createdAt := now, createdBy, source }] }
        else lists)

def removeIpFrom (lists : IpLists) (value : String) : IpLists where
  exact := lists.exact.filter (·.value != value)
  cidrs := lists.cidrs.filter (·.text != value)

/-! ### The blacklist -/

/-- The list of a category; `list_for` is never called for addresses. -/
def listFor (config : BlacklistConfig) : BlacklistCategory → List BlacklistEntry
  | .routes => config.routes
  | .countries => config.countries
  | .isps => config.isps
  | .userAgents => config.userAgents
  | .referrers => config.referrers
  | .bodyPatterns => config.bodyPatterns
  | .fakeRoutes => config.fakeRoutes
  | .ips => []

def withListFor (config : BlacklistConfig) (category : BlacklistCategory) (values : List BlacklistEntry) :
    BlacklistConfig :=
  match category with
  | .routes => { config with routes := values }
  | .countries => { config with countries := values }
  | .isps => { config with isps := values }
  | .userAgents => { config with userAgents := values }
  | .referrers => { config with referrers := values }
  | .bodyPatterns => { config with bodyPatterns := values }
  | .fakeRoutes => { config with fakeRoutes := values }
  | .ips => config

def addTo (values : List BlacklistEntry) (value createdBy source : String) : List BlacklistEntry :=
  if values.all (·.value != value) then values ++ [{ value, createdAt := now, createdBy, source }]
  else values

def addBlacklistEntry (config : RuntimeConfig) (category : BlacklistCategory)
    (value createdBy source : String) : Except Fault RuntimeConfig :=
  if value = "" then .error (.invalidArgument "value must not be empty")
  else if category = .ips then
    (addIpTo makeAddress now config.blacklist.ips value createdBy source).map fun lists =>
      { config with blacklist := config.blacklist.withIps lists }
  else if category = .fakeRoutes ∧ !startsWith value "/" then
    .error (.invalidArgument "fake route must start with '/'")
  else
    let values := addTo now (listFor config.blacklist category) value createdBy source
    .ok { config with blacklist := withListFor config.blacklist category values }

def removeBlacklistEntry (config : RuntimeConfig) (category : BlacklistCategory) (value : String) :
    RuntimeConfig :=
  if category = .ips then
    { config with blacklist := config.blacklist.withIps (removeIpFrom config.blacklist.ips value) }
  else
    let values := (listFor config.blacklist category).filter (·.value != value)
    { config with blacklist := withListFor config.blacklist category values }

/-! ### The whitelist -/

def addWhitelistEntry (config : RuntimeConfig) (value createdBy source : String) :
    Except Fault RuntimeConfig :=
  if value = "" then .error (.invalidArgument "value must not be empty")
  else
    (addIpTo makeAddress now config.whitelist.ips value createdBy source).map fun lists =>
      { config with whitelist := config.whitelist.withIps lists }

def removeWhitelistEntry (config : RuntimeConfig) (value : String) : RuntimeConfig :=
  { config with whitelist := config.whitelist.withIps (removeIpFrom config.whitelist.ips value) }

def addWhitelistRouteEntry (config : RuntimeConfig) (value createdBy source : String) :
    Except Fault RuntimeConfig :=
  if value = "" then .error (.invalidArgument "value must not be empty")
  else
    .ok { config with whitelist := { config.whitelist with
            routes := addTo now config.whitelist.routes value createdBy source } }

def removeWhitelistRouteEntry (config : RuntimeConfig) (value : String) : RuntimeConfig :=
  { config with whitelist := { config.whitelist with
      routes := config.whitelist.routes.filter (·.value != value) } }

/-! ### What is still there after a restart -/

/-- A list that the API adds to. -/
inductive EntryList where
  | blacklist (category : BlacklistCategory)
  | whitelist
  | whitelistRoutes

def EntryList.add (config : RuntimeConfig) (value createdBy source : String) :
    EntryList → Except Fault RuntimeConfig
  | .blacklist category => addBlacklistEntry makeAddress now config category value createdBy source
  | .whitelist => addWhitelistEntry makeAddress now config value createdBy source
  | .whitelistRoutes => addWhitelistRouteEntry now config value createdBy source

def IpLists.values (lists : IpLists) : List String :=
  lists.exact.map BlacklistEntry.value ++ lists.cidrs.map CidrRange.text

def EntryList.values (config : RuntimeConfig) : EntryList → List String
  | .blacklist .ips => config.blacklist.ips.values
  | .blacklist category => (listFor config.blacklist category).map BlacklistEntry.value
  | .whitelist => config.whitelist.ips.values
  | .whitelistRoutes => config.whitelist.routes.map BlacklistEntry.value

variable {makeAddress} {now}

theorem mem_addTo (values : List BlacklistEntry) (value createdBy source : String) :
    value ∈ (addTo now values value createdBy source).map BlacklistEntry.value := by
  unfold addTo
  split
  · simp
  · next there =>
    simpa using there

theorem mem_reloadedEntries {values : List BlacklistEntry} {value : String} :
    value ∈ (reloadedEntries now values).map BlacklistEntry.value ↔
      value ∈ values.map BlacklistEntry.value ∧ isBlank value = false := by
  simp only [reloadedEntries, BlacklistEntry.toRaw, RawEntry.toEntry, List.map_map, List.mem_map,
    List.mem_filter, Function.comp_apply, Bool.not_eq_true']
  constructor
  · rintro ⟨entry, ⟨member, nonblank⟩, rfl⟩
    exact ⟨⟨entry, member, rfl⟩, nonblank⟩
  · rintro ⟨⟨entry, member, rfl⟩, nonblank⟩
    exact ⟨entry, ⟨member, nonblank⟩, rfl⟩

/-- The loader takes the value for an address or a range. -/
def Readable (makeAddress : MakeAddress) (value : String) : Prop :=
  if '/' ∈ value.toList then ∃ range, parseCidr makeAddress 0 value = some range
  else ∃ address, makeAddress value = some address

theorem readable_slash {value : String} (slash : '/' ∈ value.toList) :
    Readable makeAddress value ↔ ∃ range, parseCidr makeAddress now value = some range := by
  unfold Readable
  rw [if_pos slash]
  constructor
  · rintro ⟨range, parsed⟩
    exact ⟨_, (parseCidr_some parsed).2.2 now⟩
  · rintro ⟨range, parsed⟩
    exact ⟨_, (parseCidr_some parsed).2.2 0⟩

theorem mem_reloadedRaws {exact : List BlacklistEntry} {cidrs : List CidrRange} {value : String} :
    (∃ raw ∈ reloadedRaws now exact cidrs, raw.value = value) ↔
      value ∈ (IpLists.mk exact cidrs).values ∧ isBlank value = false := by
  have values : (exact.map (BlacklistEntry.toRaw now) ++ cidrs.map (CidrRange.toRaw now)).map
      RawEntry.value = (IpLists.mk exact cidrs).values := by
    simp [IpLists.values, Function.comp_def, BlacklistEntry.toRaw, CidrRange.toRaw]
  rw [← values, List.mem_map]
  unfold reloadedRaws
  constructor
  · rintro ⟨raw, member, rfl⟩
    obtain ⟨there, nonblank⟩ := List.mem_filter.mp member
    exact ⟨⟨raw, there, rfl⟩, by simpa using nonblank⟩
  · rintro ⟨⟨raw, there, rfl⟩, nonblank⟩
    exact ⟨raw, List.mem_filter.mpr ⟨there, by simp [nonblank]⟩, rfl⟩

theorem mem_filterMap_exactOf {raws : List RawEntry} {value : String} :
    value ∈ (raws.filterMap (exactOf makeAddress)).map BlacklistEntry.value ↔
      (∃ raw ∈ raws, raw.value = value) ∧ '/' ∉ value.toList ∧ Readable makeAddress value := by
  simp only [List.mem_map, List.mem_filterMap, exactOf]
  constructor
  · rintro ⟨entry, ⟨raw, member, found⟩, rfl⟩
    split at found
    · cases found
    · next slashless =>
      obtain ⟨address, parses, rfl⟩ := Option.map_eq_some_iff.mp found
      exact ⟨⟨raw, member, rfl⟩, slashless, by
        unfold Readable
        exact (if_neg slashless).mpr ⟨address, parses⟩⟩
  · rintro ⟨⟨raw, member, rfl⟩, slashless, readable⟩
    unfold Readable at readable
    rw [if_neg slashless] at readable
    obtain ⟨address, parses⟩ := readable
    exact ⟨raw.toEntry, ⟨raw, member, by rw [if_neg slashless, parses, Option.map_some]⟩, rfl⟩

theorem mem_filterMap_rangeOf {raws : List RawEntry} {value : String} :
    value ∈ (raws.filterMap (rangeOf makeAddress now)).map CidrRange.text ↔
      (∃ raw ∈ raws, raw.value = value) ∧ '/' ∈ value.toList ∧ Readable makeAddress value := by
  simp only [List.mem_map, List.mem_filterMap, rangeOf]
  constructor
  · rintro ⟨range, ⟨raw, member, found⟩, rfl⟩
    split at found
    · next slash =>
      obtain ⟨parsed, parses, rfl⟩ := Option.map_eq_some_iff.mp found
      obtain ⟨text, -, -⟩ := parseCidr_some parses
      have same : raw.value = parsed.text := text.symm
      exact ⟨⟨raw, member, same⟩, same ▸ slash, same ▸ (readable_slash slash).mpr ⟨_, parses⟩⟩
    · cases found
  · rintro ⟨⟨raw, member, rfl⟩, slash, readable⟩
    obtain ⟨range, parses⟩ := (@readable_slash _ now _ slash).mp readable
    exact ⟨{ range with createdAt := raw.createdAt, source := raw.source },
      ⟨raw, member, by rw [if_pos slash, parses, Option.map_some]⟩, (parseCidr_some parses).1⟩

theorem mem_reloadedIps {lists : IpLists} {value : String} :
    value ∈ (IpLists.mk (reloadedExact makeAddress now lists.exact lists.cidrs)
        (reloadedRanges makeAddress now lists.exact lists.cidrs)).values ↔
      value ∈ lists.values ∧ isBlank value = false ∧ Readable makeAddress value := by
  unfold reloadedExact reloadedRanges
  rw [IpLists.values, List.mem_append, mem_filterMap_exactOf, mem_filterMap_rangeOf, mem_reloadedRaws]
  constructor
  · rintro (⟨⟨there, nonblank⟩, -, readable⟩ | ⟨⟨there, nonblank⟩, -, readable⟩)
    · exact ⟨there, nonblank, readable⟩
    · exact ⟨there, nonblank, readable⟩
  · rintro ⟨there, nonblank, readable⟩
    by_cases slash : '/' ∈ value.toList
    · exact .inr ⟨⟨there, nonblank⟩, slash, readable⟩
    · exact .inl ⟨⟨there, nonblank⟩, slash, readable⟩

theorem addIpTo_ok {lists next : IpLists} {value createdBy source : String}
    (h : addIpTo makeAddress now lists value createdBy source = .ok next) :
    value ∈ next.values ∧ Readable makeAddress value := by
  unfold addIpTo at h
  split at h
  · next slash =>
    split at h
    · cases h
    · next range parsed =>
      have text := (parseCidr_some parsed).1
      refine ⟨?_, (readable_slash slash).mpr ⟨range, parsed⟩⟩
      rw [← Except.ok.inj h]
      dsimp only
      split
      · simp [IpLists.values, text]
      · next there =>
        have held : ∃ r ∈ lists.cidrs, r.text = value := by simpa [text] using there
        obtain ⟨r, member, same⟩ := held
        exact List.mem_append_right _ (List.mem_map.mpr ⟨r, member, same⟩)
  · next slashless =>
    split at h
    · cases h
    · next address parses =>
      refine ⟨?_, (by unfold Readable; exact (if_neg slashless).mpr ⟨address, parses⟩)⟩
      rw [← Except.ok.inj h]
      split
      · simp [IpLists.values]
      · next there =>
        have held : ∃ e ∈ lists.exact, e.value = value := by simpa using there
        obtain ⟨e, member, same⟩ := held
        exact List.mem_append_left _ (List.mem_map.mpr ⟨e, member, same⟩)

def EntryList.HoldsIps : EntryList → Prop
  | .blacklist .ips | .whitelist => True
  | _ => False

theorem listFor_withListFor {config : BlacklistConfig} {category : BlacklistCategory}
    (other : category ≠ .ips) (values : List BlacklistEntry) :
    listFor (withListFor config category values) category = values := by
  cases category <;> first | rfl | exact absurd rfl other

theorem listFor_reloaded {config : RuntimeConfig} (category : BlacklistCategory) :
    listFor (reloaded makeAddress now config).blacklist category =
      reloadedEntries now (listFor config.blacklist category) := by
  cases category <;> rfl

theorem values_blacklist {config : RuntimeConfig} {category : BlacklistCategory} (other : category ≠ .ips) :
    (EntryList.blacklist category).values config =
      (listFor config.blacklist category).map BlacklistEntry.value := by
  cases category <;> first | rfl | exact absurd rfl other

/-- A value is still there after a restart where it was there, is not blank and, in the lists of
addresses, can be read. -/
theorem EntryList.mem_values_reloaded {target : EntryList} {config : RuntimeConfig} {value : String} :
    value ∈ target.values (reloaded makeAddress now config) ↔
      value ∈ target.values config ∧ isBlank value = false ∧
        (target.HoldsIps → Readable makeAddress value) := by
  cases target with
  | blacklist category =>
    by_cases ips : category = .ips
    · subst ips
      have holds : (EntryList.blacklist .ips).HoldsIps := trivial
      simp only [holds, forall_true_left]
      exact @mem_reloadedIps _ _ config.blacklist.ips _
    · have free : ¬ (EntryList.blacklist category).HoldsIps := by
        cases category <;> first | exact absurd rfl ips | exact id
      rw [values_blacklist ips, values_blacklist ips, listFor_reloaded, mem_reloadedEntries]
      simp [free]
  | whitelist =>
    have holds : EntryList.whitelist.HoldsIps := trivial
    simp only [holds, forall_true_left]
    exact @mem_reloadedIps _ _ config.whitelist.ips _
  | whitelistRoutes =>
    have free : ¬ EntryList.whitelistRoutes.HoldsIps := id
    simp only [free, false_implies, and_true]
    exact @mem_reloadedEntries _ config.whitelist.routes _

theorem map_eq_ok {α β : Type} {f : α → β} {r : Except Fault α} {b : β} (h : r.map f = .ok b) :
    ∃ a, r = .ok a ∧ f a = b := by
  cases r with
  | error fault => cases h
  | ok a => exact ⟨a, rfl, Except.ok.inj h⟩

section Accepted

variable {config next : RuntimeConfig} {value createdBy source : String}

theorem addBlacklistEntry_ips_ok
    (h : addBlacklistEntry makeAddress now config .ips value createdBy source = .ok next) :
    (∃ lists, addIpTo makeAddress now config.blacklist.ips value createdBy source = .ok lists ∧
      next = { config with blacklist := config.blacklist.withIps lists }) := by
  unfold addBlacklistEntry at h
  split at h
  · cases h
  · rw [if_pos rfl] at h
    obtain ⟨lists, added, rfl⟩ := map_eq_ok h
    exact ⟨lists, added, rfl⟩

theorem addBlacklistEntry_list_ok {category : BlacklistCategory} (other : category ≠ .ips)
    (h : addBlacklistEntry makeAddress now config category value createdBy source = .ok next) :
    let values := addTo now (listFor config.blacklist category) value createdBy source
    next = { config with blacklist := withListFor config.blacklist category values } := by
  unfold addBlacklistEntry at h
  split at h
  · cases h
  · split at h
    · cases h
    · exact (Except.ok.inj h).symm

theorem addWhitelistEntry_ok
    (h : addWhitelistEntry makeAddress now config value createdBy source = .ok next) :
    (∃ lists, addIpTo makeAddress now config.whitelist.ips value createdBy source = .ok lists ∧
      next = { config with whitelist := config.whitelist.withIps lists }) := by
  unfold addWhitelistEntry at h
  split at h
  · cases h
  · obtain ⟨lists, added, rfl⟩ := map_eq_ok h
    exact ⟨lists, added, rfl⟩

theorem addWhitelistRouteEntry_ok (h : addWhitelistRouteEntry now config value createdBy source = .ok next) :
    let routes := addTo now config.whitelist.routes value createdBy source
    next = { config with whitelist := { config.whitelist with routes } } := by
  unfold addWhitelistRouteEntry at h
  split at h
  · cases h
  · exact (Except.ok.inj h).symm

theorem maxBodySizeBytes_withListFor (blacklist : BlacklistConfig) (category : BlacklistCategory)
    (values : List BlacklistEntry) :
    (withListFor blacklist category values).maxBodySizeBytes = blacklist.maxBodySizeBytes := by
  cases category <;> rfl

theorem EntryList.add_ok {target : EntryList}
    (h : target.add makeAddress now config value createdBy source = .ok next) :
    value ∈ target.values next ∧ (target.HoldsIps → Readable makeAddress value) ∧
      (config.Typed → next.Typed) ∧ next.globe = config.globe := by
  match target with
  | .blacklist category =>
    by_cases ips : category = .ips
    · subst ips
      obtain ⟨lists, added, rfl⟩ := addBlacklistEntry_ips_ok h
      exact ⟨(addIpTo_ok added).1, fun _ => (addIpTo_ok added).2, fun typed => { typed with }, rfl⟩
    · obtain rfl := addBlacklistEntry_list_ok ips h
      refine ⟨?_, fun holds => absurd holds (by cases category <;> first | exact absurd rfl ips | exact id),
        fun typed => { typed with maxBodySizeBytes := ?_ }, rfl⟩
      · rw [values_blacklist ips, listFor_withListFor ips]
        exact mem_addTo _ _ _ _
      · rw [maxBodySizeBytes_withListFor]
        exact typed.maxBodySizeBytes
  | .whitelist =>
    obtain ⟨lists, added, rfl⟩ := addWhitelistEntry_ok h
    exact ⟨(addIpTo_ok added).1, fun _ => (addIpTo_ok added).2, fun typed => { typed with }, rfl⟩
  | .whitelistRoutes =>
    obtain rfl := addWhitelistRouteEntry_ok h
    exact ⟨mem_addTo _ _ _ _, False.elim, fun typed => { typed with }, rfl⟩

end Accepted

section Restart

variable {yaml : Library} {later : Int} {config next : RuntimeConfig} {target : EntryList} {value : String}

theorem values_after_restart (typed : config.Typed) (doubles : DoublesReadBack yaml config)
    (trees : yaml.load (yaml.emit (writeConfig yaml config)) = some (writeConfig yaml config)) :
    (∃ loaded, parseYamlConfig makeAddress yaml later (toYamlConfig yaml config) = .ok loaded ∧
        value ∈ target.values loaded) ↔
      value ∈ target.values config ∧ isBlank value = false ∧
        (target.HoldsIps → Readable makeAddress value) := by
  have read : parseYamlConfig makeAddress yaml later (toYamlConfig yaml config) =
      .ok (reloaded makeAddress later config) := by
    unfold parseYamlConfig toYamlConfig
    rw [trees]
    exact readConfig_writeConfig typed doubles
  have members : value ∈ target.values (reloaded makeAddress later config) ↔ _ :=
    EntryList.mem_values_reloaded
  rw [read, ← members]
  constructor
  · rintro ⟨loaded, same, member⟩
    obtain rfl := Except.ok.inj same
    exact member
  · exact fun member => ⟨_, rfl, member⟩

/-- Of the values that the API accepts, those come through a restart that are not all white space. -/
theorem accepted_survives_iff {createdBy source : String}
    (accepted : target.add makeAddress now config value createdBy source = .ok next)
    (typed : config.Typed) (doubles : DoublesReadBack yaml config)
    (trees : yaml.load (yaml.emit (writeConfig yaml next)) = some (writeConfig yaml next)) :
    (∃ loaded, parseYamlConfig makeAddress yaml later (toYamlConfig yaml next) = .ok loaded ∧
        value ∈ target.values loaded) ↔ isBlank value = false := by
  obtain ⟨member, readable, typed_next, globe⟩ := EntryList.add_ok accepted
  have doubles_next : DoublesReadBack yaml next := by
    unfold DoublesReadBack
    rw [globe]
    exact doubles
  rw [values_after_restart (typed_next typed) doubles_next trees]
  exact ⟨fun survives => survives.2.1, fun nonblank => ⟨member, nonblank, readable⟩⟩

end Restart

theorem accepted_route_survives :
    let config := sampleConfig [sampleRoute "/wp-login"]
    let yaml := sampleYaml (sampleText "/wp-login") config
    (∃ loaded, parseYamlConfig Address.ofText yaml 0 (toYamlConfig yaml config) = .ok loaded ∧
        "/wp-login" ∈ (EntryList.blacklist .routes).values loaded) ↔ isBlank "/wp-login" = false :=
  @accepted_survives_iff Address.ofText sampleTime _ 0 (sampleConfig []) _ (.blacklist .routes)
    "/wp-login" "ada" "manual" rfl (sampleConfig_typed []) sampleConfig_doubles (sampleYaml_tree _ _)

/-- A blank is accepted as a route, and gone after a restart. -/
theorem blank_route_lost :
    ¬ ∀ (makeAddress : MakeAddress) (yaml : Library) (now later : Int) (target : EntryList)
        (config next : RuntimeConfig) (value createdBy source : String),
        target.add makeAddress now config value createdBy source = .ok next → config.Typed →
        DoublesReadBack yaml config →
        yaml.load (yaml.emit (writeConfig yaml next)) = some (writeConfig yaml next) →
        ∃ loaded, parseYamlConfig makeAddress yaml later (toYamlConfig yaml next) = .ok loaded ∧
          value ∈ target.values loaded := by
  intro claim
  have survives := claim Address.ofText
    (sampleYaml (sampleText "\" \"") (sampleConfig [sampleRoute " "])) sampleTime 0 (.blacklist .routes)
    (sampleConfig []) (sampleConfig [sampleRoute " "]) " " "ada" "manual" rfl (sampleConfig_typed [])
    sampleConfig_doubles (sampleYaml_tree _ _)
  rw [values_after_restart (sampleConfig_typed _) sampleConfig_doubles (sampleYaml_tree _ _)] at survives
  exact absurd survives.2.1 (by decide)

end Atomwall
