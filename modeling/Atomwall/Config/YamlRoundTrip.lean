import Atomwall.Config.YamlCodec
import Atomwall.Net.AddressText

/-!
What `parse_yaml_config` reads from what `to_yaml_config` wrote. `reloaded` says it for every
configuration; on those that hold what the loader accepts, only times lose their fractions.
-/

namespace Atomwall

open ByteString Yaml

variable (makeAddress : MakeAddress) (yaml : Library) (now : Int)

/-! ### What becomes of the parts -/

def stamp (tp : Int) : Int := (parseTimestamp (formatTimestamp tp)).getD now

def BlacklistEntry.toRaw (entry : BlacklistEntry) : RawEntry :=
  ⟨entry.value, stamp now entry.createdAt, entry.createdBy, entry.source⟩

def CidrRange.toRaw (range : CidrRange) : RawEntry :=
  ⟨range.text, stamp now range.createdAt, "", range.source⟩

def reloadedEntries (values : List BlacklistEntry) : List BlacklistEntry :=
  (values.filter fun entry => !isBlank entry.value).map fun entry => (entry.toRaw now).toEntry

def reloadedRaws (exact : List BlacklistEntry) (cidrs : List CidrRange) : List RawEntry :=
  (exact.map (BlacklistEntry.toRaw now) ++ cidrs.map (CidrRange.toRaw now)).filter fun raw =>
    !isBlank raw.value

def reloadedExact (exact : List BlacklistEntry) (cidrs : List CidrRange) : List BlacklistEntry :=
  (reloadedRaws now exact cidrs).filterMap (exactOf makeAddress)

def reloadedRanges (exact : List BlacklistEntry) (cidrs : List CidrRange) : List CidrRange :=
  (reloadedRaws now exact cidrs).filterMap (rangeOf makeAddress now)

def reloadedSite (site : SiteConfig) : Option SiteConfig :=
  if lower site.domain = "" then none else some { site with domain := lower site.domain }

def reloadedBlacklist (config : BlacklistConfig) : BlacklistConfig :=
  { ipExact := reloadedExact makeAddress now config.ipExact config.ipCidrs
    ipCidrs := reloadedRanges makeAddress now config.ipExact config.ipCidrs
    routes := reloadedEntries now config.routes
    countries := reloadedEntries now config.countries
    isps := reloadedEntries now config.isps
    userAgents := reloadedEntries now config.userAgents
    referrers := reloadedEntries now config.referrers
    bodyPatterns := reloadedEntries now config.bodyPatterns
    fakeRoutes := reloadedEntries now config.fakeRoutes
    maxBodySizeBytes := config.maxBodySizeBytes }

def reloadedWhitelist (config : WhitelistConfig) : WhitelistConfig :=
  { ipExact := reloadedExact makeAddress now config.ipExact config.ipCidrs
    ipCidrs := reloadedRanges makeAddress now config.ipExact config.ipCidrs
    routes := reloadedEntries now config.routes }

def reloadedScores (scores : KeyMap String Int) : KeyMap String Int :=
  (sortedScores scores).foldl (fun read score => read.insert score.1 score.2) ∅

def reloadedPage (entry : StatusPageEntry) : StatusPageEntry :=
  { entry with createdAt := stamp now entry.createdAt }

def reloaded (config : RuntimeConfig) : RuntimeConfig :=
  { config with
    sites := config.sites.filterMap reloadedSite
    blacklist := reloadedBlacklist makeAddress now config.blacklist
    whitelist := reloadedWhitelist makeAddress now config.whitelist
    ban := { config.ban with scores := reloadedScores config.ban.scores }
    pages := { config.pages with statusPages := config.pages.statusPages.map (reloadedPage now) } }

/-- Every number is one of the type it has in `runtime_config.hpp`. -/
structure RuntimeConfig.Typed (config : RuntimeConfig) : Prop where
  httpPort : IntType.unsignedShort.Holds config.http.port
  httpsPort : IntType.unsignedShort.Holds config.https.port
  upstreamPort : IntType.unsignedShort.Holds config.upstream.port
  sitePort : ∀ site ∈ config.sites, IntType.unsignedShort.Holds site.upstream.port
  adminPort : IntType.unsignedShort.Holds config.admin.port
  maxHeaderBytes : IntType.size.Holds config.limits.maxHeaderBytes
  maxBodyBytes : IntType.size.Holds config.limits.maxBodyBytes
  upstreamConnectTimeout : IntType.longLong.Holds config.limits.upstreamConnectTimeout
  requestTimeout : IntType.longLong.Holds config.limits.requestTimeout
  maxBodySizeBytes : IntType.size.Holds config.blacklist.maxBodySizeBytes
  threshold : IntType.int.Holds config.ban.threshold
  banDurationHours : IntType.int.Holds config.ban.banDurationHours
  scores : ∀ score ∈ config.ban.scores.entries, IntType.int.Holds score.2
  maxRequests : IntType.int.Holds config.speedCheck.maxRequests
  windowSeconds : IntType.int.Holds config.speedCheck.windowSeconds
  statusCode : ∀ entry ∈ config.pages.statusPages, IntType.int.Holds entry.code
  publicPort : IntType.unsignedShort.Holds config.globe.publicPort
  historySize : IntType.size.Holds config.globe.historySize

/-- The coordinates of the configuration are read back from their texts. -/
def DoublesReadBack (config : RuntimeConfig) : Prop :=
  ∀ bits, config.globe.serverLatBits = some bits ∨ config.globe.serverLonBits = some bits →
    yaml.readDouble (yaml.doubleText bits) = some bits

variable {makeAddress} {yaml} {now}

/-! ### Times -/

theorem parseTimestamp_formatTimestamp {tp : Int} (epoch : 0 ≤ tp) :
    parseTimestamp (formatTimestamp tp) = some (seconds (toSeconds tp)) := by
  have whole : 0 ≤ toSeconds tp := Int.tdiv_nonneg epoch (by decide)
  have restored := Calendar.timegm_gmtime (toSeconds tp)
  obtain ⟨year, mon, mday, hour, min, sec⟩ := Calendar.gmtime_nonneg whole
  unfold formatTimestamp
  generalize Calendar.gmtime (toSeconds tp) = tm at *
  -- each field is a natural number, so `%d` reads what `%02d` wrote
  obtain ⟨y, year⟩ := Int.eq_ofNat_of_zero_le year
  obtain ⟨mo, mon⟩ := Int.eq_ofNat_of_zero_le mon
  obtain ⟨d, mday⟩ := Int.eq_ofNat_of_zero_le mday
  obtain ⟨h, hour⟩ := Int.eq_ofNat_of_zero_le hour
  obtain ⟨mi, min⟩ := Int.eq_ofNat_of_zero_le min
  obtain ⟨s, sec⟩ := Int.eq_ofNat_of_zero_le sec
  have same : (⟨(y : Int) - 1900, (mo : Int) - 1, d, h, mi, s⟩ : Calendar.Tm) = tm := by
    cases tm
    simp only [Calendar.Tm.mk.injEq] at *
    omega
  have dash : ∀ rest, Decimal.EndsNumber ('-' :: rest) := Decimal.endsNumber_cons rfl
  have tee : ∀ rest, Decimal.EndsNumber ('T' :: rest) := Decimal.endsNumber_cons rfl
  have colon : ∀ rest, Decimal.EndsNumber (':' :: rest) := Decimal.endsNumber_cons rfl
  have zed : ∀ rest, Decimal.EndsNumber ('Z' :: rest) := Decimal.endsNumber_cons rfl
  dsimp only
  rw [year, mon, mday, hour, min, sec]
  unfold parseTimestamp
  rw [String.toList_ofList]
  simp only [Decimal.scanInt_padded, dash, tee, colon, zed, expect, if_true, Option.bind_eq_bind,
    Option.bind_some, Option.pure_def, same, restored]

theorem stamp_eq {tp : Int} (epoch : 0 ≤ tp) : stamp now tp = seconds (toSeconds tp) := by
  unfold stamp
  rw [parseTimestamp_formatTimestamp epoch]
  rfl

/-! ### Lists -/

theorem readRawEntry_of_fields {item : Ref} {raw : RawEntry} (h : readRawFields now item = .ok raw) :
    readRawEntry now item = if !isBlank raw.value then some raw else none := by
  unfold readRawEntry
  rw [h]
  cases blank : isBlank raw.value <;> simp [blank]

theorem readRawFields_object (fields : List (String × Node)) :
    readRawFields now (some (object fields)) = do
      let value ← (← Ref.get (some (object fields)) "value").string
      let createdAt ← readCreatedAt now (some (object fields))
      let createdBy ← readTextOr (some (object fields)) "created_by" ""
      return ⟨value, createdAt, createdBy, ← readTextOr (some (object fields)) "source" "manual"⟩ := rfl

theorem readRawEntry_writeEntry (entry : BlacklistEntry) :
    readRawEntry now (some (writeEntry entry)) =
      if !isBlank (entry.toRaw now).value then some (entry.toRaw now) else none := by
  apply readRawEntry_of_fields
  rw [writeEntry, readRawFields_object]
  simp [readCreatedAt, readTextOr, BlacklistEntry.toRaw, stamp, bind, Except.bind, pure, Except.pure]

theorem readRawEntry_writeRange (range : CidrRange) :
    readRawEntry now (some (writeRange range)) =
      if !isBlank (range.toRaw now).value then some (range.toRaw now) else none := by
  apply readRawEntry_of_fields
  rw [writeRange, readRawFields_object]
  simp [readCreatedAt, readTextOr, CidrRange.toRaw, stamp, bind, Except.bind, pure, Except.pure]

theorem filterMap_readRawEntry {α : Type} {written : α → Node} {raw : α → RawEntry}
    (each : ∀ a, readRawEntry now (some (written a)) =
      if !isBlank (raw a).value then some (raw a) else none) (values : List α) :
    (values.map fun a => some (written a)).filterMap (readRawEntry now) =
      (values.map raw).filter fun entry => !isBlank entry.value := by
  induction values with
  | nil => rfl
  | cons a rest ih =>
    rw [List.map_cons, List.filterMap_cons, each, List.map_cons, List.filter_cons, ih]
    cases isBlank (raw a).value <;> rfl

theorem readEntryList_writeEntryList (values : List BlacklistEntry) :
    readEntryList now (some (writeEntryList values)) = reloadedEntries now values := by
  have raws : ((values.map writeEntry).map some).filterMap (readRawEntry now) =
      (values.map (BlacklistEntry.toRaw now)).filter fun entry => !isBlank entry.value := by
    rw [List.map_map]
    exact filterMap_readRawEntry readRawEntry_writeEntry values
  unfold readEntryList writeEntryList reloadedEntries
  rw [items_sequence, raws, List.filter_map, List.map_map]
  rfl

theorem readIpList_writeIpList (exact : List BlacklistEntry) (cidrs : List CidrRange) :
    readIpList makeAddress now (some (writeIpList exact cidrs)) =
      (reloadedExact makeAddress now exact cidrs, reloadedRanges makeAddress now exact cidrs) := by
  have raws : (Ref.items (some (writeIpList exact cidrs))).filterMap (readRawEntry now) =
      reloadedRaws now exact cidrs := by
    unfold writeIpList reloadedRaws
    rw [items_sequence, List.map_append, List.filterMap_append, List.map_map, List.map_map,
      List.filter_append]
    exact congrArg₂ _ (filterMap_readRawEntry readRawEntry_writeEntry exact)
      (filterMap_readRawEntry readRawEntry_writeRange cidrs)
  unfold readIpList
  rw [raws]
  rfl

/-! ### Sections -/

theorem readHttp_writeHttp {config : HttpListenerConfig} (port : IntType.unsignedShort.Holds config.port) :
    readHttp (some (writeHttp config)) = .ok config := by
  simp [readHttp, writeHttp, port, bind, Except.bind, pure, Except.pure]

theorem readHttps_writeHttps {config : HttpsListenerConfig}
    (port : IntType.unsignedShort.Holds config.port) :
    readHttps (some (writeHttps config)) = .ok config := by
  simp [readHttps, writeHttps, port, bind, Except.bind, pure, Except.pure]

theorem readUpstream_writeUpstream {config : UpstreamConfig}
    (port : IntType.unsignedShort.Holds config.port) :
    readUpstream (some (writeUpstream config)) = .ok config := by
  simp [readUpstream, writeUpstream, port, bind, Except.bind, pure, Except.pure]

theorem readSite_writeSite {site : SiteConfig} (port : IntType.unsignedShort.Holds site.upstream.port) :
    readSite (some (writeSite site)) = .ok (reloadedSite site) := by
  have upstream := readUpstream_writeUpstream port
  unfold readSite writeSite reloadedSite
  by_cases empty : lower site.domain = ""
  · simp [empty, bind, Except.bind, pure, Except.pure]
  · simp [empty, upstream, bind, Except.bind, pure, Except.pure]

theorem readSites_write {sites : List SiteConfig}
    (port : ∀ site ∈ sites, IntType.unsignedShort.Holds site.upstream.port) :
    readSites (some (.sequence (sites.map writeSite))) = .ok (sites.filterMap reloadedSite) := by
  have read := mapM_written fun site member => readSite_writeSite (port site member)
  unfold readSites
  rw [items_sequence, List.map_map]
  simp only [Function.comp_def, read]
  have kept : (sites.map reloadedSite).reduceOption = sites.filterMap reloadedSite :=
    List.filterMap_map
  exact congrArg Except.ok kept

theorem readAdmin_writeAdmin {config : AdminConfig} (port : IntType.unsignedShort.Holds config.port) :
    readAdmin (some (writeAdmin config)) = .ok config := by
  simp [readAdmin, writeAdmin, port, bind, Except.bind, pure, Except.pure]

theorem readLimits_writeLimits {config : LimitsConfig}
    (header : IntType.size.Holds config.maxHeaderBytes) (body : IntType.size.Holds config.maxBodyBytes)
    (connect : IntType.longLong.Holds config.upstreamConnectTimeout)
    (request : IntType.longLong.Holds config.requestTimeout) :
    readLimits (some (writeLimits config)) = .ok config := by
  simp [readLimits, writeLimits, header, body, connect, request, bind, Except.bind, pure, Except.pure]

theorem readBlacklist_writeBlacklist {config : BlacklistConfig}
    (size : IntType.size.Holds config.maxBodySizeBytes) :
    readBlacklist makeAddress now (some (writeBlacklist config)) =
      .ok (reloadedBlacklist makeAddress now config) := by
  simp [readBlacklist, writeBlacklist, reloadedBlacklist, size, readEntryList_writeEntryList,
    readIpList_writeIpList, bind, Except.bind, pure, Except.pure]

theorem readWhitelist_writeWhitelist (config : WhitelistConfig) :
    readWhitelist makeAddress now (some (writeWhitelist config)) =
      .ok (reloadedWhitelist makeAddress now config) := by
  simp [readWhitelist, writeWhitelist, reloadedWhitelist, readEntryList_writeEntryList,
    readIpList_writeIpList, bind, Except.bind, pure, Except.pure]

theorem foldlM_readScore (scores : List (Sigma fun _ : String => Int)) (read : KeyMap String Int)
    (fits : ∀ score ∈ scores, IntType.int.Holds score.2) :
    (scores.map fun score => ((some (.scalar score.1), some (ofInt score.2)) : Ref × Ref)).foldlM
        readScore read =
      .ok (scores.foldl (fun read score => read.insert score.1 score.2) read) := by
  induction scores generalizing read with
  | nil => rfl
  | cons score rest ih =>
    have first : readScore read (some (.scalar score.1), some (ofInt score.2)) =
        .ok (read.insert score.1 score.2) := by
      simp [readScore, fits score List.mem_cons_self, bind, Except.bind, pure, Except.pure]
    rw [List.map_cons, List.foldlM_cons, first]
    exact ih _ fun later member => fits later (List.mem_cons_of_mem _ member)

theorem readScores_writeScores {scores : KeyMap String Int}
    (fits : ∀ score ∈ scores.entries, IntType.int.Holds score.2) :
    (Ref.pairs (some (writeScores scores))).foldlM readScore ∅ = .ok (reloadedScores scores) := by
  have sorted : ∀ score ∈ sortedScores scores, IntType.int.Holds score.2 :=
    fun score member => fits score (List.mem_mergeSort.mp member)
  unfold writeScores reloadedScores
  cases entries : sortedScores scores with
  | nil => rfl
  | cons score rest =>
    rw [entries] at sorted
    have read := foldlM_readScore (score :: rest) ∅ sorted
    simpa [Function.comp_def] using read

theorem readBan_writeBan {config : BanConfig} (threshold : IntType.int.Holds config.threshold)
    (duration : IntType.int.Holds config.banDurationHours)
    (fits : ∀ score ∈ config.scores.entries, IntType.int.Holds score.2) :
    readBan (some (writeBan config)) = .ok { config with scores := reloadedScores config.scores } := by
  have scores := readScores_writeScores fits
  simp [readBan, writeBan, threshold, duration, scores, bind, Except.bind, pure, Except.pure]

theorem readSecurity_writeSecurity (config : SecurityConfig) :
    readSecurity (some (writeSecurity config)) = .ok config := by
  simp [readSecurity, writeSecurity, bind, Except.bind, pure, Except.pure]

theorem readMethodCheck_writeMethodCheck (config : MethodCheckConfig) :
    readMethodCheck (some (writeMethodCheck config)) = .ok config := by
  have methods : (config.allowedMethods.map fun method => some (Node.scalar method)).mapM Ref.string =
      .ok config.allowedMethods := by
    have each : ∀ method ∈ config.allowedMethods,
        Ref.string (some (Node.scalar method)) = .ok (id method) := by
      intro method _
      exact string_scalar method
    have read := mapM_written each
    rwa [List.map_id] at read
  simp [readMethodCheck, writeMethodCheck, Function.comp_def, methods, bind, Except.bind, pure,
    Except.pure]

theorem readEmergencyOff_writeEmergencyOff (config : EmergencyOffConfig) :
    readEmergencyOff (some (writeEmergencyOff config)) = .ok config := by
  simp [readEmergencyOff, writeEmergencyOff, bind, Except.bind, pure, Except.pure]

theorem readSpeedCheck_writeSpeedCheck {config : SpeedCheckConfig}
    (requests : IntType.int.Holds config.maxRequests) (window : IntType.int.Holds config.windowSeconds) :
    readSpeedCheck (some (writeSpeedCheck config)) = .ok config := by
  simp [readSpeedCheck, writeSpeedCheck, requests, window, bind, Except.bind, pure, Except.pure]

theorem readStatusPage_writeStatusPage {entry : StatusPageEntry} (code : IntType.int.Holds entry.code) :
    readStatusPage now (some (writeStatusPage entry)) = .ok (reloadedPage now entry) := by
  simp [readStatusPage, writeStatusPage, reloadedPage, readCreatedAt, stamp, code, bind, Except.bind,
    pure, Except.pure]

theorem readPages_writePages {config : ResponsePagesConfig}
    (codes : ∀ entry ∈ config.statusPages, IntType.int.Holds entry.code) :
    readPages now (some (writePages config)) =
      .ok { config with statusPages := config.statusPages.map (reloadedPage now) } := by
  have each : ∀ entry ∈ config.statusPages,
      readStatusPage now (some (writeStatusPage entry)) = .ok (reloadedPage now entry) := by
    intro entry member
    exact readStatusPage_writeStatusPage (codes entry member)
  have pages := mapM_written each
  simp [readPages, writePages, Function.comp_def, pages, bind, Except.bind, pure, Except.pure]

theorem readRobotsTxt_writeRobotsTxt (config : RobotsTxtConfig) :
    readRobotsTxt (some (writeRobotsTxt config)) = .ok config := by
  simp [readRobotsTxt, writeRobotsTxt, bind, Except.bind, pure, Except.pure]

theorem readRequestLog_writeRequestLog (config : RequestLogConfig) :
    readRequestLog (some (writeRequestLog config)) = .ok config := by
  simp [readRequestLog, writeRequestLog, bind, Except.bind, pure, Except.pure]

theorem readGeoip_writeGeoip (config : GeoIpConfig) : readGeoip (some (writeGeoip config)) = .ok config := by
  simp [readGeoip, writeGeoip, bind, Except.bind, pure, Except.pure]

theorem readCoordinate_writeCoordinate {bits : Option UInt64}
    (double : ∀ b, bits = some b → yaml.readDouble (yaml.doubleText b) = some b) :
    readCoordinate yaml (some (writeCoordinate yaml bits)) = .ok bits := by
  cases bits with
  | none => rfl
  | some b =>
    simp [readCoordinate, writeCoordinate, Ref.required, Ref.decode, double b rfl, bind, Except.bind, pure,
      Except.pure]

theorem readGlobe_writeGlobe {config : GlobeConfig} (port : IntType.unsignedShort.Holds config.publicPort)
    (history : IntType.size.Holds config.historySize)
    (lat : ∀ b, config.serverLatBits = some b → yaml.readDouble (yaml.doubleText b) = some b)
    (lon : ∀ b, config.serverLonBits = some b → yaml.readDouble (yaml.doubleText b) = some b) :
    readGlobe yaml (some (writeGlobe yaml config)) = .ok config := by
  simp [readGlobe, writeGlobe, port, history, readCoordinate_writeCoordinate lat,
    readCoordinate_writeCoordinate lon, bind, Except.bind, pure, Except.pure]

/-! ### The whole file -/

theorem readConfig_writeConfig {config : RuntimeConfig} (typed : config.Typed)
    (doubles : DoublesReadBack yaml config) :
    readConfig makeAddress yaml now (some (writeConfig yaml config)) =
      .ok (reloaded makeAddress now config) := by
  unfold readConfig writeConfig
  simp [readSection, readHttp_writeHttp typed.httpPort, readHttps_writeHttps typed.httpsPort,
    readUpstream_writeUpstream typed.upstreamPort, readSites_write typed.sitePort,
    readAdmin_writeAdmin typed.adminPort,
    readLimits_writeLimits typed.maxHeaderBytes typed.maxBodyBytes typed.upstreamConnectTimeout
      typed.requestTimeout,
    readBlacklist_writeBlacklist typed.maxBodySizeBytes, readWhitelist_writeWhitelist,
    readBan_writeBan typed.threshold typed.banDurationHours typed.scores, readSecurity_writeSecurity,
    readMethodCheck_writeMethodCheck, readEmergencyOff_writeEmergencyOff,
    readSpeedCheck_writeSpeedCheck typed.maxRequests typed.windowSeconds,
    readPages_writePages typed.statusCode, readRobotsTxt_writeRobotsTxt, readRequestLog_writeRequestLog,
    readGeoip_writeGeoip,
    readGlobe_writeGlobe typed.publicPort typed.historySize (fun b h => doubles b (.inl h))
      (fun b h => doubles b (.inr h)),
    reloaded, bind, Except.bind, pure, Except.pure]

/-! ### Configurations that the loader takes as they are -/

def BlacklistEntry.truncated (entry : BlacklistEntry) : BlacklistEntry :=
  { entry with createdAt := seconds (toSeconds entry.createdAt) }

def CidrRange.truncated (range : CidrRange) : CidrRange :=
  { range with createdAt := seconds (toSeconds range.createdAt) }

def StatusPageEntry.truncated (entry : StatusPageEntry) : StatusPageEntry :=
  { entry with createdAt := seconds (toSeconds entry.createdAt) }

/-- The configuration with every `created_at` cut to whole seconds. -/
def RuntimeConfig.truncated (config : RuntimeConfig) : RuntimeConfig :=
  { config with
    blacklist := { config.blacklist with
      ipExact := config.blacklist.ipExact.map BlacklistEntry.truncated
      ipCidrs := config.blacklist.ipCidrs.map CidrRange.truncated
      routes := config.blacklist.routes.map BlacklistEntry.truncated
      countries := config.blacklist.countries.map BlacklistEntry.truncated
      isps := config.blacklist.isps.map BlacklistEntry.truncated
      userAgents := config.blacklist.userAgents.map BlacklistEntry.truncated
      referrers := config.blacklist.referrers.map BlacklistEntry.truncated
      bodyPatterns := config.blacklist.bodyPatterns.map BlacklistEntry.truncated
      fakeRoutes := config.blacklist.fakeRoutes.map BlacklistEntry.truncated }
    whitelist := { config.whitelist with
      ipExact := config.whitelist.ipExact.map BlacklistEntry.truncated
      ipCidrs := config.whitelist.ipCidrs.map CidrRange.truncated
      routes := config.whitelist.routes.map BlacklistEntry.truncated }
    pages := { config.pages with
      statusPages := config.pages.statusPages.map StatusPageEntry.truncated } }

def RuntimeConfig.patterns (config : RuntimeConfig) : List (List BlacklistEntry) :=
  [config.blacklist.routes, config.blacklist.countries, config.blacklist.isps, config.blacklist.userAgents,
    config.blacklist.referrers, config.blacklist.bodyPatterns, config.blacklist.fakeRoutes,
    config.whitelist.routes]

structure EntryLoadable (entry : BlacklistEntry) : Prop where
  nonblank : isBlank entry.value = false
  epoch : 0 ≤ entry.createdAt

structure ExactLoadable (makeAddress : MakeAddress) (entry : BlacklistEntry) : Prop
    extends EntryLoadable entry where
  parses : (makeAddress entry.value).isSome
  slashless : '/' ∉ entry.value.toList

/-- A result of `parse_cidr`, whatever its source. -/
structure RangeLoadable (makeAddress : MakeAddress) (range : CidrRange) : Prop where
  parsed : parseCidr makeAddress range.createdAt range.text = some { range with source := "manual" }
  epoch : 0 ≤ range.createdAt

structure RuntimeConfig.Loadable (makeAddress : MakeAddress) (config : RuntimeConfig) : Prop where
  patterns : ∀ values ∈ config.patterns, ∀ entry ∈ values, EntryLoadable entry
  exact : ∀ entry ∈ config.blacklist.ipExact ++ config.whitelist.ipExact, ExactLoadable makeAddress entry
  ranges : ∀ range ∈ config.blacklist.ipCidrs ++ config.whitelist.ipCidrs, RangeLoadable makeAddress range
  domains : ∀ site ∈ config.sites, lower site.domain = site.domain ∧ site.domain ≠ ""
  pages : ∀ entry ∈ config.pages.statusPages, 0 ≤ entry.createdAt

theorem toEntry_toRaw {entry : BlacklistEntry} (epoch : 0 ≤ entry.createdAt) :
    (entry.toRaw now).toEntry = entry.truncated := by
  unfold BlacklistEntry.toRaw BlacklistEntry.truncated RawEntry.toEntry
  rw [stamp_eq epoch]

theorem reloadedEntries_loadable {values : List BlacklistEntry} (h : ∀ entry ∈ values, EntryLoadable entry) :
    reloadedEntries now values = values.map BlacklistEntry.truncated := by
  unfold reloadedEntries
  rw [List.filter_eq_self.mpr fun entry member => by rw [(h entry member).nonblank, Bool.not_false]]
  exact List.map_congr_left fun entry member => toEntry_toRaw (h entry member).epoch

theorem isBlank_of_slash {text : String} (slash : '/' ∈ text.toList) : isBlank text = false := by
  rw [isBlank, List.all_eq_false]
  exact ⟨'/', slash, by decide⟩

theorem RangeLoadable.slash {range : CidrRange} (h : RangeLoadable makeAddress range) :
    '/' ∈ range.text.toList :=
  (parseCidr_some h.parsed).2.1

section Ips

variable {exact : List BlacklistEntry} {cidrs : List CidrRange}

theorem reloadedRaws_loadable (entries : ∀ entry ∈ exact, ExactLoadable makeAddress entry)
    (ranges : ∀ range ∈ cidrs, RangeLoadable makeAddress range) :
    reloadedRaws now exact cidrs =
      exact.map (BlacklistEntry.toRaw now) ++ cidrs.map (CidrRange.toRaw now) := by
  unfold reloadedRaws
  rw [List.filter_eq_self]
  intro raw member
  rcases List.mem_append.mp member with left | right
  · obtain ⟨entry, there, rfl⟩ := List.mem_map.mp left
    have nonblank : isBlank (entry.toRaw now).value = false := (entries entry there).nonblank
    rw [nonblank, Bool.not_false]
  · obtain ⟨range, there, rfl⟩ := List.mem_map.mp right
    have nonblank : isBlank (range.toRaw now).value = false := isBlank_of_slash (ranges range there).slash
    rw [nonblank, Bool.not_false]

theorem filterMap_map_eq {α β γ : Type} {f : β → Option γ} {g : α → β} {h : α → γ} {values : List α}
    (each : ∀ a ∈ values, f (g a) = some (h a)) : (values.map g).filterMap f = values.map h := by
  rw [List.filterMap_map, ← List.filterMap_eq_map]
  exact List.filterMap_congr each

theorem filterMap_map_nil {α β γ : Type} {f : β → Option γ} {g : α → β} {values : List α}
    (each : ∀ a ∈ values, f (g a) = none) : (values.map g).filterMap f = [] := by
  rw [List.filterMap_map, List.filterMap_eq_nil_iff]
  exact each

theorem reloadedExact_loadable (entries : ∀ entry ∈ exact, ExactLoadable makeAddress entry)
    (ranges : ∀ range ∈ cidrs, RangeLoadable makeAddress range) :
    reloadedExact makeAddress now exact cidrs = exact.map BlacklistEntry.truncated := by
  have kept : ∀ entry ∈ exact, exactOf makeAddress (entry.toRaw now) = some entry.truncated := by
    intro entry member
    have loadable := entries entry member
    obtain ⟨address, parses⟩ := Option.isSome_iff_exists.mp loadable.parses
    have slashless : '/' ∉ (entry.toRaw now).value.toList := loadable.slashless
    have parses : makeAddress (entry.toRaw now).value = some address := parses
    rw [exactOf, if_neg slashless, parses, Option.map_some, toEntry_toRaw loadable.epoch]
  have skipped : ∀ range ∈ cidrs, exactOf makeAddress (range.toRaw now) = none :=
    fun range member => if_pos (ranges range member).slash
  unfold reloadedExact
  rw [reloadedRaws_loadable entries ranges, List.filterMap_append, filterMap_map_eq kept,
    filterMap_map_nil skipped, List.append_nil]

theorem reloadedRanges_loadable (entries : ∀ entry ∈ exact, ExactLoadable makeAddress entry)
    (ranges : ∀ range ∈ cidrs, RangeLoadable makeAddress range) :
    reloadedRanges makeAddress now exact cidrs = cidrs.map CidrRange.truncated := by
  have kept : ∀ range ∈ cidrs, rangeOf makeAddress now (range.toRaw now) = some range.truncated := by
    intro range member
    have loadable := ranges range member
    have slash : '/' ∈ (range.toRaw now).value.toList := loadable.slash
    have parsed : parseCidr makeAddress now (range.toRaw now).value = _ :=
      (parseCidr_some loadable.parsed).2.2 now
    rw [rangeOf, if_pos slash, parsed, Option.map_some]
    simp [CidrRange.toRaw, CidrRange.truncated, stamp_eq loadable.epoch]
  have skipped : ∀ entry ∈ exact, rangeOf makeAddress now (entry.toRaw now) = none :=
    fun entry member => if_neg (entries entry member).slashless
  unfold reloadedRanges
  rw [reloadedRaws_loadable entries ranges, List.filterMap_append, filterMap_map_nil skipped,
    filterMap_map_eq kept, List.nil_append]

end Ips

theorem reloadedSites_loadable {sites : List SiteConfig}
    (domains : ∀ site ∈ sites, lower site.domain = site.domain ∧ site.domain ≠ "") :
    sites.filterMap reloadedSite = sites := by
  have kept : ∀ site ∈ sites, reloadedSite site = some site := by
    intro site member
    obtain ⟨small, named⟩ := domains site member
    rw [reloadedSite, small, if_neg named]
  rw [List.filterMap_congr kept, List.filterMap_some]

theorem lookup_foldl_insert (scores : List (Sigma fun _ : String => Int))
    (distinct : (scores.map Sigma.fst).Nodup) (read : KeyMap String Int) (name : String) :
    (scores.foldl (fun read score => read.insert score.1 score.2) read).lookup name =
      (scores.dlookup name).or (read.lookup name) := by
  induction scores generalizing read with
  | nil => rfl
  | cons score rest ih =>
    obtain ⟨fresh, distinct⟩ := List.nodup_cons.mp distinct
    rw [List.foldl_cons, ih distinct, KeyMap.lookup_insert_ite]
    by_cases same : name = score.1
    · subst same
      have absent : rest.dlookup score.1 = none := List.dlookup_eq_none.mpr fresh
      rw [absent, if_pos rfl, List.dlookup_cons_eq]
      rfl
    · rw [if_neg same, List.dlookup_cons_ne _ _ same]

theorem lookup_reloadedScores (scores : KeyMap String Int) (name : String) :
    (reloadedScores scores).lookup name = scores.lookup name := by
  have same : (sortedScores scores).Perm scores.entries := List.mergeSort_perm _ _
  have distinct : (sortedScores scores).NodupKeys := (List.perm_nodupKeys same).mpr scores.nodupKeys
  unfold reloadedScores
  rw [lookup_foldl_insert _ distinct, AList.lookup_empty, Option.or_none]
  exact List.perm_dlookup name distinct same

theorem reloaded_loadable {config : RuntimeConfig} (loadable : config.Loadable makeAddress) :
    reloaded makeAddress now config =
      { config.truncated with
        ban := { config.ban with scores := reloadedScores config.ban.scores } } := by
  have entries : ∀ values ∈ config.patterns,
      reloadedEntries now values = values.map BlacklistEntry.truncated :=
    fun values member => reloadedEntries_loadable (loadable.patterns values member)
  obtain ⟨exact, exact'⟩ := List.forall_mem_append.mp loadable.exact
  obtain ⟨ranges, ranges'⟩ := List.forall_mem_append.mp loadable.ranges
  have pages : config.pages.statusPages.map (reloadedPage now) =
      config.pages.statusPages.map StatusPageEntry.truncated := by
    refine List.map_congr_left fun entry member => ?_
    rw [reloadedPage, stamp_eq (loadable.pages entry member)]
    rfl
  simp only [RuntimeConfig.patterns, List.forall_mem_cons] at entries
  obtain ⟨routes, countries, isps, agents, referrers, bodies, fakes, safe, -⟩ := entries
  unfold reloaded reloadedBlacklist reloadedWhitelist RuntimeConfig.truncated
  rw [reloadedSites_loadable loadable.domains, pages, routes, countries, isps, agents, referrers, bodies,
    fakes, safe, reloadedExact_loadable exact ranges, reloadedRanges_loadable exact ranges,
    reloadedExact_loadable exact' ranges', reloadedRanges_loadable exact' ranges']

/-- Where the emitter and the loader of YAML are inverse on the tree that is written, a configuration is
read back as it was, up to the fractions of seconds. -/
theorem config_codec_lossless {config : RuntimeConfig} (typed : config.Typed)
    (loadable : config.Loadable makeAddress)
    (trees : yaml.load (yaml.emit (writeConfig yaml config)) = some (writeConfig yaml config))
    (doubles : DoublesReadBack yaml config) :
    ∃ scores, parseYamlConfig makeAddress yaml now (toYamlConfig yaml config) =
        .ok { config.truncated with ban := { config.ban with scores := scores } } ∧
      ∀ name, scores.lookup name = config.ban.scores.lookup name := by
  refine ⟨reloadedScores config.ban.scores, ?_, lookup_reloadedScores _⟩
  unfold parseYamlConfig toYamlConfig
  rw [trees]
  dsimp only
  rw [readConfig_writeConfig typed doubles, reloaded_loadable loadable]

def sampleTime : Int := 1700000000500000000

def sampleConfig (routes : List BlacklistEntry) : RuntimeConfig where
  blacklist :=
    { ipExact := [{ value := "203.0.113.7", createdAt := sampleTime, createdBy := "ada" }]
      ipCidrs := [{ prefixAddress := .v4 #v[10, 0, 0, 0], prefixLen := 8, text := "10.0.0.0/8",
                    createdAt := sampleTime, source := "list" }]
      routes }

def sampleRoute (value : String) : BlacklistEntry :=
  { value, createdAt := sampleTime, createdBy := "ada" }

def sampleText (scalar : String) : String :=
  "http:\n  enabled: true\n  bind: 0.0.0.0\n  port: 80\n" ++
  "https:\n  enabled: true\n  bind: 0.0.0.0\n  port: 443\n  cert_file: certs/dev.crt\n" ++
  "  key_file: certs/dev.key\nupstream:\n  host: 127.0.0.1\n  port: 8000\nsites:\n  []\n" ++
  "admin:\n  enabled: true\n  bind: 127.0.0.1\n  port: 9000\n  static_dir: webui\n" ++
  "  tls_cert_file: \"\"\n  tls_key_file: \"\"\nlimits:\n  max_header_bytes: 16384\n" ++
  "  max_body_bytes: 10485760\n  upstream_connect_timeout_seconds: 5\n  request_timeout_seconds: 30\n" ++
  "blacklist:\n  ips:\n    - value: 203.0.113.7\n      created_at: 2023-11-14T22:13:20Z\n" ++
  "      created_by: ada\n      source: manual\n    - value: 10.0.0.0/8\n" ++
  "      created_at: 2023-11-14T22:13:20Z\n      source: list\n  routes:\n    - value: " ++ scalar ++
  "\n      created_at: 2023-11-14T22:13:20Z\n      created_by: ada\n      source: manual\n" ++
  "  max_body_size_bytes: 0\n  countries:\n    []\n  isps:\n    []\n  user_agents:\n    []\n" ++
  "  referrers:\n    []\n  body_patterns:\n    []\n  fake_routes:\n    []\n" ++
  "whitelist:\n  ips:\n    []\n  routes:\n    []\nban:\n  enabled: false\n  threshold: 100\n" ++
  "  ban_duration_hours: 24\n  scores:\n    body_blacklist: 75\n    body_size_limit: 60\n" ++
  "    country_blacklist: 25\n    fake_route: 100\n    isp_blacklist: 25\n    method_not_allowed: 50\n" ++
  "    referrer_blacklist: 50\n    route_blacklist: 50\n    speed_check: 40\n" ++
  "    user_agent_blacklist: 100\nsecurity:\n  require_2fa: false\nspeed_check:\n  enabled: false\n" ++
  "  max_requests: 20\n  window_seconds: 10\nmethod_check:\n  enabled: false\n  allowed_methods:\n" ++
  "    - GET\n    - POST\n    - HEAD\nemergency_off:\n  enabled: false\npages:\n  blocked_html: \"\"\n" ++
  "  banned_html: \"\"\n  status_pages:\n    []\nrequest_log:\n  enabled: false\n" ++
  "  csv_path: config/requests.csv\nrobots_txt:\n  custom_content: \"\"\ngeoip:\n  mmdb_path: \"\"\n" ++
  "  asn_mmdb_path: \"\"\nglobe:\n  public_enabled: false\n  public_bind: 0.0.0.0\n" ++
  "  public_port: 9443\n  public_tls_cert_file: \"\"\n  public_tls_key_file: \"\"\n  server_lat: ~\n" ++
  "  server_lon: ~\n  auto_detect_server_location: true\n  history_size: 500"

def sampleDoubles : Library where
  load := fun _ => none
  emit := fun _ => ""
  doubleText := fun _ => ".nan"
  readDouble := fun _ => none

def sampleYaml (text : String) (config : RuntimeConfig) : Library where
  load := fun other => if other = text then some (writeConfig sampleDoubles config) else none
  emit := fun _ => text
  doubleText := sampleDoubles.doubleText
  readDouble := sampleDoubles.readDouble

theorem sampleYaml_tree (text : String) (config : RuntimeConfig) :
    (sampleYaml text config).load ((sampleYaml text config).emit (writeConfig (sampleYaml text config) config))
      = some (writeConfig (sampleYaml text config) config) := by
  have tree : writeConfig (sampleYaml text config) config = writeConfig sampleDoubles config := rfl
  rw [tree]
  unfold sampleYaml
  dsimp only
  rw [if_pos rfl]

theorem default_typed : ({} : RuntimeConfig).Typed := by
  constructor <;> decide

theorem sampleConfig_typed (routes : List BlacklistEntry) : (sampleConfig routes).Typed :=
  { default_typed with }

theorem sampleConfig_doubles {routes : List BlacklistEntry} : DoublesReadBack yaml (sampleConfig routes) := by
  rintro bits (lat | lon)
  · cases lat
  · cases lon

theorem sampleConfig_loadable : (sampleConfig [sampleRoute "/wp-login"]).Loadable Address.ofText where
  patterns := by
    simp only [RuntimeConfig.patterns, sampleConfig, List.forall_mem_cons, List.not_mem_nil, false_implies,
      implies_true, and_true]
    exact ⟨by decide, by decide⟩
  exact := by
    simp only [sampleConfig, List.append_nil, List.forall_mem_singleton]
    exact ⟨⟨by decide, by decide⟩, by decide +kernel, by decide⟩
  ranges := by
    simp only [sampleConfig, List.append_nil, List.forall_mem_singleton]
    exact ⟨rfl, by decide⟩
  domains := by
    intro site member
    cases member
  pages := by
    intro entry member
    cases member

theorem sampleConfig_lossless :
    let config := sampleConfig [sampleRoute "/wp-login"]
    let yaml := sampleYaml (sampleText "/wp-login") config
    ∃ scores, parseYamlConfig Address.ofText yaml 0 (toYamlConfig yaml config) =
        .ok { config.truncated with ban := { config.ban with scores := scores } } ∧
      ∀ name, scores.lookup name = config.ban.scores.lookup name :=
  config_codec_lossless (sampleConfig_typed _) sampleConfig_loadable (sampleYaml_tree _ _)
    sampleConfig_doubles

end Atomwall
