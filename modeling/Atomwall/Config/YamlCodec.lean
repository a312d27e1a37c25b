import Atomwall.Base.Calendar
import Atomwall.Pipeline.NetUtils
import Atomwall.Platform.Yaml

/-! `config/yaml_codec.cpp`. `now` is what `system_clock` shows while a text is read. -/

namespace Atomwall

open ByteString Yaml

/-! ### Times -/

/-- `buf` has room for every time point. -/
def formatTimestamp (tp : Int) : String :=
  let tm := Calendar.gmtime (toSeconds tp)
  String.ofList (Decimal.padded 4 (tm.year + 1900) ++ '-' :: (Decimal.padded 2 (tm.mon + 1) ++
    '-' :: (Decimal.padded 2 tm.mday ++ 'T' :: (Decimal.padded 2 tm.hour ++
    ':' :: (Decimal.padded 2 tm.min ++ ':' :: (Decimal.padded 2 tm.sec ++ ['Z']))))))

def expect (c : Char) : List Char → Option (List Char)
  | d :: rest => if d = c then some rest else none
  | [] => none

/-- `sscanf` has read six numbers before it looks for the last character of its format. -/
def parseTimestamp (text : String) : Option Int := do
  let (year, rest) ← Decimal.scanInt text.toList
  let (mon, rest) ← Decimal.scanInt (← expect '-' rest)
  let (mday, rest) ← Decimal.scanInt (← expect '-' rest)
  let (hour, rest) ← Decimal.scanInt (← expect 'T' rest)
  let (min, rest) ← Decimal.scanInt (← expect ':' rest)
  let (sec, _) ← Decimal.scanInt (← expect ':' rest)
  return seconds (Calendar.timegm ⟨year - 1900, mon - 1, mday, hour, min, sec⟩)

/-! ### Entries -/

structure RawEntry where
  value : String
  createdAt : Int
  createdBy : String
  source : String

variable (makeAddress : MakeAddress) (yaml : Library) (now : Int)

def readCreatedAt (item : Ref) : Except Fault Int := do
  match ← item.get "created_at" with
  | none => return now
  | some ts => return (parseTimestamp (← Ref.string (some ts))).getD now

/-- The text under a key that older files do not have. -/
def readTextOr (item : Ref) (key fallback : String) : Except Fault String := do
  match ← item.get key with
  | none => return fallback
  | some text => Ref.string (some text)

def readRawFields (item : Ref) : Except Fault RawEntry :=
  match item with
  | some (.scalar value) => .ok ⟨value, now, "", "manual"⟩
  | item => do
    let value ← (← item.get "value").string
    let createdAt ← readCreatedAt now item
    let createdBy ← readTextOr item "created_by" ""
    return ⟨value, createdAt, createdBy, ← readTextOr item "source" "manual"⟩

def readRawEntry (item : Ref) : Option RawEntry :=
  match readRawFields now item with
  | .error _ => none
  | .ok entry => if isBlank entry.value then none else some entry

def RawEntry.toEntry (raw : RawEntry) : BlacklistEntry :=
  { value := raw.value, createdAt := raw.createdAt, createdBy := raw.createdBy, source := raw.source }

def readEntryList (node : Ref) : List BlacklistEntry :=
  (node.items.filterMap (readRawEntry now)).map RawEntry.toEntry

def writeEntry (entry : BlacklistEntry) : Node :=
  object [("value", .scalar entry.value), ("created_at", .scalar (formatTimestamp entry.createdAt)),
    ("created_by", .scalar entry.createdBy), ("source", .scalar entry.source)]

def writeEntryList (values : List BlacklistEntry) : Node := .sequence (values.map writeEntry)

/-- The exact address that an entry without a slash stands for. -/
def exactOf (raw : RawEntry) : Option BlacklistEntry :=
  if '/' ∈ raw.value.toList then none
  else (makeAddress raw.value).map fun _ => raw.toEntry

/-- The range that an entry with a slash stands for. -/
def rangeOf (raw : RawEntry) : Option CidrRange :=
  if '/' ∈ raw.value.toList then
    (parseCidr makeAddress now raw.value).map fun range =>
      { range with createdAt := raw.createdAt, source := raw.source }
  else none

def readIpList (node : Ref) : List BlacklistEntry × List CidrRange :=
  let raws := node.items.filterMap (readRawEntry now)
  (raws.filterMap (exactOf makeAddress), raws.filterMap (rangeOf makeAddress now))

def writeRange (range : CidrRange) : Node :=
  object [("value", .scalar range.text), ("created_at", .scalar (formatTimestamp range.createdAt)),
    ("source", .scalar range.source)]

def writeIpList (exact : List BlacklistEntry) (cidrs : List CidrRange) : Node :=
  .sequence (exact.map writeEntry ++ cidrs.map writeRange)

/-! ### Sections -/

def readHttp (n : Ref) : Except Fault HttpListenerConfig := do
  let config : HttpListenerConfig := {}
  return { enabled := (← n.get "enabled").boolOr config.enabled
           bindHost := (← n.get "bind").stringOr config.bindHost
           port := (← n.get "port").natOr .unsignedShort config.port }

def writeHttp (config : HttpListenerConfig) : Node :=
  object [("enabled", ofBool config.enabled), ("bind", .scalar config.bindHost),
    ("port", ofNat config.port)]

def readHttps (n : Ref) : Except Fault HttpsListenerConfig := do
  let config : HttpsListenerConfig := {}
  return { enabled := (← n.get "enabled").boolOr config.enabled
           bindHost := (← n.get "bind").stringOr config.bindHost
           port := (← n.get "port").natOr .unsignedShort config.port
           certFile := (← n.get "cert_file").stringOr config.certFile
           keyFile := (← n.get "key_file").stringOr config.keyFile }

def writeHttps (config : HttpsListenerConfig) : Node :=
  object [("enabled", ofBool config.enabled), ("bind", .scalar config.bindHost),
    ("port", ofNat config.port), ("cert_file", .scalar config.certFile),
    ("key_file", .scalar config.keyFile)]

def readUpstream (n : Ref) : Except Fault UpstreamConfig := do
  let config : UpstreamConfig := {}
  return { host := (← n.get "host").stringOr config.host
           port := (← n.get "port").natOr .unsignedShort config.port }

def writeUpstream (config : UpstreamConfig) : Node :=
  object [("host", .scalar config.host), ("port", ofNat config.port)]

def readSite (item : Ref) : Except Fault (Option SiteConfig) := do
  let domain := lower ((← item.get "domain").stringOr "")
  if domain = "" then return none
  else
    let upstream ← match ← item.get "upstream" with
      | none => pure {}
      | some up => readUpstream (some up)
    return some { domain, upstream
                  enabled := (← item.get "enabled").boolOr true
                  certFile := (← item.get "cert_file").stringOr ""
                  keyFile := (← item.get "key_file").stringOr "" }

def readSites (n : Ref) : Except Fault (List SiteConfig) :=
  return (← n.items.mapM readSite).reduceOption

def writeSite (site : SiteConfig) : Node :=
  object [("domain", .scalar site.domain), ("enabled", ofBool site.enabled),
    ("cert_file", .scalar site.certFile), ("key_file", .scalar site.keyFile),
    ("upstream", writeUpstream site.upstream)]

def readAdmin (n : Ref) : Except Fault AdminConfig := do
  let config : AdminConfig := {}
  return { enabled := (← n.get "enabled").boolOr config.enabled
           bindHost := (← n.get "bind").stringOr config.bindHost
           port := (← n.get "port").natOr .unsignedShort config.port
           staticDir := (← n.get "static_dir").stringOr config.staticDir
           tlsCertFile := (← n.get "tls_cert_file").stringOr config.tlsCertFile
           tlsKeyFile := (← n.get "tls_key_file").stringOr config.tlsKeyFile }

def writeAdmin (config : AdminConfig) : Node :=
  object [("enabled", ofBool config.enabled), ("bind", .scalar config.bindHost),
    ("port", ofNat config.port), ("static_dir", .scalar config.staticDir),
    ("tls_cert_file", .scalar config.tlsCertFile), ("tls_key_file", .scalar config.tlsKeyFile)]

def readLimits (n : Ref) : Except Fault LimitsConfig := do
  let config : LimitsConfig := {}
  return { maxHeaderBytes := (← n.get "max_header_bytes").natOr .size config.maxHeaderBytes
           maxBodyBytes := (← n.get "max_body_bytes").natOr .size config.maxBodyBytes
           upstreamConnectTimeout :=
             (← n.get "upstream_connect_timeout_seconds").intOr .longLong config.upstreamConnectTimeout
           requestTimeout := (← n.get "request_timeout_seconds").intOr .longLong config.requestTimeout }

def writeLimits (config : LimitsConfig) : Node :=
  object [("max_header_bytes", ofNat config.maxHeaderBytes), ("max_body_bytes", ofNat config.maxBodyBytes),
    ("upstream_connect_timeout_seconds", ofInt config.upstreamConnectTimeout),
    ("request_timeout_seconds", ofInt config.requestTimeout)]

def readBlacklist (n : Ref) : Except Fault BlacklistConfig := do
  let config : BlacklistConfig := {}
  let ips := readIpList makeAddress now (← n.get "ips")
  return { ipExact := ips.1
           ipCidrs := ips.2
           routes := readEntryList now (← n.get "routes")
           countries := readEntryList now (← n.get "countries")
           isps := readEntryList now (← n.get "isps")
           userAgents := readEntryList now (← n.get "user_agents")
           referrers := readEntryList now (← n.get "referrers")
           bodyPatterns := readEntryList now (← n.get "body_patterns")
           fakeRoutes := readEntryList now (← n.get "fake_routes")
           maxBodySizeBytes := (← n.get "max_body_size_bytes").natOr .size config.maxBodySizeBytes }

def writeBlacklist (config : BlacklistConfig) : Node :=
  object [("ips", writeIpList config.ipExact config.ipCidrs), ("routes", writeEntryList config.routes),
    ("max_body_size_bytes", ofNat config.maxBodySizeBytes),
    ("countries", writeEntryList config.countries), ("isps", writeEntryList config.isps),
    ("user_agents", writeEntryList config.userAgents), ("referrers", writeEntryList config.referrers),
    ("body_patterns", writeEntryList config.bodyPatterns),
    ("fake_routes", writeEntryList config.fakeRoutes)]

def readWhitelist (n : Ref) : Except Fault WhitelistConfig := do
  let ips := readIpList makeAddress now (← n.get "ips")
  return { ipExact := ips.1, ipCidrs := ips.2, routes := readEntryList now (← n.get "routes") }

def writeWhitelist (config : WhitelistConfig) : Node :=
  object [("ips", writeIpList config.ipExact config.ipCidrs), ("routes", writeEntryList config.routes)]

def readScore (scores : KeyMap String Int) (pair : Ref × Ref) : Except Fault (KeyMap String Int) := do
  return scores.insert (← pair.1.string) (← pair.2.int .int)

def readBan (n : Ref) : Except Fault BanConfig := do
  let config : BanConfig := {}
  let scores ← match ← n.get "scores" with
    | none => pure config.scores
    | some scores => (Ref.pairs (some scores)).foldlM readScore ∅
  return { enabled := (← n.get "enabled").boolOr config.enabled
           threshold := (← n.get "threshold").intOr .int config.threshold
           banDurationHours := (← n.get "ban_duration_hours").intOr .int config.banDurationHours
           scores }

/-- The order of a `std::map`. -/
def sortedScores (scores : KeyMap String Int) : List (Sigma fun _ : String => Int) :=
  scores.entries.mergeSort fun a b => decide (a.1 ≤ b.1)

/-- A `YAML::Node` to which nothing is added stays null. -/
def writeScores (scores : KeyMap String Int) : Node :=
  if (sortedScores scores).isEmpty then .null
  else object ((sortedScores scores).map fun score => (score.1, ofInt score.2))

def writeBan (config : BanConfig) : Node :=
  object [("enabled", ofBool config.enabled), ("threshold", ofInt config.threshold),
    ("ban_duration_hours", ofInt config.banDurationHours), ("scores", writeScores config.scores)]

def readSecurity (n : Ref) : Except Fault SecurityConfig := do
  let config : SecurityConfig := {}
  return { require2fa := (← n.get "require_2fa").boolOr config.require2fa }

def writeSecurity (config : SecurityConfig) : Node := object [("require_2fa", ofBool config.require2fa)]

def readMethodCheck (n : Ref) : Except Fault MethodCheckConfig := do
  let config : MethodCheckConfig := {}
  let allowedMethods ← match ← n.get "allowed_methods" with
    | none => pure config.allowedMethods
    | some methods => (Ref.items (some methods)).mapM Ref.string
  return { enabled := (← n.get "enabled").boolOr config.enabled, allowedMethods }

def writeMethodCheck (config : MethodCheckConfig) : Node :=
  object [("enabled", ofBool config.enabled),
    ("allowed_methods", .sequence (config.allowedMethods.map .scalar))]

def readEmergencyOff (n : Ref) : Except Fault EmergencyOffConfig := do
  let config : EmergencyOffConfig := {}
  return { enabled := (← n.get "enabled").boolOr config.enabled }

def writeEmergencyOff (config : EmergencyOffConfig) : Node := object [("enabled", ofBool config.enabled)]

def readSpeedCheck (n : Ref) : Except Fault SpeedCheckConfig := do
  let config : SpeedCheckConfig := {}
  return { enabled := (← n.get "enabled").boolOr config.enabled
           maxRequests := (← n.get "max_requests").intOr .int config.maxRequests
           windowSeconds := (← n.get "window_seconds").intOr .int config.windowSeconds }

def writeSpeedCheck (config : SpeedCheckConfig) : Node :=
  object [("enabled", ofBool config.enabled), ("max_requests", ofInt config.maxRequests),
    ("window_seconds", ofInt config.windowSeconds)]

def readStatusPage (item : Ref) : Except Fault StatusPageEntry := do
  return { code := ← (← item.get "code").int .int
           html := ← (← item.get "html").string
           createdAt := ← readCreatedAt now item }

def writeStatusPage (entry : StatusPageEntry) : Node :=
  object [("code", ofInt entry.code), ("html", .scalar entry.html),
    ("created_at", .scalar (formatTimestamp entry.createdAt))]

def readPages (n : Ref) : Except Fault ResponsePagesConfig := do
  let config : ResponsePagesConfig := {}
  let statusPages ← match ← n.get "status_pages" with
    | none => pure config.statusPages
    | some pages => (Ref.items (some pages)).mapM (readStatusPage now)
  return { blockedHtml := (← n.get "blocked_html").stringOr config.blockedHtml
           bannedHtml := (← n.get "banned_html").stringOr config.bannedHtml
           statusPages }

def writePages (config : ResponsePagesConfig) : Node :=
  object [("blocked_html", .scalar config.blockedHtml), ("banned_html", .scalar config.bannedHtml),
    ("status_pages", .sequence (config.statusPages.map writeStatusPage))]

def readRobotsTxt (n : Ref) : Except Fault RobotsTxtConfig := do
  let config : RobotsTxtConfig := {}
  return { customContent := (← n.get "custom_content").stringOr config.customContent }

def writeRobotsTxt (config : RobotsTxtConfig) : Node :=
  object [("custom_content", .scalar config.customContent)]

def readRequestLog (n : Ref) : Except Fault RequestLogConfig := do
  let config : RequestLogConfig := {}
  return { enabled := (← n.get "enabled").boolOr config.enabled
           csvPath := (← n.get "csv_path").stringOr config.csvPath }

def writeRequestLog (config : RequestLogConfig) : Node :=
  object [("enabled", ofBool config.enabled), ("csv_path", .scalar config.csvPath)]

def readGeoip (n : Ref) : Except Fault GeoIpConfig := do
  let config : GeoIpConfig := {}
  return { mmdbPath := (← n.get "mmdb_path").stringOr config.mmdbPath
           asnMmdbPath := (← n.get "asn_mmdb_path").stringOr config.asnMmdbPath }

def writeGeoip (config : GeoIpConfig) : Node :=
  object [("mmdb_path", .scalar config.mmdbPath), ("asn_mmdb_path", .scalar config.asnMmdbPath)]

/-- A coordinate, unless it is absent or null. -/
def readCoordinate (node : Ref) : Except Fault (Option UInt64) :=
  match node with
  | none | some .null => .ok none
  | some coordinate => do return some (← Ref.required (Ref.decode yaml.readDouble (some coordinate)))

def writeCoordinate (bits : Option UInt64) : Node :=
  match bits with
  | some bits => .scalar (yaml.doubleText bits)
  | none => .null

def readGlobe (n : Ref) : Except Fault GlobeConfig := do
  let config : GlobeConfig := {}
  return { publicEnabled := (← n.get "public_enabled").boolOr config.publicEnabled
           publicBindHost := (← n.get "public_bind").stringOr config.publicBindHost
           publicPort := (← n.get "public_port").natOr .unsignedShort config.publicPort
           publicTlsCertFile := (← n.get "public_tls_cert_file").stringOr config.publicTlsCertFile
           publicTlsKeyFile := (← n.get "public_tls_key_file").stringOr config.publicTlsKeyFile
           serverLatBits := ← readCoordinate yaml (← n.get "server_lat")
           serverLonBits := ← readCoordinate yaml (← n.get "server_lon")
           autoDetectServerLocation :=
             (← n.get "auto_detect_server_location").boolOr config.autoDetectServerLocation
           historySize := (← n.get "history_size").natOr .size config.historySize }

def writeGlobe (config : GlobeConfig) : Node :=
  object [("public_enabled", ofBool config.publicEnabled), ("public_bind", .scalar config.publicBindHost),
    ("public_port", ofNat config.publicPort),
    ("public_tls_cert_file", .scalar config.publicTlsCertFile),
    ("public_tls_key_file", .scalar config.publicTlsKeyFile),
    ("server_lat", writeCoordinate yaml config.serverLatBits),
    ("server_lon", writeCoordinate yaml config.serverLonBits),
    ("auto_detect_server_location", ofBool config.autoDetectServerLocation),
    ("history_size", ofNat config.historySize)]

/-! ### The whole file -/

/-- A section that is there is read; the others keep their defaults. -/
def readSection {α : Type} (root : Ref) (key : String) (initial : α) (read : Ref → Except Fault α) :
    Except Fault α := do
  match ← root.get key with
  | none => return initial
  | some n => read (some n)

def readConfig (root : Ref) : Except Fault RuntimeConfig := do
  let config : RuntimeConfig := {}
  return { http := ← readSection root "http" config.http readHttp
           https := ← readSection root "https" config.https readHttps
           upstream := ← readSection root "upstream" config.upstream readUpstream
           sites := ← readSection root "sites" config.sites readSites
           admin := ← readSection root "admin" config.admin readAdmin
           limits := ← readSection root "limits" config.limits readLimits
           blacklist := ← readSection root "blacklist" config.blacklist (readBlacklist makeAddress now)
           whitelist := ← readSection root "whitelist" config.whitelist (readWhitelist makeAddress now)
           ban := ← readSection root "ban" config.ban readBan
           security := ← readSection root "security" config.security readSecurity
           methodCheck := ← readSection root "method_check" config.methodCheck readMethodCheck
           emergencyOff := ← readSection root "emergency_off" config.emergencyOff readEmergencyOff
           speedCheck := ← readSection root "speed_check" config.speedCheck readSpeedCheck
           pages := ← readSection root "pages" config.pages (readPages now)
           robotsTxt := ← readSection root "robots_txt" config.robotsTxt readRobotsTxt
           requestLog := ← readSection root "request_log" config.requestLog readRequestLog
           geoip := ← readSection root "geoip" config.geoip readGeoip
           globe := ← readSection root "globe" config.globe (readGlobe yaml) }

def writeConfig (config : RuntimeConfig) : Node :=
  object [("http", writeHttp config.http), ("https", writeHttps config.https),
    ("upstream", writeUpstream config.upstream), ("sites", .sequence (config.sites.map writeSite)),
    ("admin", writeAdmin config.admin), ("limits", writeLimits config.limits),
    ("blacklist", writeBlacklist config.blacklist), ("whitelist", writeWhitelist config.whitelist),
    ("ban", writeBan config.ban), ("security", writeSecurity config.security),
    ("speed_check", writeSpeedCheck config.speedCheck),
    ("method_check", writeMethodCheck config.methodCheck),
    ("emergency_off", writeEmergencyOff config.emergencyOff), ("pages", writePages config.pages),
    ("request_log", writeRequestLog config.requestLog), ("robots_txt", writeRobotsTxt config.robotsTxt),
    ("geoip", writeGeoip config.geoip), ("globe", writeGlobe yaml config.globe)]

def parseYamlConfig (yamlText : String) : Except Fault RuntimeConfig :=
  match yaml.load yamlText with
  | none => .error .runtimeError
  | some root => readConfig makeAddress yaml now (some root)

def toYamlConfig (config : RuntimeConfig) : String := yaml.emit (writeConfig yaml config)

end Atomwall
