import Atomwall.Admin.UrlFetch
import Atomwall.Admin.Views
import Atomwall.Config.WellFormed

/-!
The handlers of `admin_server.cpp` that show and change the configuration. `config_store->update` runs its
mutator on a copy, which is published when the mutator returns; what it throws leaves nothing behind.
-/

namespace Atomwall.Admin

open Http

/-! ### Fields of a request -/

def jsonBoolField (obj : JsonObject) (key : String) : Option Bool :=
  match obj.find key with
  | some (.bool value) => some value
  | _ => none

/-- `saturating_to_int` of `to_number<double>`. -/
def numberToInt : Json → Option Int
  | .int64 n => some (saturate n)
  | .uint64 n => some (saturate n)
  | .double bits => some (saturatingToInt bits)
  | _ => none

def positiveField (body : JsonObject) (key : String) (current : Int) : Except Fault Int :=
  match jsonIntField body key with
  | none => .ok current
  | some n => if n ≤ 0 then .error (.invalidArgument (key ++ " must be positive")) else .ok n

def outOfBounds (key : String) (bound : Int) : String := key ++ " must be between 1 and " ++ toString bound

def boundedField (body : JsonObject) (key : String) (bound current : Int) : Except Fault Int :=
  match jsonIntField body key with
  | none => .ok current
  | some n =>
    if n ≤ 0 ∨ bound < n then .error (.invalidArgument (outOfBounds key bound)) else .ok n

/-- `from_chars` of an `int`, which stops at the first character that is no digit. -/
def fromCharsInt (text : String) : Option Int :=
  let read : Option Int := match text.toList with
    | '-' :: rest => (Decimal.scanNat rest).map fun (n, _) => -(n : Int)
    | rest => (Decimal.scanNat rest).map fun (n, _) => (n : Int)
  read.filter fun n => decide (Yaml.IntType.int.Holds n)

/-! ### Coordinates -/

/-- The double that is the natural number, below 2^53. -/
def natToDouble (n : Nat) : Nat :=
  if n = 0 then 0
  else (1023 + n.log2) * 4503599627370496 + ((n <<< (52 - n.log2)) - 4503599627370496)

def kSignBit : Nat := 9223372036854775808

def intToDouble (n : Int) : UInt64 :=
  UInt64.ofNat (natToDouble n.natAbs + if n < 0 then kSignBit else 0)

/-- The double is less than `-limit` or more than `limit`; NaN is neither. Magnitudes are ordered as
their bits are. -/
def farFrom (limit : Nat) (bits : UInt64) : Bool :=
  let magnitude := bits.toNat % kSignBit
  decide (natToDouble limit < magnitude ∧ magnitude ≤ 2047 * 4503599627370496)

def coordinateOf (limit : Nat) : Json → Option (Option UInt64)
  | .int64 n => some (if limit < n.natAbs then none else some (intToDouble n))
  | .uint64 n => some (if limit < n then none else some (intToDouble n))
  | .double bits => some (if farFrom limit bits then none else some bits)
  | _ => none

def coordinateField (body : JsonObject) (key : String) (limit : Nat) (current : Option UInt64) :
    Except Fault (Option UInt64) :=
  match body.find key with
  | none => .ok current
  | some .null => .ok none
  | some value =>
    match coordinateOf limit value with
    | none => .ok current
    | some none =>
      .error (.invalidArgument
        (key ++ " must be between -" ++ toString limit ++ " and " ++ toString limit))
    | some (some bits) => .ok (some bits)

/-! ### Mutators -/

def setScore (scores : KeyMap String Int) (score : String × Json) : KeyMap String Int :=
  match numberToInt score.2 with
  | some points => scores.insert score.1 points
  | none => scores

def setScores (body : JsonObject) (scores : KeyMap String Int) : KeyMap String Int :=
  match body.find "scores" with
  | some (.object members) => members.foldl setScore scores
  | _ => scores

def setBan (body : JsonObject) (config : RuntimeConfig) : Except Fault RuntimeConfig := do
  let ban := config.ban
  let threshold ← positiveField body "threshold" ban.threshold
  let banDurationHours ←
    boundedField body "ban_duration_hours" kMaxBanDurationHours ban.banDurationHours
  return { config with ban :=
    { enabled := (jsonBoolField body "enabled").getD ban.enabled, threshold, banDurationHours
      scores := setScores body ban.scores } }

def setSpeedCheck (body : JsonObject) (config : RuntimeConfig) : Except Fault RuntimeConfig := do
  let speedCheck := config.speedCheck
  let maxRequests ← positiveField body "max_requests" speedCheck.maxRequests
  let windowSeconds ← positiveField body "window_seconds" speedCheck.windowSeconds
  return { config with speedCheck :=
    { enabled := (jsonBoolField body "enabled").getD speedCheck.enabled, maxRequests, windowSeconds } }

def setEmergencyOff (enabled : Bool) (config : RuntimeConfig) : RuntimeConfig :=
  { config with emergencyOff := ⟨enabled⟩ }

def setPages (body : JsonObject) (config : RuntimeConfig) : RuntimeConfig :=
  { config with pages := { config.pages with
      blockedHtml := (jsonStringField body "blocked_html").getD config.pages.blockedHtml
      bannedHtml := (jsonStringField body "banned_html").getD config.pages.bannedHtml } }

def setRequestLog (body : JsonObject) (config : RuntimeConfig) : RuntimeConfig :=
  { config with requestLog :=
    { enabled := (jsonBoolField body "enabled").getD config.requestLog.enabled
      csvPath := (jsonStringField body "csv_path").getD config.requestLog.csvPath } }

def setRobotsTxt (body : JsonObject) (config : RuntimeConfig) : RuntimeConfig :=
  match jsonStringField body "custom_content" with
  | some content => { config with robotsTxt := ⟨content⟩ }
  | none => config

def setBodySizeLimit (maxBytes : Int) (config : RuntimeConfig) : RuntimeConfig :=
  { config with blacklist := { config.blacklist with maxBodySizeBytes := maxBytes.toNat } }

def setGeoip (path asnPath : Option String) (config : RuntimeConfig) : RuntimeConfig :=
  { config with geoip :=
    ⟨path.getD config.geoip.mmdbPath, asnPath.getD config.geoip.asnMmdbPath⟩ }

def setGlobe (body : JsonObject) (config : RuntimeConfig) : Except Fault RuntimeConfig := do
  let globe := config.globe
  let publicPort ← boundedField body "public_port" 65535 globe.publicPort
  let serverLatBits ← coordinateField body "server_lat" 90 globe.serverLatBits
  let serverLonBits ← coordinateField body "server_lon" 180 globe.serverLonBits
  let historySize ← positiveField body "history_size" globe.historySize
  return { config with globe :=
    { publicEnabled := (jsonBoolField body "public_enabled").getD globe.publicEnabled
      publicBindHost := (jsonStringField body "public_bind").getD globe.publicBindHost
      publicPort := publicPort.toNat
      publicTlsCertFile := (jsonStringField body "public_tls_cert_file").getD globe.publicTlsCertFile
      publicTlsKeyFile := (jsonStringField body "public_tls_key_file").getD globe.publicTlsKeyFile
      serverLatBits, serverLonBits
      autoDetectServerLocation :=
        (jsonBoolField body "auto_detect_server_location").getD globe.autoDetectServerLocation
      historySize := historySize.toNat } }

/-- The site of a body, or the reply to a body that names none. -/
def siteOfBody (body : Option JsonObject) : Except String SiteConfig :=
  match body.bind (jsonStringField · "domain"), body.bind (jsonStringField · "upstream_host"),
      body.bind (jsonIntField · "upstream_port") with
  | some domain, some host, some port =>
    if port ≤ 0 ∨ 65535 < port then .error (outOfBounds "upstream_port" 65535)
    else .ok
      { domain, upstream := ⟨host, port.toNat⟩
        certFile := (body.bind (jsonStringField · "cert_file")).getD ""
        keyFile := (body.bind (jsonStringField · "key_file")).getD ""
        enabled := (body.bind (jsonBoolField · "enabled")).getD true }
  | _, _, _ => .error "expected JSON body \x7b\"domain\", \"upstream_host\", \"upstream_port\", ...\x7d"

def siteUpdateOf (body : JsonObject) : Except String SiteUpdate :=
  let update : SiteUpdate :=
    { enabled := jsonBoolField body "enabled", certFile := jsonStringField body "cert_file"
      keyFile := jsonStringField body "key_file", upstreamHost := jsonStringField body "upstream_host" }
  match jsonIntField body "upstream_port" with
  | none => .ok update
  | some port =>
    if port ≤ 0 ∨ 65535 < port then .error (outOfBounds "upstream_port" 65535)
    else .ok { update with upstreamPort := some port.toNat }

/-! ### Answers -/

/-- A handler with no other between its calls. What it throws closes the connection. -/
abbrev ConfigHandler := IpBlockState → Except Fault Response × IpBlockState

def replying (response : Response) : ConfigHandler := fun state => (.ok response, state)

def viewing (view : RuntimeConfig → Json) (version : Nat) : ConfigHandler := fun state =>
  (.ok (jsonResponse 200 (view state.config) version), state)

/-- `update`, then the view of what is published; `std::invalid_argument` is answered with `refused`. -/
def updating (mutator : RuntimeConfig → Except Fault RuntimeConfig) (refused : Nat)
    (view : RuntimeConfig → Json) (version : Nat) : ConfigHandler := fun state =>
  match mutator state.config with
  | .ok config => (.ok (jsonResponse 200 (view config) version), { state with config })
  | .error (.invalidArgument what) => (.ok (errorResponse refused what version), state)
  | .error .runtimeError => (.error .runtimeError, state)

def failedToPersist (version : Nat) : Response := errorResponse 500 "failed to persist config" version

/-- `update` in a `try` that catches every exception; `invalid` answers `std::invalid_argument`. -/
def persisting {α : Type} (mutator : InPlace RuntimeConfig α) (invalid : String → Response)
    (view : α → RuntimeConfig → Json) (version : Nat) : ConfigHandler := fun state =>
  match mutator state.config with
  | (.ok a, config) => (.ok (jsonResponse 200 (view a config) version), { state with config })
  | (.error (.invalidArgument what), _) => (.ok (invalid what), state)
  | (.error .runtimeError, _) => (.ok (failedToPersist version), state)

/-- What a handler finds outside the process: the clock at each entry, the answers of `fetch_url`, the
directory of the configuration, how saving an upload ends, and whether the databases are loaded. -/
structure Surroundings where
  clock : Nat → Int
  readings : IpBlockReadings
  fetched : String → UrlFetchResult := fun _ => {}
  configDir : String := "config"
  saveUpload : String → Except String Unit := fun _ => .ok ()
  geoipLoaded : Bool := false
  asnLoaded : Bool := false

section Handlers

variable (libs : Libraries) (makeAddress : MakeAddress) (env : Surroundings) (request : Request)

def kExpectedJsonBody : String := "expected JSON body"

def kExpectedValue : String := "expected JSON body \x7b\"value\": \"...\"\x7d"

def kExpectedUrl : String := "expected JSON body \x7b\"url\": \"...\"\x7d"

/-- The common start of the handlers that take an object. -/
def withBody (rest : JsonObject → ConfigHandler) : ConfigHandler :=
  match libs.parseJsonObject request.body with
  | none => replying (errorResponse 400 kExpectedJsonBody request.version)
  | some body => rest body

/-! ### The lists -/

def listMutation (target : EntryList) (view : RuntimeConfig → Json) (method : Verb) (actingUser : String) :
    ConfigHandler :=
  match namedValue libs request.body with
  | none => replying (errorResponse 400 kExpectedValue request.version)
  | some (_, value) =>
    persisting
      (if method = .post then target.addInPlace makeAddress (env.clock 0) value actingUser "manual"
        else target.removeInPlace value)
      (errorResponse 400 · request.version) (fun _ => view) request.version

def listClear (target : EntryList) (view : RuntimeConfig → Json) : ConfigHandler :=
  persisting target.clearInPlace (fun _ => failedToPersist request.version) (fun _ => view) request.version

def listImport (target : EntryList) (view : RuntimeConfig → Json) (actingUser text : String) : ConfigHandler :=
  persisting (target.importEntries makeAddress env.clock text actingUser)
    (fun _ => failedToPersist request.version)
    (fun result config => .object
      [("added", .uint64 result.added), ("skipped", .uint64 result.skipped), ("entries", view config)])
    request.version

/-- The import of what `fetch_url` brings. -/
def listImportUrl (importText : String → ConfigHandler) : ConfigHandler :=
  match (libs.parseJsonObject request.body).bind (jsonStringField · "url") with
  | none => replying (errorResponse 400 kExpectedUrl request.version)
  | some url =>
    if (env.fetched url).ok then importText (env.fetched url).body
    else replying (errorResponse 502 (env.fetched url).error request.version)

def withCategory (categoryName : String) (rest : BlacklistCategory → ConfigHandler) : ConfigHandler :=
  match parseBlacklistCategory categoryName with
  | none => replying (errorResponse 404 "unknown blacklist category" request.version)
  | some category => rest category

def handleBlacklistMutation (method : Verb) (categoryName actingUser : String) : ConfigHandler :=
  withCategory request categoryName fun category =>
    if category = .ips then fun state =>
      let (response, next) :=
        handleIpBlockMutation libs makeAddress env.readings state method request.body request.version
      (.ok response, next)
    else
      listMutation libs makeAddress env request (.blacklist category)
        (fun config => blacklistCategoryToJson libs config.blacklist category) method actingUser

def handleBlacklistClear (categoryName : String) : ConfigHandler :=
  withCategory request categoryName fun category =>
    listClear request (.blacklist category) fun config => blacklistCategoryToJson libs config.blacklist category

def applyBlacklistImport (category : BlacklistCategory) (actingUser text : String) : ConfigHandler :=
  listImport makeAddress env request (.blacklist category)
    (fun config => blacklistCategoryToJson libs config.blacklist category) actingUser text

def handleBlacklistImport (categoryName actingUser : String) : ConfigHandler :=
  withCategory request categoryName fun category =>
    applyBlacklistImport libs makeAddress env request category actingUser request.body

def handleBlacklistImportUrl (categoryName actingUser : String) : ConfigHandler :=
  withCategory request categoryName fun category =>
    listImportUrl libs env request (applyBlacklistImport libs makeAddress env request category actingUser)

def whitelistView (config : RuntimeConfig) : Json := whitelistToJson libs config.whitelist

def handleWhitelistMutation (method : Verb) (actingUser : String) : ConfigHandler :=
  listMutation libs makeAddress env request .whitelist (whitelistView libs) method actingUser

def handleWhitelistClear : ConfigHandler := listClear request .whitelist (whitelistView libs)

def handleWhitelistImport (actingUser text : String) : ConfigHandler :=
  listImport makeAddress env request .whitelist (whitelistView libs) actingUser text

def handleWhitelistImportUrl (actingUser : String) : ConfigHandler :=
  listImportUrl libs env request (handleWhitelistImport libs makeAddress env request actingUser)

def whitelistRoutesView (config : RuntimeConfig) : Json := whitelistRoutesToJson libs config.whitelist

def handleWhitelistRoutesMutation (method : Verb) (actingUser : String) : ConfigHandler :=
  listMutation libs makeAddress env request .whitelistRoutes (whitelistRoutesView libs) method actingUser

def handleWhitelistRoutesClear : ConfigHandler := listClear request .whitelistRoutes (whitelistRoutesView libs)

def handleWhitelistRoutesImport (actingUser text : String) : ConfigHandler :=
  listImport makeAddress env request .whitelistRoutes (whitelistRoutesView libs) actingUser text

def handleWhitelistRoutesImportUrl (actingUser : String) : ConfigHandler :=
  listImportUrl libs env request (handleWhitelistRoutesImport libs makeAddress env request actingUser)

/-! ### Sites -/

def handleSitesCreate : ConfigHandler :=
  match siteOfBody (libs.parseJsonObject request.body) with
  | .error what => replying (errorResponse 400 what request.version)
  | .ok site => updating (addSite · site) 400 sitesToJson request.version

def handleSitesUpdate (domain : String) : ConfigHandler :=
  withBody libs request fun body =>
    match siteUpdateOf body with
    | .error what => replying (errorResponse 400 what request.version)
    | .ok update => updating (updateSite · domain update) 404 sitesToJson request.version

def handleSitesDelete (domain : String) : ConfigHandler :=
  updating (removeSite · domain) 404 sitesToJson request.version

/-! ### Settings -/

def handleBanConfigUpdate : ConfigHandler := withBody libs request fun body =>
  updating (setBan body) 400 (fun config => banConfigToJson config.ban) request.version

def handleSpeedCheckUpdate : ConfigHandler := withBody libs request fun body =>
  updating (setSpeedCheck body) 400 (fun config => speedCheckToJson config.speedCheck) request.version

def methodCheckUpdate : ConfigHandler := withBody libs request fun body =>
  updating (setMethodCheck body) 400 (fun config => methodCheckToJson config.methodCheck) request.version

def handleEmergencyOffUpdate : ConfigHandler :=
  match (libs.parseJsonObject request.body).bind (jsonBoolField · "enabled") with
  | none => replying (errorResponse 400 "expected JSON body \x7b\"enabled\": bool\x7d" request.version)
  | some enabled =>
    updating (fun config => .ok (setEmergencyOff enabled config)) 400
      (fun config => emergencyOffToJson config.emergencyOff) request.version

def pagesView (config : RuntimeConfig) : Json := pagesToJson libs config.pages

def handlePagesUpdate : ConfigHandler := withBody libs request fun body =>
  updating (fun config => .ok (setPages body config)) 400 (pagesView libs) request.version

def handleStatusPageAdd : ConfigHandler :=
  let body := libs.parseJsonObject request.body
  match body.bind (jsonIntField · "code"), body.bind (jsonStringField · "html") with
  | some code, some html =>
    updating (addStatusPage (env.clock 0) · code html) 400 (pagesView libs) request.version
  | _, _ => replying (errorResponse 400
      "expected JSON body \x7b\"code\": <int>, \"html\": \"...\"\x7d" request.version)

def withCode (codeText : String) (rest : Int → ConfigHandler) : ConfigHandler :=
  match fromCharsInt codeText with
  | none => replying (errorResponse 400 "status code must be numeric" request.version)
  | some code => rest code

def handleStatusPageUpdate (codeText : String) : ConfigHandler :=
  withCode request codeText fun code =>
    match (libs.parseJsonObject request.body).bind (jsonStringField · "html") with
    | none => replying (errorResponse 400 "expected JSON body \x7b\"html\": \"...\"\x7d" request.version)
    | some html => updating (updateStatusPage · code html) 404 (pagesView libs) request.version

def handleStatusPageDelete (codeText : String) : ConfigHandler :=
  withCode request codeText fun code =>
    updating (removeStatusPage · code) 404 (pagesView libs) request.version

def handleRequestLogConfigUpdate : ConfigHandler := withBody libs request fun body =>
  updating (fun config => .ok (setRequestLog body config)) 400
    (fun config => requestLogConfigToJson config.requestLog) request.version

def handleRobotsTxtConfigUpdate : ConfigHandler := withBody libs request fun body =>
  updating (fun config => .ok (setRobotsTxt body config)) 400
    (fun config => robotsTxtConfigToJson config.robotsTxt) request.version

def handleBodySizeLimitUpdate : ConfigHandler :=
  match ((libs.parseJsonObject request.body).bind (jsonIntField · "max_bytes")).filter (0 ≤ ·) with
  | none => replying (errorResponse 400 "expected JSON body \x7b\"max_bytes\": N\x7d" request.version)
  | some maxBytes =>
    updating (fun config => .ok (setBodySizeLimit maxBytes config)) 400
      (fun config => .object [("max_bytes", .uint64 config.blacklist.maxBodySizeBytes)]) request.version

/-! ### Databases and the globe -/

/-- `config_dir / "geoip" / filename`. -/
def uploadPath (filename : String) : String :=
  if env.configDir = "" ∨ ByteString.endsWith env.configDir "/" then env.configDir ++ "geoip/" ++ filename
  else env.configDir ++ "/geoip/" ++ filename

def handleMmdbUpload (filename : String) (applyPath : String → RuntimeConfig → RuntimeConfig) :
    ConfigHandler :=
  if request.body = "" then replying (errorResponse 400 "empty upload" request.version)
  else
    match env.saveUpload (uploadPath env filename) with
    | .error what => replying (errorResponse 500 what request.version)
    | .ok () =>
      updating (fun config => .ok (applyPath (uploadPath env filename) config)) 400
        (fun _ => .object [("mmdb_path", .string (uploadPath env filename)),
          ("bytes", .uint64 request.body.utf8ByteSize)]) request.version

def handleGeoipUpload : ConfigHandler :=
  handleMmdbUpload env request "GeoLite2-City.mmdb" fun path => setGeoip (some path) none

def handleAsnUpload : ConfigHandler :=
  handleMmdbUpload env request "GeoLite2-ASN.mmdb" fun path => setGeoip none (some path)

def geoipView (config : RuntimeConfig) : Json := geoipConfigToJson config.geoip env.geoipLoaded env.asnLoaded

def handleGeoipConfigUpdate : ConfigHandler := withBody libs request fun body =>
  let path := jsonStringField body "mmdb_path"
  let asnPath := jsonStringField body "asn_mmdb_path"
  if path.isNone && asnPath.isNone then
    replying (errorResponse 400 "expected JSON body with \"mmdb_path\" and/or \"asn_mmdb_path\""
      request.version)
  else updating (fun config => .ok (setGeoip path asnPath config)) 400 (geoipView env) request.version

def handleGlobeConfigUpdate : ConfigHandler := withBody libs request fun body =>
  updating (setGlobe body) 400 (fun config => globeConfigToJson config.globe) request.version

def securityConfigUpdate : ConfigHandler := withBody libs request fun body =>
  updating (fun config => .ok (setRequire2fa body config)) 400
    (fun config => securityConfigToJson config.security) request.version

/-! ### The router -/

/-- The handler of a route that shows or changes the configuration or the blocked addresses. -/
def configHandler (actingUser : String) : Route → Option ConfigHandler
  | .securityConfig => some (viewing (fun config => securityConfigToJson config.security) request.version)
  | .securityConfigUpdate => some (securityConfigUpdate libs request)
  | .config => some (viewing (configToJson libs) request.version)
  | .blacklist => some (viewing (fun config => blacklistToJson libs config.blacklist) request.version)
  | .sites => some (viewing sitesToJson request.version)
  | .sitesCreate => some (handleSitesCreate libs request)
  | .sitesUpdate domain => some (handleSitesUpdate libs request domain)
  | .sitesDelete domain => some (handleSitesDelete request domain)
  | .ipBlocks => some fun state =>
    let (response, next) := listedResponse libs env.readings.listed state request.version
    (.ok response, next)
  | .banConfig => some (viewing (fun config => banConfigToJson config.ban) request.version)
  | .banConfigUpdate => some (handleBanConfigUpdate libs request)
  | .speedCheck => some (viewing (fun config => speedCheckToJson config.speedCheck) request.version)
  | .speedCheckUpdate => some (handleSpeedCheckUpdate libs request)
  | .methodCheck => some (viewing (fun config => methodCheckToJson config.methodCheck) request.version)
  | .methodCheckUpdate => some (methodCheckUpdate libs request)
  | .emergencyOff => some (viewing (fun config => emergencyOffToJson config.emergencyOff) request.version)
  | .emergencyOffUpdate => some (handleEmergencyOffUpdate libs request)
  | .pages => some (viewing (pagesView libs) request.version)
  | .pagesUpdate => some (handlePagesUpdate libs request)
  | .statusPageAdd => some (handleStatusPageAdd libs env request)
  | .statusPageUpdate code => some (handleStatusPageUpdate libs request code)
  | .statusPageDelete code => some (handleStatusPageDelete libs request code)
  | .requestLogConfig => some (viewing (fun config => requestLogConfigToJson config.requestLog) request.version)
  | .requestLogConfigUpdate => some (handleRequestLogConfigUpdate libs request)
  | .robotsTxt => some (viewing (fun config => robotsTxtConfigToJson config.robotsTxt) request.version)
  | .robotsTxtUpdate => some (handleRobotsTxtConfigUpdate libs request)
  | .bodySizeLimitUpdate => some (handleBodySizeLimitUpdate libs request)
  | .geoipUpload => some (handleGeoipUpload env request)
  | .asnUpload => some (handleAsnUpload env request)
  | .geoipConfig => some (viewing (geoipView env) request.version)
  | .geoipConfigUpdate => some (handleGeoipConfigUpdate libs env request)
  | .globeConfig => some (viewing (fun config => globeConfigToJson config.globe) request.version)
  | .globeConfigUpdate => some (handleGlobeConfigUpdate libs request)
  | .blacklistImport name => some (handleBlacklistImport libs makeAddress env request name actingUser)
  | .blacklistImportUrl name => some (handleBlacklistImportUrl libs makeAddress env request name actingUser)
  | .blacklistClear name => some (handleBlacklistClear libs request name)
  | .blacklistMutation method name =>
    some (handleBlacklistMutation libs makeAddress env request method name actingUser)
  | .whitelistImport => some (handleWhitelistImport libs makeAddress env request actingUser request.body)
  | .whitelistImportUrl => some (handleWhitelistImportUrl libs makeAddress env request actingUser)
  | .whitelistClear => some (handleWhitelistClear libs request)
  | .whitelistMutation method => some (handleWhitelistMutation libs makeAddress env request method actingUser)
  | .whitelistRoutesImport =>
    some (handleWhitelistRoutesImport libs makeAddress env request actingUser request.body)
  | .whitelistRoutesImportUrl => some (handleWhitelistRoutesImportUrl libs makeAddress env request actingUser)
  | .whitelistRoutesClear => some (handleWhitelistRoutesClear libs request)
  | .whitelistRoutesMutation method =>
    some (handleWhitelistRoutesMutation libs makeAddress env request method actingUser)
  | _ => none

end Handlers

end Atomwall.Admin
