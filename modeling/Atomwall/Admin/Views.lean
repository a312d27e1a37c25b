import Atomwall.Admin.IpBlocks
import Atomwall.Admin.MethodCheck

/-! `admin/json_view.cpp`: how the handlers show the configuration. -/

namespace Atomwall.Admin

open Http

variable (libs : Libraries)

def entryToJson (entry : BlacklistEntry) : Json :=
  .object [("value", .string entry.value), ("created_at", .string (libs.toIso8601 entry.createdAt)),
    ("created_by", .string entry.createdBy), ("source", .string entry.source)]

def entryListToJson (values : List BlacklistEntry) : Json := .array (values.map (entryToJson libs))

def ipEntriesToJson (exact : List BlacklistEntry) (cidrs : List CidrRange) : Json :=
  .array (exact.map (entryToJson libs) ++ cidrs.map fun range =>
    .object [("value", .string range.text), ("created_at", .string (libs.toIso8601 range.createdAt)),
      ("source", .string range.source)])

def ipBlacklistToJson (blacklist : BlacklistConfig) : Json :=
  ipEntriesToJson libs blacklist.ipExact blacklist.ipCidrs

def whitelistToJson (whitelist : WhitelistConfig) : Json :=
  ipEntriesToJson libs whitelist.ipExact whitelist.ipCidrs

def whitelistRoutesToJson (whitelist : WhitelistConfig) : Json := entryListToJson libs whitelist.routes

def blacklistToJson (blacklist : BlacklistConfig) : Json :=
  .object [("ips", ipBlacklistToJson libs blacklist), ("routes", entryListToJson libs blacklist.routes),
    ("countries", entryListToJson libs blacklist.countries), ("isps", entryListToJson libs blacklist.isps),
    ("user_agents", entryListToJson libs blacklist.userAgents),
    ("referrers", entryListToJson libs blacklist.referrers),
    ("body_patterns", entryListToJson libs blacklist.bodyPatterns),
    ("fake_routes", entryListToJson libs blacklist.fakeRoutes),
    ("max_body_size_bytes", .uint64 blacklist.maxBodySizeBytes)]

def blacklistCategoryToJson (blacklist : BlacklistConfig) : BlacklistCategory → Json
  | .ips => ipBlacklistToJson libs blacklist
  | category => entryListToJson libs (listFor blacklist category)

def siteToJson (site : SiteConfig) : Json :=
  .object [("domain", .string site.domain), ("enabled", .bool site.enabled),
    ("cert_file", .string site.certFile), ("key_file", .string site.keyFile),
    ("upstream_host", .string site.upstream.host), ("upstream_port", .uint64 site.upstream.port)]

def sitesToJson (config : RuntimeConfig) : Json :=
  .object [("default_site", .object
      [("cert_file", .string config.https.certFile), ("key_file", .string config.https.keyFile),
       ("upstream_host", .string config.upstream.host), ("upstream_port", .uint64 config.upstream.port)]),
    ("sites", .array (config.sites.map siteToJson))]

def banConfigToJson (ban : BanConfig) : Json :=
  .object [("enabled", .bool ban.enabled), ("threshold", .int64 ban.threshold),
    ("ban_duration_hours", .int64 ban.banDurationHours),
    ("scores", .object ((sortedScores ban.scores).map fun score => (score.1, .int64 score.2)))]

def speedCheckToJson (speedCheck : SpeedCheckConfig) : Json :=
  .object [("enabled", .bool speedCheck.enabled), ("max_requests", .int64 speedCheck.maxRequests),
    ("window_seconds", .int64 speedCheck.windowSeconds)]

def emergencyOffToJson (emergencyOff : EmergencyOffConfig) : Json :=
  .object [("enabled", .bool emergencyOff.enabled)]

def statusPageToJson (entry : StatusPageEntry) : Json :=
  .object [("code", .int64 entry.code), ("html", .string entry.html),
    ("created_at", .string (libs.toIso8601 entry.createdAt))]

def pagesToJson (pages : ResponsePagesConfig) : Json :=
  .object [("blocked_html", .string pages.blockedHtml), ("banned_html", .string pages.bannedHtml),
    ("status_pages", .array (pages.statusPages.map (statusPageToJson libs)))]

def requestLogConfigToJson (requestLog : RequestLogConfig) : Json :=
  .object [("enabled", .bool requestLog.enabled), ("csv_path", .string requestLog.csvPath)]

def robotsTxtConfigToJson (robotsTxt : RobotsTxtConfig) : Json :=
  .object [("custom_content", .string robotsTxt.customContent)]

def geoipConfigToJson (geoip : GeoIpConfig) (loaded asnLoaded : Bool) : Json :=
  .object [("mmdb_path", .string geoip.mmdbPath), ("loaded", .bool loaded),
    ("asn_mmdb_path", .string geoip.asnMmdbPath), ("asn_loaded", .bool asnLoaded)]

def coordinateToJson : Option UInt64 → Json
  | some bits => .double bits
  | none => .null

def globeConfigToJson (globe : GlobeConfig) : Json :=
  .object [("public_enabled", .bool globe.publicEnabled), ("public_bind", .string globe.publicBindHost),
    ("public_port", .uint64 globe.publicPort),
    ("public_tls_cert_file", .string globe.publicTlsCertFile),
    ("public_tls_key_file", .string globe.publicTlsKeyFile),
    ("server_lat", coordinateToJson globe.serverLatBits), ("server_lon", coordinateToJson globe.serverLonBits),
    ("auto_detect_server_location", .bool globe.autoDetectServerLocation),
    ("history_size", .uint64 globe.historySize)]

def configToJson (config : RuntimeConfig) : Json :=
  .object
    [("http", .object [("enabled", .bool config.http.enabled), ("bind", .string config.http.bindHost),
       ("port", .uint64 config.http.port)]),
     ("https", .object [("enabled", .bool config.https.enabled), ("bind", .string config.https.bindHost),
       ("port", .uint64 config.https.port), ("cert_file", .string config.https.certFile),
       ("key_file", .string config.https.keyFile)]),
     ("upstream", .object [("host", .string config.upstream.host), ("port", .uint64 config.upstream.port)]),
     ("admin", .object [("enabled", .bool config.admin.enabled), ("bind", .string config.admin.bindHost),
       ("port", .uint64 config.admin.port)]),
     ("limits", .object [("max_header_bytes", .uint64 config.limits.maxHeaderBytes),
       ("max_body_bytes", .uint64 config.limits.maxBodyBytes),
       ("upstream_connect_timeout_seconds", .int64 config.limits.upstreamConnectTimeout),
       ("request_timeout_seconds", .int64 config.limits.requestTimeout)]),
     ("sites", sitesToJson config), ("blacklist", blacklistToJson libs config.blacklist),
     ("whitelist", whitelistToJson libs config.whitelist),
     ("whitelist_routes", whitelistRoutesToJson libs config.whitelist),
     ("ban", banConfigToJson config.ban), ("speed_check", speedCheckToJson config.speedCheck),
     ("method_check", methodCheckToJson config.methodCheck),
     ("emergency_off", emergencyOffToJson config.emergencyOff), ("globe", globeConfigToJson config.globe),
     ("security", securityConfigToJson config.security)]

end Atomwall.Admin
