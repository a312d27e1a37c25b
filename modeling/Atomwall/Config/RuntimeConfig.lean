import Atomwall.Base.KeyMap
import Atomwall.Net.Address

/-! `RuntimeConfig`. A time is in nanoseconds of `system_clock`, a double is given by its bits. -/

namespace Atomwall

structure HttpListenerConfig where
  enabled : Bool := true
  bindHost : String := "0.0.0.0"
  port : Nat := 80

structure HttpsListenerConfig where
  enabled : Bool := true
  bindHost : String := "0.0.0.0"
  port : Nat := 443
  certFile : String := "certs/dev.crt"
  keyFile : String := "certs/dev.key"

structure UpstreamConfig where
  host : String := "127.0.0.1"
  port : Nat := 8000
  deriving DecidableEq

structure SiteConfig where
  domain : String
  enabled : Bool := true
  certFile : String := ""
  keyFile : String := ""
  upstream : UpstreamConfig := {}

structure AdminConfig where
  enabled : Bool := true
  bindHost : String := "127.0.0.1"
  port : Nat := 9000
  staticDir : String := "webui"
  tlsCertFile : String := ""
  tlsKeyFile : String := ""

structure LimitsConfig where
  maxHeaderBytes : Nat := 16 * 1024
  maxBodyBytes : Nat := 10 * 1024 * 1024
  upstreamConnectTimeout : Int := 5
  requestTimeout : Int := 30

structure CidrRange where
  prefixAddress : Address
  prefixLen : Nat
  text : String
  createdAt : Int
  source : String := "manual"

structure BlacklistEntry where
  value : String
  createdAt : Int
  createdBy : String := ""
  source : String := "manual"

structure BlacklistConfig where
  ipExact : List BlacklistEntry := []
  ipCidrs : List CidrRange := []
  routes : List BlacklistEntry := []
  countries : List BlacklistEntry := []
  isps : List BlacklistEntry := []
  userAgents : List BlacklistEntry := []
  referrers : List BlacklistEntry := []
  bodyPatterns : List BlacklistEntry := []
  fakeRoutes : List BlacklistEntry := []
  maxBodySizeBytes : Nat := 0

structure WhitelistConfig where
  ipExact : List BlacklistEntry := []
  ipCidrs : List CidrRange := []
  routes : List BlacklistEntry := []

def kMaxBanDurationHours : Int := 24 * 365 * 10

structure BanConfig where
  enabled : Bool := false
  threshold : Int := 100
  banDurationHours : Int := 24
  scores : KeyMap String Int := List.toAList
    [⟨"route_blacklist", 50⟩, ⟨"user_agent_blacklist", 100⟩, ⟨"body_blacklist", 75⟩,
     ⟨"body_size_limit", 60⟩, ⟨"country_blacklist", 25⟩, ⟨"isp_blacklist", 25⟩,
     ⟨"speed_check", 40⟩, ⟨"referrer_blacklist", 50⟩, ⟨"fake_route", 100⟩,
     ⟨"method_not_allowed", 50⟩]

structure MethodCheckConfig where
  enabled : Bool := false
  allowedMethods : List String := ["GET", "POST", "HEAD"]

structure SpeedCheckConfig where
  enabled : Bool := false
  maxRequests : Int := 20
  windowSeconds : Int := 10

structure EmergencyOffConfig where
  enabled : Bool := false

structure StatusPageEntry where
  code : Int
  html : String
  createdAt : Int

structure ResponsePagesConfig where
  blockedHtml : String := ""
  bannedHtml : String := ""
  statusPages : List StatusPageEntry := []

structure RobotsTxtConfig where
  customContent : String := ""

structure RequestLogConfig where
  enabled : Bool := false
  csvPath : String := "config/requests.csv"

structure GeoIpConfig where
  mmdbPath : String := ""
  asnMmdbPath : String := ""

structure GlobeConfig where
  publicEnabled : Bool := false
  publicBindHost : String := "0.0.0.0"
  publicPort : Nat := 9443
  publicTlsCertFile : String := ""
  publicTlsKeyFile : String := ""
  serverLatBits : Option UInt64 := none
  serverLonBits : Option UInt64 := none
  autoDetectServerLocation : Bool := true
  historySize : Nat := 500

structure SecurityConfig where
  require2fa : Bool := false

structure RuntimeConfig where
  http : HttpListenerConfig := {}
  https : HttpsListenerConfig := {}
  upstream : UpstreamConfig := {}
  sites : List SiteConfig := []
  admin : AdminConfig := {}
  limits : LimitsConfig := {}
  blacklist : BlacklistConfig := {}
  whitelist : WhitelistConfig := {}
  ban : BanConfig := {}
  speedCheck : SpeedCheckConfig := {}
  methodCheck : MethodCheckConfig := {}
  emergencyOff : EmergencyOffConfig := {}
  pages : ResponsePagesConfig := {}
  requestLog : RequestLogConfig := {}
  robotsTxt : RobotsTxtConfig := {}
  geoip : GeoIpConfig := {}
  globe : GlobeConfig := {}
  security : SecurityConfig := {}

end Atomwall
