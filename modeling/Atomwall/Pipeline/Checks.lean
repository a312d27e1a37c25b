import Atomwall.History.RequestRateTracker
import Atomwall.Http.Message
import Atomwall.Pipeline.NetUtils

/-! `pipeline/checks.cpp`: the whitelists and the checks that block a request. -/

namespace Atomwall

open ByteString Http

inductive Verdict where
  | allow | block
  deriving DecidableEq

structure CheckResult where
  verdict : Verdict
  checkName : String
  reason : String
  deriving DecidableEq

namespace CheckResult

def allow : CheckResult := ⟨.allow, "", ""⟩

def block (checkName reason : String) : CheckResult := ⟨.block, checkName, reason⟩

def blocked (result : CheckResult) : Bool := result.verdict == .block

@[simp] theorem blocked_allow : allow.blocked = false := rfl

@[simp] theorem blocked_block (checkName reason : String) : (block checkName reason).blocked = true := rfl

/-- The result blocks under this name or not at all. -/
def Names (name : String) (result : CheckResult) : Prop :=
  result.blocked = true → result.checkName = name

theorem names_allow {name : String} : allow.Names name := by
  intro blocks
  cases blocks

theorem names_block {name reason : String} : (block name reason).Names name := fun _ => rfl

def orElse (first second : CheckResult) : CheckResult := if first.blocked then first else second

end CheckResult

/-- What `address::to_string` gives. -/
abbrev AddressText := Address → String

variable (text : AddressText)

def isIpWhitelisted (config : WhitelistConfig) (clientIp : Address) : Bool :=
  config.ipExact.any (fun exact => exact.value == text clientIp) ||
    config.ipCidrs.any (addressInCidr clientIp)

def isRouteWhitelisted (config : WhitelistConfig) (path : String) : Bool :=
  config.routes.any fun pattern => icontains path pattern.value

/-- Blocks on the first entry that hits, and names it. -/
def checkEntries (checkName what : String) (hits : String → Bool) (entries : List BlacklistEntry) :
    CheckResult :=
  match entries.find? fun entry => hits entry.value with
  | some entry => .block checkName (what ++ entry.value)
  | none => .allow

def checkIpBlacklist (config : BlacklistConfig) (clientIp : Address) : CheckResult :=
  (checkEntries "ip_blacklist" "exact match: " (· == text clientIp) config.ipExact).orElse <|
    match config.ipCidrs.find? (addressInCidr clientIp) with
    | some range => .block "ip_blacklist" ("cidr match: " ++ range.text)
    | none => .allow

def checkRouteBlacklist (config : BlacklistConfig) (path : String) : CheckResult :=
  checkEntries "route_blacklist" "pattern match: " (icontains path) config.routes

def checkFakeRoutes (config : BlacklistConfig) (path : String) : CheckResult :=
  checkEntries "fake_route" "honeypot path: " (istartsWith path) config.fakeRoutes

def checkCountryBlacklist (_config : BlacklistConfig) (_clientIp : Address) : CheckResult := .allow

def checkIspBlacklist (config : BlacklistConfig) (isp : String) : CheckResult :=
  if isp = "" then .allow
  else checkEntries "isp_blacklist" "pattern match: " (icontains isp) config.isps

/-- A check of one header field; a request without it passes. -/
def checkField (checkName fieldName : String) (entries : List BlacklistEntry) (header : Fields) :
    CheckResult :=
  match header.find fieldName with
  | none => .allow
  | some value => checkEntries checkName "pattern match: " (icontains value) entries

def checkUserAgentBlacklist (config : BlacklistConfig) (header : Fields) : CheckResult :=
  checkField "user_agent_blacklist" "User-Agent" config.userAgents header

def checkReferrerBlacklist (config : BlacklistConfig) (header : Fields) : CheckResult :=
  checkField "referrer_blacklist" "Referer" config.referrers header

def checkMethodAllowlist (config : MethodCheckConfig) (method : String) : CheckResult :=
  if !config.enabled then .allow
  else if config.allowedMethods.any (iequals method) then .allow
  else
    let allowedList := config.allowedMethods.foldl
      (fun list allowed => (if list = "" then "" else list ++ ", ") ++ allowed) ""
    .block "method_not_allowed" ("method not in allowlist [" ++ allowedList ++ "]")

def kExtensions : List String :=
  [".js", ".mjs", ".css", ".map", ".png", ".jpg", ".jpeg", ".gif", ".svg", ".ico", ".webp", ".avif",
   ".woff", ".woff2", ".ttf", ".otf", ".eot", ".mp4", ".webm", ".mp3", ".wav", ".json"]

def hasStaticAssetExtension (path : String) : Bool :=
  let backwards := path.toList.reverse
  match backwards.dropWhile (· != '.') with
  | [] => false
  | dot :: _ =>
    let extension := String.ofList (dot :: (backwards.takeWhile (· != '.')).reverse)
    kExtensions.any (iequals extension)

def isNavigationRequest (header : Fields) (path : String) : Bool :=
  match header.find "Sec-Fetch-Dest" with
  | some destination => iequals destination "document"
  | none => !hasStaticAssetExtension path

/-- `static_cast<int>`. -/
def toInt (count : Nat) : Int := Int.bmod count 0x100000000

def isOverLimit (config : SpeedCheckConfig) (count : Nat) : Bool :=
  decide (config.maxRequests < toInt count)

def checkRequestRate (config : SpeedCheckConfig) (tracker : RequestRateTracker) (clientIp : Address)
    (path : String) (header : Fields) (now : Int) : CheckResult × RequestRateTracker :=
  if !config.enabled then (.allow, tracker)
  else if !isNavigationRequest header path then (.allow, tracker)
  else
    let recorded := tracker.record (text clientIp) now (seconds config.windowSeconds)
    if isOverLimit config recorded.1 then
      (.block "speed_check"
        (toString recorded.1 ++ " requests in " ++ toString config.windowSeconds ++
          "s exceeds limit " ++ toString config.maxRequests), recorded.2)
    else (.allow, recorded.2)

def checkBodySize (config : BlacklistConfig) (bodySize : Nat) : CheckResult :=
  if 0 < config.maxBodySizeBytes ∧ config.maxBodySizeBytes < bodySize then
    .block "body_size_limit"
      ("body size " ++ toString bodySize ++ " exceeds limit " ++ toString config.maxBodySizeBytes)
  else .allow

def checkBodyBlacklist (config : BlacklistConfig) (body : String) : CheckResult :=
  checkEntries "body_blacklist" "pattern match: " (icontains body) config.bodyPatterns

def evaluateHeaderChecks (config : BlacklistConfig) (clientIp : Address) (path : String)
    (header : Fields) (isp : String) : CheckResult :=
  (checkIpBlacklist text config clientIp).orElse <|
  (checkRouteBlacklist config path).orElse <|
  (checkFakeRoutes config path).orElse <|
  (checkCountryBlacklist config clientIp).orElse <|
  (checkIspBlacklist config isp).orElse <|
  (checkUserAgentBlacklist config header).orElse <|
  (checkReferrerBlacklist config header).orElse .allow

def evaluateBodyChecks (config : BlacklistConfig) (body : String) : CheckResult :=
  (checkBodySize config body.length).orElse <|
  (checkBodyBlacklist config body).orElse .allow

/-! ### The names the checks block under -/

namespace CheckResult

theorem Names.orElse {name : String} {first second : CheckResult} (h : first.Names name)
    (h' : second.Names name) : (first.orElse second).Names name := by
  unfold CheckResult.orElse
  split
  · exact h
  · exact h'

end CheckResult

variable {text : AddressText} {clientIp : Address} {config : BlacklistConfig} {header : Fields}

theorem checkEntries_names {checkName what : String} {hits : String → Bool}
    {entries : List BlacklistEntry} : (checkEntries checkName what hits entries).Names checkName := by
  unfold checkEntries
  split
  · exact CheckResult.names_block
  · exact CheckResult.names_allow

theorem checkField_names {checkName fieldName : String} {entries : List BlacklistEntry} :
    (checkField checkName fieldName entries header).Names checkName := by
  unfold checkField
  split
  · exact CheckResult.names_allow
  · exact checkEntries_names

theorem checkIpBlacklist_names : (checkIpBlacklist text config clientIp).Names "ip_blacklist" := by
  apply checkEntries_names.orElse
  split
  · exact CheckResult.names_block
  · exact CheckResult.names_allow

theorem checkIspBlacklist_names {isp : String} :
    (checkIspBlacklist config isp).Names "isp_blacklist" := by
  unfold checkIspBlacklist
  split
  · exact CheckResult.names_allow
  · exact checkEntries_names

theorem checkMethodAllowlist_names {config : MethodCheckConfig} {method : String} :
    (checkMethodAllowlist config method).Names "method_not_allowed" := by
  unfold checkMethodAllowlist
  split
  · exact CheckResult.names_allow
  · split
    · exact CheckResult.names_allow
    · exact CheckResult.names_block

theorem checkBodySize_names {bodySize : Nat} :
    (checkBodySize config bodySize).Names "body_size_limit" := by
  unfold checkBodySize
  split
  · exact CheckResult.names_block
  · exact CheckResult.names_allow

/-- The tracker is given the request exactly when the check is on and the request is a navigation, and
the check blocks when what it then counts is over the limit. -/
theorem checkRequestRate_eq {config : SpeedCheckConfig} {tracker : RequestRateTracker} {path : String}
    {now : Int} :
    (checkRequestRate text config tracker clientIp path header now).2 =
        (if config.enabled && isNavigationRequest header path then
          (tracker.record (text clientIp) now (seconds config.windowSeconds)).2 else tracker) ∧
      (checkRequestRate text config tracker clientIp path header now).1.blocked =
        (config.enabled && isNavigationRequest header path && isOverLimit config
          (tracker.record (text clientIp) now (seconds config.windowSeconds)).1) ∧
      (checkRequestRate text config tracker clientIp path header now).1.Names "speed_check" := by
  unfold checkRequestRate
  cases enabled : config.enabled with
  | false => exact ⟨rfl, rfl, CheckResult.names_allow⟩
  | true =>
    cases navigation : isNavigationRequest header path with
    | false => exact ⟨rfl, rfl, CheckResult.names_allow⟩
    | true =>
      dsimp only [Bool.not_true, Bool.and_true, Bool.true_and]
      cases exceeded : isOverLimit config
          (tracker.record (text clientIp) now (seconds config.windowSeconds)).1 with
      | false => exact ⟨rfl, rfl, CheckResult.names_allow⟩
      | true => exact ⟨rfl, rfl, CheckResult.names_block⟩

end Atomwall
