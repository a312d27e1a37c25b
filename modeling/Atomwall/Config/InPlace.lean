import Atomwall.Config.BlacklistOps
import Atomwall.Config.SiteOps
import Atomwall.Config.StatusPages

/-!
The operations on the configuration as they change it in place, statement by statement. One that throws has
changed nothing yet.
-/

namespace Atomwall

open ByteString

/-- What changes a state in place, and may throw. -/
abbrev InPlace (σ α : Type) := ExceptT Fault (StateM σ) α

namespace InPlace

variable {σ τ : Type}

/-- Works on a part of the state. -/
def on (get : τ → σ) (set : τ → σ → τ) (change : InPlace σ Unit) : InPlace τ Unit := fun whole =>
  let (outcome, part) := change (get whole)
  (outcome, set whole part)

/-- All at the end, or nothing. -/
def ofExcept (next : σ → Except Fault σ) : InPlace σ Unit := fun state =>
  match next state with
  | .ok later => (.ok (), later)
  | .error fault => (.error fault, state)

variable (makeAddress : MakeAddress) (now : Int)

def addIpTo (value createdBy source : String) : InPlace IpLists Unit := do
  if '/' ∈ value.toList then
    match parseCidr makeAddress now value with
    | none => throw (.invalidArgument ("not a valid CIDR range: " ++ value))
    | some range =>
      let range := { range with source }
      if (← get).cidrs.all (·.text != range.text) then
        modify fun lists => { lists with cidrs := lists.cidrs ++ [range] }
  else
    match makeAddress value with
    | none => throw (.invalidArgument ("not a valid IP address: " ++ value))
    | some _ =>
      if (← get).exact.all (·.value != value) then
        modify fun lists => { lists with exact := lists.exact ++ [{ value, createdAt := now, createdBy, source }] }

def addTo (value createdBy source : String) : InPlace (List BlacklistEntry) Unit := do
  if (← get).all (·.value != value) then
    modify fun values => values ++ [{ value, createdAt := now, createdBy, source }]

def onBlacklist : InPlace BlacklistConfig Unit → InPlace RuntimeConfig Unit :=
  on RuntimeConfig.blacklist fun config blacklist => { config with blacklist }

def onWhitelist : InPlace WhitelistConfig Unit → InPlace RuntimeConfig Unit :=
  on RuntimeConfig.whitelist fun config whitelist => { config with whitelist }

def addBlacklistEntry (category : BlacklistCategory) (value createdBy source : String) :
    InPlace RuntimeConfig Unit := do
  if value = "" then throw (.invalidArgument "value must not be empty")
  if category = .ips then
    onBlacklist (on BlacklistConfig.ips BlacklistConfig.withIps (addIpTo makeAddress now value createdBy source))
  else
    if category = .fakeRoutes ∧ !startsWith value "/" then
      throw (.invalidArgument "fake route must start with '/'")
    onBlacklist (on (listFor · category) (withListFor · category) (addTo now value createdBy source))

def removeIpFrom (value : String) : InPlace IpLists Unit := do
  modify fun lists => { lists with exact := lists.exact.filter (·.value != value) }
  modify fun lists => { lists with cidrs := lists.cidrs.filter (·.text != value) }

def removeBlacklistEntry (category : BlacklistCategory) (value : String) : InPlace RuntimeConfig Unit :=
  if category = .ips then
    onBlacklist (on BlacklistConfig.ips BlacklistConfig.withIps (removeIpFrom value))
  else
    onBlacklist (on (listFor · category) (withListFor · category)
      (modify fun values => values.filter (·.value != value)))

def clearBlacklistCategory (category : BlacklistCategory) : InPlace RuntimeConfig Unit :=
  if category = .ips then onBlacklist (modify fun config => { config with ipExact := [], ipCidrs := [] })
  else onBlacklist (on (listFor · category) (withListFor · category) (modify fun _ => []))

def addWhitelistEntry (value createdBy source : String) : InPlace RuntimeConfig Unit := do
  if value = "" then throw (.invalidArgument "value must not be empty")
  onWhitelist (on WhitelistConfig.ips WhitelistConfig.withIps (addIpTo makeAddress now value createdBy source))

def removeWhitelistEntry (value : String) : InPlace RuntimeConfig Unit :=
  onWhitelist (on WhitelistConfig.ips WhitelistConfig.withIps (removeIpFrom value))

def clearWhitelist : InPlace RuntimeConfig Unit :=
  onWhitelist (modify fun config => { config with ipExact := [], ipCidrs := [] })

def onWhitelistRoutes (change : InPlace (List BlacklistEntry) Unit) : InPlace RuntimeConfig Unit :=
  onWhitelist (on WhitelistConfig.routes (fun config routes => { config with routes }) change)

def addWhitelistRouteEntry (value createdBy source : String) : InPlace RuntimeConfig Unit := do
  if value = "" then throw (.invalidArgument "value must not be empty")
  onWhitelistRoutes (addTo now value createdBy source)

def removeWhitelistRouteEntry (value : String) : InPlace RuntimeConfig Unit :=
  onWhitelistRoutes (modify fun routes => routes.filter (·.value != value))

def clearWhitelistRoutes : InPlace RuntimeConfig Unit := onWhitelistRoutes (modify fun _ => [])

def addSite (site : SiteConfig) : InPlace RuntimeConfig Unit := do
  if !bareHostname site.domain then throw (.invalidArgument kBareHostname)
  let site := { site with domain := lower site.domain }
  if (findSite (← get).sites site.domain).isSome then
    throw (.invalidArgument ("a site for domain '" ++ site.domain ++ "' already exists"))
  modify fun config => { config with sites := config.sites ++ [site] }

def updateSite (domain : String) (update : SiteUpdate) : InPlace RuntimeConfig Unit := do
  if (findSite (← get).sites domain).isNone then throw (noSuchSite domain)
  modify fun config => { config with
    sites := config.sites.lookmap fun site =>
      if iequals site.domain domain then some (update.apply site) else none }

def removeSite (domain : String) : InPlace RuntimeConfig Unit := do
  if (findSite (← get).sites domain).isNone then throw (noSuchSite domain)
  modify fun config => { config with sites := config.sites.eraseP fun site => iequals site.domain domain }

def addStatusPage (code : Int) (html : String) : InPlace RuntimeConfig Unit := do
  if code < 100 ∨ 599 < code then
    throw (.invalidArgument "status code must be between 100 and 599")
  if (findStatusPage (← get).pages.statusPages code).isSome then
    throw (.invalidArgument ("a page override for status " ++ toString code ++ " already exists"))
  modify fun config => config.withStatusPages (config.pages.statusPages ++ [⟨code, html, now⟩])

def updateStatusPage (code : Int) (html : String) : InPlace RuntimeConfig Unit := do
  if (findStatusPage (← get).pages.statusPages code).isNone then throw (noStatusPage code)
  modify fun config => config.withStatusPages (config.pages.statusPages.lookmap fun entry =>
    if entry.code = code then some { entry with html } else none)

def removeStatusPage (code : Int) : InPlace RuntimeConfig Unit := do
  if (findStatusPage (← get).pages.statusPages code).isNone then throw (noStatusPage code)
  modify fun config => config.withStatusPages (config.pages.statusPages.eraseP (·.code == code))

/-! ### Statement by statement -/

@[simp] theorem get_then {α : Type} (next : σ → InPlace σ α) (state : σ) :
    ((get : InPlace σ σ) >>= next) state = next state state := rfl

@[simp] theorem modify_apply (f : σ → σ) (state : σ) : (modify f : InPlace σ Unit) state = (.ok (), f state) := rfl

@[simp] theorem throw_apply {α : Type} (fault : Fault) (state : σ) :
    (throw fault : InPlace σ α) state = (.error fault, state) := rfl

@[simp] theorem throw_then {α β : Type} (fault : Fault) (next : α → InPlace σ β) (state : σ) :
    ((throw fault : InPlace σ α) >>= next) state = (.error fault, state) := rfl

@[simp] theorem pure_apply {α : Type} (a : α) (state : σ) : (pure a : InPlace σ α) state = (.ok a, state) := rfl

theorem on_ofExcept {get : τ → σ} {set : τ → σ → τ} (same : ∀ whole, set whole (get whole) = whole)
    (next : σ → Except Fault σ) :
    on get set (ofExcept next) = ofExcept fun whole => (next (get whole)).map (set whole) := by
  funext whole
  simp only [on, ofExcept]
  cases next (get whole) with
  | error fault => exact Prod.ext rfl (same whole)
  | ok part => rfl

theorem addTo_eq (value createdBy source : String) :
    addTo now value createdBy source = ofExcept fun values => .ok (Atomwall.addTo now values value createdBy source) := by
  funext values
  unfold addTo
  rw [get_then]
  by_cases fresh : values.all (·.value != value) = true
  · simp only [fresh, if_true, modify_apply, ofExcept, Atomwall.addTo]
  · simp only [fresh, if_false, pure_apply, ofExcept, Atomwall.addTo, Bool.false_eq_true]

theorem addIpTo_eq (value createdBy source : String) :
    addIpTo makeAddress now value createdBy source =
      ofExcept fun lists => Atomwall.addIpTo makeAddress now lists value createdBy source := by
  funext lists
  unfold addIpTo Atomwall.addIpTo ofExcept
  by_cases slash : '/' ∈ value.toList
  · cases parseCidr makeAddress now value with
    | none => simp only [slash, if_true, throw_apply]
    | some range =>
      by_cases fresh : (lists.cidrs.all (·.text != range.text)) = true
      · simp only [slash, fresh, if_true, get_then, modify_apply]
      · simp only [slash, fresh, if_true, if_false, get_then, pure_apply, Bool.false_eq_true]
  · cases makeAddress value with
    | none => simp only [slash, if_false, throw_apply]
    | some address =>
      by_cases fresh : (lists.exact.all (·.value != value)) = true
      · simp only [slash, fresh, if_true, if_false, get_then, modify_apply]
      · simp only [slash, fresh, if_false, get_then, pure_apply, Bool.false_eq_true]

theorem ofExcept_map {next next' : σ → Except Fault σ} {state : σ} (same : next state = next' state) :
    ofExcept next state = ofExcept next' state := by
  unfold ofExcept
  rw [same]

theorem onBlacklist_ips (next : IpLists → Except Fault IpLists) :
    onBlacklist (on BlacklistConfig.ips BlacklistConfig.withIps (ofExcept next)) =
      ofExcept fun config => (next config.blacklist.ips).map fun lists =>
        { config with blacklist := config.blacklist.withIps lists } := by
  unfold onBlacklist
  rw [on_ofExcept fun _ => rfl, on_ofExcept fun _ => rfl]
  funext config
  refine ofExcept_map ?_
  cases next config.blacklist.ips with
  | error fault => rfl
  | ok lists => rfl

theorem onBlacklist_list (category : BlacklistCategory) (next : List BlacklistEntry → List BlacklistEntry) :
    onBlacklist (on (listFor · category) (withListFor · category) (ofExcept fun values => .ok (next values))) =
      ofExcept fun config => .ok { config with
        blacklist := withListFor config.blacklist category (next (listFor config.blacklist category)) } := by
  unfold onBlacklist
  rw [on_ofExcept fun config => by cases category <;> rfl, on_ofExcept fun _ => rfl]
  rfl

theorem addBlacklistEntry_eq (category : BlacklistCategory) (value createdBy source : String) :
    addBlacklistEntry makeAddress now category value createdBy source =
      ofExcept fun config => Atomwall.addBlacklistEntry makeAddress now config category value createdBy source := by
  funext config
  unfold addBlacklistEntry
  rw [addIpTo_eq, addTo_eq, onBlacklist_ips, onBlacklist_list]
  by_cases empty : value = ""
  · simp only [empty, if_true, throw_then]
    rfl
  · by_cases ips : category = .ips
    · simp only [empty, ips, if_true, if_false]
      refine ofExcept_map ?_
      simp only [Atomwall.addBlacklistEntry, empty, if_true, if_false]
    · by_cases fake : category = .fakeRoutes ∧ (!startsWith value "/") = true
      · obtain ⟨rfl, relative⟩ := fake
        simp only [empty, ips, relative, and_self, if_true, if_false, throw_then, ofExcept,
          Atomwall.addBlacklistEntry]
      · simp only [empty, ips, fake, if_false, ofExcept, Atomwall.addBlacklistEntry]

theorem addWhitelistEntry_eq (value createdBy source : String) :
    addWhitelistEntry makeAddress now value createdBy source =
      ofExcept fun config => Atomwall.addWhitelistEntry makeAddress now config value createdBy source := by
  funext config
  unfold addWhitelistEntry onWhitelist
  rw [addIpTo_eq, on_ofExcept fun _ => rfl, on_ofExcept fun _ => rfl]
  by_cases empty : value = ""
  · simp only [empty, if_true, throw_then]
    rfl
  · simp only [empty, if_false]
    refine ofExcept_map ?_
    simp only [Atomwall.addWhitelistEntry, empty, if_false]
    cases Atomwall.addIpTo makeAddress now config.whitelist.ips value createdBy source with
    | error fault => rfl
    | ok lists => rfl

theorem addWhitelistRouteEntry_eq (value createdBy source : String) :
    addWhitelistRouteEntry now value createdBy source =
      ofExcept fun config => Atomwall.addWhitelistRouteEntry now config value createdBy source := by
  funext config
  unfold addWhitelistRouteEntry onWhitelistRoutes onWhitelist
  rw [addTo_eq, on_ofExcept fun _ => rfl, on_ofExcept fun _ => rfl]
  by_cases empty : value = ""
  · simp only [empty, if_true, throw_then]
    rfl
  · simp only [empty, if_false]
    refine ofExcept_map ?_
    simp only [Atomwall.addWhitelistRouteEntry, empty, if_false, Except.map]

theorem addSite_eq (site : SiteConfig) : addSite site = ofExcept (Atomwall.addSite · site) := by
  funext config
  unfold addSite Atomwall.addSite ofExcept
  by_cases bare : bareHostname site.domain = true
  · by_cases taken : (findSite config.sites (lower site.domain)).isSome = true
    · simp [bare, taken]
    · simp [bare, taken]
  · simp [bare]

theorem updateSite_eq (domain : String) (update : SiteUpdate) :
    updateSite domain update = ofExcept (Atomwall.updateSite · domain update) := by
  funext config
  unfold updateSite Atomwall.updateSite ofExcept
  cases found : findSite config.sites domain with
  | none => simp [found]
  | some site => simp [found]

theorem removeSite_eq (domain : String) : removeSite domain = ofExcept (Atomwall.removeSite · domain) := by
  funext config
  unfold removeSite Atomwall.removeSite ofExcept
  cases found : findSite config.sites domain with
  | none => simp [found]
  | some site => simp [found]

theorem addStatusPage_eq (code : Int) (html : String) :
    addStatusPage now code html = ofExcept (Atomwall.addStatusPage now · code html) := by
  funext config
  unfold addStatusPage Atomwall.addStatusPage validateCode ofExcept
  by_cases outside : code < 100 ∨ 599 < code
  · simp [outside]
  · by_cases taken : (findStatusPage config.pages.statusPages code).isSome = true
    · simp [outside, taken]
    · simp [outside, taken]

theorem updateStatusPage_eq (code : Int) (html : String) :
    updateStatusPage code html = ofExcept (Atomwall.updateStatusPage · code html) := by
  funext config
  unfold updateStatusPage Atomwall.updateStatusPage ofExcept
  cases found : findStatusPage config.pages.statusPages code with
  | none => simp [found]
  | some page => simp [found]

theorem removeStatusPage_eq (code : Int) :
    removeStatusPage code = ofExcept (Atomwall.removeStatusPage · code) := by
  funext config
  unfold removeStatusPage Atomwall.removeStatusPage ofExcept
  cases found : findStatusPage config.pages.statusPages code with
  | none => simp [found]
  | some page => simp [found]

end InPlace

end Atomwall
