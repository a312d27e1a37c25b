import Atomwall.Config.SiteOps
import Atomwall.Config.YamlCodec
import Atomwall.Listener.TlsSiteContexts
import Mathlib.Data.List.Find
import Mathlib.Data.List.ReduceOption

/-!
The two lookups of a site: `resolve_site` for the Host header takes the first entry with the domain,
the SNI callback finds the last whose pair loaded. The admin API refuses a domain that is held; the YAML
loader lets it pass.
-/

namespace Atomwall

open ByteString

variable {Context : Type}

/-- `select_tls_context_for_sni`: none leaves the handshake on the default context. -/
def selectTlsContextForSni (contexts : TlsSiteContexts.ContextMap Context) (servername : Option String) :
    Option Context :=
  servername.bind fun name => contexts.lookup (lower name)

/-! ### Configurations that are reached -/

/-- What the loader returns and the site operations make of it. -/
inductive SitesReached (makeAddress : MakeAddress) (yaml : Yaml.Library) : RuntimeConfig → Prop where
  | parsed {now : Int} {yamlText : String} {config : RuntimeConfig}
      (read : parseYamlConfig makeAddress yaml now yamlText = .ok config) :
      SitesReached makeAddress yaml config
  | added {config next : RuntimeConfig} {site : SiteConfig} (before : SitesReached makeAddress yaml config)
      (done : addSite config site = .ok next) : SitesReached makeAddress yaml next
  | updated {config next : RuntimeConfig} {domain : String} {update : SiteUpdate}
      (before : SitesReached makeAddress yaml config) (done : updateSite config domain update = .ok next) :
      SitesReached makeAddress yaml next
  | removed {config next : RuntimeConfig} {domain : String}
      (before : SitesReached makeAddress yaml config) (done : removeSite config domain = .ok next) :
      SitesReached makeAddress yaml next

def LowerDomains (sites : List SiteConfig) : Prop := ∀ site ∈ sites, lower site.domain = site.domain

variable {makeAddress : MakeAddress} {yaml : Yaml.Library} {now : Int} {config : RuntimeConfig}
  {tls : TlsLibrary Context} {files : CertFiles}

theorem readSite_lower {item : Yaml.Ref} {site : SiteConfig} (read : readSite item = .ok (some site)) :
    lower site.domain = site.domain := by
  unfold readSite at read
  obtain ⟨domain, _, read⟩ := bind_ok read
  dsimp only at read
  split at read
  · cases read
  · obtain ⟨up, _, read⟩ := bind_ok read
    cases up with
    | none =>
      iterate 4 obtain ⟨_, _, read⟩ := bind_ok read
      obtain rfl := Option.some.inj (Except.ok.inj read)
      exact lower_lower _
    | some up =>
      iterate 4 obtain ⟨_, _, read⟩ := bind_ok read
      obtain rfl := Option.some.inj (Except.ok.inj read)
      exact lower_lower _

theorem readSites_lower {n : Yaml.Ref} {sites : List SiteConfig} (read : readSites n = .ok sites) :
    LowerDomains sites := by
  unfold readSites at read
  obtain ⟨items, each, read⟩ := bind_ok read
  obtain rfl := Except.ok.inj read
  intro site member
  obtain ⟨item, _, single⟩ := mapM_ok each (List.reduceOption_mem_iff.mp member)
  exact readSite_lower single

theorem parseYamlConfig_lower {yamlText : String}
    (read : parseYamlConfig makeAddress yaml now yamlText = .ok config) : LowerDomains config.sites := by
  unfold parseYamlConfig at read
  split at read
  · cases read
  · next root loaded =>
    unfold readConfig at read
    obtain ⟨http, _, read⟩ := bind_ok read
    obtain ⟨https, _, read⟩ := bind_ok read
    obtain ⟨upstream, _, read⟩ := bind_ok read
    obtain ⟨sites, section_, read⟩ := bind_ok read
    iterate 14 obtain ⟨_, _, read⟩ := bind_ok read
    obtain rfl := Except.ok.inj read
    show LowerDomains sites
    unfold readSection at section_
    obtain ⟨node, _, section_⟩ := bind_ok section_
    split at section_
    · obtain rfl := Except.ok.inj section_
      intro site member
      cases member
    · exact readSites_lower section_

theorem SitesReached.lowerDomains (reached : SitesReached makeAddress yaml config) :
    LowerDomains config.sites := by
  induction reached with
  | parsed read => exact parseYamlConfig_lower read
  | added before done ih =>
    obtain ⟨_, _, rfl⟩ := addSite_ok done
    intro site member
    rcases List.mem_append.mp member with old | new
    · exact ih site old
    · rw [List.mem_singleton.mp new]
      exact lower_lower _
  | updated before done ih =>
    obtain ⟨sites, rfl, domains⟩ := updateSite_ok done
    intro site member
    have named := List.mem_map_of_mem (f := SiteConfig.domain) member
    rw [domains] at named
    obtain ⟨old, there, named⟩ := List.mem_map.mp named
    rw [← named]
    exact ih old there
  | removed before done ih =>
    obtain ⟨sites, rfl, fewer⟩ := removeSite_ok done
    exact fun site member => ih site (fewer.subset member)

/-! ### The two lookups -/

/-- The context found for the name is the one of the site that `resolve_site` returns for it. -/
structure SelectAlike (tls : TlsLibrary Context) (files : CertFiles) (config : RuntimeConfig)
    (name : String) : Prop where
  own : ∀ certFile keyFile context, (resolveSite config name).certFile = some certFile →
    (resolveSite config name).keyFile = some keyFile →
    makeTlsServerContext tls files certFile keyFile = some context →
    selectTlsContextForSni (TlsSiteContexts.build tls files config) (some name) = some context
  shared : (resolveSite config name).certFile = none ∨ (resolveSite config name).keyFile = none →
    selectTlsContextForSni (TlsSiteContexts.build tls files config) (some name) = none

/-- Of the entries of one domain, one that a Host header can name, those after the first do not load
another pair than the first, and none where the first has no pair. -/
def DuplicatesAgree (tls : TlsLibrary Context) (files : CertFiles) (sites : List SiteConfig) : Prop :=
  ∀ before first after, sites = before ++ first :: after → ¬ PortSuffixed first.domain →
    (∀ site ∈ before, site.domain ≠ first.domain) →
    let later := (after.filter fun site => site.domain == first.domain).filterMap
      (TlsSiteContexts.ownContext tls files)
    (hasOwnCert first = false → later = []) ∧
      ∀ context, TlsSiteContexts.ownContext tls files first = some context →
        ∀ last ∈ later.getLast?, last = context

theorem resolved_own {site : SiteConfig} {certFile keyFile : String} :
    site.resolved.certFile = some certFile ∧ site.resolved.keyFile = some keyFile ↔
      hasOwnCert site = true ∧ site.certFile = certFile ∧ site.keyFile = keyFile := by
  by_cases cert : site.certFile = "" <;> by_cases key : site.keyFile = "" <;>
    simp [SiteConfig.resolved, hasOwnCert, cert, key]

theorem resolved_shared {site : SiteConfig} :
    site.resolved.certFile = none ∨ site.resolved.keyFile = none ↔ hasOwnCert site = false := by
  by_cases cert : site.certFile = "" <;> by_cases key : site.keyFile = "" <;>
    simp [SiteConfig.resolved, hasOwnCert, cert, key]

theorem siteFor_eq {name : String} (lowered : LowerDomains config.sites) (plain : stripPort name = name) :
    siteFor config name = config.sites.find? fun site => site.domain == lower name := by
  unfold siteFor
  rw [plain]
  apply List.find?_congr
  intro site member
  rw [Bool.eq_iff_iff, iequals_iff, beq_iff_eq, lowered site member]
  exact eq_comm

theorem select_split {name : String} {before after : List SiteConfig} {first : SiteConfig}
    (split : config.sites = before ++ first :: after) (named : first.domain = lower name)
    (others : ∀ site ∈ before, site.domain ≠ lower name) :
    selectTlsContextForSni (TlsSiteContexts.build tls files config) (some name) =
      ((after.filter fun site => site.domain == lower name).filterMap
        (TlsSiteContexts.ownContext tls files)).getLast?.or (TlsSiteContexts.ownContext tls files first) := by
  have none_before : before.filter (fun site => site.domain == lower name) = [] := by
    rw [List.filter_eq_nil_iff]
    intro site member
    simpa using others site member
  show (TlsSiteContexts.build tls files config).lookup (lower name) = _
  rw [TlsSiteContexts.lookup_build, split, List.filter_append, none_before, List.nil_append,
    List.filter_cons_of_pos (by simp [named])]
  cases own : TlsSiteContexts.ownContext tls files first with
  | none => rw [List.filterMap_cons_none own, Option.or_none]
  | some context =>
    rw [List.filterMap_cons_some own, List.getLast?_cons]
    cases ((after.filter fun site => site.domain == lower name).filterMap
      (TlsSiteContexts.ownContext tls files)).getLast? <;> rfl

theorem selectAlike_split {name : String} {before after : List SiteConfig} {first : SiteConfig}
    (lowered : LowerDomains config.sites) (plain : stripPort name = name)
    (split : config.sites = before ++ first :: after) (named : first.domain = lower name)
    (others : ∀ site ∈ before, site.domain ≠ lower name) :
    SelectAlike tls files config name ↔
      (hasOwnCert first = false → (after.filter fun site => site.domain == lower name).filterMap
          (TlsSiteContexts.ownContext tls files) = []) ∧
        ∀ context, TlsSiteContexts.ownContext tls files first = some context →
          ∀ last ∈ ((after.filter fun site => site.domain == lower name).filterMap
            (TlsSiteContexts.ownContext tls files)).getLast?, last = context := by
  have found : siteFor config name = some first := by
    rw [siteFor_eq lowered plain, List.find?_eq_some_iff_append]
    exact ⟨by simp [named], before, after, split, by simpa using others⟩
  have resolved : resolveSite config name = first.resolved := by
    rw [resolveSite_eq, found]
    rfl
  have select := @select_split _ _ tls files _ _ _ _ split named others
  generalize later : (after.filter fun site => site.domain == lower name).filterMap
    (TlsSiteContexts.ownContext tls files) = contexts at select ⊢
  constructor
  · intro alike
    refine ⟨fun shared => ?_, fun context own last member => ?_⟩
    · have default := alike.shared (by rw [resolved]; exact resolved_shared.mpr shared)
      rw [select, Option.or_eq_none_iff] at default
      exact List.getLast?_eq_none_iff.mp default.1
    · have has : hasOwnCert first = true := by
        by_contra without
        simp [TlsSiteContexts.ownContext, without] at own
      have loads := own
      rw [TlsSiteContexts.ownContext, if_pos has] at loads
      obtain ⟨cert, key⟩ := resolved_own.mpr ⟨has, rfl, rfl⟩
      have chosen := alike.own _ _ context (by rw [resolved]; exact cert) (by rw [resolved]; exact key) loads
      rw [select, Option.mem_def.mp member] at chosen
      exact Option.some.inj chosen
  · intro given
    obtain ⟨shared, own⟩ := given
    constructor
    · intro certFile keyFile context cert key loads
      rw [resolved] at cert key
      obtain ⟨has, rfl, rfl⟩ := resolved_own.mp ⟨cert, key⟩
      have loaded : TlsSiteContexts.ownContext tls files first = some context := by
        rw [TlsSiteContexts.ownContext, if_pos has]
        exact loads
      rw [select, loaded]
      cases last : contexts.getLast? with
      | none => rfl
      | some other => rw [own context loaded other last, Option.some_or]
    · intro without
      rw [resolved] at without
      have plainSite := resolved_shared.mp without
      rw [select, shared plainSite, TlsSiteContexts.ownContext, plainSite]
      rfl

theorem duplicatesAgree_of_distinct {sites : List SiteConfig}
    (distinct : (sites.map SiteConfig.domain).Nodup) : DuplicatesAgree tls files sites := by
  intro before first after split _ _
  have later : after.filter (fun site => site.domain == first.domain) = [] := by
    rw [List.filter_eq_nil_iff]
    intro site member same
    rw [split, List.map_append, List.map_cons] at distinct
    have alone := (List.nodup_cons.mp (List.nodup_append.mp distinct).2.1).1
    rw [← beq_iff_eq.mp same] at alone
    exact alone (List.mem_map_of_mem member)
  rw [later]
  exact ⟨fun _ => rfl, fun _ _ last member => by cases member⟩

/-- SNI and Host header select one site, whatever the name, exactly when the entries of each domain
agree. -/
theorem sni_selects_like_host_iff {Context : Type} {makeAddress : MakeAddress} {yaml : Yaml.Library}
    {config : RuntimeConfig} (tls : TlsLibrary Context) (files : CertFiles)
    (reached : SitesReached makeAddress yaml config) :
    (∀ name, stripPort name = name → SelectAlike tls files config name) ↔
      DuplicatesAgree tls files config.sites := by
  have lowered := reached.lowerDomains
  constructor
  · intro alike before first after split named others
    have member : first ∈ config.sites := by rw [split]; simp
    have low := lowered first member
    have plain : stripPort first.domain = first.domain := stripPort_eq_self named
    have here := (@selectAlike_split _ _ tls files _ _ _ _ lowered plain split low.symm
      (by rwa [low])).mp (alike first.domain plain)
    rwa [low] at here
  · intro agree name plain
    cases found : siteFor config name with
    | none =>
      have absent := found
      rw [siteFor_eq lowered plain, List.find?_eq_none] at absent
      have resolved : resolveSite config name = { upstream := config.upstream } := by
        rw [resolveSite_eq, found]
        rfl
      have nobody : config.sites.filter (fun site => site.domain == lower name) = [] :=
        List.filter_eq_nil_iff.mpr absent
      constructor
      · intro certFile keyFile context cert
        rw [resolved] at cert
        cases cert
      · intro _
        show (TlsSiteContexts.build tls files config).lookup (lower name) = none
        rw [TlsSiteContexts.lookup_build, nobody]
        rfl
    | some first =>
      rw [siteFor_eq lowered plain, List.find?_eq_some_iff_append] at found
      obtain ⟨named, before, after, split, others⟩ := found
      have named : first.domain = lower name := by simpa using named
      have others : ∀ site ∈ before, site.domain ≠ lower name := by simpa using others
      rw [selectAlike_split lowered plain split named others, ← named]
      apply agree before first after split
      · intro port
        exact stripPort_ne_self (port.of_lower (by rw [named, lower_lower])) plain
      · rwa [named]

/-! ### One site, and one domain twice -/

def siteNode (domain pair : String) : Yaml.Node :=
  Yaml.object [("domain", .scalar domain), ("cert_file", .scalar (pair ++ ".crt")),
    ("key_file", .scalar (pair ++ ".key"))]

def siteOf (domain pair : String) : SiteConfig :=
  { domain, certFile := pair ++ ".crt", keyFile := pair ++ ".key" }

def sitesYaml (sites : List Yaml.Node) : Yaml.Library where
  load := fun _ => some (Yaml.object [("sites", .sequence sites)])
  emit := fun _ => ""
  doubleText := fun _ => ".nan"
  readDouble := fun _ => none

def pathFiles : CertFiles := fun path => some ⟨path, 10⟩

theorem one_site_selected :
    SelectAlike TlsSiteContexts.textLibrary pathFiles { sites := [siteOf "a.example" "first"] }
      "A.example" := by
  have reached : SitesReached (fun _ => none) (sitesYaml [siteNode "A.example" "first"])
      { sites := [siteOf "a.example" "first"] } := @SitesReached.parsed _ _ 0 "" _ rfl
  exact (sni_selects_like_host_iff TlsSiteContexts.textLibrary pathFiles reached).mpr
    (duplicatesAgree_of_distinct (by decide)) "A.example" (by decide)

/-- The loader keeps both entries of a domain: the Host header selects the first, SNI the second. -/
theorem duplicate_domain_disagrees :
    ¬ ∀ (makeAddress : MakeAddress) (yaml : Yaml.Library) (config : RuntimeConfig)
        (tls : TlsLibrary (String × String)) (files : CertFiles) (name : String),
        SitesReached makeAddress yaml config → stripPort name = name →
        SelectAlike tls files config name := by
  intro claim
  have reached : SitesReached (fun _ => none)
      (sitesYaml [siteNode "a.example" "first", siteNode "a.example" "second"])
      { sites := [siteOf "a.example" "first", siteOf "a.example" "second"] } :=
    @SitesReached.parsed _ _ 0 "" _ rfl
  have alike := claim _ _ _ TlsSiteContexts.textLibrary pathFiles "a.example" reached (by decide)
  have context := alike.own "first.crt" "first.key" ("first.crt", "first.key") (by decide) (by decide) rfl
  revert context
  decide

end Atomwall
