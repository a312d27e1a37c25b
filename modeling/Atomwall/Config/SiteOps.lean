import Atomwall.Base.AsciiCase
import Atomwall.Config.SiteLookup
import Atomwall.Platform.Libraries

/-!
`config/site_ops.cpp`: adding, changing and removing sites, and which site a name then selects. Domains
are stored in lower case.
-/

namespace Atomwall

open ByteString

def findSite (sites : List SiteConfig) (domain : String) : Option SiteConfig :=
  sites.find? fun site => iequals site.domain domain

def kBareHostname : String := "site domain must be a bare hostname, e.g. 'example.com'"

/-- `find_first_of(" \t/")`. -/
def bareHostname (domain : String) : Bool :=
  domain != "" && domain.toList.all fun c => c != ' ' && c != '\t' && c != '/'

def addSite (config : RuntimeConfig) (site : SiteConfig) : Except Fault RuntimeConfig :=
  if !bareHostname site.domain then .error (.invalidArgument kBareHostname)
  else
    let site := { site with domain := lower site.domain }
    if (findSite config.sites site.domain).isSome then
      .error (.invalidArgument ("a site for domain '" ++ site.domain ++ "' already exists"))
    else .ok { config with sites := config.sites ++ [site] }

structure SiteUpdate where
  enabled : Option Bool := none
  certFile : Option String := none
  keyFile : Option String := none
  upstreamHost : Option String := none
  upstreamPort : Option Nat := none

def SiteUpdate.apply (update : SiteUpdate) (site : SiteConfig) : SiteConfig :=
  { site with
    enabled := update.enabled.getD site.enabled
    certFile := update.certFile.getD site.certFile
    keyFile := update.keyFile.getD site.keyFile
    upstream := ⟨update.upstreamHost.getD site.upstream.host, update.upstreamPort.getD site.upstream.port⟩ }

def noSuchSite (domain : String) : Fault :=
  .invalidArgument ("no site configured for domain '" ++ domain ++ "'")

def updateSite (config : RuntimeConfig) (domain : String) (update : SiteUpdate) :
    Except Fault RuntimeConfig :=
  if (findSite config.sites domain).isSome then
    .ok { config with
      sites := config.sites.lookmap fun site =>
        if iequals site.domain domain then some (update.apply site) else none }
  else .error (noSuchSite domain)

def removeSite (config : RuntimeConfig) (domain : String) : Except Fault RuntimeConfig :=
  if (findSite config.sites domain).isSome then
    .ok { config with sites := config.sites.eraseP fun site => iequals site.domain domain }
  else .error (noSuchSite domain)

/-! ### The port of a name -/

/-- The name ends in a port. -/
def PortSuffixed (host : String) : Prop :=
  ∃ name digits : String, digits ≠ "" ∧ digits.toList.all Char.isDigit = true ∧ host = name ++ ":" ++ digits

theorem stripPort_port {name digits : String} (some_there : digits ≠ "")
    (number : digits.toList.all Char.isDigit = true) : stripPort (name ++ ":" ++ digits) = name := by
  have backwards : (name ++ ":" ++ digits).toList.reverse =
      digits.toList.reverse ++ ':' :: name.toList.reverse := by
    simp [String.toList_append]
  have allDigits : ∀ c ∈ digits.toList.reverse, c.isDigit = true := by
    intro c member
    exact List.all_eq_true.mp number c (List.mem_reverse.mp member)
  have taken : (digits.toList.reverse ++ ':' :: name.toList.reverse).takeWhile Char.isDigit =
      digits.toList.reverse := by
    rw [List.takeWhile_append_of_pos allDigits, List.takeWhile_cons_of_neg (by decide), List.append_nil]
  have left : (digits.toList.reverse ++ ':' :: name.toList.reverse).dropWhile Char.isDigit =
      ':' :: name.toList.reverse := by
    rw [List.dropWhile_append_of_pos allDigits, List.dropWhile_cons_of_neg (by decide)]
  unfold stripPort
  dsimp only
  rw [backwards, taken, left]
  cases reversed : digits.toList.reverse with
  | nil =>
    have empty : digits.toList = [] := List.reverse_eq_nil_iff.mp reversed
    exact absurd (String.toList_injective (by simpa using empty)) some_there
  | cons c rest => simp

theorem stripPort_eq_self {host : String} (plain : ¬ PortSuffixed host) : stripPort host = host := by
  unfold stripPort
  dsimp only
  split
  · next first rest name taken left =>
    refine absurd ⟨String.ofList name.reverse, String.ofList (first :: rest).reverse, ?_, ?_, ?_⟩ plain
    · intro empty
      have lists := congrArg String.toList empty
      simp at lists
    · have digits := List.all_takeWhile (p := Char.isDigit) (l := host.toList.reverse)
      rw [taken] at digits
      simpa [and_comm] using digits
    · have split := List.takeWhile_append_dropWhile (p := Char.isDigit) (l := host.toList.reverse)
      rw [taken, left] at split
      apply String.toList_injective
      rw [← List.reverse_inj, ← split]
      simp [String.toList_append]
  · rfl

theorem stripPort_ne_self {host : String} (port : PortSuffixed host) : stripPort host ≠ host := by
  obtain ⟨name, digits, some_there, number, rfl⟩ := port
  rw [stripPort_port some_there number]
  intro same
  have lengths := congrArg String.length same
  rw [String.length_append, String.length_append] at lengths
  have colon : ":".length = 1 := rfl
  omega

theorem PortSuffixed.of_lower {host other : String} (port : PortSuffixed host)
    (same : lower host = lower other) : PortSuffixed other := by
  obtain ⟨name, digits, some_there, number, rfl⟩ := port
  have lists := congrArg String.toList same
  rw [toList_lower, toList_lower, String.toList_append, String.toList_append, List.map_append,
    List.map_append] at lists
  obtain ⟨front, back, split, front_eq, back_eq⟩ := List.map_eq_append_iff.mp lists.symm
  obtain ⟨first, colon, rfl, first_eq, colon_eq⟩ := List.map_eq_append_iff.mp front_eq
  have same_colon : colon = [':'] := by
    obtain ⟨c, rfl⟩ := List.length_eq_one_iff.mp (by simpa using congrArg List.length colon_eq)
    have lowered : c.toLower = ':' := by simpa using colon_eq
    have fixed : c.toLower = c := toLower_eq_self (by rw [lowered]; decide)
    rw [← fixed, lowered]
  refine ⟨String.ofList first, String.ofList back, ?_, ?_, ?_⟩
  · intro empty
    have nothing : back = [] := by simpa using congrArg String.toList empty
    rw [nothing] at back_eq
    exact some_there (String.toList_injective (by simpa using back_eq.symm))
  · refine List.all_eq_true.mpr fun c member => ?_
    rw [String.toList_ofList] at member
    have lowered := List.mem_map_of_mem (f := Char.toLower) member
    rw [back_eq] at lowered
    obtain ⟨d, there, d_eq⟩ := List.mem_map.mp lowered
    have digit := List.all_eq_true.mp number d there
    have fixed : d.toLower = d := toLower_eq_self (by
      rw [Char.isAlpha_toLower_eq_isAlpha]
      exact isAlpha_of_isDigit digit)
    have plain : c.toLower = c := toLower_eq_self (by
      rw [← d_eq, fixed]
      exact isAlpha_of_isDigit digit)
    rw [← plain, ← d_eq, fixed]
    exact digit
  · apply String.toList_injective
    rw [split, same_colon, String.toList_append, String.toList_append]
    simp

/-! ### Which site a name selects -/

/-- The entry whose fields `resolve_site` returns. -/
def siteFor (config : RuntimeConfig) (hostOrSni : String) : Option SiteConfig :=
  config.sites.find? fun site => iequals (stripPort hostOrSni) site.domain

def SiteConfig.resolved (site : SiteConfig) : ResolvedSite where
  upstream := site.upstream
  certFile := if site.certFile = "" then none else some site.certFile
  keyFile := if site.keyFile = "" then none else some site.keyFile
  enabled := site.enabled
  matched := true

theorem resolveSite_eq (config : RuntimeConfig) (host : String) :
    resolveSite config host =
      ((siteFor config host).map SiteConfig.resolved).getD { upstream := config.upstream } := by
  unfold resolveSite siteFor
  split
  · next site found => rw [found]; rfl
  · next absent => rw [absent]; rfl

variable {config next : RuntimeConfig} {site : SiteConfig}

theorem addSite_ok (added : addSite config site = .ok next) :
    bareHostname site.domain = true ∧ findSite config.sites (lower site.domain) = none ∧
      next = { config with sites := config.sites ++ [{ site with domain := lower site.domain }] } := by
  unfold addSite at added
  cases bare : bareHostname site.domain with
  | false => simp [bare] at added
  | true =>
    cases taken : findSite config.sites (lower site.domain) with
    | some other => simp [bare, taken] at added
    | none =>
      simp only [bare, taken, Bool.not_true, Bool.false_eq_true, if_false, Option.isSome_none] at added
      exact ⟨rfl, rfl, (Except.ok.inj added).symm⟩

theorem updateSite_ok {domain : String} {update : SiteUpdate} (done : updateSite config domain update = .ok next) :
    ∃ sites, next = { config with sites } ∧
      sites.map SiteConfig.domain = config.sites.map SiteConfig.domain := by
  unfold updateSite at done
  split at done
  · refine ⟨_, (Except.ok.inj done).symm, List.lookmap_map_eq _ _ ?_ _⟩
    intro site changed member
    split at member
    · rw [← Option.some.inj member]
      rfl
    · cases member
  · cases done

theorem removeSite_ok {domain : String} (done : removeSite config domain = .ok next) :
    ∃ sites, next = { config with sites } ∧ sites.Sublist config.sites := by
  unfold removeSite at done
  split at done
  · exact ⟨_, (Except.ok.inj done).symm, List.eraseP_sublist⟩
  · cases done

/-- A Host header for the domain: its name in any case, and perhaps a port. -/
def HostFor (domain host : String) : Prop :=
  ∃ name, iequals name domain = true ∧
    (host = name ∨ ∃ digits, digits ≠ "" ∧ digits.toList.all Char.isDigit = true ∧ host = name ++ ":" ++ digits)

theorem siteFor_added {host : String} (added : addSite config site = .ok next)
    (names : lower (stripPort host) = lower site.domain) :
    siteFor next host = some { site with domain := lower site.domain } := by
  obtain ⟨_, unheld, rfl⟩ := addSite_ok added
  unfold siteFor
  rw [List.find?_append]
  have others : config.sites.find? (fun other => iequals (stripPort host) other.domain) = none := by
    rw [List.find?_eq_none]
    intro other member same
    rw [iequals_iff, names] at same
    refine List.find?_eq_none.mp unheld other member ?_
    rw [iequals_iff, lower_lower, same]
  have own : iequals (stripPort host) (lower site.domain) = true := by
    rw [iequals_iff, names, lower_lower]
  rw [others, Option.none_or]
  exact List.find?_cons_of_pos own

/-- A site that was added is what every Host header for its domain selects exactly when the domain does
not end in a port. -/
theorem added_site_reachable_iff {config next : RuntimeConfig} {site : SiteConfig}
    (added : addSite config site = .ok next) :
    (∀ host, HostFor site.domain host →
        siteFor next host = some { site with domain := lower site.domain } ∧
        resolveSite next host = site.resolved) ↔
      ¬ PortSuffixed site.domain := by
  constructor
  · intro reachable port
    obtain ⟨selected, _⟩ := reachable site.domain ⟨site.domain, iequals_iff.mpr rfl, Or.inl rfl⟩
    have named := List.find?_some selected
    rw [iequals_iff, lower_lower] at named
    obtain ⟨name, digits, some_there, number, split⟩ := port
    have lengths := congrArg String.length named
    rw [length_lower, length_lower, split, stripPort_port some_there number, String.length_append,
      String.length_append] at lengths
    have colon : ":".length = 1 := rfl
    omega
  · intro plain host names
    have selected : siteFor next host = some { site with domain := lower site.domain } := by
      apply siteFor_added added
      obtain ⟨name, same, rfl | ⟨digits, some_there, number, rfl⟩⟩ := names
      · rw [iequals_iff] at same
        rw [stripPort_eq_self fun port => plain (port.of_lower same), same]
      · rw [stripPort_port some_there number]
        exact iequals_iff.mp same
    refine ⟨selected, ?_⟩
    rw [resolveSite_eq, selected]
    rfl

def exampleSite : SiteConfig := { domain := "Example.com", upstream := ⟨"10.0.0.5", 9001⟩ }

theorem example_site_reachable :
    siteFor { sites := [{ exampleSite with domain := "example.com" }] } "EXAMPLE.com:80" =
      some { exampleSite with domain := "example.com" } ∧
    resolveSite { sites := [{ exampleSite with domain := "example.com" }] } "EXAMPLE.com:80" =
      exampleSite.resolved := by
  have plain : ¬ PortSuffixed exampleSite.domain := by
    intro port
    exact stripPort_ne_self port (by decide)
  have named : HostFor exampleSite.domain "EXAMPLE.com:80" :=
    ⟨"EXAMPLE.com", by decide, Or.inr ⟨"80", by decide, by decide, rfl⟩⟩
  exact (@added_site_reachable_iff {} _ exampleSite rfl).mpr plain "EXAMPLE.com:80" named

def portSite : SiteConfig := { domain := "example.com:8443", enabled := false }

/-- The validator lets a port through, and the lookup strips it. -/
theorem port_site_unreachable :
    ¬ ∀ (config next : RuntimeConfig) (site : SiteConfig) (host : String),
        addSite config site = .ok next → HostFor site.domain host →
        resolveSite next host = site.resolved := by
  intro claim
  have blocked := claim {} _ portSite "example.com:8443" rfl ⟨"example.com:8443", by decide, Or.inl rfl⟩
  have matched := congrArg ResolvedSite.matched blocked
  revert matched
  decide

end Atomwall
