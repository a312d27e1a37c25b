import Atomwall.Config.ListImport

/-!
What holds of the configuration after any operations of the admin API on its lists, sites and pages.
-/

namespace Atomwall

open ByteString

/-! ### The operations -/

def EntryList.addInPlace (makeAddress : MakeAddress) (now : Int) (value createdBy source : String) :
    EntryList → InPlace RuntimeConfig Unit
  | .blacklist category => InPlace.addBlacklistEntry makeAddress now category value createdBy source
  | .whitelist => InPlace.addWhitelistEntry makeAddress now value createdBy source
  | .whitelistRoutes => InPlace.addWhitelistRouteEntry now value createdBy source

def EntryList.removeInPlace (value : String) : EntryList → InPlace RuntimeConfig Unit
  | .blacklist category => InPlace.removeBlacklistEntry category value
  | .whitelist => InPlace.removeWhitelistEntry value
  | .whitelistRoutes => InPlace.removeWhitelistRouteEntry value

def EntryList.clearInPlace : EntryList → InPlace RuntimeConfig Unit
  | .blacklist category => InPlace.clearBlacklistCategory category
  | .whitelist => InPlace.clearWhitelist
  | .whitelistRoutes => InPlace.clearWhitelistRoutes

inductive ConfigOp where
  | add (target : EntryList) (value createdBy source : String)
  | remove (target : EntryList) (value : String)
  | clear (target : EntryList)
  | importText (target : EntryList) (text createdBy : String)
  | addSite (site : SiteConfig)
  | updateSite (domain : String) (update : SiteUpdate)
  | removeSite (domain : String)
  | addStatusPage (code : Int) (html : String)
  | updateStatusPage (code : Int) (html : String)
  | removeStatusPage (code : Int)

def ConfigOp.run (makeAddress : MakeAddress) (clock : Nat → Int) : ConfigOp → InPlace RuntimeConfig Unit
  | .add target value createdBy source => target.addInPlace makeAddress (clock 0) value createdBy source
  | .remove target value => target.removeInPlace value
  | .clear target => target.clearInPlace
  | .importText target text createdBy => discard (target.importEntries makeAddress clock text createdBy)
  | .addSite site => InPlace.addSite site
  | .updateSite domain update => InPlace.updateSite domain update
  | .removeSite domain => InPlace.removeSite domain
  | .addStatusPage code html => InPlace.addStatusPage (clock 0) code html
  | .updateStatusPage code html => InPlace.updateStatusPage code html
  | .removeStatusPage code => InPlace.removeStatusPage code

/-- One operation after another, those that throw among them. -/
def ConfigOp.runAll (makeAddress : MakeAddress) (config : RuntimeConfig) (ops : List ((Nat → Int) × ConfigOp)) :
    RuntimeConfig :=
  ops.foldl (fun config (clock, op) => (op.run makeAddress clock config).2) config

/-! ### What holds -/

structure ConfigWellFormed (makeAddress : MakeAddress) (config : RuntimeConfig) : Prop where
  entries_distinct : ∀ target : EntryList, ((target.lists config).exact.map BlacklistEntry.value).Nodup
  ranges_distinct : ∀ target : EntryList, ((target.lists config).cidrs.map CidrRange.text).Nodup
  addresses : ∀ entry ∈ config.blacklist.ipExact ++ config.whitelist.ipExact,
    '/' ∉ entry.value.toList ∧ ∃ address, makeAddress entry.value = some address
  ranges : ∀ range ∈ config.blacklist.ipCidrs ++ config.whitelist.ipCidrs, ∀ now, ∃ parsed,
    parseCidr makeAddress now range.text = some parsed ∧
      range.prefixAddress = parsed.prefixAddress ∧ range.prefixLen = parsed.prefixLen
  fakeRoutes : ∀ entry ∈ config.blacklist.fakeRoutes, startsWith entry.value "/" = true
  domains_distinct : (config.sites.map SiteConfig.domain).Nodup
  domains : ∀ site ∈ config.sites, site.domain ≠ "" ∧ lower site.domain = site.domain ∧
    ∀ c ∈ site.domain.toList, c ≠ ' ' ∧ c ≠ '\t' ∧ c ≠ '/'
  codes_distinct : (config.pages.statusPages.map StatusPageEntry.code).Nodup
  codes : ∀ page ∈ config.pages.statusPages, 100 ≤ page.code ∧ page.code ≤ 599

/-! ### What each operation keeps -/

structure ListsKept (makeAddress : MakeAddress) (target : EntryList) (lists : IpLists) : Prop where
  entries_distinct : (lists.exact.map BlacklistEntry.value).Nodup
  ranges_distinct : (lists.cidrs.map CidrRange.text).Nodup
  entries : ∀ entry ∈ lists.exact, target.accepts makeAddress entry.value = true ∧ target.isRange entry.value = false
  ranges : ∀ range ∈ lists.cidrs, ∃ now source, newRange makeAddress now source range.text = some range

def DomainsKept (domains : List String) : Prop :=
  domains.Nodup ∧ ∀ domain ∈ domains, bareHostname domain = true ∧ lower domain = domain

def CodesKept (codes : List Int) : Prop := codes.Nodup ∧ ∀ code ∈ codes, 100 ≤ code ∧ code ≤ 599

structure ConfigKept (makeAddress : MakeAddress) (config : RuntimeConfig) : Prop where
  lists : ∀ target : EntryList, ListsKept makeAddress target (target.lists config)
  domains : DomainsKept (config.sites.map SiteConfig.domain)
  codes : CodesKept (config.pages.statusPages.map StatusPageEntry.code)

/-- One part changes, and keeps what holds of it. -/
inductive Changes (makeAddress : MakeAddress) (config : RuntimeConfig) : RuntimeConfig → Prop where
  | lists (target : EntryList) (lists : IpLists) (fits : target.Fits lists)
      (keeps : ListsKept makeAddress target (target.lists config) → ListsKept makeAddress target lists) :
      Changes makeAddress config (target.withLists config lists)
  | sites (sites : List SiteConfig)
      (keeps : DomainsKept (config.sites.map SiteConfig.domain) → DomainsKept (sites.map SiteConfig.domain)) :
      Changes makeAddress config { config with sites }
  | pages {next : RuntimeConfig} (frame : next = config.withStatusPages next.pages.statusPages)
      (keeps : CodesKept (config.pages.statusPages.map StatusPageEntry.code) →
        CodesKept (next.pages.statusPages.map StatusPageEntry.code)) :
      Changes makeAddress config next

variable {makeAddress : MakeAddress} {config next : RuntimeConfig} {target : EntryList} {lists : IpLists}

/-! ### The lists -/

theorem ListsKept.sublist (kept : ListsKept makeAddress target lists) {fewer : IpLists}
    (entries : fewer.exact.Sublist lists.exact) (ranges : fewer.cidrs.Sublist lists.cidrs) :
    ListsKept makeAddress target fewer where
  entries_distinct := kept.entries_distinct.sublist (entries.map _)
  ranges_distinct := kept.ranges_distinct.sublist (ranges.map _)
  entries entry member := kept.entries entry (entries.subset member)
  ranges range member := kept.ranges range (ranges.subset member)

theorem ListsKept.insert (kept : ListsKept makeAddress target lists) {now : Int} {value createdBy source : String}
    (valid : target.accepts makeAddress value = true) :
    ListsKept makeAddress target (target.insert makeAddress now createdBy source value lists) := by
  unfold EntryList.insert
  split
  · next range =>
    obtain ⟨made, new, text⟩ := @newRange_accepts makeAddress target now source value valid range
    unfold IpLists.insertRange
    rw [new, Option.toList_some, List.foldl_cons, List.foldl_nil]
    refine { kept with ranges_distinct := FirstSeen.insert_nodup kept.ranges_distinct, ranges := ?_ }
    intro other member
    rcases FirstSeen.mem_insert member with old | rfl
    · exact kept.ranges other old
    · exact ⟨now, source, text.symm ▸ new⟩
  · next single =>
    refine { kept with entries_distinct := FirstSeen.insert_nodup kept.entries_distinct, entries := ?_ }
    intro other member
    rcases FirstSeen.mem_insert member with old | rfl
    · exact kept.entries other old
    · have unranged : target.isRange value = false := by simpa using single
      exact ⟨valid, unranged⟩

theorem ListsKept.imported (kept : ListsKept makeAddress target lists) {clock : Nat → Int} {createdBy : String}
    (k : Nat) (lines : List String) :
    ListsKept makeAddress target
      { exact := (exactInputs makeAddress clock createdBy target k lines).foldl
          (FirstSeen.insert BlacklistEntry.value) lists.exact
        cidrs := (rangeInputs makeAddress clock target k lines).foldl
          (FirstSeen.insert CidrRange.text) lists.cidrs } where
  entries_distinct := FirstSeen.foldl_insert_nodup kept.entries_distinct
  ranges_distinct := FirstSeen.foldl_insert_nodup kept.ranges_distinct
  entries entry member := by
    rcases FirstSeen.of_mem_foldl_insert member with old | new
    · exact kept.entries entry old
    · have listed := List.mem_map_of_mem (f := BlacklistEntry.value) new
      rw [exactInputs_values] at listed
      obtain ⟨inside, single⟩ := List.mem_filter.mp listed
      exact ⟨(List.mem_filter.mp inside).2, by simpa using single⟩
  ranges range member := by
    rcases FirstSeen.of_mem_foldl_insert member with old | new
    · exact kept.ranges range old
    · obtain ⟨now, made⟩ := mem_rangeInputs new
      exact ⟨now, "list", made⟩

theorem addInPlace_eq (now : Int) (value createdBy source : String) :
    target.addInPlace makeAddress now value createdBy source =
      InPlace.ofExcept fun config => target.add makeAddress now config value createdBy source := by
  match target with
  | .blacklist category => exact InPlace.addBlacklistEntry_eq ..
  | .whitelist => exact InPlace.addWhitelistEntry_eq ..
  | .whitelistRoutes => exact InPlace.addWhitelistRouteEntry_eq ..

theorem removeInPlace_run (value : String) :
    target.removeInPlace value config =
      (.ok (), target.withLists config (removeIpFrom (target.lists config) value)) := by
  match target with
  | .blacklist category => cases category <;> rfl
  | .whitelist => rfl
  | .whitelistRoutes => rfl

theorem clearInPlace_run : target.clearInPlace config = (.ok (), target.withLists config ⟨[], []⟩) := by
  match target with
  | .blacklist category => cases category <;> rfl
  | .whitelist => rfl
  | .whitelistRoutes => rfl

/-! ### The sites and the pages -/

theorem bareHostname_iff {domain : String} : bareHostname domain = true ↔
    domain ≠ "" ∧ ∀ c ∈ domain.toList, c ≠ ' ' ∧ c ≠ '\t' ∧ c ≠ '/' := by
  simp [bareHostname, and_assoc]

theorem bareHostname_lower {domain : String} (bare : bareHostname domain = true) : bareHostname (lower domain) = true := by
  obtain ⟨full, plain⟩ := bareHostname_iff.mp bare
  refine bareHostname_iff.mpr ⟨?_, ?_⟩
  · intro empty
    have none : domain.length = 0 := by rw [← length_lower, empty]; rfl
    exact full (String.length_eq_zero_iff.mp none)
  · intro c member
    rw [toList_lower] at member
    obtain ⟨d, there, rfl⟩ := List.mem_map.mp member
    have other {e : Char} (letter : e.isAlpha = false) (different : d ≠ e) : d.toLower ≠ e := by
      intro same
      have fixed : d.toLower = d := toLower_eq_self (by rw [same]; exact letter)
      exact different (fixed.symm.trans same)
    obtain ⟨space, tab, slash⟩ := plain d there
    exact ⟨other (by decide) space, other (by decide) tab, other (by decide) slash⟩

theorem DomainsKept.sublist {domains fewer : List String} (kept : DomainsKept domains) (part : fewer.Sublist domains) :
    DomainsKept fewer :=
  ⟨kept.1.sublist part, fun domain member => kept.2 domain (part.subset member)⟩

theorem addSite_kept {site : SiteConfig} (done : addSite config site = .ok next) :
    Changes makeAddress config next := by
  obtain ⟨bare, free, rfl⟩ := addSite_ok done
  refine .sites _ fun kept => ?_
  rw [List.map_append]
  refine ⟨List.nodup_append.mpr ⟨kept.1, by simp, ?_⟩, ?_⟩
  · rintro domain old another new rfl
    obtain rfl : domain = lower site.domain := by simpa using new
    obtain ⟨other, there, same⟩ := List.mem_map.mp old
    refine List.find?_eq_none.mp free other there ?_
    rw [same]
    exact iequals_iff.mpr rfl
  · intro domain member
    rcases List.mem_append.mp member with old | new
    · exact kept.2 domain old
    · obtain rfl : domain = lower site.domain := by simpa using new
      exact ⟨bareHostname_lower bare, lower_lower _⟩

theorem updateSite_kept {domain : String} {update : SiteUpdate} (done : updateSite config domain update = .ok next) :
    Changes makeAddress config next := by
  obtain ⟨sites, rfl, same⟩ := updateSite_ok done
  exact .sites sites fun kept => same ▸ kept

theorem removeSite_kept {domain : String} (done : removeSite config domain = .ok next) :
    Changes makeAddress config next := by
  obtain ⟨sites, rfl, fewer⟩ := removeSite_ok done
  exact .sites sites fun kept => kept.sublist (fewer.map _)

theorem addStatusPage_kept {now : Int} {code : Int} {html : String}
    (done : addStatusPage now config code html = .ok next) : Changes makeAddress config next := by
  obtain ⟨valid, free, grown⟩ := addStatusPage_ok done
  refine .pages (addStatusPage_frame done) fun kept => ?_
  rw [grown, List.map_append]
  refine ⟨List.nodup_append.mpr ⟨kept.1, by simp, ?_⟩, ?_⟩
  · rintro old member another new rfl
    obtain ⟨entry, there, same⟩ := List.mem_map.mp member
    exact free entry there (same.trans (by simpa using new))
  · intro other member
    rcases List.mem_append.mp member with old | new
    · exact kept.2 other old
    · obtain rfl : other = code := by simpa using new
      exact valid

theorem updateStatusPage_kept {code : Int} {html : String} (done : updateStatusPage config code html = .ok next) :
    Changes makeAddress config next :=
  .pages (updateStatusPage_frame done) fun kept => by rwa [updateStatusPage_codes done]

theorem removeStatusPage_kept {code : Int} (done : removeStatusPage config code = .ok next) :
    Changes makeAddress config next := by
  refine .pages (removeStatusPage_frame done) fun kept => ?_
  have fewer := (removeStatusPage_sublist done).map StatusPageEntry.code
  exact ⟨kept.1.sublist fewer, fun code member => kept.2 code (fewer.subset member)⟩

/-! ### One operation -/

theorem lists_other {other : EntryList} (different : other ≠ target) :
    other.lists (target.withLists config lists) = other.lists config := by
  match target, other with
  | .blacklist category, .blacklist another =>
    cases category <;> cases another <;> first | rfl | exact absurd rfl different
  | .blacklist category, .whitelist => cases category <;> rfl
  | .blacklist category, .whitelistRoutes => cases category <;> rfl
  | .whitelist, .blacklist another => cases another <;> rfl
  | .whitelist, .whitelist => exact absurd rfl different
  | .whitelist, .whitelistRoutes => rfl
  | .whitelistRoutes, .blacklist another => cases another <;> rfl
  | .whitelistRoutes, .whitelist => rfl
  | .whitelistRoutes, .whitelistRoutes => exact absurd rfl different

theorem withLists_sites : (target.withLists config lists).sites = config.sites := by
  match target with
  | .blacklist category => cases category <;> rfl
  | .whitelist => rfl
  | .whitelistRoutes => rfl

theorem withLists_pages : (target.withLists config lists).pages = config.pages := by
  match target with
  | .blacklist category => cases category <;> rfl
  | .whitelist => rfl
  | .whitelistRoutes => rfl

theorem lists_sites (sites : List SiteConfig) : target.lists { config with sites } = target.lists config := by
  match target with
  | .blacklist category => cases category <;> rfl
  | .whitelist => rfl
  | .whitelistRoutes => rfl

theorem lists_pages (pages : List StatusPageEntry) :
    target.lists (config.withStatusPages pages) = target.lists config := by
  match target with
  | .blacklist category => cases category <;> rfl
  | .whitelist => rfl
  | .whitelistRoutes => rfl

theorem Changes.kept (change : Changes makeAddress config next) (kept : ConfigKept makeAddress config) :
    ConfigKept makeAddress next := by
  cases change with
  | lists target lists fits keeps =>
    refine ⟨fun other => ?_, by rw [withLists_sites]; exact kept.domains, by rw [withLists_pages]; exact kept.codes⟩
    by_cases same : other = target
    · subst same
      rw [lists_withLists fits]
      exact keeps (kept.lists other)
    · rw [lists_other same]
      exact kept.lists other
  | sites sites keeps =>
    refine ⟨fun other => ?_, keeps kept.domains, kept.codes⟩
    rw [lists_sites]
    exact kept.lists other
  | pages frame keeps =>
    refine ⟨fun other => ?_, ?_, keeps kept.codes⟩
    · rw [frame, lists_pages]
      exact kept.lists other
    · rw [frame]
      exact kept.domains

theorem ofExcept_cases {change : InPlace RuntimeConfig Unit} {f : RuntimeConfig → Except Fault RuntimeConfig}
    (whole : change = InPlace.ofExcept f) (keeps : ∀ next, f config = .ok next → Changes makeAddress config next) :
    (∃ fault, change config = (.error fault, config)) ∨
      ∃ next, change config = (.ok (), next) ∧ Changes makeAddress config next := by
  rw [whole]
  unfold InPlace.ofExcept
  cases done : f config with
  | error fault => exact .inl ⟨fault, rfl⟩
  | ok next => exact .inr ⟨next, rfl, keeps next done⟩

theorem discard_ok {α : Type} {change : InPlace RuntimeConfig α} {a : α} (done : change config = (.ok a, next)) :
    (discard change : InPlace RuntimeConfig Unit) config = (.ok (), next) := by
  show (ExceptT.map (Function.const α PUnit.unit) change) config = _
  unfold ExceptT.map
  simp only [ExceptT.mk, bind, StateT.bind, done]
  rfl

theorem add_kept {now : Int} {value createdBy source : String}
    (done : target.add makeAddress now config value createdBy source = .ok next) : Changes makeAddress config next := by
  cases valid : target.accepts makeAddress value with
  | false =>
    obtain ⟨what, thrown⟩ := @add_rejects makeAddress now createdBy source value target config valid
    rw [thrown] at done
    cases done
  | true =>
    rw [add_accepts valid] at done
    obtain rfl := Except.ok.inj done
    exact .lists target _ (insert_fits lists_fits) fun kept => kept.insert valid

/-- An operation throws and changes nothing, or keeps what holds of the part that it changes. -/
theorem ConfigOp.run_cases (op : ConfigOp) (clock : Nat → Int) :
    (∃ fault, op.run makeAddress clock config = (.error fault, config)) ∨
      ∃ next, op.run makeAddress clock config = (.ok (), next) ∧ Changes makeAddress config next := by
  cases op with
  | add target value createdBy source => exact ofExcept_cases (addInPlace_eq ..) fun next => add_kept
  | remove target value =>
    refine .inr ⟨_, removeInPlace_run value, .lists target _ (fun plain => ?_) fun kept => ?_⟩
    · unfold removeIpFrom
      rw [lists_fits plain]
      rfl
    · exact kept.sublist List.filter_sublist List.filter_sublist
  | clear target =>
    refine .inr ⟨_, clearInPlace_run, .lists target _ (fun _ => rfl) fun kept => ?_⟩
    exact kept.sublist (List.nil_sublist _) (List.nil_sublist _)
  | importText target text createdBy =>
    refine .inr ⟨_, discard_ok (importEntries_lists text), .lists target _ (fun plain => ?_) fun kept => ?_⟩
    · rw [rangeInputs_plain plain]
      exact lists_fits plain
    · exact kept.imported 0 (listLines text.toList)
  | addSite site => exact ofExcept_cases (InPlace.addSite_eq site) fun next => addSite_kept
  | updateSite domain update => exact ofExcept_cases (InPlace.updateSite_eq domain update) fun next => updateSite_kept
  | removeSite domain => exact ofExcept_cases (InPlace.removeSite_eq domain) fun next => removeSite_kept
  | addStatusPage code html => exact ofExcept_cases (InPlace.addStatusPage_eq _ code html) fun next => addStatusPage_kept
  | updateStatusPage code html =>
    exact ofExcept_cases (InPlace.updateStatusPage_eq code html) fun next => updateStatusPage_kept
  | removeStatusPage code => exact ofExcept_cases (InPlace.removeStatusPage_eq code) fun next => removeStatusPage_kept

theorem ConfigOp.run_kept (op : ConfigOp) (clock : Nat → Int) (kept : ConfigKept makeAddress config) :
    ConfigKept makeAddress (op.run makeAddress clock config).2 := by
  rcases op.run_cases clock with ⟨fault, thrown⟩ | ⟨next, done, change⟩
  · rw [thrown]
    exact kept
  · rw [done]
    exact change.kept kept

theorem ConfigOp.runAll_kept (ops : List ((Nat → Int) × ConfigOp)) (kept : ConfigKept makeAddress config) :
    ConfigKept makeAddress (ConfigOp.runAll makeAddress config ops) := by
  induction ops generalizing config with
  | nil => exact kept
  | cons op rest ih => exact ih (op.2.run_kept op.1 kept)

theorem ConfigKept.default : ConfigKept makeAddress {} where
  lists target := by
    have empty : target.lists {} = ⟨[], []⟩ := by
      match target with
      | .blacklist category => cases category <;> rfl
      | .whitelist => rfl
      | .whitelistRoutes => rfl
    rw [empty]
    exact ⟨List.nodup_nil, List.nodup_nil, by simp, by simp⟩
  domains := ⟨List.nodup_nil, by simp⟩
  codes := ⟨List.nodup_nil, by simp⟩

theorem address_of_kept {value : String} (ips : target.holdsIps = true)
    (kept : target.accepts makeAddress value = true ∧ target.isRange value = false) :
    '/' ∉ value.toList ∧ ∃ address, makeAddress value = some address := by
  obtain ⟨valid, single⟩ := kept
  have slashless : '/' ∉ value.toList := by simpa [EntryList.isRange, ips] using single
  have readable := accepts_ips ips valid
  unfold isReadable at readable
  rw [if_neg slashless] at readable
  exact ⟨slashless, Option.isSome_iff_exists.mp readable⟩

theorem parsed_of_kept {range : CidrRange}
    (kept : ∃ now source, newRange makeAddress now source range.text = some range) (later : Int) :
    ∃ parsed, parseCidr makeAddress later range.text = some parsed ∧
      range.prefixAddress = parsed.prefixAddress ∧ range.prefixLen = parsed.prefixLen := by
  obtain ⟨now, source, made⟩ := kept
  obtain ⟨parsed, read, same⟩ := Option.map_eq_some_iff.mp made
  refine ⟨_, (parseCidr_some read).2.2 later, ?_⟩
  rw [← same]
  exact ⟨rfl, rfl⟩

theorem ConfigKept.wellFormed (kept : ConfigKept makeAddress config) : ConfigWellFormed makeAddress config where
  entries_distinct target := (kept.lists target).entries_distinct
  ranges_distinct target := (kept.lists target).ranges_distinct
  addresses entry member := by
    rcases List.mem_append.mp member with black | white
    · exact address_of_kept rfl ((kept.lists (.blacklist .ips)).entries entry black)
    · exact address_of_kept rfl ((kept.lists .whitelist).entries entry white)
  ranges range member now := by
    rcases List.mem_append.mp member with black | white
    · exact parsed_of_kept ((kept.lists (.blacklist .ips)).ranges range black) now
    · exact parsed_of_kept ((kept.lists .whitelist).ranges range white) now
  fakeRoutes entry member := by
    have valid := ((kept.lists (.blacklist .fakeRoutes)).entries entry member).1
    exact (Bool.and_eq_true_iff.mp valid).2
  domains_distinct := kept.domains.1
  domains site member := by
    obtain ⟨bare, low⟩ := kept.domains.2 _ (List.mem_map_of_mem member)
    obtain ⟨full, plain⟩ := bareHostname_iff.mp bare
    exact ⟨full, low, plain⟩
  codes_distinct := kept.codes.1
  codes page member := kept.codes.2 _ (List.mem_map_of_mem member)

/-- The operations keep the configuration well formed, and one that throws leaves it as it was. -/
theorem config_stays_well_formed (makeAddress : MakeAddress) :
    (∀ ops, ConfigWellFormed makeAddress (ConfigOp.runAll makeAddress {} ops)) ∧
    ∀ (config : RuntimeConfig) (clock : Nat → Int) (op : ConfigOp) (fault : Fault),
      (op.run makeAddress clock config).1 = .error fault → (op.run makeAddress clock config).2 = config := by
  constructor
  · exact fun ops => (ConfigOp.runAll_kept ops .default).wellFormed
  · intro config clock op fault throws
    rcases op.run_cases clock with ⟨_, thrown⟩ | ⟨next, done, _⟩
    · rw [thrown]
    · rw [done] at throws
      cases throws

theorem config_stays_well_formed_unknown_code :
    ((ConfigOp.addStatusPage 600 "gone").run Address.ofText (fun _ => 0) {}).2 = {} :=
  (config_stays_well_formed Address.ofText).2 {} (fun _ => 0) (.addStatusPage 600 "gone")
    (.invalidArgument "status code must be between 100 and 599") rfl

end Atomwall
