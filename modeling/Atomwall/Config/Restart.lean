import Atomwall.Config.Edits

/-!
What a restart makes of a configuration that the admin API keeps: the blank values are gone, the times lose
their fractions, and nothing else changes, whatever the clock shows.
-/

namespace Atomwall

open ByteString Yaml

def nonblank (value : String) : Bool := !isBlank value

def IpLists.truncated (lists : IpLists) : IpLists :=
  ⟨lists.exact.map BlacklistEntry.truncated, lists.cidrs.map CidrRange.truncated⟩

def nonblankEntries (values : List BlacklistEntry) : List BlacklistEntry :=
  values.filter fun entry => nonblank entry.value

def nonblankRanges (ranges : List CidrRange) : List CidrRange := ranges.filter fun range => nonblank range.text

def RuntimeConfig.withoutBlanks (config : RuntimeConfig) : RuntimeConfig :=
  { config with
    blacklist := { config.blacklist with
      ipExact := nonblankEntries config.blacklist.ipExact
      ipCidrs := nonblankRanges config.blacklist.ipCidrs
      routes := nonblankEntries config.blacklist.routes
      countries := nonblankEntries config.blacklist.countries
      isps := nonblankEntries config.blacklist.isps
      userAgents := nonblankEntries config.blacklist.userAgents
      referrers := nonblankEntries config.blacklist.referrers
      bodyPatterns := nonblankEntries config.blacklist.bodyPatterns
      fakeRoutes := nonblankEntries config.blacklist.fakeRoutes }
    whitelist := { config.whitelist with
      ipExact := nonblankEntries config.whitelist.ipExact
      ipCidrs := nonblankRanges config.whitelist.ipCidrs
      routes := nonblankEntries config.whitelist.routes } }

/-- The configuration that the next process loads. -/
def RuntimeConfig.restarted (config : RuntimeConfig) : RuntimeConfig :=
  { config.withoutBlanks.truncated with
    ban := { config.ban with scores := reloadedScores config.ban.scores } }

variable {makeAddress : MakeAddress} {now : Int} {config : RuntimeConfig} {target : EntryList} {lists : IpLists}

/-! ### The loader skips blanks itself -/

theorem reloadedEntries_nonblank (values : List BlacklistEntry) :
    reloadedEntries now (nonblankEntries values) = reloadedEntries now values := by
  unfold reloadedEntries nonblankEntries nonblank
  rw [List.filter_filter]
  simp only [Bool.and_self]

theorem reloadedRaws_nonblank (exact : List BlacklistEntry) (cidrs : List CidrRange) :
    reloadedRaws now (nonblankEntries exact) (nonblankRanges cidrs) = reloadedRaws now exact cidrs := by
  have entries : ((nonblankEntries exact).map (BlacklistEntry.toRaw now)).filter (fun raw => !isBlank raw.value) =
      (exact.map (BlacklistEntry.toRaw now)).filter fun raw => !isBlank raw.value := by
    unfold nonblankEntries nonblank
    rw [List.filter_map, List.filter_map, List.filter_filter]
    simp only [Function.comp_apply, BlacklistEntry.toRaw, Bool.and_self, Function.comp_def]
  have ranges : ((nonblankRanges cidrs).map (CidrRange.toRaw now)).filter (fun raw => !isBlank raw.value) =
      (cidrs.map (CidrRange.toRaw now)).filter fun raw => !isBlank raw.value := by
    unfold nonblankRanges nonblank
    rw [List.filter_map, List.filter_map, List.filter_filter]
    simp only [CidrRange.toRaw, Bool.and_self, Function.comp_def]
  unfold reloadedRaws
  rw [List.filter_append, List.filter_append, entries, ranges]

theorem reloaded_withoutBlanks : reloaded makeAddress now config.withoutBlanks = reloaded makeAddress now config := by
  unfold reloaded reloadedBlacklist reloadedWhitelist reloadedExact reloadedRanges RuntimeConfig.withoutBlanks
  simp only [reloadedEntries_nonblank, reloadedRaws_nonblank]

/-! ### What the API keeps is loadable -/

theorem newRange_parsed {source value : String} {range : CidrRange}
    (made : newRange makeAddress now source value = some range) (later : Int) :
    parseCidr makeAddress later range.text = some { range with createdAt := later, source := "manual" } := by
  obtain ⟨parsed, read, rfl⟩ := Option.map_eq_some_iff.mp made
  have manual : parsed.source = "manual" := by
    unfold parseCidr at read
    split at read
    · cases read
    · split at read
      · split at read
        · cases read
        · obtain rfl := Option.some.inj read
          rfl
      · cases read
  obtain ⟨text, -, again⟩ := parseCidr_some read
  have later_read := again later
  rw [← text] at later_read
  show parseCidr makeAddress later parsed.text = _
  rw [later_read, ← manual]

theorem ListsKept.rangeLoadable (kept : ListsKept makeAddress target lists) (dated : ListsDated lists) {range : CidrRange}
    (member : range ∈ lists.cidrs) : RangeLoadable makeAddress range := by
  obtain ⟨made_at, source, made⟩ := kept.ranges range member
  exact ⟨newRange_parsed made range.createdAt, dated.ranges range member⟩

theorem ListsKept.exactLoadable (kept : ListsKept makeAddress target lists) (ips : target.holdsIps = true)
    (dated : ListsDated lists) {entry : BlacklistEntry} (member : entry ∈ nonblankEntries lists.exact) :
    ExactLoadable makeAddress entry := by
  obtain ⟨there, full⟩ := List.mem_filter.mp member
  obtain ⟨slashless, address, parses⟩ := address_of_kept ips (kept.entries entry there)
  refine ⟨⟨?_, dated.entries entry there⟩, ?_, slashless⟩
  · simpa [nonblank] using full
  · rw [parses]
    rfl

theorem entries_loadable (dated : ListsDated lists) {entry : BlacklistEntry}
    (member : entry ∈ nonblankEntries lists.exact) : EntryLoadable entry := by
  obtain ⟨there, full⟩ := List.mem_filter.mp member
  exact ⟨by simpa [nonblank] using full, dated.entries entry there⟩

theorem loadable_withoutBlanks (kept : ConfigKept makeAddress config) (dated : ConfigDated config) :
    config.withoutBlanks.Loadable makeAddress where
  patterns := by
    simp only [RuntimeConfig.patterns, RuntimeConfig.withoutBlanks, List.forall_mem_cons, List.not_mem_nil,
      false_implies, implies_true, and_true]
    refine ⟨?_, ?_, ?_, ?_, ?_, ?_, ?_, ?_⟩
    · exact fun _ => entries_loadable (dated.lists (.blacklist .routes))
    · exact fun _ => entries_loadable (dated.lists (.blacklist .countries))
    · exact fun _ => entries_loadable (dated.lists (.blacklist .isps))
    · exact fun _ => entries_loadable (dated.lists (.blacklist .userAgents))
    · exact fun _ => entries_loadable (dated.lists (.blacklist .referrers))
    · exact fun _ => entries_loadable (dated.lists (.blacklist .bodyPatterns))
    · exact fun _ => entries_loadable (dated.lists (.blacklist .fakeRoutes))
    · exact fun _ => entries_loadable (dated.lists .whitelistRoutes)
  exact := by
    intro entry member
    rcases List.mem_append.mp member with black | white
    · exact (kept.lists (.blacklist .ips)).exactLoadable rfl (dated.lists (.blacklist .ips)) black
    · exact (kept.lists .whitelist).exactLoadable rfl (dated.lists .whitelist) white
  ranges := by
    intro range member
    rcases List.mem_append.mp member with black | white
    · exact (kept.lists (.blacklist .ips)).rangeLoadable (dated.lists (.blacklist .ips)) (List.mem_filter.mp black).1
    · exact (kept.lists .whitelist).rangeLoadable (dated.lists .whitelist) (List.mem_filter.mp white).1
  domains := by
    intro site member
    obtain ⟨bare, low⟩ := kept.domains.2 _ (List.mem_map_of_mem member)
    exact ⟨low, (bareHostname_iff.mp bare).1⟩
  pages := dated.pages

theorem reloaded_kept (kept : ConfigKept makeAddress config) (dated : ConfigDated config) :
    reloaded makeAddress now config = config.restarted := by
  rw [← reloaded_withoutBlanks, reloaded_loadable (loadable_withoutBlanks kept dated)]
  rfl

/-! ### What the next process starts with -/

theorem lists_restarted : target.lists config.restarted = ((target.lists config).keep nonblank).truncated := by
  match target with
  | .blacklist category => cases category <;> rfl
  | .whitelist => rfl
  | .whitelistRoutes => rfl

theorem truncated_entry_values (entries : List BlacklistEntry) :
    (entries.map BlacklistEntry.truncated).map BlacklistEntry.value = entries.map BlacklistEntry.value := by
  rw [List.map_map]
  rfl

theorem truncated_range_texts (ranges : List CidrRange) :
    (ranges.map CidrRange.truncated).map CidrRange.text = ranges.map CidrRange.text := by
  rw [List.map_map]
  rfl

theorem mem_values_restarted {value : String} : value ∈ (target.lists config.restarted).values ↔
    value ∈ (target.lists config).values ∧ isBlank value = false := by
  have kept {α : Type} (items : List α) (key : α → String) :
      value ∈ (items.filter fun item => nonblank (key item)).map key ↔ value ∈ items.map key ∧ isBlank value = false := by
    simp only [List.mem_map, List.mem_filter, nonblank, Bool.not_eq_true']
    constructor
    · rintro ⟨item, ⟨member, full⟩, rfl⟩
      exact ⟨⟨item, member, rfl⟩, full⟩
    · rintro ⟨⟨item, member, rfl⟩, full⟩
      exact ⟨item, ⟨member, full⟩, rfl⟩
  rw [lists_restarted, mem_values, mem_values]
  unfold IpLists.truncated IpLists.keep
  rw [truncated_entry_values, truncated_range_texts, kept _ BlacklistEntry.value, kept _ CidrRange.text, or_and_right]

theorem seconds_toSeconds_nonneg {time : Int} (epoch : 0 ≤ time) : 0 ≤ seconds (toSeconds time) := by
  have whole : 0 ≤ toSeconds time := Int.tdiv_nonneg epoch (by decide)
  unfold seconds
  omega

theorem ListsDated.truncated (dated : ListsDated lists) : ListsDated lists.truncated where
  entries entry member := by
    obtain ⟨old, there, rfl⟩ := List.mem_map.mp member
    exact seconds_toSeconds_nonneg (dated.entries old there)
  ranges range member := by
    obtain ⟨old, there, rfl⟩ := List.mem_map.mp member
    exact seconds_toSeconds_nonneg (dated.ranges old there)

theorem newRange_truncated {source value : String} {range : CidrRange}
    (made : newRange makeAddress now source value = some range) :
    newRange makeAddress (seconds (toSeconds range.createdAt)) source value = some range.truncated := by
  obtain ⟨parsed, read, rfl⟩ := Option.map_eq_some_iff.mp made
  unfold newRange
  rw [(parseCidr_some read).2.2]
  rfl

theorem ListsKept.truncated (kept : ListsKept makeAddress target lists) :
    ListsKept makeAddress target lists.truncated where
  entries_distinct := by
    unfold IpLists.truncated
    rw [truncated_entry_values]
    exact kept.entries_distinct
  ranges_distinct := by
    unfold IpLists.truncated
    rw [truncated_range_texts]
    exact kept.ranges_distinct
  entries entry member := by
    obtain ⟨old, there, rfl⟩ := List.mem_map.mp member
    exact kept.entries old there
  ranges range member := by
    obtain ⟨old, there, rfl⟩ := List.mem_map.mp member
    obtain ⟨made_at, source, made⟩ := kept.ranges old there
    exact ⟨_, source, newRange_truncated made⟩

theorem ConfigKept.restarted (kept : ConfigKept makeAddress config) : ConfigKept makeAddress config.restarted where
  lists target := by
    rw [lists_restarted]
    exact ((kept.lists target).sublist List.filter_sublist List.filter_sublist).truncated
  domains := kept.domains
  codes := by
    have same : config.restarted.pages.statusPages.map StatusPageEntry.code =
        config.pages.statusPages.map StatusPageEntry.code := by
      show (config.pages.statusPages.map StatusPageEntry.truncated).map StatusPageEntry.code = _
      rw [List.map_map]
      rfl
    rw [same]
    exact kept.codes

theorem ConfigDated.restarted (dated : ConfigDated config) : ConfigDated config.restarted where
  lists target := by
    rw [lists_restarted]
    exact (dated.lists target).keep.truncated
  pages page member := by
    obtain ⟨old, there, rfl⟩ := List.mem_map.mp member
    exact seconds_toSeconds_nonneg (dated.pages old there)

theorem scores_restarted (name : String) : config.restarted.ban.scores.lookup name = config.ban.scores.lookup name :=
  lookup_reloadedScores _ name

theorem parse_loaded {yaml : Library} {file : String} (typed : config.Typed) (kept : ConfigKept makeAddress config)
    (dated : ConfigDated config) (doubles : DoublesReadBack yaml config)
    (loaded : yaml.load file = some (writeConfig yaml config)) :
    parseYamlConfig makeAddress yaml now file = .ok config.restarted := by
  unfold parseYamlConfig
  rw [loaded]
  dsimp only
  rw [readConfig_writeConfig typed doubles, reloaded_kept kept dated]

/-- What `to_yaml_config` wrote is read back, where the emitter and the loader are inverse on it. -/
theorem parse_restarted {yaml : Library} (typed : config.Typed) (kept : ConfigKept makeAddress config)
    (dated : ConfigDated config) (doubles : DoublesReadBack yaml config)
    (trees : yaml.load (yaml.emit (writeConfig yaml config)) = some (writeConfig yaml config)) :
    parseYamlConfig makeAddress yaml now (toYamlConfig yaml config) = .ok config.restarted :=
  parse_loaded typed kept dated doubles trees

/-! ### A second restart changes nothing -/

theorem toSeconds_seconds (n : Int) : toSeconds (seconds n) = n := by
  unfold toSeconds seconds
  exact Int.mul_tdiv_cancel n (by decide)

theorem truncated_entry_twice (entry : BlacklistEntry) : entry.truncated.truncated = entry.truncated := by
  unfold BlacklistEntry.truncated
  rw [toSeconds_seconds]

theorem truncated_range_twice (range : CidrRange) : range.truncated.truncated = range.truncated := by
  unfold CidrRange.truncated
  rw [toSeconds_seconds]

theorem truncated_page_twice (page : StatusPageEntry) : page.truncated.truncated = page.truncated := by
  unfold StatusPageEntry.truncated
  rw [toSeconds_seconds]

theorem map_twice {α : Type} {f : α → α} (twice : ∀ a, f (f a) = f a) (items : List α) :
    (items.map f).map f = items.map f := by
  rw [List.map_map]
  exact List.map_congr_left fun item _ => twice item

/-- Blanks are told by a text that the truncation leaves. -/
theorem kept_map_twice {α : Type} {f : α → α} {full : α → Bool} (twice : ∀ a, f (f a) = f a)
    (same : ∀ a, full (f a) = full a) (items : List α) :
    (((items.filter full).map f).filter full).map f = (items.filter full).map f := by
  have all : ((items.filter full).map f).filter full = (items.filter full).map f := by
    rw [List.filter_eq_self]
    intro item member
    obtain ⟨old, there, rfl⟩ := List.mem_map.mp member
    rw [same]
    exact (List.mem_filter.mp there).2
  rw [all, map_twice twice]

/-- The order of the map is that of the names, so maps that read alike are written alike. -/
theorem sortedScores_congr {scores other : KeyMap String Int} (same : ∀ name, scores.lookup name = other.lookup name) :
    sortedScores scores = sortedScores other := by
  have entries : scores.entries.Perm other.entries := by
    refine List.lookup_ext scores.nodupKeys other.nodupKeys fun name points => ?_
    exact Eq.to_iff (congrArg (points ∈ ·) (same name))
  have sorted (map : KeyMap String Int) :
      (sortedScores map).Pairwise fun a b => (decide (a.1 ≤ b.1) : Bool) = true :=
    List.pairwise_mergeSort (fun a b c first next => by
      rw [decide_eq_true_eq] at first next ⊢
      exact String.le_trans first next) (fun a b => by
      rw [Bool.or_eq_true, decide_eq_true_eq, decide_eq_true_eq]
      exact String.le_total a.1 b.1) _
  have permuted : (sortedScores scores).Perm (sortedScores other) :=
    (List.mergeSort_perm _ _).trans (entries.trans (List.mergeSort_perm _ _).symm)
  refine List.Perm.eq_of_pairwise ?_ (sorted scores) (sorted other) permuted
  rintro ⟨name, points⟩ ⟨name', points'⟩ first next before after
  obtain rfl : name = name' := String.le_antisymm (of_decide_eq_true before) (of_decide_eq_true after)
  have mine := (List.mergeSort_perm _ _).mem_iff.mp first
  have yours := entries.mem_iff.mpr ((List.mergeSort_perm _ _).mem_iff.mp next)
  have one := (KeyMap.lookup_eq_some_iff.mpr mine).symm.trans (KeyMap.lookup_eq_some_iff.mpr yours)
  rw [Option.some.inj one]

theorem reloadedScores_twice (scores : KeyMap String Int) :
    reloadedScores (reloadedScores scores) = reloadedScores scores := by
  have same := sortedScores_congr (lookup_reloadedScores scores)
  exact congrArg (List.foldl (fun (read : KeyMap String Int) score => read.insert score.1 score.2) ∅) same

theorem restarted_twice (config : RuntimeConfig) : config.restarted.restarted = config.restarted := by
  have entries (values : List BlacklistEntry) :
      (nonblankEntries ((nonblankEntries values).map BlacklistEntry.truncated)).map BlacklistEntry.truncated =
        (nonblankEntries values).map BlacklistEntry.truncated :=
    kept_map_twice truncated_entry_twice (fun _ => rfl) values
  have ranges (values : List CidrRange) :
      (nonblankRanges ((nonblankRanges values).map CidrRange.truncated)).map CidrRange.truncated =
        (nonblankRanges values).map CidrRange.truncated :=
    kept_map_twice truncated_range_twice (fun _ => rfl) values
  have pages (values : List StatusPageEntry) :
      (values.map StatusPageEntry.truncated).map StatusPageEntry.truncated = values.map StatusPageEntry.truncated :=
    map_twice truncated_page_twice values
  unfold RuntimeConfig.restarted RuntimeConfig.truncated RuntimeConfig.withoutBlanks
  dsimp only
  simp only [entries, ranges, pages, reloadedScores_twice]

end Atomwall
