import Atomwall.Base.FirstSeen
import Atomwall.Config.InPlace
import Atomwall.Pipeline.RobotsTxt

/-!
Bulk import of `config/blacklist_ops.cpp`: a text of one entry a line. It comes to adding the lines one by
one, and a second time to nothing.
-/

namespace Atomwall

open ByteString FirstSeen

/-! ### The lines of a text -/

/-- `text.find('\n', pos)`. -/
def findNewline (text : List Char) (pos : Nat) : Option Nat :=
  ((text.drop pos).findIdx? (· == '\n')).map (pos + ·)

/-- The line at a position and the position of the next; behind the last line that is one past the end. -/
def lineAt (text : List Char) (pos : Nat) : List Char × Nat :=
  match findNewline text pos with
  | none => (text.drop pos, text.length + 1)
  | some newline => ((text.drop pos).take (newline - pos), newline + 1)

theorem lineAt_next {text : List Char} {pos : Nat} (inside : pos ≤ text.length) : pos < (lineAt text pos).2 := by
  unfold lineAt findNewline
  cases (text.drop pos).findIdx? (· == '\n') with
  | none => exact Nat.lt_succ_of_le inside
  | some n =>
    show pos < pos + n + 1
    omega

def isListLine (line : List Char) : Bool := line ≠ [] && line.head? != some '#'

def forEachListLine {m : Type → Type} [Monad m] (onLine : String → m Unit) (text : List Char) (pos : Nat) : m Unit :=
  if inside : pos ≤ text.length then
    have _ := lineAt_next inside
    let line := trim (lineAt text pos).1
    if !isListLine line then forEachListLine onLine text (lineAt text pos).2
    else do
      onLine (String.ofList line)
      forEachListLine onLine text (lineAt text pos).2
  else pure ()
termination_by text.length + 1 - pos

/-- What the lines of a text hold, but for white space around them and comments. -/
def listLines (text : List Char) : List String :=
  (((text.splitOn '\n').map trim).filter isListLine).map String.ofList

theorem lineAt_splitOn {text : List Char} {pos : Nat} (inside : pos ≤ text.length) :
    (text.drop pos).splitOn '\n' = (lineAt text pos).1 ::
      if (lineAt text pos).2 ≤ text.length then (text.drop (lineAt text pos).2).splitOn '\n' else [] := by
  unfold lineAt findNewline
  cases found : (text.drop pos).findIdx? (· == '\n') with
  | none =>
    have free : '\n' ∉ text.drop pos := fun member => by
      simpa using List.findIdx?_eq_none_iff.mp found '\n' member
    have last : ¬ text.length + 1 ≤ text.length := by omega
    simp only [Option.map_none, last, if_false]
    exact List.splitOn_eq_singleton free
  | some n =>
    obtain ⟨short, newline, before⟩ := List.findIdx?_eq_some_iff_getElem.mp found
    have split : text.drop pos = (text.drop pos).take n ++ '\n' :: (text.drop pos).drop (n + 1) := by
      have here : (text.drop pos)[n] = '\n' := by simpa using newline
      rw [← here, List.getElem_cons_drop, List.take_append_drop]
    have free : '\n' ∉ (text.drop pos).take n := by
      intro member
      obtain ⟨i, small, same⟩ := List.mem_take_iff_getElem.mp member
      refine before i (by omega) ?_
      rw [same]
      rfl
    have within : pos + n + 1 ≤ text.length := by
      rw [List.length_drop] at short
      omega
    have line : pos + n - pos = n := by omega
    have rest : (text.drop pos).drop (n + 1) = text.drop (pos + n + 1) := by
      rw [List.drop_drop, Nat.add_assoc]
    simp only [Option.map_some, within, if_true, line]
    rw [split, List.splitOn_append_cons_self_of_not_mem free, ← split, rest]

theorem listLines_drop {text : List Char} {pos : Nat} (inside : pos ≤ text.length) :
    listLines (text.drop pos) =
      (if isListLine (trim (lineAt text pos).1) then [String.ofList (trim (lineAt text pos).1)] else []) ++
        if (lineAt text pos).2 ≤ text.length then listLines (text.drop (lineAt text pos).2) else [] := by
  unfold listLines
  rw [lineAt_splitOn inside, List.map_cons, List.filter_cons]
  by_cases more : (lineAt text pos).2 ≤ text.length
  · rw [if_pos more, if_pos more]
    split <;> rfl
  · rw [if_neg more, if_neg more]
    split <;> rfl

variable {m : Type → Type} [Monad m]

theorem forEachListLine_drop (onLine : String → m Unit) (text : List Char) (pos : Nat) :
    forEachListLine onLine text pos =
      (if pos ≤ text.length then listLines (text.drop pos) else []).forM onLine := by
  fun_induction forEachListLine onLine text pos with
  | case1 pos inside forward line skipped ih =>
    have comment : ¬ isListLine (trim (lineAt text pos).1) = true := by simpa using skipped
    rw [ih, if_pos inside, listLines_drop inside, if_neg comment, List.nil_append]
  | case2 pos inside forward line kept ih =>
    have entry : isListLine (trim (lineAt text pos).1) = true := by simpa using kept
    rw [ih, if_pos inside, listLines_drop inside, if_pos entry]
    rfl
  | case3 pos beyond => rw [if_neg beyond]; rfl

theorem forEachListLine_eq (onLine : String → m Unit) (text : List Char) :
    forEachListLine onLine text 0 = (listLines text).forM onLine :=
  forEachListLine_drop onLine text 0

/-! ### The imports -/

structure ImportResult where
  added : Nat := 0
  skipped : Nat := 0

namespace InPlace

/-- One line: what it throws for an entry that is not valid is counted. `clock` tells the time at each. -/
def importLine (add : Int → String → InPlace RuntimeConfig Unit) (clock : Nat → Int) (line : String) :
    InPlace (RuntimeConfig × ImportResult) Unit := fun (config, result) =>
  match add (clock (result.added + result.skipped)) line config with
  | (.ok (), next) => (.ok (), next, { result with added := result.added + 1 })
  | (.error (.invalidArgument _), next) => (.ok (), next, { result with skipped := result.skipped + 1 })
  | (.error fault, next) => (.error fault, next, result)

def importEntries (add : Int → String → InPlace RuntimeConfig Unit) (clock : Nat → Int) (text : String) :
    InPlace RuntimeConfig ImportResult := fun config =>
  match forEachListLine (importLine add clock) text.toList 0 (config, {}) with
  | (.ok (), next, result) => (.ok result, next)
  | (.error fault, next, _) => (.error fault, next)

variable (makeAddress : MakeAddress) (clock : Nat → Int)

def importBlacklistEntries (category : BlacklistCategory) (text createdBy : String) :
    InPlace RuntimeConfig ImportResult :=
  importEntries (fun now line => addBlacklistEntry makeAddress now category line createdBy "list") clock text

def importWhitelistEntries (text createdBy : String) : InPlace RuntimeConfig ImportResult :=
  importEntries (fun now line => addWhitelistEntry makeAddress now line createdBy "list") clock text

def importWhitelistRouteEntries (text createdBy : String) : InPlace RuntimeConfig ImportResult :=
  importEntries (fun now line => addWhitelistRouteEntry now line createdBy "list") clock text

end InPlace

def EntryList.importEntries (makeAddress : MakeAddress) (clock : Nat → Int) (text createdBy : String) :
    EntryList → InPlace RuntimeConfig ImportResult
  | .blacklist category => InPlace.importBlacklistEntries makeAddress clock category text createdBy
  | .whitelist => InPlace.importWhitelistEntries makeAddress clock text createdBy
  | .whitelistRoutes => InPlace.importWhitelistRouteEntries clock text createdBy

/-! ### What a line adds -/

/-- Two lists, the second only for addresses. -/
def EntryList.lists (config : RuntimeConfig) : EntryList → IpLists
  | .blacklist .ips => config.blacklist.ips
  | .blacklist category => ⟨listFor config.blacklist category, []⟩
  | .whitelist => config.whitelist.ips
  | .whitelistRoutes => ⟨config.whitelist.routes, []⟩

def EntryList.withLists (config : RuntimeConfig) (lists : IpLists) : EntryList → RuntimeConfig
  | .blacklist .ips => { config with blacklist := config.blacklist.withIps lists }
  | .blacklist category => { config with blacklist := withListFor config.blacklist category lists.exact }
  | .whitelist => { config with whitelist := config.whitelist.withIps lists }
  | .whitelistRoutes => { config with whitelist := { config.whitelist with routes := lists.exact } }

def EntryList.holdsIps : EntryList → Bool
  | .blacklist .ips | .whitelist => true
  | _ => false

/-- The value goes to the ranges. -/
def EntryList.isRange (target : EntryList) (value : String) : Bool := target.holdsIps && '/' ∈ value.toList

def isReadable (makeAddress : MakeAddress) (value : String) : Bool :=
  if '/' ∈ value.toList then (parseCidr makeAddress 0 value).isSome else (makeAddress value).isSome

def EntryList.accepts (makeAddress : MakeAddress) (target : EntryList) (value : String) : Bool :=
  value ≠ "" &&
    match target with
    | .blacklist .ips | .whitelist => isReadable makeAddress value
    | .blacklist .fakeRoutes => startsWith value "/"
    | _ => true

section Added

variable (makeAddress : MakeAddress) (now : Int) (createdBy source value : String)

def newEntry : BlacklistEntry := { value, createdAt := now, createdBy, source }

def newRange : Option CidrRange := (parseCidr makeAddress now value).map ({ · with source })

def IpLists.insertExact (lists : IpLists) : IpLists :=
  { lists with exact := FirstSeen.insert BlacklistEntry.value lists.exact (newEntry now createdBy source value) }

def IpLists.insertRange (lists : IpLists) : IpLists :=
  { lists with
    cidrs := (newRange makeAddress now source value).toList.foldl (FirstSeen.insert CidrRange.text) lists.cidrs }

def EntryList.insert (target : EntryList) (lists : IpLists) : IpLists :=
  if target.isRange value then lists.insertRange makeAddress now source value
  else lists.insertExact now createdBy source value

variable {makeAddress} {now} {createdBy source value}

theorem parseCidr_time (later : Int) :
    (parseCidr makeAddress now value).isSome = (parseCidr makeAddress later value).isSome := by
  have keeps {a b : Int} (there : (parseCidr makeAddress a value).isSome = true) :
      (parseCidr makeAddress b value).isSome = true := by
    obtain ⟨range, parsed⟩ := Option.isSome_iff_exists.mp there
    rw [(parseCidr_some parsed).2.2 b]
    rfl
  exact Bool.eq_iff_iff.mpr ⟨keeps, keeps⟩

theorem addTo_eq_insert (values : List BlacklistEntry) :
    addTo now values value createdBy source =
      FirstSeen.insert BlacklistEntry.value values (newEntry now createdBy source value) := rfl

theorem addIpTo_readable (lists : IpLists) (readable : isReadable makeAddress value = true) :
    addIpTo makeAddress now lists value createdBy source =
      .ok (if '/' ∈ value.toList then lists.insertRange makeAddress now source value
        else lists.insertExact now createdBy source value) := by
  unfold isReadable at readable
  unfold addIpTo
  by_cases slash : '/' ∈ value.toList
  · rw [if_pos slash, parseCidr_time now] at readable
    obtain ⟨range, parsed⟩ := Option.isSome_iff_exists.mp readable
    simp only [slash, if_true, parsed, IpLists.insertRange, newRange, Option.map_some, Option.toList_some,
      List.foldl_cons, List.foldl_nil, FirstSeen.insert]
    split <;> rfl
  · rw [if_neg slash] at readable
    obtain ⟨address, parses⟩ := Option.isSome_iff_exists.mp readable
    by_cases fresh : lists.exact.all (·.value != value) = true
    · simp only [slash, if_false, parses, IpLists.insertExact, newEntry, FirstSeen.insert, fresh, if_true]
    · simp only [slash, if_false, parses, IpLists.insertExact, newEntry, FirstSeen.insert, fresh, Bool.false_eq_true]

theorem addIpTo_unreadable (lists : IpLists) (unreadable : isReadable makeAddress value = false) :
    ∃ what, addIpTo makeAddress now lists value createdBy source = .error (.invalidArgument what) := by
  unfold isReadable at unreadable
  unfold addIpTo
  by_cases slash : '/' ∈ value.toList
  · rw [if_pos slash, parseCidr_time now, Option.isSome_eq_false_iff, Option.isNone_iff_eq_none] at unreadable
    exact ⟨_, by rw [if_pos slash, unreadable]⟩
  · rw [if_neg slash, Option.isSome_eq_false_iff, Option.isNone_iff_eq_none] at unreadable
    exact ⟨_, by rw [if_neg slash, unreadable]⟩

theorem add_list (category : BlacklistCategory) {config : RuntimeConfig} (other : category ≠ .ips)
    (full : value ≠ "") (valid : (EntryList.blacklist category).accepts makeAddress value = true) :
    let values := FirstSeen.insert BlacklistEntry.value (listFor config.blacklist category)
      (newEntry now createdBy source value)
    addBlacklistEntry makeAddress now config category value createdBy source =
      .ok { config with blacklist := withListFor config.blacklist category values } := by
  have path : ¬ (category = .fakeRoutes ∧ (!startsWith value "/") = true) := by
    rintro ⟨rfl, relative⟩
    have path := (Bool.and_eq_true_iff.mp valid).2
    simp only at path
    simp [path] at relative
  unfold addBlacklistEntry
  rw [if_neg full, if_neg other, if_neg path]
  rfl

theorem insert_list {target : EntryList} (plain : target.holdsIps = false) (lists : IpLists) :
    target.insert makeAddress now createdBy source value lists = lists.insertExact now createdBy source value := by
  simp [EntryList.insert, EntryList.isRange, plain]

theorem insert_ips {target : EntryList} (ips : target.holdsIps = true) (lists : IpLists) :
    target.insert makeAddress now createdBy source value lists =
      if '/' ∈ value.toList then lists.insertRange makeAddress now source value
      else lists.insertExact now createdBy source value := by
  by_cases slash : '/' ∈ value.toList <;> simp [EntryList.insert, EntryList.isRange, ips, slash]

theorem add_accepts {target : EntryList} {config : RuntimeConfig} (valid : target.accepts makeAddress value = true) :
    target.add makeAddress now config value createdBy source =
      .ok (target.withLists config (target.insert makeAddress now createdBy source value (target.lists config))) := by
  have full : value ≠ "" := by simpa using (Bool.and_eq_true_iff.mp valid).1
  match target with
  | .blacklist category =>
    cases category with
    | ips =>
      have readable : isReadable makeAddress value = true := (Bool.and_eq_true_iff.mp valid).2
      simp only [EntryList.add, addBlacklistEntry, full, if_false, if_true, addIpTo_readable _ readable]
      rw [insert_ips rfl]
      rfl
    | _ =>
      rw [insert_list rfl]
      exact add_list _ (by simp) full valid
  | .whitelist =>
    have readable : isReadable makeAddress value = true := (Bool.and_eq_true_iff.mp valid).2
    simp only [EntryList.add, addWhitelistEntry, full, if_false, addIpTo_readable _ readable]
    rw [insert_ips rfl]
    rfl
  | .whitelistRoutes =>
    simp only [EntryList.add, addWhitelistRouteEntry, full, if_false]
    rw [insert_list rfl]
    rfl

theorem add_rejects {target : EntryList} {config : RuntimeConfig} (invalid : target.accepts makeAddress value = false) :
    ∃ what, target.add makeAddress now config value createdBy source = .error (.invalidArgument what) := by
  by_cases full : value = ""
  · match target with
    | .blacklist category => exact ⟨_, if_pos full⟩
    | .whitelist => exact ⟨_, if_pos full⟩
    | .whitelistRoutes => exact ⟨_, if_pos full⟩
  · have unfit : (_ : Bool) = false := (Bool.and_eq_false_iff.mp invalid).resolve_left (by simp [full])
    match target with
    | .blacklist category =>
      cases category with
      | ips =>
        obtain ⟨what, unread⟩ := @addIpTo_unreadable makeAddress now createdBy source value config.blacklist.ips unfit
        refine ⟨what, ?_⟩
        simp only [EntryList.add, addBlacklistEntry, full, if_false, if_true, unread]
        rfl
      | fakeRoutes =>
        have relative : startsWith value "/" = false := unfit
        refine ⟨"fake route must start with '/'", ?_⟩
        simp only [EntryList.add, addBlacklistEntry, full, if_false, relative]
        rfl
      | _ => cases unfit
    | .whitelist =>
      obtain ⟨what, unread⟩ := @addIpTo_unreadable makeAddress now createdBy source value config.whitelist.ips unfit
      refine ⟨what, ?_⟩
      simp only [EntryList.add, addWhitelistEntry, full, if_false, unread]
      rfl
    | .whitelistRoutes => cases unfit

end Added

/-! ### One line after another -/

namespace InPlace

variable {σ : Type}

theorem bind_ok {α β : Type} {first : InPlace σ α} {next : α → InPlace σ β} {state later : σ} {a : α}
    (done : first state = (.ok a, later)) : (first >>= next) state = next a later := by
  show (ExceptT.bind first next) state = _
  unfold ExceptT.bind
  show (ExceptT.bindCont next (first state).1) (first state).2 = _
  rw [done]
  rfl

theorem forM_ok {onLine : String → InPlace σ Unit} {step : σ → String → σ} {lines : List String}
    (each : ∀ line state, onLine line state = (.ok (), step state line)) (state : σ) :
    lines.forM onLine state = (.ok (), lines.foldl step state) := by
  induction lines generalizing state with
  | nil => rfl
  | cons line rest ih =>
    show (onLine line >>= fun _ => rest.forM onLine) state = _
    rw [bind_ok (each line state)]
    exact ih _

end InPlace

section Fold

variable (makeAddress : MakeAddress) (clock : Nat → Int) (createdBy : String) (target : EntryList)

def importStep (state : RuntimeConfig × ImportResult) (line : String) : RuntimeConfig × ImportResult :=
  let (config, result) := state
  if target.accepts makeAddress line then
    let now := clock (result.added + result.skipped)
    (target.withLists config (target.insert makeAddress now createdBy "list" line (target.lists config)),
      { result with added := result.added + 1 })
  else (config, { result with skipped := result.skipped + 1 })

/-- The entries that the lines from the `k`th on stand for. -/
def exactInputs (k : Nat) (lines : List String) : List BlacklistEntry :=
  ((lines.zipIdx k).filter fun item => target.accepts makeAddress item.1 && !target.isRange item.1).map
    fun item => newEntry (clock item.2) createdBy "list" item.1

def rangeInputs (k : Nat) (lines : List String) : List CidrRange :=
  ((lines.zipIdx k).filter fun item => target.accepts makeAddress item.1 && target.isRange item.1).flatMap
    fun item => (newRange makeAddress (clock item.2) "list" item.1).toList

variable {makeAddress} {clock} {createdBy} {target} {config : RuntimeConfig} {lists : IpLists} {lines : List String}

theorem importEntries_eq (text : String) :
    target.importEntries makeAddress clock text createdBy =
      InPlace.importEntries (fun now line => InPlace.ofExcept fun config =>
        target.add makeAddress now config line createdBy "list") clock text := by
  match target with
  | .blacklist category =>
    unfold EntryList.importEntries InPlace.importBlacklistEntries
    simp only [InPlace.addBlacklistEntry_eq]
    rfl
  | .whitelist =>
    unfold EntryList.importEntries InPlace.importWhitelistEntries
    simp only [InPlace.addWhitelistEntry_eq]
    rfl
  | .whitelistRoutes =>
    unfold EntryList.importEntries InPlace.importWhitelistRouteEntries
    simp only [InPlace.addWhitelistRouteEntry_eq]
    rfl

theorem importLine_eq (line : String) (state : RuntimeConfig × ImportResult) :
    InPlace.importLine (fun now line => InPlace.ofExcept fun config =>
      target.add makeAddress now config line createdBy "list") clock line state =
        (.ok (), importStep makeAddress clock createdBy target state line) := by
  obtain ⟨config, result⟩ := state
  unfold InPlace.importLine importStep InPlace.ofExcept
  cases valid : target.accepts makeAddress line with
  | true => simp only [add_accepts valid, if_true]
  | false =>
    obtain ⟨what, thrown⟩ := @add_rejects makeAddress (clock (result.added + result.skipped)) createdBy "list" line
      target config valid
    simp only [thrown, Bool.false_eq_true, if_false]

theorem importEntries_run (text : String) :
    target.importEntries makeAddress clock text createdBy config =
      let (next, result) := (listLines text.toList).foldl (importStep makeAddress clock createdBy target) (config, {})
      (.ok result, next) := by
  rw [importEntries_eq]
  unfold InPlace.importEntries
  rw [forEachListLine_eq, InPlace.forM_ok importLine_eq]

theorem withLists_lists : target.withLists config (target.lists config) = config := by
  match target with
  | .blacklist category => cases category <;> rfl
  | .whitelist => rfl
  | .whitelistRoutes => rfl

theorem withLists_withLists (others : IpLists) :
    target.withLists (target.withLists config lists) others = target.withLists config others := by
  match target with
  | .blacklist category => cases category <;> rfl
  | .whitelist => rfl
  | .whitelistRoutes => rfl

def EntryList.Fits (target : EntryList) (lists : IpLists) : Prop := target.holdsIps = false → lists.cidrs = []

theorem lists_withLists (fits : target.Fits lists) : target.lists (target.withLists config lists) = lists := by
  obtain ⟨exact, cidrs⟩ := lists
  match target with
  | .blacklist category =>
    cases category with
    | ips => rfl
    | _ =>
      obtain rfl : cidrs = [] := fits rfl
      rfl
  | .whitelist => rfl
  | .whitelistRoutes =>
    obtain rfl : cidrs = [] := fits rfl
    rfl

theorem lists_fits : target.Fits (target.lists config) := by
  intro plain
  match target with
  | .blacklist category =>
    cases category with
    | ips => cases plain
    | _ => rfl
  | .whitelist => cases plain
  | .whitelistRoutes => rfl

theorem insert_fits {now : Int} {source value : String} (fits : target.Fits lists) :
    target.Fits (target.insert makeAddress now createdBy source value lists) := by
  intro plain
  rw [insert_list plain]
  exact fits plain

theorem importStep_accepts {line : String} (fits : target.Fits lists) (valid : target.accepts makeAddress line = true)
    (result : ImportResult) :
    importStep makeAddress clock createdBy target (target.withLists config lists, result) line =
      (target.withLists config
        (target.insert makeAddress (clock (result.added + result.skipped)) createdBy "list" line lists),
        { result with added := result.added + 1 }) := by
  unfold importStep
  simp only [valid, if_true, withLists_withLists, lists_withLists fits]

theorem importStep_rejects {line : String} (invalid : target.accepts makeAddress line = false)
    (state : RuntimeConfig × ImportResult) :
    importStep makeAddress clock createdBy target state line =
      (state.1, { state.2 with skipped := state.2.skipped + 1 }) := by
  unfold importStep
  simp only [invalid, Bool.false_eq_true, if_false]

theorem exactInputs_cons (k : Nat) (line : String) (rest : List String) :
    exactInputs makeAddress clock createdBy target k (line :: rest) =
      (if target.accepts makeAddress line && !target.isRange line then [newEntry (clock k) createdBy "list" line]
        else []) ++ exactInputs makeAddress clock createdBy target (k + 1) rest := by
  unfold exactInputs
  rw [List.zipIdx_cons, List.filter_cons]
  split <;> rfl

theorem rangeInputs_cons (k : Nat) (line : String) (rest : List String) :
    rangeInputs makeAddress clock target k (line :: rest) =
      (if target.accepts makeAddress line && target.isRange line then
        (newRange makeAddress (clock k) "list" line).toList else []) ++
        rangeInputs makeAddress clock target (k + 1) rest := by
  unfold rangeInputs
  rw [List.zipIdx_cons, List.filter_cons]
  split <;> rfl

theorem foldl_importStep (fits : target.Fits lists) (result : ImportResult) :
    lines.foldl (importStep makeAddress clock createdBy target) (target.withLists config lists, result) =
      (target.withLists config
        { exact := (exactInputs makeAddress clock createdBy target (result.added + result.skipped) lines).foldl
            (FirstSeen.insert BlacklistEntry.value) lists.exact
          cidrs := (rangeInputs makeAddress clock target (result.added + result.skipped) lines).foldl
            (FirstSeen.insert CidrRange.text) lists.cidrs },
        { added := result.added + lines.countP (target.accepts makeAddress)
          skipped := result.skipped + lines.countP fun line => !target.accepts makeAddress line }) := by
  induction lines generalizing lists result with
  | nil => rfl
  | cons line rest ih =>
    rw [List.foldl_cons, exactInputs_cons, rangeInputs_cons]
    cases valid : target.accepts makeAddress line with
    | false =>
      rw [importStep_rejects valid, ih fits]
      simp [valid, Nat.add_assoc, Nat.add_comm 1]
    | true =>
      rw [importStep_accepts fits valid, ih (insert_fits fits)]
      have next : result.added + 1 + result.skipped = result.added + result.skipped + 1 := by omega
      simp only [next, EntryList.insert]
      cases range : target.isRange line with
      | false => simp [valid, IpLists.insertExact, Nat.add_assoc, Nat.add_comm 1]
      | true => simp [valid, IpLists.insertRange, Nat.add_assoc, Nat.add_comm 1]

theorem exactInputs_values (k : Nat) (lines : List String) :
    (exactInputs makeAddress clock createdBy target k lines).map BlacklistEntry.value =
      (lines.filter (target.accepts makeAddress)).filter (!target.isRange ·) := by
  induction lines generalizing k with
  | nil => rfl
  | cons line rest ih =>
    rw [exactInputs_cons, List.map_append, ih (k + 1)]
    cases valid : target.accepts makeAddress line <;> cases range : target.isRange line <;>
      simp [valid, range, newEntry]

theorem accepts_ips {line : String} (ips : target.holdsIps = true) (valid : target.accepts makeAddress line = true) :
    isReadable makeAddress line = true := by
  have fits := (Bool.and_eq_true_iff.mp valid).2
  match target with
  | .blacklist category =>
    cases category with
    | ips => exact fits
    | _ => cases ips
  | .whitelist => exact fits
  | .whitelistRoutes => cases ips

theorem newRange_accepts {now : Int} {source line : String} (valid : target.accepts makeAddress line = true)
    (range : target.isRange line = true) :
    ∃ r, newRange makeAddress now source line = some r ∧ r.text = line := by
  obtain ⟨ips, slash⟩ : target.holdsIps = true ∧ '/' ∈ line.toList := by simpa [EntryList.isRange] using range
  have readable := accepts_ips ips valid
  unfold isReadable at readable
  rw [if_pos slash, parseCidr_time now] at readable
  obtain ⟨r, parsed⟩ := Option.isSome_iff_exists.mp readable
  exact ⟨{ r with source }, by rw [newRange, parsed, Option.map_some], (parseCidr_some parsed).1⟩

theorem rangeInputs_texts (k : Nat) (lines : List String) :
    (rangeInputs makeAddress clock target k lines).map CidrRange.text =
      (lines.filter (target.accepts makeAddress)).filter (target.isRange ·) := by
  induction lines generalizing k with
  | nil => rfl
  | cons line rest ih =>
    rw [rangeInputs_cons, List.map_append, ih (k + 1)]
    cases valid : target.accepts makeAddress line with
    | false => simp [valid]
    | true =>
      cases range : target.isRange line with
      | false => simp [valid, range]
      | true =>
        obtain ⟨r, made, text⟩ := @newRange_accepts makeAddress target (clock k) "list" line valid range
        simp [valid, range, made, text]

theorem mem_rangeInputs {k : Nat} {range : CidrRange} (member : range ∈ rangeInputs makeAddress clock target k lines) :
    ∃ now, newRange makeAddress now "list" range.text = some range := by
  obtain ⟨item, _, made⟩ := List.mem_flatMap.mp member
  have found : newRange makeAddress (clock item.2) "list" item.1 = some range := by simpa using made
  obtain ⟨parsed, read, rfl⟩ := Option.map_eq_some_iff.mp found
  have text : parsed.text = item.1 := (parseCidr_some read).1
  exact ⟨clock item.2, by rw [← found, ← text]⟩

theorem mem_exactInputs {k : Nat} {entry : BlacklistEntry}
    (member : entry ∈ exactInputs makeAddress clock createdBy target k lines) :
    entry.createdBy = createdBy ∧ entry.source = "list" := by
  obtain ⟨item, _, rfl⟩ := List.mem_map.mp member
  exact ⟨rfl, rfl⟩

theorem importEntries_lists (text : String) :
    target.importEntries makeAddress clock text createdBy config =
      (.ok { added := (listLines text.toList).countP (target.accepts makeAddress)
             skipped := (listLines text.toList).countP fun line => !target.accepts makeAddress line },
        target.withLists config
          { exact := (exactInputs makeAddress clock createdBy target 0 (listLines text.toList)).foldl
              (FirstSeen.insert BlacklistEntry.value) (target.lists config).exact
            cidrs := (rangeInputs makeAddress clock target 0 (listLines text.toList)).foldl
              (FirstSeen.insert CidrRange.text) (target.lists config).cidrs }) := by
  have start := @foldl_importStep makeAddress clock createdBy target config (target.lists config)
    (listLines text.toList) lists_fits {}
  rw [withLists_lists] at start
  rw [importEntries_run, start]
  simp

theorem rangeInputs_plain (plain : target.holdsIps = false) (k : Nat) :
    rangeInputs makeAddress clock target k lines = [] := by
  unfold rangeInputs EntryList.isRange
  simp [plain]

theorem importEntries_held {text : String} (fits : target.Fits lists)
    (exactHeld : ∀ entry ∈ exactInputs makeAddress clock createdBy target 0 (listLines text.toList),
      entry.value ∈ lists.exact.map BlacklistEntry.value)
    (rangesHeld : ∀ range ∈ rangeInputs makeAddress clock target 0 (listLines text.toList),
      range.text ∈ lists.cidrs.map CidrRange.text) :
    ∃ again, target.importEntries makeAddress clock text createdBy (target.withLists config lists) =
      (.ok again, target.withLists config lists) := by
  have run := @importEntries_lists makeAddress clock createdBy target (target.withLists config lists) text
  rw [lists_withLists fits, withLists_withLists, foldl_insert_held exactHeld, foldl_insert_held rangesHeld] at run
  exact ⟨_, run⟩

end Fold

/-- Bulk import is adding the lines one by one. -/
theorem import_adds_lines (makeAddress : MakeAddress) (clock : Nat → Int) (target : EntryList)
    (config : RuntimeConfig) (text createdBy : String) :
    let lines := listLines text.toList
    let valid := lines.filter (target.accepts makeAddress)
    let old := target.lists config
    (∀ (m : Type → Type) [Monad m] (onLine : String → m Unit),
      forEachListLine onLine text.toList 0 = lines.forM onLine) ∧
    ∃ exact ranges result next,
      target.importEntries makeAddress clock text createdBy config = (.ok result, next) ∧
      next = target.withLists config ⟨old.exact ++ exact, old.cidrs ++ ranges⟩ ∧
      exact.map BlacklistEntry.value =
        fresh (old.exact.map BlacklistEntry.value) (valid.filter (!target.isRange ·)) ∧
      ranges.map CidrRange.text = fresh (old.cidrs.map CidrRange.text) (valid.filter (target.isRange ·)) ∧
      (∀ entry ∈ exact, entry.createdBy = createdBy ∧ entry.source = "list") ∧
      (∀ range ∈ ranges, ∃ now, newRange makeAddress now "list" range.text = some range) ∧
      result.added + result.skipped = lines.length ∧
      result.skipped = (lines.filter (!target.accepts makeAddress ·)).length ∧
      ∀ clock createdBy, ∃ again,
        target.importEntries makeAddress clock text createdBy next = (.ok again, next) := by
  intro lines valid old
  refine ⟨fun m _ onLine => forEachListLine_eq onLine _, ?_⟩
  obtain ⟨exact, whole, part, values⟩ := @foldl_insert _ _ _ BlacklistEntry.value old.exact
    (exactInputs makeAddress clock createdBy target 0 lines)
  obtain ⟨ranges, whole', part', texts⟩ := @foldl_insert _ _ _ CidrRange.text old.cidrs
    (rangeInputs makeAddress clock target 0 lines)
  rw [exactInputs_values] at values
  rw [rangeInputs_texts] at texts
  refine ⟨exact, ranges, _, _, importEntries_lists text, ?_, values, texts, ?_, ?_, ?_, ?_, ?_⟩
  · rw [whole, whole']
  · exact fun entry member => mem_exactInputs (part.subset member)
  · exact fun range member => mem_rangeInputs (part'.subset member)
  · rw [List.length_eq_countP_add_countP (target.accepts makeAddress)]
    simp [lines]
  · exact List.countP_eq_length_filter
  · intro clock' createdBy'
    refine importEntries_held ?_ ?_ ?_
    · intro plain
      show (rangeInputs makeAddress clock target 0 lines).foldl _ _ = []
      rw [rangeInputs_plain plain]
      exact lists_fits plain
    · intro entry member
      have listed := List.mem_map_of_mem (f := BlacklistEntry.value) member
      rw [exactInputs_values, ← @exactInputs_values makeAddress clock createdBy target 0] at listed
      obtain ⟨first, there, same⟩ := List.mem_map.mp listed
      rw [← same]
      exact mem_foldl_insert _ there
    · intro range member
      have listed := List.mem_map_of_mem (f := CidrRange.text) member
      rw [rangeInputs_texts, ← @rangeInputs_texts makeAddress clock target 0] at listed
      obtain ⟨first, there, same⟩ := List.mem_map.mp listed
      rw [← same]
      exact mem_foldl_insert _ there

end Atomwall
