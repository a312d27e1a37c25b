import Atomwall.Base.TimedLog
import Atomwall.History.IpBlockTracker
import Atomwall.Net.AddressText

/-!
The tracker answers like the log of the calls made on it: when expired blocks are pruned cannot be seen.
-/

namespace Atomwall

open TimedLog

inductive BlockKey where
  | exact (address : Address)
  | cidr (text : String)

namespace TemporaryIpBlock

def key (block : TemporaryIpBlock) : BlockKey :=
  if block.isCidr then .cidr block.text else .exact block.address

def Covers (block : TemporaryIpBlock) (ip : Address) : Prop :=
  if block.isCidr then
    addressInCidr ip { prefixAddress := block.address, prefixLen := block.prefixLen, text := block.text,
                       createdAt := block.createdAt } = true
  else block.address = ip

/-- As `build_temporary_block` and `award_score` make them. -/
def WellFormed (makeAddress : MakeAddress) (block : TemporaryIpBlock) : Prop :=
  if block.isCidr then '/' ∈ block.text.toList else makeAddress block.text = some block.address

instance (makeAddress : MakeAddress) (block : TemporaryIpBlock) : Decidable (block.WellFormed makeAddress) :=
  inferInstanceAs (Decidable (if block.isCidr then '/' ∈ block.text.toList
    else makeAddress block.text = some block.address))

end TemporaryIpBlock

namespace IpBlockTracker

/-- The key of the block that `remove` takes the text for. -/
def keyOf (makeAddress : MakeAddress) (text : String) : BlockKey :=
  match makeAddress text with
  | some address => .exact address
  | none => .cidr text

/-- Every block is held under its key, and the ranges have texts of their own. -/
structure Kept (s : IpBlockTracker) : Prop where
  exact : ∀ address block, s.exact.lookup address = some block →
    block.isCidr = false ∧ block.address = address
  cidrs : ∀ e ∈ s.cidrs, e.block.isCidr = true ∧ e.range.prefixAddress = e.block.address ∧
    e.range.prefixLen = e.block.prefixLen
  texts : (s.cidrs.map fun e => e.block.text).Nodup

variable {s : IpBlockTracker} {makeAddress : MakeAddress} {now later : Int} {block new : TemporaryIpBlock}
  {ip : Address} {text : String}

theorem mem_blocks : block ∈ s.blocks ↔
    (∃ address, s.exact.lookup address = some block) ∨ ∃ e ∈ s.cidrs, e.block = block := by
  simp only [blocks, List.mem_append, List.mem_map]
  constructor
  · rintro (⟨⟨address, held⟩, member, rfl⟩ | ranged)
    · exact .inl ⟨address, KeyMap.lookup_eq_some_iff.mpr member⟩
    · exact .inr ranged
  · rintro (⟨address, held⟩ | ranged)
    · exact .inl ⟨⟨address, block⟩, KeyMap.lookup_eq_some_iff.mp held, rfl⟩
    · exact .inr ranged

namespace Kept

theorem key_exact (kept : Kept s) {address : Address} (held : s.exact.lookup address = some block) :
    block.key = .exact address := by
  obtain ⟨exact, rfl⟩ := kept.exact address block held
  simp [TemporaryIpBlock.key, exact]

theorem key_cidr (kept : Kept s) {e : CidrEntry} (member : e ∈ s.cidrs) :
    e.block.key = .cidr e.block.text := by
  simp [TemporaryIpBlock.key, (kept.cidrs e member).1]

theorem empty (pruneInterval : Int) : Kept { pruneInterval } where
  exact address block held := by simp at held
  cidrs e member := by simp at member
  texts := List.nodup_nil

theorem pruneExpired (kept : Kept s) : Kept (s.pruneExpired now) where
  exact address block held := kept.exact address block (KeyMap.lookup_of_eraseIf held)
  cidrs e member := kept.cidrs e (List.mem_filter.mp member).1
  texts := kept.texts.sublist (List.filter_sublist.map _)

end Kept

theorem mem_blocks_pruneExpired :
    block ∈ (s.pruneExpired now).blocks ↔ block ∈ s.blocks ∧ now < block.expiresAt := by
  simp only [mem_blocks, IpBlockTracker.pruneExpired, KeyMap.lookup_eraseIf_eq_some, List.mem_filter,
    decide_eq_true_eq, decide_eq_false_iff_not, Int.not_le]
  constructor
  · rintro (⟨address, held, live⟩ | ⟨e, ⟨member, live⟩, rfl⟩)
    · exact ⟨.inl ⟨address, held⟩, live⟩
    · exact ⟨.inr ⟨e, member, rfl⟩, live⟩
  · rintro ⟨⟨address, held⟩ | ⟨e, member, rfl⟩, live⟩
    · exact .inl ⟨address, held, live⟩
    · exact .inr ⟨e, ⟨member, live⟩, rfl⟩

/-! ### What each call does to the blocks held -/

/-- `add` first prunes when that is due, and then puts the block in. -/
def prunedWhenDue (s : IpBlockTracker) (now : Int) : IpBlockTracker :=
  if s.pruneInterval ≤ now - s.lastPrune then { s.pruneExpired now with lastPrune := now } else s

def put (s : IpBlockTracker) (now : Int) (block : TemporaryIpBlock) : IpBlockTracker :=
  if block.isCidr then
    { s with cidrs := (s.cidrs.filter fun e => e.block.text != block.text) ++
        [⟨block, { prefixAddress := block.address, prefixLen := block.prefixLen, text := block.text,
                   createdAt := now }⟩] }
  else { s with exact := s.exact.insert block.address block }

theorem add_eq : s.add now new = (s.prunedWhenDue now).put now new := rfl

theorem Kept.prunedWhenDue (kept : Kept s) : Kept (s.prunedWhenDue now) := by
  unfold IpBlockTracker.prunedWhenDue
  split
  · exact { kept.pruneExpired with }
  · exact kept

theorem Kept.put (kept : Kept s) : Kept (s.put now new) := by
  unfold IpBlockTracker.put
  split
  · next ranged =>
    refine ⟨kept.exact, fun e member => ?_, ?_⟩
    · rcases List.mem_append.mp member with old | added
      · exact kept.cidrs e (List.mem_filter.mp old).1
      · rw [List.mem_singleton.mp added]
        exact ⟨ranged, rfl, rfl⟩
    · simp only [List.map_append, List.map_cons, List.map_nil]
      apply List.Nodup.append (kept.texts.sublist (List.filter_sublist.map _)) (List.nodup_singleton _)
      simp only [List.disjoint_singleton, List.mem_map, List.mem_filter, bne_iff_ne]
      rintro ⟨e, ⟨-, other⟩, same⟩
      exact other same
  · next exact =>
    refine ⟨fun address block held => ?_, kept.cidrs, kept.texts⟩
    rw [KeyMap.lookup_insert_ite] at held
    split at held
    · next same =>
      obtain rfl := Option.some.inj held
      exact ⟨by simpa using exact, same.symm⟩
    · exact kept.exact address block held

theorem Kept.remove (kept : Kept s) : Kept (s.remove makeAddress text).2 := by
  unfold IpBlockTracker.remove
  split
  · refine ⟨fun address block held => ?_, kept.cidrs, kept.texts⟩
    rw [KeyMap.lookup_erase_ite] at held
    split at held
    · cases held
    · exact kept.exact address block held
  · exact ⟨kept.exact, fun e member => kept.cidrs e (List.mem_filter.mp member).1,
      kept.texts.sublist (List.filter_sublist.map _)⟩

theorem mem_blocks_put (kept : Kept s) :
    block ∈ (s.put now new).blocks ↔ block = new ∨ block ∈ s.blocks ∧ new.key ≠ block.key := by
  by_cases ranged : new.isCidr = true
  · have key : new.key = .cidr new.text := if_pos ranged
    have exact : ∀ address, s.exact.lookup address = some block → new.key ≠ block.key := by
      intro address held
      rw [key, kept.key_exact held]
      exact BlockKey.noConfusion
    have cidr : ∀ e ∈ s.cidrs, (new.key ≠ e.block.key ↔ e.block.text ≠ new.text) := by
      intro e member
      rw [key, kept.key_cidr member, ne_eq, BlockKey.cidr.injEq, eq_comm]
    simp only [mem_blocks, IpBlockTracker.put, if_pos ranged, List.mem_append, List.mem_filter,
      List.mem_singleton, bne_iff_ne]
    constructor
    · rintro (⟨address, held⟩ | ⟨e, ⟨member, other⟩ | rfl, rfl⟩)
      · exact .inr ⟨.inl ⟨address, held⟩, exact address held⟩
      · exact .inr ⟨.inr ⟨e, member, rfl⟩, (cidr e member).mpr other⟩
      · exact .inl rfl
    · rintro (rfl | ⟨⟨address, held⟩ | ⟨e, member, rfl⟩, other⟩)
      · exact .inr ⟨_, .inr rfl, rfl⟩
      · exact .inl ⟨address, held⟩
      · exact .inr ⟨e, .inl ⟨member, (cidr e member).mp other⟩, rfl⟩
  · have key : new.key = .exact new.address := if_neg ranged
    have exact : ∀ address, s.exact.lookup address = some block →
        (new.key ≠ block.key ↔ address ≠ new.address) := by
      intro address held
      rw [key, kept.key_exact held, ne_eq, BlockKey.exact.injEq, eq_comm]
    have cidr : ∀ e ∈ s.cidrs, new.key ≠ e.block.key := by
      intro e member
      rw [key, kept.key_cidr member]
      exact BlockKey.noConfusion
    simp only [mem_blocks, IpBlockTracker.put, if_neg ranged, KeyMap.lookup_insert_ite]
    constructor
    · rintro (⟨address, held⟩ | ⟨e, member, rfl⟩)
      · split at held
        · exact .inl (Option.some.inj held).symm
        · next other =>
          exact .inr ⟨.inl ⟨address, held⟩, (exact address held).mpr other⟩
      · exact .inr ⟨.inr ⟨e, member, rfl⟩, cidr e member⟩
    · rintro (rfl | ⟨⟨address, held⟩ | ⟨e, member, rfl⟩, other⟩)
      · exact .inl ⟨_, if_pos rfl⟩
      · exact .inl ⟨address, (if_neg ((exact address held).mp other)).trans held⟩
      · exact .inr ⟨e, member, rfl⟩

theorem mem_blocks_remove (kept : Kept s) : block ∈ (s.remove makeAddress text).2.blocks ↔
    block ∈ s.blocks ∧ keyOf makeAddress text ≠ block.key := by
  cases parsed : makeAddress text with
  | some address =>
    have key : keyOf makeAddress text = .exact address := by simp [keyOf, parsed]
    simp only [IpBlockTracker.remove, parsed, key, mem_blocks, KeyMap.lookup_erase_ite]
    constructor
    · rintro (⟨other, held⟩ | ⟨e, member, rfl⟩)
      · split at held
        · cases held
        · next apart =>
          refine ⟨.inl ⟨other, held⟩, ?_⟩
          rw [kept.key_exact held, ne_eq, BlockKey.exact.injEq]
          exact fun same => apart same.symm
      · refine ⟨.inr ⟨e, member, rfl⟩, ?_⟩
        rw [kept.key_cidr member]
        exact BlockKey.noConfusion
    · rintro ⟨⟨other, held⟩ | ranged, apart⟩
      · rw [kept.key_exact held, ne_eq, BlockKey.exact.injEq] at apart
        exact .inl ⟨other, (if_neg fun same => apart same.symm).trans held⟩
      · exact .inr ranged
  | none =>
    have key : keyOf makeAddress text = .cidr text := by simp [keyOf, parsed]
    simp only [IpBlockTracker.remove, parsed, key, mem_blocks, List.mem_filter, bne_iff_ne]
    constructor
    · rintro (⟨address, held⟩ | ⟨e, ⟨member, apart⟩, rfl⟩)
      · refine ⟨.inl ⟨address, held⟩, ?_⟩
        rw [kept.key_exact held]
        exact BlockKey.noConfusion
      · refine ⟨.inr ⟨e, member, rfl⟩, ?_⟩
        rw [kept.key_cidr member, ne_eq, BlockKey.cidr.injEq]
        exact fun same => apart same.symm
    · rintro ⟨⟨address, held⟩ | ⟨e, member, rfl⟩, apart⟩
      · exact .inl ⟨address, held⟩
      · rw [kept.key_cidr member, ne_eq, BlockKey.cidr.injEq] at apart
        exact .inr ⟨e, ⟨member, fun same => apart same.symm⟩, rfl⟩

theorem remove_fst (kept : Kept s) : (s.remove makeAddress text).1 = true ↔
    ∃ block ∈ s.blocks, block.key = keyOf makeAddress text := by
  cases parsed : makeAddress text with
  | some address =>
    have key : keyOf makeAddress text = .exact address := by simp [keyOf, parsed]
    simp only [IpBlockTracker.remove, parsed, key, Option.isSome_iff_exists]
    constructor
    · rintro ⟨block, held⟩
      exact ⟨block, mem_blocks.mpr (.inl ⟨address, held⟩), kept.key_exact held⟩
    · rintro ⟨block, member, same⟩
      rcases mem_blocks.mp member with ⟨other, held⟩ | ⟨e, ranged, rfl⟩
      · rw [kept.key_exact held, BlockKey.exact.injEq] at same
        exact ⟨block, same ▸ held⟩
      · rw [kept.key_cidr ranged] at same
        cases same
  | none =>
    have key : keyOf makeAddress text = .cidr text := by simp [keyOf, parsed]
    simp only [IpBlockTracker.remove, parsed, key, List.any_eq_true, beq_iff_eq]
    constructor
    · rintro ⟨e, member, rfl⟩
      exact ⟨e.block, mem_blocks.mpr (.inr ⟨e, member, rfl⟩), kept.key_cidr member⟩
    · rintro ⟨block, member, same⟩
      rcases mem_blocks.mp member with ⟨address, held⟩ | ⟨e, ranged, rfl⟩
      · rw [kept.key_exact held] at same
        cases same
      · rw [kept.key_cidr ranged, BlockKey.cidr.injEq] at same
        exact ⟨e, ranged, same⟩

/-! ### What the blocks held answer -/

theorem isBlocked_iff (kept : Kept s) : s.isBlocked now ip = true ↔
    ∃ block ∈ s.blocks, now < block.expiresAt ∧ block.Covers ip := by
  have ranged : ∀ e ∈ s.cidrs, (addressInCidr ip e.range = true ↔ e.block.Covers ip) := by
    intro e member
    obtain ⟨cidr, address, prefixLen⟩ := kept.cidrs e member
    unfold TemporaryIpBlock.Covers addressInCidr
    rw [if_pos cidr, address, prefixLen]
  simp only [IpBlockTracker.isBlocked, Bool.or_eq_true, Option.any_eq_true, List.any_eq_true,
    Bool.and_eq_true, decide_eq_true_eq]
  constructor
  · rintro (⟨block, held, live⟩ | ⟨e, member, live, covers⟩)
    · obtain ⟨exact, address⟩ := kept.exact ip block held
      refine ⟨block, mem_blocks.mpr (.inl ⟨ip, held⟩), live, ?_⟩
      unfold TemporaryIpBlock.Covers
      rwa [if_neg (by simp [exact])]
    · exact ⟨e.block, mem_blocks.mpr (.inr ⟨e, member, rfl⟩), live, (ranged e member).mp covers⟩
  · rintro ⟨block, member, live, covers⟩
    rcases mem_blocks.mp member with ⟨address, held⟩ | ⟨e, there, rfl⟩
    · obtain ⟨exact, rfl⟩ := kept.exact address block held
      unfold TemporaryIpBlock.Covers at covers
      rw [if_neg (by simp [exact])] at covers
      exact .inl ⟨block, covers ▸ held, live⟩
    · exact .inr ⟨e, there, live, (ranged e there).mpr covers⟩

theorem nodup_keys (kept : Kept s) : (s.blocks.map TemporaryIpBlock.key).Nodup := by
  have exact : (s.exact.entries.map (·.2)).map TemporaryIpBlock.key =
      s.exact.entries.keys.map .exact := by
    rw [List.keys, List.map_map, List.map_map]
    apply List.map_congr_left
    rintro ⟨address, block⟩ member
    exact kept.key_exact (KeyMap.lookup_eq_some_iff.mpr member)
  have cidr : (s.cidrs.map CidrEntry.block).map TemporaryIpBlock.key =
      (s.cidrs.map fun e => e.block.text).map .cidr := by
    rw [List.map_map, List.map_map]
    exact List.map_congr_left fun e member => kept.key_cidr member
  unfold blocks
  rw [List.map_append, exact, cidr]
  apply List.Nodup.append
  · exact s.exact.nodupKeys.map fun a b same => BlockKey.exact.inj same
  · exact kept.texts.map fun a b same => BlockKey.cidr.inj same
  · intro key left right
    obtain ⟨address, -, rfl⟩ := List.mem_map.mp left
    obtain ⟨text, -, same⟩ := List.mem_map.mp right
    cases same

theorem mem_listActive : block ∈ (s.listActive now).1 ↔ block ∈ s.blocks ∧ now < block.expiresAt := by
  unfold listActive
  rw [List.mem_mergeSort]
  exact mem_blocks_pruneExpired

theorem not_comesBefore_iff {a b : TemporaryIpBlock} : (!comesBefore b a) = true ↔
    b.createdAt < a.createdAt ∨ b.createdAt = a.createdAt ∧ a.text ≤ b.text := by
  unfold comesBefore
  split
  · rw [Bool.not_eq_true', decide_eq_false_iff_not]
    omega
  · next same =>
    rw [Bool.not_eq_true', decide_eq_false_iff_not, not_lt]
    simp [not_not.mp same]

theorem pairwise_listActive (texts : ∀ a ∈ s.blocks, ∀ b ∈ s.blocks, a.text = b.text → a.key = b.key)
    (kept : Kept s) : (s.listActive now).1.Pairwise fun a b => comesBefore a b = true := by
  have sorted : (s.listActive now).1.Pairwise fun a b => (!comesBefore b a) = true := by
    apply List.pairwise_mergeSort
    · intro a b c left right
      rw [not_comesBefore_iff] at *
      rcases left with first | ⟨first, le⟩ <;> rcases right with second | ⟨second, le'⟩
      · exact .inl (by omega)
      · exact .inl (by omega)
      · exact .inl (by omega)
      · exact .inr ⟨by omega, le_trans le le'⟩
    · intro a b
      rw [Bool.or_eq_true, not_comesBefore_iff, not_comesBefore_iff]
      rcases Int.lt_trichotomy a.createdAt b.createdAt with older | same | newer
      · exact .inr (.inl older)
      · exact (le_total a.text b.text).imp (fun le => .inr ⟨same.symm, le⟩) fun le => .inr ⟨same, le⟩
      · exact .inl (.inl newer)
  have distinct : (s.listActive now).1.Pairwise fun a b => a.key ≠ b.key := by
    have keys : ((s.pruneExpired now).blocks.map TemporaryIpBlock.key).Nodup :=
      nodup_keys kept.pruneExpired
    exact List.pairwise_map.mp (((List.mergeSort_perm _ _).map _).nodup_iff.mpr keys)
  apply (sorted.and distinct).imp_of_mem
  rintro a b member member' ⟨le, apart⟩
  have other : a.text ≠ b.text := fun same =>
    apart (texts a (mem_listActive.mp member).1 b (mem_listActive.mp member').1 same)
  unfold comesBefore
  rcases not_comesBefore_iff.mp le with newer | ⟨same, before⟩
  · rw [if_pos (by omega)]
    exact decide_eq_true newer
  · rw [if_neg (by simp [same])]
    exact decide_eq_true (lt_of_le_of_ne before other)

/-! ### Runs -/

inductive Call where
  | add (now : Int) (block : TemporaryIpBlock)
  | remove (text : String)
  | listActive (now : Int)
  | isBlocked (now : Int) (ip : Address)

def Call.reading : Call → Option Int
  | .add now _ | .listActive now | .isBlocked now _ => some now
  | .remove _ => none

def Call.step (makeAddress : MakeAddress) (s : IpBlockTracker) : Call → IpBlockTracker
  | .add now block => s.add now block
  | .remove text => (s.remove makeAddress text).2
  | .listActive now => (s.listActive now).2
  | .isBlocked _ _ => s

def Call.event (makeAddress : MakeAddress) : Call → Option (Event BlockKey TemporaryIpBlock)
  | .add _ block => some (.added block)
  | .remove text => some (.removed (keyOf makeAddress text))
  | .listActive _ | .isBlocked _ _ => none

/-- The tracker after the calls, from its construction. -/
def run (makeAddress : MakeAddress) (pruneInterval : Int) (calls : List Call) : IpBlockTracker :=
  calls.foldl (Call.step makeAddress) { pruneInterval }

/-- What the calls say was added and removed. -/
def log (makeAddress : MakeAddress) (calls : List Call) : List (Event BlockKey TemporaryIpBlock) :=
  calls.filterMap (Call.event makeAddress)

def readings (calls : List Call) : List Int := calls.filterMap Call.reading

/-- The tracker holds what the log says is there, save for blocks that have expired by `now`. -/
def Answers (makeAddress : MakeAddress) (calls : List Call) (s : IpBlockTracker) (now : Int) : Prop :=
  Tracks TemporaryIpBlock.key TemporaryIpBlock.expiresAt (log makeAddress calls) (· ∈ s.blocks) now

theorem step_kept (kept : Kept s) (call : Call) : Kept (call.step makeAddress s) := by
  cases call with
  | add now block => exact kept.prunedWhenDue.put
  | remove text => exact kept.remove
  | listActive now => exact { kept.pruneExpired with }
  | isBlocked now ip => exact kept

theorem run_kept (pruneInterval : Int) (calls : List Call) :
    Kept (run makeAddress pruneInterval calls) := by
  induction calls using List.reverseRecOn with
  | nil => exact Kept.empty pruneInterval
  | append_singleton calls call ih =>
    rw [run, List.foldl_append]
    exact step_kept ih call

variable {calls : List Call}

theorem Answers.prunedWhenDue (answers : Answers makeAddress calls s now) :
    Answers makeAddress calls (s.prunedWhenDue now) now := by
  unfold IpBlockTracker.prunedWhenDue
  split
  · exact Tracks.pruned answers fun block => mem_blocks_pruneExpired
  · exact answers

theorem Answers.step (kept : Kept s) (answers : Answers makeAddress calls s now) (call : Call)
    (clock : ∀ reading, call.reading = some reading → reading = now) :
    Answers makeAddress (calls ++ [call]) (call.step makeAddress s) now := by
  have longer : log makeAddress (calls ++ [call]) =
      log makeAddress calls ++ (call.event makeAddress).toList := by
    unfold log
    rw [List.filterMap_append]
    cases same : call.event makeAddress <;> simp [same]
  unfold Answers
  rw [longer]
  cases call with
  | add reading block =>
    obtain rfl := clock reading rfl
    apply Tracks.logged answers.prunedWhenDue
    intro other
    rw [Call.step, add_eq, mem_blocks_put kept.prunedWhenDue, Event.added.injEq, eq_comm]
    rfl
  | remove text =>
    apply Tracks.logged answers
    intro other
    rw [Call.step, mem_blocks_remove kept]
    simp [Event.Ends]
  | listActive reading =>
    obtain rfl := clock reading rfl
    rw [Call.event, Option.toList_none, List.append_nil]
    exact Tracks.pruned answers fun block => mem_blocks_pruneExpired
  | isBlocked reading ip =>
    rw [Call.event, Option.toList_none, List.append_nil]
    exact answers

/-- After calls whose readings never go back, the tracker answers for every time from the last on. -/
theorem run_answers (pruneInterval : Int) (clock : (readings calls ++ [now]).Pairwise (· ≤ ·)) :
    Answers makeAddress calls (run makeAddress pruneInterval calls) now := by
  induction calls using List.reverseRecOn generalizing now with
  | nil => exact Tracks.empty fun block member => by simp [blocks, run] at member
  | append_singleton calls call ih =>
    have split : readings (calls ++ [call]) = readings calls ++ call.reading.toList := by
      unfold readings
      rw [List.filterMap_append]
      cases same : call.reading <;> simp [same]
    rw [run, List.foldl_append]
    cases read : call.reading with
    | none =>
      rw [split, read, Option.toList_none, List.append_nil] at clock
      apply (ih clock).step (run_kept pruneInterval calls) call
      intro reading same
      rw [read] at same
      cases same
    | some reading =>
      rw [split, read, Option.toList_some] at clock
      have earlier := (List.pairwise_append.mp clock).1
      have passed : reading ≤ now := (List.pairwise_append.mp clock).2.2 _ (by simp) _ (by simp)
      apply Tracks.later_time _ passed
      apply (ih earlier).step (run_kept pruneInterval calls) call
      intro other same
      exact Option.some.inj (same.symm.trans read)

theorem added_of_stands (stands : Stands TemporaryIpBlock.key (log makeAddress calls) block) :
    ∃ reading, .add reading block ∈ calls := by
  obtain ⟨before, after, same, -⟩ := stands
  have member : .added block ∈ log makeAddress calls := by simp [same]
  obtain ⟨call, made, event⟩ := List.mem_filterMap.mp member
  cases call with
  | add reading other =>
    obtain rfl : other = block := by simpa [Call.event] using event
    exact ⟨reading, made⟩
  | remove text => simp [Call.event] at event
  | listActive reading => simp [Call.event] at event
  | isBlocked reading ip => simp [Call.event] at event

theorem key_eq_of_text {a b : TemporaryIpBlock}
    (slashless : ∀ text address, makeAddress text = some address → '/' ∉ text.toList)
    (formed : a.WellFormed makeAddress) (formed' : b.WellFormed makeAddress) (same : a.text = b.text) :
    a.key = b.key := by
  unfold TemporaryIpBlock.WellFormed at formed formed'
  unfold TemporaryIpBlock.key
  rw [same] at formed ⊢
  cases cidr : a.isCidr <;> cases cidr' : b.isCidr <;>
    simp only [cidr, cidr', if_true, Bool.false_eq_true, if_false] at formed formed' ⊢
  · rw [formed'] at formed
    rw [Option.some.inj formed]
  · exact absurd formed' (slashless _ _ formed)
  · exact absurd formed (slashless _ _ formed')

/-- Added, neither replaced nor removed since, and not expired. -/
def InForce (makeAddress : MakeAddress) (calls : List Call) (now : Int) (block : TemporaryIpBlock) : Prop :=
  Stands TemporaryIpBlock.key (log makeAddress calls) block ∧ now < block.expiresAt

theorem held_of_stands (ordered : (readings calls).Pairwise (· ≤ ·)) (pruneInterval : Int)
    (stands : Stands TemporaryIpBlock.key (log makeAddress calls) block)
    (never : ∀ reading ∈ readings calls, reading < block.expiresAt) :
    block ∈ (run makeAddress pruneInterval calls).blocks := by
  obtain ⟨reading, added⟩ := added_of_stands stands
  have there : reading ∈ readings calls := List.mem_filterMap.mpr ⟨_, added, rfl⟩
  -- the tracker can have pruned last at the last reading
  obtain nothing | ⟨earlier, last, same⟩ := List.eq_nil_or_concat (readings calls)
  · rw [nothing] at there
    cases there
  · rw [List.concat_eq_append] at same
    have clock : (readings calls ++ [last]).Pairwise (· ≤ ·) := by
      rw [same] at ordered ⊢
      refine List.pairwise_append.mpr ⟨ordered, List.pairwise_singleton _ _, ?_⟩
      intro a member b member'
      rw [List.mem_singleton.mp member']
      rcases List.mem_append.mp member with before | is_last
      · exact (List.pairwise_append.mp ordered).2.2 a before last (List.mem_singleton_self last)
      · rw [List.mem_singleton.mp is_last]
    exact (run_answers pruneInterval clock).complete block stands (never last (by simp [same]))

/-- After any calls, the tracker blocks, lists and removes what the log of the calls says is in force. -/
theorem timed_blocks_exact
    (slashless : ∀ text address, makeAddress text = some address → '/' ∉ text.toList)
    (formed : ∀ reading block, .add reading block ∈ calls → block.WellFormed makeAddress)
    (clock : (readings calls ++ [now]).Pairwise (· ≤ ·)) (pruneInterval : Int) :
    let s := run makeAddress pruneInterval calls
    (∀ ip, s.isBlocked now ip = true ↔ ∃ block, InForce makeAddress calls now block ∧ block.Covers ip) ∧
    (∀ block, block ∈ (s.listActive now).1 ↔ InForce makeAddress calls now block) ∧
    ((s.listActive now).1.Nodup ∧ (s.listActive now).1.Pairwise fun a b => comesBefore a b = true) ∧
    ∀ text,
      (∀ block, Stands TemporaryIpBlock.key (log makeAddress calls) block →
        block.key = keyOf makeAddress text → ∀ reading ∈ readings calls, reading < block.expiresAt) →
      ((s.remove makeAddress text).1 = true ↔
        ∃ block, Stands TemporaryIpBlock.key (log makeAddress calls) block ∧
          block.key = keyOf makeAddress text) := by
  intro s
  have kept : Kept s := run_kept pruneInterval calls
  have answers : Answers makeAddress calls s now := run_answers pruneInterval clock
  have live := answers.live_iff (Int.le_refl now)
  have listed : ∀ block, block ∈ (s.listActive now).1 ↔ InForce makeAddress calls now block := by
    intro block
    rw [mem_listActive]
    exact live block
  have sorted : (s.listActive now).1.Pairwise fun a b => comesBefore a b = true := by
    apply pairwise_listActive _ kept
    intro a member b member' same
    obtain ⟨_, added⟩ := added_of_stands (answers.sound a member)
    obtain ⟨_, added'⟩ := added_of_stands (answers.sound b member')
    exact key_eq_of_text slashless (formed _ a added) (formed _ b added') same
  refine ⟨fun ip => ?_, listed, ⟨?_, sorted⟩, fun text never => ?_⟩
  · rw [isBlocked_iff kept]
    constructor
    · rintro ⟨block, member, unexpired, covers⟩
      exact ⟨block, (live block).mp ⟨member, unexpired⟩, covers⟩
    · rintro ⟨block, force, covers⟩
      obtain ⟨member, unexpired⟩ := (live block).mpr force
      exact ⟨block, member, unexpired, covers⟩
  · apply sorted.imp
    rintro a b before rfl
    simp [comesBefore] at before
  · rw [remove_fst kept]
    constructor
    · rintro ⟨block, member, key⟩
      exact ⟨block, answers.sound block member, key⟩
    · rintro ⟨block, stands, key⟩
      have ordered := (List.pairwise_append.mp clock).1
      exact ⟨block, held_of_stands ordered pruneInterval stands (never block stands key), key⟩

def sampleMakeAddress : MakeAddress := fun text =>
  if '/' ∈ text.toList then none else Address.ofText text

theorem sampleMakeAddress_slashless (text : String) (address : Address)
    (parsed : sampleMakeAddress text = some address) : '/' ∉ text.toList := by
  intro slash
  simp [sampleMakeAddress, slash] at parsed

def sampleBlock : TemporaryIpBlock where
  text := "192.0.2.7"
  address := .v4 #v[192, 0, 2, 7]
  source := "manual"
  createdAt := 10
  expiresAt := 40

def sampleRange : TemporaryIpBlock where
  text := "198.51.100.0/24"
  isCidr := true
  address := .v4 #v[198, 51, 100, 0]
  prefixLen := 24
  source := "manual"
  createdAt := 20
  expiresAt := 50

def sampleCalls : List Call :=
  [.add 10 sampleBlock, .add 20 sampleRange, .remove "192.0.2.7", .listActive 25]

theorem sampleRange_in_force :
    (∃ block, InForce sampleMakeAddress sampleCalls 30 block ∧ block.Covers (.v4 #v[198, 51, 100, 42])) ∧
      ¬ ∃ block, InForce sampleMakeAddress sampleCalls 30 block ∧ block.Covers sampleBlock.address := by
  have formed : ∀ reading block, .add reading block ∈ sampleCalls →
      block.WellFormed sampleMakeAddress := by
    intro reading block member
    simp only [sampleCalls, List.mem_cons, Call.add.injEq, reduceCtorEq, List.not_mem_nil,
      or_false] at member
    rcases member with ⟨-, rfl⟩ | ⟨-, rfl⟩
    · decide +kernel
    · decide +kernel
  have exact := (timed_blocks_exact sampleMakeAddress_slashless formed
    (show (readings sampleCalls ++ [30]).Pairwise (· ≤ ·) by decide) 60).1
  refine ⟨(exact _).mp (by decide +kernel), fun blocked => ?_⟩
  exact absurd ((exact _).mpr blocked) (by decide +kernel)

end IpBlockTracker

end Atomwall
