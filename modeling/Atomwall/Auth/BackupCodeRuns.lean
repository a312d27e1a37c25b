import Atomwall.Base.OneTime
import Atomwall.Auth.Passwords

/-!
Sequences of `consume_backup_code` on the codes of one account: the stored list refines a list of
one-time tokens, and the shape that candidates are filtered by is the shape of the generated codes.
-/

namespace Atomwall.BackupCodes

open OneTime

/-- `generate_backup_codes(count)`. -/
def generateCodes (count : Nat) : Rand (List String) := (List.range count).mapM fun _ => generateOne

example : generate = generateCodes 10 := rfl

/-- `consume_backup_code` on the list that it changes. -/
def attempt (libs : Libraries) (codes : List BackupCode) (candidate : String) :
    Except Fault (Bool × List BackupCode) :=
  (consume libs codes candidate).map fun
    | none => (false, codes)
    | some next => (true, next)

/-- One attempt after another: their results, and the list after them. -/
def runAttempts (libs : Libraries) (codes : List BackupCode) :
    List String → Except Fault (List Bool × List BackupCode)
  | [] => .ok ([], codes)
  | candidate :: later => do
    let (won, codes) ← attempt libs codes candidate
    let (results, codes) ← runAttempts libs codes later
    return (won :: results, codes)

/-- One code turns from unused to used, and everything else stays. -/
def FlipsOne (before after : List BackupCode) : Prop :=
  ∃ i code, before[i]? = some code ∧ code.used = false ∧
    after = before.set i { code with used := true }

/-- Codes with their hashes: distinct, in shape, and told apart by their hashes. -/
structure Issued (libs : Libraries) where
  pairs : List (String × PasswordHash)
  distinct : (pairs.map Prod.fst).Nodup
  shaped : ∀ pair ∈ pairs, hasShape pair.1 = true
  checked : ∀ pair ∈ pairs, ∀ candidate, hasShape candidate = true →
    verifyPassword libs candidate pair.2 = .ok (decide (candidate = pair.1))

namespace Issued

variable {libs : Libraries} (issued : Issued libs)

def codes : List String := issued.pairs.map Prod.fst

/-- What is stored once the codes `spent` are. -/
def stored (spent : List String) : List BackupCode :=
  issued.pairs.map fun pair => ⟨pair.2, decide (pair.1 ∈ spent)⟩

/-- The scan checks every unused code, and finds the candidate itself. -/
theorem scan_eq {candidate : String} (shape : hasShape candidate = true) (spent : List String) :
    ((issued.stored spent).mapM fun code =>
      if code.used then .ok false else verifyPassword libs candidate code.hash) =
      .ok (hits issued.codes spent candidate) := by
  unfold hits codes
  rw [List.map_map]
  refine mapM_map_ok fun pair member => ?_
  have told := issued.checked pair member candidate shape
  by_cases used : pair.1 ∈ spent
  · simp [used]
  · simp [used, told]

theorem stored_cons (spent : List String) (candidate : String) :
    ((issued.stored spent).modify (issued.codes.idxOf candidate) fun code =>
      { code with used := true }) = issued.stored (candidate :: spent) :=
  modify_idxOf (fun _ _ => rfl) issued.distinct

/-- The stored list refines the one-time tokens: an attempt wins exactly where it wins there, and then
flags the code. -/
theorem attempt_eq (spent : List String) (candidate : String) :
    attempt libs (issued.stored spent) candidate =
      .ok (decide (Wins issued.codes spent candidate),
        issued.stored (if Wins issued.codes spent candidate then candidate :: spent else spent)) := by
  unfold attempt consume
  by_cases shape : hasShape candidate = true
  · rw [if_pos shape, issued.scan_eq shape]
    by_cases won : Wins issued.codes spent candidate
    · simp only [bind, Except.bind, pure, Except.pure, idxOf?_hits, won, if_true, Except.map,
        decide_true, issued.stored_cons]
    · simp [bind, Except.bind, pure, Except.pure, idxOf?_hits, won, Except.map]
  · have lost : ¬Wins issued.codes spent candidate := by
      intro won
      obtain ⟨pair, member, rfl⟩ := List.mem_map.mp won.1
      exact shape (issued.shaped pair member)
    simp [shape, lost, Except.map]

theorem runAttempts_eq (spent tries : List String) :
    runAttempts libs (issued.stored spent) tries =
      .ok ((attempts issued.codes spent tries).1,
        issued.stored (attempts issued.codes spent tries).2) := by
  induction tries generalizing spent with
  | nil => rfl
  | cons candidate later ih =>
    rw [runAttempts, attempt_eq]
    simp only [bind, Except.bind, ih]
    simp [attempts, pure, Except.pure]

theorem flips {spent : List String} {candidate : String} (won : Wins issued.codes spent candidate) :
    FlipsOne (issued.stored spent) (issued.stored (candidate :: spent)) := by
  have inside : issued.codes.idxOf candidate < issued.pairs.length := by
    have within := List.idxOf_lt_length_of_mem won.1
    rwa [codes, List.length_map] at within
  have found : issued.pairs[issued.codes.idxOf candidate].1 = candidate := by
    have same := List.getElem_idxOf (List.idxOf_lt_length_of_mem won.1)
    simpa only [codes, List.getElem_map] using same
  have entry : (issued.stored spent)[issued.codes.idxOf candidate]? =
      some ⟨issued.pairs[issued.codes.idxOf candidate].2, false⟩ := by
    rw [stored, List.getElem?_map, List.getElem?_eq_getElem inside, Option.map_some, found]
    simp [won.2]
  refine ⟨issued.codes.idxOf candidate, _, entry, rfl, ?_⟩
  rw [← issued.stored_cons, List.modify_eq_set_getElem?, entry]
  rfl

end Issued

/-! ### Generating and hashing -/

theorem mapM_some_length {α β : Type} {f : α → Option β} {inputs : List α} {outputs : List β}
    (h : inputs.mapM f = some outputs) : outputs.length = inputs.length := by
  induction inputs generalizing outputs with
  | nil =>
    obtain rfl : [] = outputs := Option.some.inj h
    rfl
  | cons first rest ih =>
    rw [List.mapM_cons] at h
    obtain ⟨b, _, h⟩ := Option.bind_eq_some_iff.mp h
    obtain ⟨bs, later, h⟩ := Option.bind_eq_some_iff.mp h
    obtain rfl := Option.some.inj h
    rw [List.length_cons, List.length_cons, ih later]

theorem randBytes_length {count : Nat} {random rest : Nat → Option UInt8} {data : List UInt8}
    (h : randBytes count random = .ok (data, rest)) : data.length = count := by
  unfold randBytes at h
  split at h
  · cases h
  · next drawn read =>
    cases h
    rw [mapM_some_length read, List.length_range]

theorem mem_randomCodeGroup {length : Nat} {random rest : Nat → Option UInt8} {group : List Char}
    (h : randomCodeGroup length random = .ok (group, rest)) :
    group.length = length ∧ ∀ c ∈ group, c ∈ kAlphabet := by
  obtain ⟨data, mid, drawn, h⟩ := Rand.bind_ok h
  obtain rfl := Rand.pure_ok h
  refine ⟨by rw [List.length_map, randBytes_length drawn], fun c member => ?_⟩
  obtain ⟨byte, _, rfl⟩ := List.mem_map.mp member
  have inside : byte.toNat % kAlphabet.length < kAlphabet.length := Nat.mod_lt _ (by decide)
  rw [List.getD_eq_getElem?_getD, List.getElem?_eq_getElem inside]
  exact List.getElem_mem inside

theorem generateOne_shape {random rest : Nat → Option UInt8} {code : String}
    (h : generateOne random = .ok (code, rest)) : hasShape code = true := by
  obtain ⟨first, _, one, h⟩ := Rand.bind_ok h
  obtain ⟨second, _, two, h⟩ := Rand.bind_ok h
  obtain rfl := Rand.pure_ok h
  obtain ⟨oneLength, oneChars⟩ := mem_randomCodeGroup one
  obtain ⟨twoLength, twoChars⟩ := mem_randomCodeGroup two
  have size : (String.ofList (first ++ '-' :: second)).length = kCodeLength := by
    rw [String.length_ofList, List.length_append, List.length_cons, oneLength, twoLength]
    rfl
  unfold hasShape
  rw [size, String.toList_ofList, ← oneLength]
  simpa using And.intro oneChars twoChars

theorem mapM_pairs {α β : Type} {f : α → Rand β} {inputs : List α} {outputs : List β}
    {random rest : Nat → Option UInt8} (h : inputs.mapM f random = .ok (outputs, rest)) :
    ∃ pairs : List (α × β), pairs.map Prod.fst = inputs ∧ pairs.map Prod.snd = outputs ∧
      ∀ pair ∈ pairs, ∃ before after, f pair.1 before = .ok (pair.2, after) := by
  induction inputs generalizing outputs random rest with
  | nil =>
    rw [List.mapM_nil] at h
    obtain rfl := Rand.pure_ok h
    exact ⟨[], rfl, rfl, by simp⟩
  | cons first others ih =>
    rw [List.mapM_cons] at h
    obtain ⟨b, mid, here, h⟩ := Rand.bind_ok h
    obtain ⟨bs, last, later, h⟩ := Rand.bind_ok h
    obtain rfl := Rand.pure_ok h
    obtain ⟨pairs, inputs, outputs, each⟩ := ih later
    refine ⟨(first, b) :: pairs, by rw [List.map_cons, inputs], by rw [List.map_cons, outputs], ?_⟩
    intro pair member
    rcases List.mem_cons.mp member with rfl | further
    · exact ⟨random, mid, here⟩
    · exact each pair further

theorem generateCodes_shape {count : Nat} {random rest : Nat → Option UInt8} {codes : List String}
    (h : generateCodes count random = .ok (codes, rest)) {code : String} (member : code ∈ codes) :
    hasShape code = true := by
  obtain ⟨pairs, _, rfl, each⟩ := mapM_pairs h
  obtain ⟨pair, among, rfl⟩ := List.mem_map.mp member
  obtain ⟨before, after, drawn⟩ := each pair among
  exact generateOne_shape drawn

/-- Distinct generated codes are issued once they are hashed. -/
theorem issued_of_hash {libs : Libraries}
    (documented : ∀ p q before stored after, hasShape p = true → hasShape q = true →
      hashPassword libs q before = .ok (stored, after) →
      verifyPassword libs p stored = .ok (decide (p = q)))
    {codes : List String} (shaped : ∀ code ∈ codes, hasShape code = true) (distinct : codes.Nodup)
    {random rest : Nat → Option UInt8} {stored : List BackupCode}
    (h : hash libs codes random = .ok (stored, rest)) :
    ∃ issued : Issued libs, issued.codes = codes ∧ issued.stored [] = stored := by
  obtain ⟨pairs, rfl, rfl, each⟩ := mapM_pairs h
  have hashed : ∀ pair ∈ pairs, pair.2.used = false ∧
      ∃ before after, hashPassword libs pair.1 before = .ok (pair.2.hash, after) := by
    intro pair member
    obtain ⟨before, after, drawn⟩ := each pair member
    obtain ⟨stored, mid, key, made⟩ := Rand.bind_ok drawn
    rw [Rand.pure_ok made]
    exact ⟨rfl, before, mid, key⟩
  refine ⟨⟨pairs.map fun pair => (pair.1, pair.2.hash), ?_, ?_, ?_⟩, ?_, ?_⟩
  · rwa [List.map_map]
  · intro pair member
    obtain ⟨entry, among, rfl⟩ := List.mem_map.mp member
    exact shaped _ (List.mem_map_of_mem among)
  · intro pair member candidate shape
    obtain ⟨entry, among, rfl⟩ := List.mem_map.mp member
    obtain ⟨_, before, after, key⟩ := hashed entry among
    exact documented _ _ _ _ _ shape (shaped _ (List.mem_map_of_mem among)) key
  · simp [Issued.codes]
  · rw [Issued.stored, List.map_map]
    refine List.map_congr_left fun pair member => ?_
    have unused := (hashed pair member).1
    cases entry : pair.2 with
    | mk hash used => simp_all

theorem keeps_used {before after : List BackupCode} (flip : FlipsOne before after) {i : Nat}
    {code : BackupCode} (there : before[i]? = some code) (used : code.used = true) :
    after[i]? = some code := by
  obtain ⟨j, flipped, at_j, unused, rfl⟩ := flip
  have other : j ≠ i := by
    rintro rfl
    obtain rfl := Option.some.inj (at_j.symm.trans there)
    cases unused.symm.trans used
  rw [List.getElem?_set_ne other, there]

/-- Every code works exactly once, and nothing else works, in any sequence of attempts. -/
theorem every_code_works_once (libs : Libraries)
    -- only strings in shape come to the hashes
    (documented : ∀ p q before stored after, hasShape p = true → hasShape q = true →
      hashPassword libs q before = .ok (stored, after) →
      verifyPassword libs p stored = .ok (decide (p = q)))
    (count : Nat) (drawn undrawn : Nat → Option UInt8) (codes : List String)
    (generated : generateCodes count drawn = .ok (codes, undrawn)) (distinct : codes.Nodup)
    (random rest : Nat → Option UInt8) (stored : List BackupCode)
    (hashed : hash libs codes random = .ok (stored, rest))
    (earlier : List String) (candidate : String) :
    ∃ results before won after,
      runAttempts libs stored earlier = .ok (results, before) ∧ results.length = earlier.length ∧
      attempt libs before candidate = .ok (won, after) ∧
      (won = true ↔ candidate ∈ codes ∧ (candidate, true) ∉ earlier.zip results) ∧
      (won = true → FlipsOne before after) ∧ (won = false → after = before) ∧
      ∀ (i : Nat) (code : BackupCode), before[i]? = some code → code.used = true →
        after[i]? = some code := by
  obtain ⟨issued, rfl, rfl⟩ :=
    issued_of_hash documented (fun _ member => generateCodes_shape generated member) distinct hashed
  have fresh : candidate ∉ (attempts issued.codes [] earlier).2 ↔
      (candidate, true) ∉ earlier.zip (attempts issued.codes [] earlier).1 := by
    rw [mem_spent]
    simp
  have step := issued.attempt_eq (attempts issued.codes [] earlier).2 candidate
  by_cases won : Wins issued.codes (attempts issued.codes [] earlier).2 candidate
  · rw [if_pos won, decide_eq_true won] at step
    have flip := issued.flips won
    exact ⟨_, _, true, _, issued.runAttempts_eq [] earlier, length_attempts _ _ _, step,
      iff_of_true rfl ⟨won.1, fresh.mp won.2⟩, fun _ => flip, by simp, fun _ _ => keeps_used flip⟩
  · rw [if_neg won, decide_eq_false won] at step
    exact ⟨_, _, false, _, issued.runAttempts_eq [] earlier, length_attempts _ _ _, step,
      iff_of_false Bool.false_ne_true fun given => won ⟨given.1, fresh.mpr given.2⟩, by simp,
      fun _ => rfl, fun _ _ there _ => there⟩

/-! ### A hash that tells the codes apart -/

/-- The characters in the 32 bytes of a key. -/
def plainKey (password : String) : List UInt8 :=
  (password.toList.map fun c => UInt8.ofNat c.toNat) ++ List.replicate 23 0

def plainLibraries : Libraries where
  jsonParse := fun _ => none
  toIso8601 := fun _ => ""
  pbkdf2 := fun password _ _ => some (plainKey password)
  hmacSha1 := fun _ _ => none
  sha256 := fun _ => none
  cborLoad := fun _ => none
  validKey := fun _ => false
  digestVerify := fun _ _ _ => false

theorem hasShape_chars {code : String} (shape : hasShape code = true) :
    code.toList.length = kCodeLength ∧ ∀ c ∈ code.toList, c ∈ '-' :: kAlphabet := by
  unfold hasShape at shape
  rw [Bool.and_eq_true, Bool.and_eq_true, beq_iff_eq, beq_iff_eq, List.all_eq_true] at shape
  obtain ⟨⟨length, dash⟩, chars⟩ := shape
  rw [← String.length_toList] at length
  have inside : kGroupLength < code.toList.length := by
    rw [length]
    decide
  have whole : code.toList =
      code.toList.take kGroupLength ++ '-' :: code.toList.drop (kGroupLength + 1) := by
    rw [List.getD_eq_getElem?_getD, List.getElem?_eq_getElem inside, Option.getD_some] at dash
    rw [← dash, ← List.drop_eq_getElem_cons inside, List.take_append_drop]
  refine ⟨length, fun c member => ?_⟩
  rw [whole, List.mem_append, List.mem_cons] at member
  rcases member with early | rfl | late
  · exact List.mem_cons_of_mem _
      (List.contains_iff_mem.mp (chars c (List.mem_append_left _ early)))
  · exact List.mem_cons_self
  · exact List.mem_cons_of_mem _
      (List.contains_iff_mem.mp (chars c (List.mem_append_right _ late)))

theorem plainKey_chars {code : String} (shape : hasShape code = true) :
    ((plainKey code).take kCodeLength).map (fun b => Char.ofNat b.toNat) = code.toList := by
  obtain ⟨length, chars⟩ := hasShape_chars shape
  unfold plainKey
  rw [List.take_left' (by rw [List.length_map, length]), List.map_map]
  have small : ('-' :: kAlphabet).all (fun c => c.toNat < 256) = true := by decide
  have oneByte : ∀ c ∈ '-' :: kAlphabet, c.toNat < 256 := fun c member => by
    simpa using List.all_eq_true.mp small c member
  have back : ∀ c ∈ '-' :: kAlphabet, Char.ofNat (UInt8.ofNat c.toNat).toNat = c :=
    fun c member => by rw [UInt8.toNat_ofNat_of_lt' (oneByte c member), Char.ofNat_toNat]
  exact (List.map_congr_left fun c member => back c (chars c member)).trans (List.map_id _)

theorem plainKey_inj {p q : String} (left : hasShape p = true) (right : hasShape q = true) :
    plainKey p = plainKey q ↔ p = q := by
  constructor
  · intro same
    have chars := plainKey_chars left
    rw [same, plainKey_chars right] at chars
    exact String.toList_inj.mp chars.symm
  · intro same
    rw [same]

theorem plainLibraries_documented (p q : String) (before : Nat → Option UInt8)
    (stored : PasswordHash) (after : Nat → Option UInt8) (left : hasShape p = true)
    (right : hasShape q = true) (hashed : hashPassword plainLibraries q before = .ok (stored, after)) :
    verifyPassword plainLibraries p stored = .ok (decide (p = q)) := by
  obtain ⟨salt, _, _, hashed⟩ := Rand.bind_ok hashed
  obtain ⟨key, _, derived, hashed⟩ := Rand.bind_ok hashed
  obtain rfl := Rand.pure_ok hashed
  have made : key = plainKey q := by
    cases derived
    rfl
  simp only [verifyPassword, derive, plainLibraries, fromHex_toHex, made, bind, Except.bind, pure,
    Except.pure, Except.ok.injEq]
  rw [Bool.eq_iff_iff, beq_iff_eq, decide_eq_true_iff, plainKey_inj left right]

def countingBytes : Nat → Option UInt8 := fun n => some (UInt8.ofNat n)

theorem every_code_works_once_sample :
    ∃ stored results before won after,
      runAttempts plainLibraries stored ["2345-6789", "2345-6789"] = .ok (results, before) ∧
      attempt plainLibraries before "ABCD-EFGH" = .ok (won, after) ∧
      (won = true ↔ "ABCD-EFGH" ∈ ["2345-6789", "ABCD-EFGH"] ∧
        ("ABCD-EFGH", true) ∉ ["2345-6789", "2345-6789"].zip results) := by
  obtain ⟨results, before, won, after, ran, -, attempted, works, -⟩ :=
    every_code_works_once plainLibraries plainLibraries_documented 2 countingBytes _
      ["2345-6789", "ABCD-EFGH"] rfl (by decide) countingBytes _ _ rfl
      ["2345-6789", "2345-6789"] "ABCD-EFGH"
  exact ⟨_, results, before, won, after, ran, attempted, works⟩

end Atomwall.BackupCodes
