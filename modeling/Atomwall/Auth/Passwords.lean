import Atomwall.Auth.TokenStores

/-! PBKDF2 password hashes, and the backup codes hashed the same way. -/

namespace Atomwall

def kIterations : Int := 210000
def kSaltBytes : Nat := 16

structure PasswordHash where
  saltHex : String := ""
  hashHex : String := ""
  iterations : Int := 0

def hexValue (c : Char) : Option UInt8 :=
  if '0' ≤ c ∧ c ≤ '9' then some (UInt8.ofNat (c.toNat - '0'.toNat))
  else if 'a' ≤ c ∧ c ≤ 'f' then some (UInt8.ofNat (c.toNat - 'a'.toNat + 10))
  else if 'A' ≤ c ∧ c ≤ 'F' then some (UInt8.ofNat (c.toNat - 'A'.toNat + 10))
  else none

/-- `std::stoi(text, nullptr, 16)` of two characters, cast to `unsigned char`: white space and a sign
may come first, and reading stops at the first character that is no digit. -/
def stoi16 (a b : Char) : Except Fault UInt8 :=
  match hexValue a, hexValue b with
  | some high, some low => .ok (high * 16 + low)
  | some high, none => .ok high
  | none, some low =>
    if a.isWhitespace ∨ a = '\x0b' ∨ a = '\x0c' ∨ a = '+' then .ok low
    else if a = '-' then .ok (0 - low)
    else .error (.invalidArgument "stoi")
  | none, none => .error (.invalidArgument "stoi")

def fromHexChars : List Char → Except Fault (List UInt8)
  | a :: b :: rest => do
    let byte ← stoi16 a b
    return byte :: (← fromHexChars rest)
  | _ => .ok []

def fromHex (hex : String) : Except Fault (List UInt8) := fromHexChars hex.toList

theorem stoi16_hexDigit : ∀ n < 256,
    stoi16 (hexDigit (UInt8.ofNat n >>> 4)) (hexDigit (UInt8.ofNat n &&& 0x0F)) =
      .ok (UInt8.ofNat n) := by
  decide +kernel

theorem fromHex_toHex (data : List UInt8) : fromHex (toHex data) = .ok data := by
  unfold fromHex toHex
  rw [String.toList_ofList]
  induction data with
  | nil => rfl
  | cons b rest ih =>
    have byte := stoi16_hexDigit b.toNat b.toNat_lt
    rw [UInt8.ofNat_toNat] at byte
    rw [List.flatMap_cons, List.cons_append, List.cons_append, List.nil_append, fromHexChars, byte, ih]
    rfl

def derive (libs : Libraries) (password : String) (salt : List UInt8) (iterations : Int) :
    Except Fault (List UInt8) :=
  match libs.pbkdf2 password salt iterations with
  | none => .error .runtimeError
  | some key => .ok key

def hashPassword (libs : Libraries) (password : String) : Rand PasswordHash := do
  let salt ← randBytes kSaltBytes
  let key ← derive libs password salt kIterations
  return ⟨toHex salt, toHex key, kIterations⟩

def verifyPassword (libs : Libraries) (password : String) (stored : PasswordHash) :
    Except Fault Bool := do
  let salt ← fromHex stored.saltHex
  let key ← derive libs password salt (if 0 < stored.iterations then stored.iterations else kIterations)
  let expected ← fromHex stored.hashHex
  return key == expected

structure BackupCode where
  hash : PasswordHash
  used : Bool := false

namespace BackupCodes

def kAlphabet : List Char := "23456789ABCDEFGHJKMNPQRSTUVWXYZ".toList
def kGroupLength : Nat := 4
def kCodeLength : Nat := kGroupLength * 2 + 1

def randomCodeGroup (length : Nat) : Rand (List Char) := do
  return (← randBytes length).map fun byte => kAlphabet.getD (byte.toNat % kAlphabet.length) '2'

def generateOne : Rand String := do
  let first ← randomCodeGroup kGroupLength
  let second ← randomCodeGroup kGroupLength
  return String.ofList (first ++ '-' :: second)

/-- `generate_backup_codes`, ten of them. -/
def generate : Rand (List String) := (List.range 10).mapM fun _ => generateOne

def hash (libs : Libraries) (codes : List String) : Rand (List BackupCode) :=
  codes.mapM fun code => do return ⟨← hashPassword libs code, false⟩

def hasShape (candidate : String) : Bool :=
  candidate.length == kCodeLength && candidate.toList.getD kGroupLength ' ' == '-' &&
    (candidate.toList.take kGroupLength ++ candidate.toList.drop (kGroupLength + 1)).all
      fun c => kAlphabet.contains c

/-- `consume_backup_code`: every unused code is checked, and the first that matches is used up. -/
def consume (libs : Libraries) (codes : List BackupCode) (candidate : String) :
    Except Fault (Option (List BackupCode)) :=
  if hasShape candidate then do
    let matched ← codes.mapM fun code =>
      if code.used then .ok false else verifyPassword libs candidate code.hash
    match matched.idxOf? true with
    | none => return none
    | some index => return some (codes.modify index fun code => { code with used := true })
  else .ok none

theorem consume_some {libs : Libraries} {codes next : List BackupCode} {candidate : String}
    (h : consume libs codes candidate = .ok (some next)) :
    ∃ stored ∈ codes, stored.used = false ∧ verifyPassword libs candidate stored.hash = .ok true := by
  unfold consume at h
  split at h
  · cases checked : codes.mapM fun code =>
        if code.used then .ok false else verifyPassword libs candidate code.hash with
    | error fault => simp [checked, bind, Except.bind] at h
    | ok matched =>
      simp only [checked, bind, Except.bind, pure, Except.pure] at h
      split at h
      · cases h
      · next index found =>
        have present : true ∈ matched := by
          rw [← List.isSome_idxOf?, found]
          rfl
        obtain ⟨stored, member, right⟩ := mapM_ok checked present
        split at right
        · cases right
        · next unused => exact ⟨stored, member, by simpa using unused, right⟩
  · cases h

end BackupCodes

end Atomwall
