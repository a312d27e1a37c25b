import Atomwall.Base.Decimal
import Atomwall.Config.RuntimeConfig
import Mathlib.Data.List.TakeWhile

/-! `pipeline/net_utils.cpp`: addresses and ranges. -/

namespace Atomwall

open ByteString

/-- `boost::asio::ip::make_address`; none is its error. -/
abbrev MakeAddress := String → Option Address

def maxBits : Address → Nat
  | .v4 _ => 32
  | .v6 _ _ => 128

def parseCidr (makeAddress : MakeAddress) (now : Int) (text : String) : Option CidrRange :=
  match text.toList.dropWhile (· != '/') with
  | [] => none
  | _ :: prefixPart =>
    match makeAddress (before '/' text), Decimal.scanNat prefixPart with
    | some address, some (prefixLen, []) =>
      if maxBits address < prefixLen then none
      else some { prefixAddress := address, prefixLen, text, createdAt := now }
    | _, _ => none

/-- The first `prefixLen` bits are equal. -/
def prefixMatches {n : Nat} (a b : Vector UInt8 n) (prefixLen : Nat) : Bool :=
  let fullBytes := prefixLen / 8
  let remainingBits := prefixLen % 8
  if (List.range fullBytes).all fun i => a[i]? == b[i]? then
    if remainingBits = 0 then true
    else
      let mask := UInt8.ofNat (0xFF00 >>> remainingBits)
      a[fullBytes]?.map (· &&& mask) == b[fullBytes]?.map (· &&& mask)
  else false

def addressInCidr (address : Address) (range : CidrRange) : Bool :=
  match address, range.prefixAddress with
  | .v4 a, .v4 b => prefixMatches a b range.prefixLen
  | .v6 a _, .v6 b _ => prefixMatches a b range.prefixLen
  | _, _ => false

def isV4Mapped (bytes : Vector UInt8 16) : Bool :=
  ((List.range 10).all fun i => bytes[i]? == some 0) && bytes[10] == 0xFF && bytes[11] == 0xFF

def normalizeClientAddress (address : Address) : Address :=
  match address with
  | .v6 bytes _ =>
    if isV4Mapped bytes then .v4 #v[bytes[12], bytes[13], bytes[14], bytes[15]] else address
  | .v4 _ => address

theorem normalizeClientAddress_idem (address : Address) :
    normalizeClientAddress (normalizeClientAddress address) = normalizeClientAddress address := by
  cases address with
  | v4 bytes => rfl
  | v6 bytes scopeId =>
    by_cases mapped : isV4Mapped bytes = true
    · simp [normalizeClientAddress, mapped]
    · simp [normalizeClientAddress, mapped]

variable {makeAddress : MakeAddress} {now : Int} {text : String} {range : CidrRange}

theorem parseCidr_some (h : parseCidr makeAddress now text = some range) :
    range.text = text ∧ '/' ∈ text.toList ∧
      ∀ later, parseCidr makeAddress later text = some { range with createdAt := later } := by
  unfold parseCidr at h ⊢
  split at h
  · cases h
  · next first prefixPart slash =>
    have member : '/' ∈ text.toList := by
      by_contra none_there
      rw [List.dropWhile_eq_nil_iff.mpr] at slash
      · cases slash
      · intro c member
        simp only [bne_iff_ne]
        rintro rfl
        exact none_there member
    split at h
    · next address prefixLen parsed scanned =>
      split at h
      · cases h
      · next fits =>
        obtain rfl := Option.some.inj h
        exact ⟨rfl, member, fun later => if_neg fits⟩
    · cases h

end Atomwall
