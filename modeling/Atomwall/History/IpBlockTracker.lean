import Atomwall.Pipeline.NetUtils
import Atomwall.Platform.Libraries
import Mathlib.Data.String.Basic

/-! `IpBlockTracker`: temporary blocks of addresses and of ranges. -/

namespace Atomwall

structure TemporaryIpBlock where
  text : String
  isCidr : Bool := false
  address : Address
  prefixLen : Nat := 0
  source : String
  scoreAtBlock : Int := 0
  createdAt : Int
  expiresAt : Int

namespace IpBlockTracker

structure CidrEntry where
  block : TemporaryIpBlock
  range : CidrRange

end IpBlockTracker

structure IpBlockTracker where
  pruneInterval : Int := minutes 1
  exact : KeyMap Address TemporaryIpBlock := ∅
  cidrs : List IpBlockTracker.CidrEntry := []
  lastPrune : Int := 0

namespace IpBlockTracker

variable (s : IpBlockTracker)

def pruneExpired (now : Int) : IpBlockTracker :=
  { s with exact := KeyMap.eraseIf (fun block => decide (block.expiresAt ≤ now)) s.exact
           cidrs := s.cidrs.filter fun e => decide (now < e.block.expiresAt) }

/-- `now` is what the tracker itself reads from the clock. -/
def add (now : Int) (block : TemporaryIpBlock) : IpBlockTracker :=
  let s := if s.pruneInterval ≤ now - s.lastPrune then { s.pruneExpired now with lastPrune := now } else s
  if block.isCidr then
    { s with cidrs := (s.cidrs.filter fun e => e.block.text != block.text) ++
        [⟨block, { prefixAddress := block.address, prefixLen := block.prefixLen, text := block.text,
                   createdAt := now }⟩] }
  else { s with exact := s.exact.insert block.address block }

def isBlocked (now : Int) (ip : Address) : Bool :=
  (s.exact.lookup ip).any (fun block => decide (now < block.expiresAt)) ||
    s.cidrs.any fun e => decide (now < e.block.expiresAt) && addressInCidr ip e.range

def blocks : List TemporaryIpBlock := s.exact.entries.map (·.2) ++ s.cidrs.map CidrEntry.block

def size : Nat := s.blocks.length

/-- Newest first, and by text where the times are equal. -/
def comesBefore (a b : TemporaryIpBlock) : Bool :=
  if a.createdAt ≠ b.createdAt then decide (b.createdAt < a.createdAt) else decide (a.text < b.text)

def listActive (now : Int) : List TemporaryIpBlock × IpBlockTracker :=
  let s := { s.pruneExpired now with lastPrune := now }
  (s.blocks.mergeSort fun a b => !comesBefore b a, s)

/-- An address is removed in whatever spelling, a range by its text. -/
def remove (makeAddress : MakeAddress) (text : String) : Bool × IpBlockTracker :=
  match makeAddress text with
  | some address => ((s.exact.lookup address).isSome, { s with exact := s.exact.erase address })
  | none =>
    (s.cidrs.any fun e => e.block.text == text,
      { s with cidrs := s.cidrs.filter fun e => e.block.text != text })

end IpBlockTracker

end Atomwall
