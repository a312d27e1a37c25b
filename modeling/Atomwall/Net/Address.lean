import Mathlib.Data.List.Basic

/-! `boost::asio::ip::address`. -/

namespace Atomwall

/-- Bytes in network order; a v6 address also has its scope. -/
inductive Address where
  | v4 (bytes : Vector UInt8 4)
  | v6 (bytes : Vector UInt8 16) (scopeId : Nat)
  deriving DecidableEq

end Atomwall
