import Atomwall.Admin.SessionOwners

/-!
`security.require_2fa`: a session that may use the whole API belongs to an account with a second factor,
as long as the policy is not switched on over the head of one that has none.
-/

namespace Atomwall.Admin

open Http

def FullySignedIn (s : AppState) (now : Int) (username : String) : Prop :=
  ∃ token session, s.sessions.lookup token = some session ∧ now ≤ session.expiresAt ∧
    session.username = username ∧ session.needsMfaSetup = false

variable {libs : Libraries} {others : OtherHandlers} {app s t : AppState} {a : Arrival}
  {done : List Made} {op : Call} {n : Nat} {username token : String}

theorem FullySignedIn.later {now later : Int} (h : FullySignedIn s later username)
    (order : now ≤ later) : FullySignedIn s now username := by
  obtain ⟨token, session, stored, unexpired, rest⟩ := h
  exact ⟨token, session, stored, by omega, rest⟩

/-- The first account enrolled in TOTP, and the policy on. -/
def enrolledApp : AppState :=
  { sampleApp with
    users := sampleApp.users.modifyUser "root" fun user =>
      { user with totp := some ⟨"GEZDGNBVGY3TQOJQGEZDGNBVGY3TQOJQ"⟩ }
    config := { security := ⟨true⟩ } }

def rootSendsCode : Arrival :=
  sampleRequest 59 1 "POST" "/api/auth/2fa/totp/verify"
    ("atomwall_pending_mfa=" ++ toHex (List.replicate 32 1)) firstCode

def enrolledServer : Server := ⟨enrolledApp, seconds 29, []⟩

end Atomwall.Admin
