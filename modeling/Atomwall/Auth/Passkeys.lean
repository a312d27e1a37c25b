import Atomwall.Auth.UserStore
import Mathlib.Data.List.Flatten

/-!
The credential ids that the accounts hold, and whom the lookup by id finds. The lookup takes the first
account that has the id, so it tells the holder as long as no id is held twice.
-/

namespace Atomwall

/-- The account's credential ids, each under the account's name. -/
def UserRecord.passkeys (user : UserRecord) : List (String × String) :=
  user.webauthnCredentials.map fun c => (user.username, c.idB64url)

namespace UserStore

def passkeys (s : UserStore) : List (String × String) := s.users.flatMap UserRecord.passkeys

def passkeyIds (s : UserStore) : List String := s.passkeys.map Prod.snd

variable {s t : UserStore} {m : Moment} {libs : Libraries} {username credentialId : String}

theorem mem_passkeys {holder : String} : (holder, credentialId) ∈ s.passkeys ↔
    ∃ user ∈ s.users, user.username = holder ∧
      user.webauthnCredentials.any (·.idB64url == credentialId) = true := by
  simp only [passkeys, UserRecord.passkeys, List.mem_flatMap, List.mem_map, Prod.mk.injEq,
    List.any_eq_true, beq_iff_eq]
  constructor
  · rintro ⟨user, member, c, stored, named, same⟩
    exact ⟨user, member, named, c, stored, same⟩
  · rintro ⟨user, member, named, c, stored, same⟩
    exact ⟨user, member, c, stored, named, same⟩

/-! ### The lookup -/

theorem findByCredentialId_holds {user : UserRecord}
    (found : s.findByCredentialId credentialId = some user) :
    (user.username, credentialId) ∈ s.passkeys := by
  unfold findByCredentialId at found
  have holds := List.find?_some found
  exact mem_passkeys.mpr ⟨user, List.mem_of_find?_eq_some found, rfl, holds⟩

theorem findByCredentialId_eq_none :
    s.findByCredentialId credentialId = none ↔ credentialId ∉ s.passkeyIds := by
  constructor
  · intro absent held
    obtain ⟨⟨holder, id⟩, member, same⟩ := List.mem_map.mp held
    obtain rfl : id = credentialId := same
    obtain ⟨user, there, _, holds⟩ := mem_passkeys.mp member
    exact List.find?_eq_none.mp absent user there holds
  · intro absent
    cases found : s.findByCredentialId credentialId with
    | none => rfl
    | some user => exact absurd (List.mem_map.mpr ⟨_, findByCredentialId_holds found, rfl⟩) absent

theorem holder_unique {holder other : String} (distinct : s.passkeyIds.Nodup)
    (holds : (holder, credentialId) ∈ s.passkeys) (holds' : (other, credentialId) ∈ s.passkeys) :
    holder = other := by
  have same := List.inj_on_of_nodup_map distinct holds holds' rfl
  exact (Prod.mk.inj same).1

theorem findByCredentialId_holder {holder : String} (distinct : s.passkeyIds.Nodup)
    (holds : (holder, credentialId) ∈ s.passkeys) :
    ∃ user, s.findByCredentialId credentialId = some user ∧ user.username = holder := by
  cases found : s.findByCredentialId credentialId with
  | none =>
    exact absurd (List.mem_map.mpr ⟨_, holds, rfl⟩) (findByCredentialId_eq_none.mp found)
  | some user => exact ⟨user, rfl, holder_unique distinct (findByCredentialId_holds found) holds⟩

/-! ### What the operations do to the ids -/

/-- The record found, among those before and after it, and its change. -/
theorem modifyUser_split {user : UserRecord} (known : s.find username = some user) :
    ∃ before after, s.users = before ++ user :: after ∧
      ∀ change, (s.modifyUser username change).users = before ++ change user :: after := by
  obtain ⟨named, before, after, split, others⟩ := List.find?_eq_some_iff_append.mp known
  refine ⟨before, after, split, fun change => ?_⟩
  have named : user.username = username := by simpa using named
  unfold modifyUser
  dsimp only
  rw [split]
  clear split
  induction before with
  | nil => rw [List.nil_append, List.lookmap_cons_some _ _ (by rw [if_pos named]), List.nil_append]
  | cons first before ih =>
    have other : ¬ first.username = username := by simpa using others first List.mem_cons_self
    rw [List.cons_append, List.lookmap_cons_none _ _ (by rw [if_neg other]),
      ih fun record member => others record (List.mem_cons_of_mem _ member), List.cons_append]

theorem passkeys_split {before after : List UserRecord} {user : UserRecord}
    (split : s.users = before ++ user :: after) :
    s.passkeys = before.flatMap UserRecord.passkeys ++ user.passkeys ++
      after.flatMap UserRecord.passkeys := by
  unfold passkeys
  rw [split, List.flatMap_append, List.flatMap_cons, List.append_assoc]

theorem passkeys_modifyUser {change : UserRecord → UserRecord}
    (fewer : ∀ user, (change user).passkeys.Sublist user.passkeys) :
    (s.modifyUser username change).passkeys.Sublist s.passkeys := by
  cases known : s.find username with
  | none =>
    have others : ∀ user ∈ s.users, user.username ≠ username := by
      simpa [find] using known
    have same : (s.modifyUser username change).users = s.users :=
      List.lookmap_of_forall_not _ fun user member => if_neg (others user member)
    unfold passkeys
    rw [same]
  | some user =>
    obtain ⟨before, after, split, changed⟩ := modifyUser_split known
    rw [passkeys_split split, passkeys_split (changed change)]
    exact ((fewer user).append_left _).append_right _

theorem passkeys_modifyUser_same {change : UserRecord → UserRecord}
    (same : ∀ user, (change user).passkeys = user.passkeys) :
    (s.modifyUser username change).passkeys.Sublist s.passkeys :=
  passkeys_modifyUser fun user => by rw [same]

theorem passkeys_addUserLocked {α : Type} {password : String} {value : α} :
    (s.addUserLocked m libs username password value).2.passkeys = s.passkeys := by
  unfold addUserLocked
  split
  · rfl
  · split
    · rfl
    · simp [passkeys, UserRecord.passkeys]

theorem passkeys_create {password : String} :
    (s.create m libs username password).2.passkeys.Sublist s.passkeys := by
  unfold create
  split
  · exact List.Sublist.refl _
  · rw [passkeys_addUserLocked]

theorem passkeys_createIfEmpty {password : String} :
    (s.createIfEmpty m libs username password).2.passkeys.Sublist s.passkeys := by
  unfold createIfEmpty
  split
  · exact List.Sublist.refl _
  · split
    · rw [passkeys_addUserLocked]
    · exact List.Sublist.refl _

theorem passkeys_remove : (s.remove m username).2.passkeys.Sublist s.passkeys := by
  unfold remove
  split
  · exact List.Sublist.refl _
  · split
    · exact List.Sublist.refl _
    · exact (List.eraseP_sublist).flatMap _

theorem passkeys_setTotp {secret : String} {codes : List String} :
    (s.setTotp m libs username secret codes).2.passkeys.Sublist s.passkeys := by
  unfold setTotp
  split
  · exact List.Sublist.refl _
  · dsimp only
    split
    · exact passkeys_modifyUser_same fun _ => rfl
    · rw [saveLocked_store]
      refine List.Sublist.trans (passkeys_modifyUser_same ?_) (passkeys_modifyUser_same ?_)
      · exact fun _ => rfl
      · exact fun _ => rfl

theorem passkeys_clearTotp : (s.clearTotp m username).2.passkeys.Sublist s.passkeys := by
  unfold clearTotp
  split
  · exact List.Sublist.refl _
  · exact passkeys_modifyUser_same fun _ => rfl

theorem passkeys_regenerateBackupCodes :
    (s.regenerateBackupCodes m libs username).2.passkeys.Sublist s.passkeys := by
  unfold regenerateBackupCodes
  split
  · exact List.Sublist.refl _
  · split
    · exact List.Sublist.refl _
    · dsimp only
      split
      · exact List.Sublist.refl _
      · exact passkeys_modifyUser_same fun _ => rfl

theorem passkeys_consumeBackupCode {candidate : String} :
    (s.consumeBackupCode m libs username candidate).2.passkeys.Sublist s.passkeys := by
  unfold consumeBackupCode
  split
  · exact List.Sublist.refl _
  · split
    · exact List.Sublist.refl _
    · exact List.Sublist.refl _
    · exact passkeys_modifyUser_same fun _ => rfl

theorem passkeys_consumeTotpStep {step : Int} :
    (s.consumeTotpStep username step).2.passkeys.Sublist s.passkeys := by
  unfold consumeTotpStep
  split
  · split <;> exact List.Sublist.refl _
  · exact List.Sublist.refl _

theorem passkeys_webauthnUserHandle :
    (s.webauthnUserHandle m username).2.passkeys.Sublist s.passkeys := by
  unfold webauthnUserHandle
  split
  · exact List.Sublist.refl _
  · split
    · exact List.Sublist.refl _
    · split
      · exact List.Sublist.refl _
      · exact passkeys_modifyUser_same fun _ => rfl

theorem passkeys_removeWebauthnCredential :
    (s.removeWebauthnCredential m username credentialId).2.passkeys.Sublist s.passkeys := by
  unfold removeWebauthnCredential
  split
  · exact List.Sublist.refl _
  · split
    · exact passkeys_modifyUser fun user => List.eraseP_sublist.map _
    · exact List.Sublist.refl _

theorem passkeys_updateWebauthnSignCount {count : UInt32} :
    (s.updateWebauthnSignCount m username credentialId count).2.passkeys.Sublist s.passkeys := by
  unfold updateWebauthnSignCount
  split
  · exact List.Sublist.refl _
  · split
    · refine passkeys_modifyUser_same fun user => ?_
      unfold UserRecord.passkeys
      apply List.lookmap_map_eq
      intro c counted taken
      by_cases found : c.idB64url = credentialId
      · rw [if_pos found] at taken
        obtain rfl := Option.some.inj taken
        rfl
      · rw [if_neg found] at taken
        cases taken
    · exact List.Sublist.refl _

theorem passkeys_addWebauthnCredential {user : UserRecord} {credential : WebAuthnCredential}
    (known : s.find username = some user) :
    ∃ before after, s.passkeys = before ++ after ∧
      (s.addWebauthnCredential m username credential).2.passkeys =
        before ++ (username, credential.idB64url) :: after := by
  obtain ⟨before, after, split, changed⟩ := modifyUser_split known
  refine ⟨before.flatMap UserRecord.passkeys ++ user.passkeys, after.flatMap UserRecord.passkeys,
    passkeys_split split, ?_⟩
  unfold addWebauthnCredential
  rw [known]
  dsimp only
  rw [saveLocked_store, passkeys_split (changed _)]
  simp [UserRecord.passkeys, find_username known]

/-- Where no id is held twice, an id that has been removed resolves to nobody. -/
theorem findByCredentialId_removed (distinct : s.passkeyIds.Nodup)
    (removed : s.removeWebauthnCredential m username credentialId = (.ok true, t)) :
    t.findByCredentialId credentialId = none := by
  unfold removeWebauthnCredential at removed
  split at removed
  · cases removed
  · next user known =>
    split at removed
    · next holds =>
      obtain ⟨_, rfl⟩ := saveLocked_ok removed
      obtain ⟨before, after, split, changed⟩ := modifyUser_split known
      obtain ⟨c, member, same⟩ := List.any_eq_true.mp holds
      obtain ⟨gone, left, right, _, gone_id, stored, rest⟩ :=
        List.exists_of_eraseP (p := (·.idB64url == credentialId)) member same
      obtain rfl : gone.idB64url = credentialId := by simpa using gone_id
      rw [findByCredentialId_eq_none]
      unfold passkeyIds at distinct ⊢
      rw [passkeys_split split] at distinct
      rw [passkeys_split (changed _)]
      simp only [UserRecord.passkeys, stored, List.map_append, List.map_cons] at distinct ⊢
      grind
    · cases removed

end UserStore

end Atomwall
