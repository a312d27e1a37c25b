import Atomwall.Auth.UserStore

/-!
What the operations of `UserStore` keep: names stay distinct, only an account with TOTP has backup
codes, and only `remove`, `clear_totp` and `remove_webauthn_credential` take an account or a factor
away.
-/

namespace Atomwall.UserStore

structure WellFormed (s : UserStore) : Prop where
  names : (s.users.map UserRecord.username).Nodup
  codes : ∀ user ∈ s.users, user.backupCodes ≠ [] → user.totp.isSome = true

/-- Every account stays, with a second factor where it had one. -/
def Extends (s t : UserStore) : Prop :=
  ∀ username user, s.find username = some user →
    ∃ later, t.find username = some later ∧
      (user.hasSecondFactor = true → later.hasSecondFactor = true)

/-- A step that keeps the store well formed and takes nothing away. -/
def Grows (s t : UserStore) : Prop := (s.WellFormed → t.WellFormed) ∧ s.Extends t

variable {s t : UserStore} {m : Moment} {libs : Libraries}

theorem extends_refl (s : UserStore) : s.Extends s :=
  fun _ user found => ⟨user, found, id⟩

theorem grows_refl (s : UserStore) : s.Grows s := ⟨id, extends_refl s⟩

theorem Extends.find_isSome {username : String} (h : s.Extends t)
    (found : (s.find username).isSome = true) : (t.find username).isSome = true := by
  obtain ⟨user, known⟩ := Option.isSome_iff_exists.mp found
  obtain ⟨later, there, _⟩ := h username user known
  simp [there]

theorem hasSecondFactor_iff {username : String} : s.hasSecondFactor username = true ↔
    ∃ user, s.find username = some user ∧ user.hasSecondFactor = true := by
  unfold hasSecondFactor
  cases s.find username <;> simp

theorem Extends.hasSecondFactor {username : String} (h : s.Extends t)
    (factor : s.hasSecondFactor username = true) : t.hasSecondFactor username = true := by
  obtain ⟨user, known, has⟩ := hasSecondFactor_iff.mp factor
  obtain ⟨later, there, keeps⟩ := h username user known
  exact hasSecondFactor_iff.mpr ⟨later, there, keeps has⟩

theorem find_mem {username : String} {user : UserRecord} (h : s.find username = some user) :
    user ∈ s.users :=
  List.mem_of_find?_eq_some h

theorem mem_modifyUser {username : String} {change : UserRecord → UserRecord} {user : UserRecord}
    (h : user ∈ (s.modifyUser username change).users) :
    user ∈ s.users ∨ ∃ old, s.find username = some old ∧ user = change old := by
  unfold find
  change user ∈ s.users.lookmap (fun old => if old.username = username then some (change old) else none)
    at h
  generalize s.users = users at h ⊢
  induction users with
  | nil => simp at h
  | cons first rest ih =>
    by_cases named : first.username = username
    · rw [List.lookmap_cons_some _ _ (by rw [if_pos named])] at h
      rcases List.mem_cons.mp h with here | there
      · exact Or.inr ⟨first, by simp [named], here⟩
      · exact Or.inl (List.mem_cons_of_mem _ there)
    · rw [List.lookmap_cons_none _ _ (by rw [if_neg named])] at h
      rcases List.mem_cons.mp h with here | there
      · exact Or.inl (here ▸ List.mem_cons_self)
      · rcases ih there with old | ⟨old, found, same⟩
        · exact Or.inl (List.mem_cons_of_mem _ old)
        · exact Or.inr ⟨old, by simpa [named] using found, same⟩

theorem wellFormed_modifyUser {username : String} {change : UserRecord → UserRecord}
    (keeps : ∀ user, (change user).username = user.username)
    (codes : ∀ user, s.find username = some user → (user.backupCodes ≠ [] → user.totp.isSome = true) →
      (change user).backupCodes ≠ [] → (change user).totp.isSome = true)
    (h : s.WellFormed) : (s.modifyUser username change).WellFormed := by
  constructor
  · have same : (s.modifyUser username change).users.map UserRecord.username =
        s.users.map UserRecord.username := by
      apply List.lookmap_map_eq
      intro user changed made
      split at made
      · rw [← Option.some.inj made, keeps]
      · cases made
    rw [same]
    exact h.names
  · intro user member
    rcases mem_modifyUser member with old | ⟨old, found, rfl⟩
    · exact h.codes user old
    · exact codes old found (h.codes old (find_mem found))

theorem extends_modifyUser {username : String} {change : UserRecord → UserRecord}
    (keeps : ∀ user, (change user).username = user.username)
    (factor : ∀ user, user.hasSecondFactor = true → (change user).hasSecondFactor = true) :
    s.Extends (s.modifyUser username change) := by
  intro other user found
  rw [find_modifyUser keeps]
  by_cases same : other = username
  · exact ⟨change user, by simp [same, same ▸ found], factor user⟩
  · exact ⟨user, by simp [same, found], id⟩

theorem grows_addUserLocked {α : Type} {username password : String} {value : α} :
    s.Grows (s.addUserLocked m libs username password value).2 := by
  unfold addUserLocked
  split
  · exact grows_refl s
  · next fresh =>
    split
    · exact grows_refl s
    · rw [saveLocked_store]
      constructor
      · intro h
        constructor
        · rw [List.map_append, List.nodup_append]
          refine ⟨h.names, by simp, ?_⟩
          simp only [List.any_eq_true, beq_iff_eq, not_exists, not_and] at fresh
          intro name old other new
          obtain ⟨user, member, rfl⟩ := List.mem_map.mp old
          simp only [List.map_cons, List.map_nil, List.mem_singleton] at new
          rw [new]
          exact fresh user member
        · intro user member
          rcases List.mem_append.mp member with old | new
          · exact h.codes user old
          · obtain rfl := List.mem_singleton.mp new
            simp
      · intro other user found
        refine ⟨user, ?_, id⟩
        unfold find at found ⊢
        rw [List.find?_append, found]
        rfl

theorem grows_create {username password : String} :
    s.Grows (s.create m libs username password).2 := by
  unfold create
  split
  · exact grows_refl s
  · exact grows_addUserLocked

theorem grows_createIfEmpty {username password : String} :
    s.Grows (s.createIfEmpty m libs username password).2 := by
  unfold createIfEmpty
  split
  · exact grows_refl s
  · split
    · exact grows_addUserLocked
    · exact grows_refl s

theorem grows_trans {r : UserStore} (first : s.Grows t) (second : t.Grows r) : s.Grows r := by
  refine ⟨fun h => second.1 (first.1 h), fun username user found => ?_⟩
  obtain ⟨mid, there, keeps⟩ := first.2 username user found
  obtain ⟨later, last, keeps'⟩ := second.2 username mid there
  exact ⟨later, last, fun has => keeps' (keeps has)⟩

theorem grows_setTotp {username secret : String} {codes : List String} :
    s.Grows (s.setTotp m libs username secret codes).2 := by
  have enrolled : s.Grows (s.modifyUser username fun user => { user with totp := some ⟨secret⟩ }) :=
    ⟨wellFormed_modifyUser (fun _ => rfl) (fun _ _ _ _ => rfl),
      extends_modifyUser (fun _ => rfl) (fun _ _ => rfl)⟩
  unfold setTotp
  split
  · exact grows_refl s
  · next user found =>
    dsimp only
    split
    · exact enrolled
    · refine grows_trans enrolled ⟨wellFormed_modifyUser (fun _ => rfl) ?_,
        extends_modifyUser (fun _ => rfl) (fun _ has => has)⟩
      intro changed there _ _
      obtain rfl : { user with totp := some ⟨secret⟩ } = changed := by
        simpa [find_modifyUser, found] using there
      rfl

theorem grows_regenerateBackupCodes {username : String} :
    s.Grows (s.regenerateBackupCodes m libs username).2 := by
  unfold regenerateBackupCodes
  split
  · exact grows_refl s
  · next user found =>
    split
    · exact grows_refl s
    · next enrolled =>
      dsimp only
      split
      · exact grows_refl s
      · refine ⟨wellFormed_modifyUser (fun _ => rfl) ?_,
          extends_modifyUser (fun _ => rfl) (fun _ has => has)⟩
        intro other there _ _
        obtain rfl := Option.some.inj (found.symm.trans there)
        simpa [Option.isSome_iff_ne_none] using enrolled

theorem grows_consumeBackupCode {username candidate : String} :
    s.Grows (s.consumeBackupCode m libs username candidate).2 := by
  unfold consumeBackupCode
  split
  · exact grows_refl s
  · next user found =>
    split
    · exact grows_refl s
    · exact grows_refl s
    · next codes consumed =>
      refine ⟨wellFormed_modifyUser (fun _ => rfl) ?_,
        extends_modifyUser (fun _ => rfl) (fun _ has => has)⟩
      intro other there valid _
      obtain rfl := Option.some.inj (found.symm.trans there)
      obtain ⟨stored, member, _⟩ := BackupCodes.consume_some consumed
      exact valid (List.ne_nil_of_mem member)

theorem grows_consumeTotpStep {username : String} {step : Int} :
    s.Grows (s.consumeTotpStep username step).2 := by
  unfold consumeTotpStep
  split
  · split
    · exact grows_refl s
    · exact ⟨fun h => ⟨h.names, h.codes⟩, extends_refl s⟩
  · exact ⟨fun h => ⟨h.names, h.codes⟩, extends_refl s⟩

theorem grows_webauthnUserHandle {username : String} :
    s.Grows (s.webauthnUserHandle m username).2 := by
  unfold webauthnUserHandle
  split
  · exact grows_refl s
  · split
    · exact grows_refl s
    · split
      · exact grows_refl s
      · exact ⟨wellFormed_modifyUser (fun _ => rfl) (fun _ _ valid => valid),
          extends_modifyUser (fun _ => rfl) (fun _ has => has)⟩

theorem grows_addWebauthnCredential {username : String} {credential : WebAuthnCredential} :
    s.Grows (s.addWebauthnCredential m username credential).2 := by
  unfold addWebauthnCredential
  split
  · exact grows_refl s
  · exact ⟨wellFormed_modifyUser (fun _ => rfl) (fun _ _ valid => valid),
      extends_modifyUser (fun _ => rfl) (fun user _ => by simp [UserRecord.hasSecondFactor])⟩

theorem grows_updateWebauthnSignCount {username credentialId : String} {count : UInt32} :
    s.Grows (s.updateWebauthnSignCount m username credentialId count).2 := by
  unfold updateWebauthnSignCount
  split
  · exact grows_refl s
  · split
    · refine ⟨wellFormed_modifyUser (fun _ => rfl) (fun _ _ valid => valid),
        extends_modifyUser (fun _ => rfl) (fun user has => ?_)⟩
      simpa [UserRecord.hasSecondFactor, List.isEmpty_eq_false_iff, ← List.length_eq_zero_iff,
        List.length_lookmap] using has
    · exact grows_refl s

theorem wellFormed_remove {username : String} (h : s.WellFormed) :
    (s.remove m username).2.WellFormed := by
  unfold remove
  split
  · exact h
  · split
    · exact h
    · exact ⟨(List.eraseP_sublist.map _).nodup h.names,
        fun user member => h.codes user (List.mem_of_mem_eraseP member)⟩

theorem wellFormed_clearTotp {username : String} (h : s.WellFormed) :
    (s.clearTotp m username).2.WellFormed := by
  unfold clearTotp
  split
  · exact h
  · exact wellFormed_modifyUser (fun _ => rfl) (fun _ _ _ nonempty => absurd rfl nonempty) h

theorem wellFormed_removeWebauthnCredential {username credentialId : String} (h : s.WellFormed) :
    (s.removeWebauthnCredential m username credentialId).2.WellFormed := by
  unfold removeWebauthnCredential
  split
  · exact h
  · split
    · exact wellFormed_modifyUser (fun _ => rfl) (fun _ _ valid => valid) h
    · exact h

theorem find_isSome_modifyUser {username other : String} {change : UserRecord → UserRecord}
    (keeps : ∀ user, (change user).username = user.username)
    (known : (s.find other).isSome = true) :
    ((s.modifyUser username change).find other).isSome = true := by
  rw [find_modifyUser keeps]
  split
  · simpa using known
  · exact known

theorem find_isSome_clearTotp {username other : String} (known : (s.find other).isSome = true) :
    ((s.clearTotp m username).2.find other).isSome = true := by
  unfold clearTotp
  split
  · exact known
  · exact find_isSome_modifyUser (fun _ => rfl) known

theorem find_isSome_removeWebauthnCredential {username credentialId other : String}
    (known : (s.find other).isSome = true) :
    ((s.removeWebauthnCredential m username credentialId).2.find other).isSome = true := by
  unfold removeWebauthnCredential
  split
  · exact known
  · split
    · exact find_isSome_modifyUser (fun _ => rfl) known
    · exact known

theorem find_modifyUser_same {username : String} {user : UserRecord} {change : UserRecord → UserRecord}
    (found : s.find username = some user) (keeps : ∀ user, (change user).username = user.username) :
    (s.modifyUser username change).find username = some (change user) := by
  rw [find_modifyUser keeps, if_pos rfl, found]
  rfl

theorem find_modifyUser_of_ne {username other : String} {change : UserRecord → UserRecord}
    (apart : other ≠ username) (keeps : ∀ user, (change user).username = user.username) :
    (s.modifyUser username change).find other = s.find other := by
  rw [find_modifyUser keeps, if_neg apart]

theorem hasSecondFactor_congr {t : UserStore} {username : String}
    (same : t.find username = s.find username) :
    t.hasSecondFactor username = s.hasSecondFactor username := by
  unfold hasSecondFactor
  rw [same]

theorem hasSecondFactor_removeWebauthnCredential {username credentialId other : String}
    (spare : ∀ user, s.find username = some user →
      user.totp.isSome = true ∨ 2 ≤ user.webauthnCredentials.length)
    (has : s.hasSecondFactor other = true) :
    (s.removeWebauthnCredential m username credentialId).2.hasSecondFactor other = true := by
  unfold removeWebauthnCredential
  split
  · exact has
  · next user found =>
    split
    · next stored =>
      rw [saveLocked_store]
      by_cases same : other = username
      · subst same
        refine hasSecondFactor_iff.mpr ⟨_, find_modifyUser_same found (fun _ => rfl), ?_⟩
        rcases spare user found with totp | several
        · simp [UserRecord.hasSecondFactor, totp]
        · have left : (user.webauthnCredentials.eraseP (·.idB64url == credentialId)).length ≠ 0 := by
            rw [List.length_eraseP, if_pos stored]
            omega
          simp [UserRecord.hasSecondFactor, List.ne_nil_of_length_pos (Nat.pos_of_ne_zero left)]
      · refine (hasSecondFactor_congr ?_).trans has
        exact find_modifyUser_of_ne same (fun _ => rfl)
    · exact has

theorem find_removeWebauthnCredential_of_ne {username credentialId other : String}
    (apart : other ≠ username) :
    (s.removeWebauthnCredential m username credentialId).2.find other = s.find other := by
  unfold removeWebauthnCredential
  split
  · rfl
  · split
    · exact find_modifyUser_of_ne apart (fun _ => rfl)
    · rfl

theorem factor_kept_removeWebauthnCredential {username credentialId : String} :
    (s.hasSecondFactor username = true →
      (s.removeWebauthnCredential m username credentialId).2.hasSecondFactor username = true) ↔
    ∀ user, s.find username = some user →
      user.webauthnCredentials.any (·.idB64url == credentialId) = true →
      user.totp.isSome = true ∨ 2 ≤ user.webauthnCredentials.length := by
  cases found : s.find username with
  | none =>
    refine iff_of_true (fun has => ?_) (fun user there => by cases there)
    obtain ⟨user, there, _⟩ := hasSecondFactor_iff.mp has
    exact absurd (found.symm.trans there) (by simp)
  | some user =>
    simp only [Option.some.injEq, forall_eq']
    constructor
    · intro kept stored
      obtain ⟨credential, member, _⟩ := List.any_eq_true.mp stored
      have has : s.hasSecondFactor username = true := hasSecondFactor_iff.mpr
        ⟨user, found, by simp [UserRecord.hasSecondFactor, List.ne_nil_of_mem member]⟩
      obtain ⟨later, there, factor⟩ := hasSecondFactor_iff.mp (kept has)
      unfold removeWebauthnCredential at there
      simp only [found, stored, if_true, saveLocked_store] at there
      rw [find_modifyUser_same found (by intro user; rfl)] at there
      obtain rfl := Option.some.inj there
      simp only [UserRecord.hasSecondFactor, Bool.or_eq_true, Bool.not_eq_true',
        List.isEmpty_eq_false_iff] at factor
      rcases factor with totp | others
      · exact Or.inl totp
      · have left := List.length_pos_iff.mpr others
        rw [List.length_eraseP, if_pos stored] at left
        exact Or.inr (by omega)
    · intro spare has
      cases stored : user.webauthnCredentials.any (·.idB64url == credentialId) with
      | false => simpa [removeWebauthnCredential, found, stored] using has
      | true =>
        refine hasSecondFactor_removeWebauthnCredential (fun other there => ?_) has
        obtain rfl := Option.some.inj (found.symm.trans there)
        exact spare stored

/-- `remove` leaves the store as it is, or the account was there and not the last one. -/
theorem remove_store {username : String} : (s.remove m username).2 = s ∨
    ((s.find username).isSome = true ∧ s.users.length ≠ 1 ∧
      (s.remove m username).2 = { s with users := s.users.eraseP (·.username == username) }) := by
  unfold remove
  split
  · exact Or.inl rfl
  · next user found =>
    split
    · exact Or.inl rfl
    · next several => exact Or.inr ⟨by rw [found]; rfl, several, rfl⟩

theorem find_remove_of_ne {username other : String} (apart : other ≠ username) :
    (s.remove m username).2.find other = s.find other := by
  rcases @remove_store s m username with same | ⟨_, _, left⟩
  · rw [same]
  · rw [left]
    unfold find
    dsimp only
    induction s.users with
    | nil => rfl
    | cons user rest ih =>
      by_cases named : user.username = username
      · have other_named : ¬ user.username = other := fun here => apart (here.symm.trans named)
        rw [List.eraseP_cons_of_pos (by simpa using named),
          List.find?_cons_of_neg (by simpa using other_named)]
      · rw [List.eraseP_cons_of_neg (by simpa using named), List.find?_cons, List.find?_cons, ih]

theorem remove_true {username : String} {t : UserStore}
    (h : s.remove m username = (.ok true, t)) :
    (s.find username).isSome = true ∧ s.users.length ≠ 1 := by
  unfold remove at h
  split at h
  · cases h
  · next user found =>
    split at h
    · cases h
    · next several => exact ⟨by rw [found]; rfl, several⟩

/-! ### The counters of the passkeys -/

/-- The count stored with the passkey that the operations find for the account. -/
def signCountOf (s : UserStore) (username credentialId : String) : Option UInt32 :=
  (s.find username).bind fun user =>
    (user.webauthnCredentials.find? (·.idB64url == credentialId)).map (·.signCount)

theorem signCountOf_congr {username credentialId : String}
    (same : t.find username = s.find username) :
    t.signCountOf username credentialId = s.signCountOf username credentialId := by
  unfold signCountOf
  rw [same]

theorem signCountOf_some {username credentialId : String} {count : UInt32} :
    s.signCountOf username credentialId = some count ↔
      ∃ user credential, s.find username = some user ∧
        user.webauthnCredentials.find? (·.idB64url == credentialId) = some credential ∧
        credential.signCount = count := by
  simp [signCountOf, Option.bind_eq_some_iff]

theorem updateWebauthnSignCount_store {username credentialId : String} {count : UInt32} :
    (s.updateWebauthnSignCount m username credentialId count).2 = s ∨
    (s.updateWebauthnSignCount m username credentialId count).2 =
      s.modifyUser username fun user => { user with
        webauthnCredentials := user.webauthnCredentials.lookmap fun c =>
          if c.idB64url = credentialId then some { c with signCount := count } else none } := by
  unfold updateWebauthnSignCount
  split
  · exact Or.inl rfl
  · split
    · exact Or.inr rfl
    · exact Or.inl rfl

theorem find?_countSet {credentials : List WebAuthnCredential} {credentialId sought : String}
    {count : UInt32} :
    (credentials.lookmap fun c =>
      if c.idB64url = credentialId then some { c with signCount := count } else none).find?
        (·.idB64url == sought) =
      if sought = credentialId then
        (credentials.find? (·.idB64url == sought)).map fun c => { c with signCount := count }
      else credentials.find? (·.idB64url == sought) :=
  @find?_lookmap WebAuthnCredential (·.idB64url) (fun c => { c with signCount := count }) (fun _ => rfl)
    _ _ _

theorem holds_of_found {credentials : List WebAuthnCredential} {credential : WebAuthnCredential}
    {credentialId : String} (held : credentials.find? (·.idB64url == credentialId) = some credential) :
    credentials.any (·.idB64url == credentialId) = true :=
  List.any_eq_true.mpr ⟨credential, List.mem_of_find?_eq_some held, by simpa using List.find?_some held⟩

theorem signCountOf_update {username credentialId : String} {before count : UInt32}
    (stored : s.signCountOf username credentialId = some before) :
    (s.updateWebauthnSignCount m username credentialId count).2.signCountOf username credentialId =
      some count := by
  obtain ⟨user, credential, found, held, _⟩ := signCountOf_some.mp stored
  unfold updateWebauthnSignCount
  simp only [found, holds_of_found held, if_true, saveLocked_store]
  refine signCountOf_some.mpr ⟨_, { credential with signCount := count },
    find_modifyUser_same found (fun _ => rfl), ?_, rfl⟩
  dsimp only
  rw [find?_countSet, if_pos rfl, held]
  rfl

theorem signCountOf_update_of_ne {username credentialId other otherId : String} {count : UInt32}
    (apart : other ≠ username ∨ otherId ≠ credentialId) :
    (s.updateWebauthnSignCount m username credentialId count).2.signCountOf other otherId =
      s.signCountOf other otherId := by
  rcases @updateWebauthnSignCount_store s m username credentialId count with same | changed
  · rw [same]
  · rw [changed]
    by_cases named : other = username
    · subst named
      unfold signCountOf
      rw [find_modifyUser (by intro user; rfl), if_pos rfl]
      cases s.find other with
      | none => rfl
      | some user =>
        have otherwise : otherId ≠ credentialId := apart.resolve_left (not_not.mpr rfl)
        simp only [Option.map_some, Option.bind_some]
        rw [find?_countSet, if_neg otherwise]
    · exact signCountOf_congr (find_modifyUser_of_ne named (fun _ => rfl))

/-- Where the account holds the passkey, the record found by the passkey's id and the account's name is
the account's. -/
theorem find_of_findByCredentialId {credentialId : String} {user : UserRecord} {count : UInt32}
    (stored : s.signCountOf user.username credentialId = some count)
    (found : s.findByCredentialId credentialId = some user) : s.find user.username = some user := by
  obtain ⟨owner, credential, named, held, _⟩ := signCountOf_some.mp stored
  have holds := holds_of_found held
  unfold find findByCredentialId at *
  generalize s.users = users at found named ⊢
  induction users with
  | nil => cases found
  | cons first rest ih =>
    by_cases here : first.username = user.username
    · rw [List.find?_cons_of_pos (by simpa using here)] at named
      obtain rfl := Option.some.inj named
      rw [List.find?_cons, holds] at found
      rw [List.find?_cons_of_pos (by simpa using here)]
      exact found
    · rw [List.find?_cons_of_neg (by simpa using here)] at named ⊢
      refine ih ?_ named
      rw [List.find?_cons] at found
      split at found
      · exact absurd (congrArg UserRecord.username (Option.some.inj found)) here
      · exact found

/-! ### What a successful operation shows -/

theorem find_of_mem {user : UserRecord} (valid : s.WellFormed) (member : user ∈ s.users) :
    s.find user.username = some user := by
  have names := valid.names
  unfold find
  generalize s.users = users at member names ⊢
  induction users with
  | nil => cases member
  | cons first rest ih =>
    simp only [List.map_cons, List.nodup_cons] at names
    rcases List.mem_cons.mp member with rfl | there
    · simp
    · have apart : first.username ≠ user.username := by
        intro same
        exact names.1 (same ▸ List.mem_map_of_mem there)
      rw [List.find?_cons_of_neg (by simpa using apart)]
      exact ih there names.2

theorem find_isSome_of_mem {user : UserRecord} (member : user ∈ s.users) :
    (s.find user.username).isSome = true := by
  rw [find, List.find?_isSome]
  exact ⟨user, member, by simp⟩

theorem findByCredentialId_some {credentialId : String} {user : UserRecord}
    (h : s.findByCredentialId credentialId = some user) :
    user ∈ s.users ∧ user.hasSecondFactor = true := by
  refine ⟨List.mem_of_find?_eq_some h, ?_⟩
  have stored := List.find?_some h
  obtain ⟨credential, member, _⟩ := List.any_eq_true.mp stored
  have nonempty : user.webauthnCredentials ≠ [] := List.ne_nil_of_mem member
  simp [UserRecord.hasSecondFactor, nonempty]

theorem createIfEmpty_true {username password : String} {t : UserStore}
    (h : s.createIfEmpty m libs username password = (.ok true, t)) :
    s.users = [] ∧ (t.find username).isSome = true := by
  unfold createIfEmpty at h
  split at h
  · cases h
  · split at h
    · next empty =>
      have none_yet : s.users = [] := by simpa using empty
      unfold addUserLocked at h
      split at h
      · cases h
      · split at h
        · cases h
        · obtain ⟨_, rfl⟩ := saveLocked_ok h
          exact ⟨none_yet, by simp [find, none_yet]⟩
    · cases h

theorem consumeBackupCode_true {username candidate : String} {t : UserStore}
    (h : s.consumeBackupCode m libs username candidate = (.ok true, t)) :
    ∃ user codes, s.find username = some user ∧
      BackupCodes.consume libs user.backupCodes candidate = .ok (some codes) := by
  unfold consumeBackupCode at h
  split at h
  · cases h
  · next user found =>
    split at h
    · cases h
    · cases h
    · next codes consumed => exact ⟨user, codes, found, consumed⟩

theorem setTotp_ok {username secret : String} {codes : List String} {t : UserStore}
    (h : s.setTotp m libs username secret codes = (.ok (), t)) : t.hasSecondFactor username = true := by
  unfold setTotp at h
  split at h
  · cases h
  · next user found =>
    dsimp only at h
    split at h
    · cases h
    · next hashed drawn =>
      obtain ⟨_, rfl⟩ := saveLocked_ok h
      rw [hasSecondFactor_iff]
      exact ⟨_, find_modifyUser_same (find_modifyUser_same found (fun _ => rfl)) (fun _ => rfl), rfl⟩

theorem addWebauthnCredential_ok {username : String} {credential : WebAuthnCredential} {t : UserStore}
    (h : s.addWebauthnCredential m username credential = (.ok (), t)) :
    t.hasSecondFactor username = true := by
  unfold addWebauthnCredential at h
  split at h
  · cases h
  · next user found =>
    obtain ⟨_, rfl⟩ := saveLocked_ok h
    rw [hasSecondFactor_iff]
    refine ⟨_, find_modifyUser_same found (fun _ => rfl), ?_⟩
    simp [UserRecord.hasSecondFactor]

theorem consumeTotpStep_true {username : String} {step : Int} {t : UserStore}
    (h : s.consumeTotpStep username step = (true, t)) :
    ∀ last, s.lastTotpStep.lookup username = some last → last < step := by
  intro last known
  unfold consumeTotpStep at h
  rw [known] at h
  dsimp only at h
  split at h
  · cases h
  · omega

theorem consumeTotpStep_new {username : String} {step : Int}
    (newer : ∀ last, s.lastTotpStep.lookup username = some last → last < step) :
    (s.consumeTotpStep username step).1 = true := by
  unfold consumeTotpStep
  split
  · next last known =>
    have := newer last known
    rw [if_neg (by omega)]
  · rfl

/-- After `consume_totp_step` the newest used step is at least the one given, whatever it returned. -/
theorem consumeTotpStep_floor {username : String} {step : Int} :
    ∃ last, (s.consumeTotpStep username step).2.lastTotpStep.lookup username = some last ∧
      step ≤ last := by
  unfold consumeTotpStep
  split
  · next last known =>
    split
    · next used => exact ⟨last, known, used⟩
    · exact ⟨step, AList.lookup_insert _, Int.le_refl _⟩
  · exact ⟨step, AList.lookup_insert _, Int.le_refl _⟩

theorem lastTotpStep_consumeTotpStep {username other : String} {step last : Int}
    (known : s.lastTotpStep.lookup other = some last) :
    ∃ later, (s.consumeTotpStep username step).2.lastTotpStep.lookup other = some later ∧
      last ≤ later := by
  unfold consumeTotpStep
  split
  · next before there =>
    split
    · exact ⟨last, known, Int.le_refl _⟩
    · dsimp only
      rw [KeyMap.lookup_insert_ite]
      by_cases same : other = username
      · rw [if_pos same]
        obtain rfl : before = last := by
          rw [same] at known
          exact Option.some.inj (there.symm.trans known)
        exact ⟨step, rfl, by omega⟩
      · rw [if_neg same]
        exact ⟨last, known, Int.le_refl _⟩
  · next fresh =>
    dsimp only
    rw [KeyMap.lookup_insert_ite]
    by_cases same : other = username
    · rw [same, fresh] at known
      cases known
    · rw [if_neg same]
      exact ⟨last, known, Int.le_refl _⟩

end Atomwall.UserStore
