import Atomwall.Admin.Discipline

/-!
What the calls of a request do to the state, and what a call that was made says about the state it
found and the state it left.
-/

namespace Atomwall.Admin

open Http

variable {libs : Libraries} {op : Call} {m : Moment} {s t : AppState}

/-! ### Frames -/

theorem perform_reads (reads : op.Reads) : (perform libs op m s).2 = s := by
  cases op <;> first | rfl | cases reads

theorem perform_configUpdate {mutator : RuntimeConfig → Except Fault RuntimeConfig} :
    ∃ config, (perform libs (.configUpdate mutator) m s).2 = { s with config } ∧
      (config = s.config ∨ mutator s.config = .ok config) := by
  unfold perform
  dsimp only
  split
  · exact ⟨s.config, rfl, Or.inl rfl⟩
  · next config updated => exact ⟨config, rfl, Or.inr updated⟩

theorem perform_users (keeps : op.KeepsRecords) :
    (perform libs op m s).2.users.users = s.users.users := by
  cases op with
  | usersConsumeTotpStep username step =>
    simp only [perform, onUsers_snd, UserStore.consumeTotpStep]
    split
    · split <;> rfl
    · rfl
  | configUpdate mutator =>
    obtain ⟨config, left, _⟩ := @perform_configUpdate libs m s mutator
    rw [left]
  | _ => first | rfl | cases keeps

theorem perform_grows (quiet : ¬ op.Disrupts) : s.users.Grows (perform libs op m s).2.users := by
  cases op with
  | usersCreate => exact UserStore.grows_create
  | usersCreateIfEmpty => exact UserStore.grows_createIfEmpty
  | usersSetTotp => exact UserStore.grows_setTotp
  | usersRegenerateBackupCodes => exact UserStore.grows_regenerateBackupCodes
  | usersConsumeBackupCode => exact UserStore.grows_consumeBackupCode
  | usersConsumeTotpStep => exact UserStore.grows_consumeTotpStep
  | usersWebauthnUserHandle => exact UserStore.grows_webauthnUserHandle
  | usersAddWebauthnCredential => exact UserStore.grows_addWebauthnCredential
  | usersUpdateWebauthnSignCount => exact UserStore.grows_updateWebauthnSignCount
  | configUpdate mutator =>
    obtain ⟨config, left, _⟩ := @perform_configUpdate libs m s mutator
    rw [left]
    exact UserStore.grows_refl _
  | _ => first | exact UserStore.grows_refl _ | exact absurd trivial quiet

theorem perform_wellFormed (valid : s.users.WellFormed) :
    (perform libs op m s).2.users.WellFormed := by
  by_cases disrupts : op.Disrupts
  · cases op with
    | usersRemove => exact UserStore.wellFormed_remove valid
    | usersClearTotp => exact UserStore.wellFormed_clearTotp valid
    | usersRemoveWebauthnCredential => exact UserStore.wellFormed_removeWebauthnCredential valid
    | configUpdate mutator =>
      obtain ⟨config, left, _⟩ := @perform_configUpdate libs m s mutator
      rw [left]
      exact valid
    | _ => first | exact valid | cases disrupts
  · exact (perform_grows disrupts).1 valid

theorem perform_policy (quiet : ¬ op.Disrupts) : SamePolicy (perform libs op m s).2.config s.config := by
  cases op with
  | configUpdate mutator =>
    obtain ⟨config, left, same | updated⟩ := @perform_configUpdate libs m s mutator
    · rw [left, same]
      exact ⟨rfl, rfl⟩
    · have leaves : (Call.configUpdate mutator).LeavesAccounts := by
        simpa [Call.Disrupts] using quiet
      rw [left]
      exact leaves _ _ updated
  | _ => exact ⟨rfl, rfl⟩

theorem SamePolicy.trans {c d e : RuntimeConfig} (first : SamePolicy c d) (second : SamePolicy d e) :
    SamePolicy c e :=
  ⟨first.1.trans second.1, first.2.trans second.2⟩

theorem SamePolicy.symm {c d : RuntimeConfig} (h : SamePolicy c d) : SamePolicy d c :=
  ⟨h.1.symm, h.2.symm⟩

theorem perform_sessions (quiet : ¬ op.Disrupts) {token : String} {session : Session}
    (found : (perform libs op m s).2.sessions.lookup token = some session) :
    s.sessions.lookup token = some session := by
  cases op with
  | sessionsInvalidate other =>
    have erased : (s.sessions.erase other).lookup token = some session := found
    rw [KeyMap.lookup_erase_ite] at erased
    split at erased
    · cases erased
    · exact erased
  | configUpdate mutator =>
    obtain ⟨config, left, _⟩ := @perform_configUpdate libs m s mutator
    rwa [left] at found
  | sessionsCreate => exact absurd trivial quiet
  | sessionsMarkMfaSatisfied => exact absurd trivial quiet
  | _ => exact found

/-! ### What a request knows -/

/-- What a call that was made says of the state while nothing is taken away. Some of it needs accounts
that are well formed. -/
def Learnt (valid : Prop) (s : AppState) (e : Made) : Prop :=
  match e with
  | ⟨.usersFind username, some user⟩ => (s.users.find username).isSome = true ∧
      (user.hasSecondFactor = true → s.users.hasSecondFactor username = true)
  | ⟨.usersFindByCredentialId _, some user⟩ => (s.users.find user.username).isSome = true ∧
      (valid → s.users.hasSecondFactor user.username = true)
  | ⟨.usersCreateIfEmpty username _, .ok true⟩ => (s.users.find username).isSome = true
  | ⟨.usersConsumeBackupCode username _, .ok true⟩ => (s.users.find username).isSome = true ∧
      (valid → s.users.hasSecondFactor username = true)
  | ⟨.usersSetTotp username _ _, .ok ()⟩ => s.users.hasSecondFactor username = true
  | ⟨.usersAddWebauthnCredential username _, .ok ()⟩ => s.users.hasSecondFactor username = true
  | ⟨.sessionsValidate token, some info⟩ =>
    ∀ session, s.sessions.lookup token = some session → session.username = info.username
  | ⟨.configGet, config⟩ => SamePolicy config s.config
  | _ => True

theorem Learnt.quiet {valid : Prop} {e : Made} (h : Learnt valid s e) (quiet : ¬ op.Disrupts) :
    Learnt valid (perform libs op m s).2 e := by
  have kept := (@perform_grows libs op m s quiet).2
  unfold Learnt at h ⊢
  split at h
  · exact ⟨kept.find_isSome h.1, fun has => kept.hasSecondFactor (h.2 has)⟩
  · exact ⟨kept.find_isSome h.1, fun valid => kept.hasSecondFactor (h.2 valid)⟩
  · exact kept.find_isSome h
  · exact ⟨kept.find_isSome h.1, fun valid => kept.hasSecondFactor (h.2 valid)⟩
  · exact kept.hasSecondFactor h
  · exact kept.hasSecondFactor h
  · exact fun session found => h session (perform_sessions quiet found)
  · exact SamePolicy.trans h (perform_policy quiet).symm
  · trivial

theorem learnt_perform {valid : Prop} (known : valid → s.users.WellFormed) :
    Learnt valid (perform libs op m s).2 ⟨op, (perform libs op m s).1⟩ := by
  cases op with
  | usersFind username =>
    show Learnt valid s ⟨.usersFind username, s.users.find username⟩
    cases found : s.users.find username with
    | none => trivial
    | some user =>
      exact ⟨by rw [found]; rfl, fun has => UserStore.hasSecondFactor_iff.mpr ⟨user, found, has⟩⟩
  | usersFindByCredentialId credentialId =>
    show Learnt valid s ⟨.usersFindByCredentialId credentialId, s.users.findByCredentialId credentialId⟩
    cases found : s.users.findByCredentialId credentialId with
    | none => trivial
    | some user =>
      obtain ⟨member, has⟩ := UserStore.findByCredentialId_some found
      refine ⟨UserStore.find_isSome_of_mem member, fun valid => ?_⟩
      exact UserStore.hasSecondFactor_iff.mpr ⟨user, UserStore.find_of_mem (known valid) member, has⟩
  | usersCreateIfEmpty username password =>
    rcases made : s.users.createIfEmpty m libs username password with ⟨(fault | created), users⟩
    · simp [perform, made, Learnt]
    · cases created with
      | false => simp [perform, made, Learnt]
      | true =>
        simp only [perform, onUsers_fst, onUsers_snd, made]
        exact (UserStore.createIfEmpty_true made).2
  | usersConsumeBackupCode username candidate =>
    rcases made : s.users.consumeBackupCode m libs username candidate with ⟨(fault | consumed), users⟩
    · simp [perform, made, Learnt]
    · cases consumed with
      | false => simp [perform, made, Learnt]
      | true =>
        obtain ⟨user, codes, found, matched⟩ := UserStore.consumeBackupCode_true made
        have enrolled (valid : valid) : user.hasSecondFactor = true := by
          obtain ⟨stored, member, _⟩ := BackupCodes.consume_some matched
          have totp := (known valid).codes user (UserStore.find_mem found) (List.ne_nil_of_mem member)
          simp [UserRecord.hasSecondFactor, totp]
        have kept := (@UserStore.grows_consumeBackupCode s.users m libs username candidate).2
        rw [made] at kept
        simp only [perform, onUsers_fst, onUsers_snd, made]
        refine ⟨kept.find_isSome (by rw [found]; rfl), fun valid => kept.hasSecondFactor ?_⟩
        exact UserStore.hasSecondFactor_iff.mpr ⟨user, found, enrolled valid⟩
  | usersSetTotp username secret codes =>
    rcases made : s.users.setTotp m libs username secret codes with ⟨(fault | _), users⟩
    · simp [perform, made, Learnt]
    · simp only [perform, onUsers_fst, onUsers_snd, made]
      exact UserStore.setTotp_ok made
  | usersAddWebauthnCredential username credential =>
    rcases made : s.users.addWebauthnCredential m username credential with ⟨(fault | _), users⟩
    · simp [perform, made, Learnt]
    · simp only [perform, onUsers_fst, onUsers_snd, made]
      exact UserStore.addWebauthnCredential_ok made
  | sessionsValidate token =>
    show Learnt valid s ⟨.sessionsValidate token, s.sessions.validate m token⟩
    cases found : s.sessions.validate m token with
    | none => trivial
    | some info =>
      obtain ⟨session, stored, _, rfl⟩ := SessionStore.validate_eq_some.mp found
      intro other there
      rw [Option.some.inj (there.symm.trans stored)]
  | configGet => exact ⟨rfl, rfl⟩
  | _ => trivial

/-- What a call that was made says of the state the request found. -/
def Seen (libs : Libraries) (app : AppState) (a : Arrival) (e : Made) : Prop :=
  match e with
  | ⟨.usersFind username, found⟩ => app.users.find username = found
  | ⟨.usersFindByCredentialId credentialId, found⟩ =>
    app.users.findByCredentialId credentialId = found
  | ⟨.usersCreateIfEmpty _ _, .ok true⟩ => app.users.users = []
  | ⟨.usersConsumeBackupCode username candidate, .ok true⟩ =>
    ∃ user codes, app.users.find username = some user ∧
      BackupCodes.consume libs user.backupCodes candidate = .ok (some codes)
  | ⟨.usersConsumeTotpStep username step, true⟩ =>
    ∀ last, app.users.lastTotpStep.lookup username = some last → last < step
  | ⟨.sessionsValidate token, found⟩ => app.sessions.validate (a.moment 0) token = found
  | ⟨.pendingMfaValidate token, found⟩ => app.pendingMfa.validate (a.moment 0) token = found
  | ⟨.challengesConsume key, some challenge⟩ =>
    ∃ e, app.challenges.entries.lookup key = some e ∧ e.challenge = challenge ∧ a.now ≤ e.expiresAt
  | ⟨.now, now⟩ => now = a.now
  | _ => True

variable {app : AppState} {a : Arrival} {done : List Made} {n : Nat}

theorem perform_lastTotpStep {username : String} {last : Int}
    (known : s.users.lastTotpStep.lookup username = some last) :
    ∃ later, (perform libs op m s).2.users.lastTotpStep.lookup username = some later ∧
      last ≤ later := by
  have kept : (perform libs op m s).2.users.lastTotpStep = s.users.lastTotpStep →
      ∃ later, (perform libs op m s).2.users.lastTotpStep.lookup username = some later ∧
        last ≤ later := by
    intro same
    rw [same]
    exact ⟨last, known, Int.le_refl _⟩
  cases op with
  | usersConsumeTotpStep other step => exact UserStore.lastTotpStep_consumeTotpStep known
  | _ =>
    apply kept
    simp only [perform, onUsers_snd, UserStore.create, UserStore.createIfEmpty,
      UserStore.addUserLocked, UserStore.remove, UserStore.setTotp, UserStore.clearTotp,
      UserStore.regenerateBackupCodes, UserStore.consumeBackupCode, UserStore.webauthnUserHandle,
      UserStore.addWebauthnCredential, UserStore.removeWebauthnCredential,
      UserStore.updateWebauthnSignCount]
    repeat' split
    all_goals rfl

/-- What stands while a request is served: what its calls so far have left as it was, and what they
say of the state the request found and of the one it is in. -/
structure Context (libs : Libraries) (app : AppState) (a : Arrival) (done : List Made) (s : AppState) :
    Prop where
  valid : app.users.WellFormed → s.users.WellFormed
  reads : OnlyReads done → s = app
  records : RecordsKept done → s.users.users = app.users.users
  policy : Quiet done → SamePolicy s.config app.config
  steps : ∀ username last, app.users.lastTotpStep.lookup username = some last →
    ∃ later, s.users.lastTotpStep.lookup username = some later ∧ last ≤ later
  seen : ∀ e ∈ done, Seen libs app a e
  learnt : Quiet done → ∀ e ∈ done, Learnt app.users.WellFormed s e

theorem context_start : Context libs app a [] app where
  valid := id
  reads _ := rfl
  records _ := rfl
  policy _ := ⟨rfl, rfl⟩
  steps _ last known := ⟨last, known, Int.le_refl _⟩
  seen _ member := by cases member
  learnt _ _ member := by cases member

theorem find_of_users {r : UserStore} (same : r.users = t.users.users) (username : String) :
    r.find username = t.users.find username := by
  unfold UserStore.find
  rw [same]

theorem Context.seen_perform (context : Context libs app a done s)
    (may : MayCall libs a.request done op) :
    Seen libs app a ⟨op, (perform libs op (a.moment n) s).1⟩ := by
  cases op with
  | usersFind username => exact (find_of_users (context.records may) username).symm
  | usersFindByCredentialId credentialId =>
    show app.users.findByCredentialId credentialId = s.users.findByCredentialId credentialId
    unfold UserStore.findByCredentialId
    rw [context.records may]
  | usersCreateIfEmpty username password =>
    rcases made : s.users.createIfEmpty (a.moment n) libs username password with ⟨(fault | created), users⟩
    · simp [perform, made, Seen]
    · cases created with
      | false => simp [perform, made, Seen]
      | true =>
        simp only [perform, onUsers_fst, made]
        show app.users.users = []
        rw [← context.records may]
        exact (UserStore.createIfEmpty_true made).1
  | usersConsumeBackupCode username candidate =>
    rcases made : s.users.consumeBackupCode (a.moment n) libs username candidate with
      ⟨(fault | consumed), users⟩
    · simp [perform, made, Seen]
    · cases consumed with
      | false => simp [perform, made, Seen]
      | true =>
        obtain ⟨user, codes, found, matched⟩ := UserStore.consumeBackupCode_true made
        simp only [perform, onUsers_fst, made]
        refine ⟨user, codes, ?_, matched⟩
        rw [← find_of_users (context.records may) username]
        exact found
  | usersConsumeTotpStep username step =>
    rcases made : s.users.consumeTotpStep username step with ⟨fresh, users⟩
    cases fresh with
    | false => simp [perform, made, Seen]
    | true =>
      simp only [perform, onUsers_fst, made]
      intro last known
      obtain ⟨later, there, le⟩ := context.steps username last known
      have newer := UserStore.consumeTotpStep_true made later there
      omega
  | sessionsValidate token =>
    obtain rfl := context.reads may
    rfl
  | pendingMfaValidate token =>
    obtain rfl := context.reads may
    rfl
  | challengesConsume key =>
    obtain rfl := context.reads may
    rcases made : s.challenges.consume (a.moment n) key with ⟨(_ | challenge), left⟩
    · simp [perform, made, Seen]
    · obtain ⟨e, found, same, fresh, _⟩ := ChallengeStore.consume_some made
      simp only [perform, made]
      exact ⟨e, found, same, fresh⟩
  | now => rfl
  | _ => trivial

theorem Context.perform (context : Context libs app a done s)
    (may : MayCall libs a.request done op) :
    Context libs app a (⟨op, (perform libs op (a.moment n) s).1⟩ :: done)
      (perform libs op (a.moment n) s).2 where
  valid valid := perform_wellFormed (context.valid valid)
  reads only := by
    obtain ⟨here, before⟩ := onlyReads_cons.mp only
    rw [perform_reads here]
    exact context.reads before
  records kept := by
    obtain ⟨here, before⟩ := recordsKept_cons.mp kept
    rw [perform_users here]
    exact context.records before
  policy quiet := by
    obtain ⟨here, before⟩ := quiet_cons.mp quiet
    exact (perform_policy here).trans (context.policy before)
  steps username last known := by
    obtain ⟨later, there, le⟩ := context.steps username last known
    obtain ⟨newest, now, le'⟩ := @perform_lastTotpStep libs op (a.moment n) s username later there
    exact ⟨newest, now, by omega⟩
  seen := by
    intro e member
    rcases List.mem_cons.mp member with rfl | before
    · exact context.seen_perform may
    · exact context.seen e before
  learnt quiet := by
    obtain ⟨here, before⟩ := quiet_cons.mp quiet
    intro e member
    rcases List.mem_cons.mp member with rfl | earlier
    · exact learnt_perform context.valid
    · exact (context.learnt before e earlier).quiet here

theorem serve_invariant {others : OtherHandlers}
    {inv : List Made → AppState → Prop}
    (preserved : ∀ done op n s, Context libs app a done s → MayCall libs a.request done op →
      inv done s → inv (⟨op, (Admin.perform libs op (a.moment n) s).1⟩ :: done)
        (Admin.perform libs op (a.moment n) s).2)
    (start : inv [] app) :
    Context libs app a (serve libs others app a).done (serve libs others app a).store ∧
      inv (serve libs others app a).done (serve libs others app a).store := by
  have kept : Prog.Keeps (discipline libs a.request) []
      (handleConnection libs others a.request a.clientIp) :=
    keeps_handleConnection others a.clientIp
  refine (@Prog.Keeps.exec _ _ _ _ _ _ (Admin.perform libs) _ _ _
    (fun done s => Context libs app a done s ∧ inv done s) kept a.moment ?_ app
    ⟨context_start, start⟩).1
  intro done op n s holds may
  exact ⟨holds.1.perform may, preserved done op n s holds.1 may holds.2⟩

end Atomwall.Admin
