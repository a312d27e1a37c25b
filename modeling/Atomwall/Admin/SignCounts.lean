import Atomwall.Admin.Ceremonies
import Atomwall.Admin.Effects

/-!
The counters of the passkeys, under verifications whose calls interleave: a count is checked against the
one that was found and written over the one that is there by then.
-/

namespace Atomwall.Admin

open Http ByteString

inductive PasskeyUse where
  | login | secondFactor
  deriving DecidableEq

structure AssertionParty where
  use : PasskeyUse
  request : Request
  clientIp : String := "unknown"

def AssertionParty.program (libs : Libraries) (p : AssertionParty) : Handler Response :=
  match p.use with
  | .login => handleWebauthnLoginVerify libs p.request p.clientIp
  | .secondFactor => handleWebauthn2faVerify libs p.request p.clientIp

/-- The count passes the check of `verify_webauthn_authentication` against the stored one. -/
def CountPasses (stored count : UInt32) : Prop := (stored = 0 ∧ count = 0) ∨ stored < count

def FoundAt (done : List Made) (username credentialId : String) (stored : UInt32) : Prop :=
  ∃ user credential, (Returned done (.usersFind username) (some user) ∨
      Returned done (.usersFindByCredentialId credentialId) (some user) ∧ user.username = username) ∧
    user.webauthnCredentials.find? (·.idB64url == credentialId) = some credential ∧
    credential.signCount = stored

def Reports (done : List Made) (username credentialId : String) (count : UInt32) : Prop :=
  ∃ e ∈ done, e.op = .usersUpdateWebauthnSignCount username credentialId count

/-- A verification writes a count once, one that passes the check against the count it found, and
leaves the records alone otherwise; it has written one when it succeeds. -/
def assertionContract : Prog.Contract Call Call.Result Fault Response where
  allowed done
    | .usersUpdateWebauthnSignCount username credentialId count =>
      RecordsKept done ∧ ∃ stored, FoundAt done username credentialId stored ∧ CountPasses stored count
    | op => op.KeepsRecords
  post done result :=
    ∀ res, result = .ok res → res.status = 200 →
      ∃ username credentialId count, Reports done username credentialId count

variable {libs : Libraries} {request : Request} {clientIp username credentialId : String}
  {done : List Made} {count stored : UInt32} {op : Call} {m : Moment} {s : AppState}

theorem assertion_fault (done : List Made) (fault : Fault) :
    assertionContract.post done (.error fault) := by
  intro res returned
  cases returned

theorem assertion_refused (done : List Made) (status : Nat) (what : String) (other : status ≠ 200) :
    assertionContract.post done (.ok (errorResponse status what request.version)) := by
  intro res returned ok
  obtain rfl := Except.ok.inj returned
  exact absurd ok other

theorem assertion_reported (later : List Made) {result : Except Fault Unit} (r : Response) :
    assertionContract.post
      (later ++ ⟨.usersUpdateWebauthnSignCount username credentialId count, result⟩ :: done) (.ok r) :=
  fun _ _ _ => ⟨username, credentialId, count, _, List.mem_append_right later List.mem_cons_self, rfl⟩

theorem keeps_login_assertion :
    Prog.Keeps assertionContract [] (handleWebauthnLoginVerify libs request clientIp) := by
  apply keeps_loginVerify_of assertion_fault assertion_refused (fun _ _ => trivial)
    (fun _ _ _ => trivial) (fun _ => trivial) (fun _ _ => trivial)
  intro cookie challenge config user fields credential result carried accepts before same
  refine ⟨⟨?_, credential.signCount, ?_, ?_⟩, trivial, fun later r => assertion_reported later r⟩
  · simp [same, Call.KeepsRecords, RecordsKept]
  · exact ⟨user, credential, Or.inr ⟨by simp [same], rfl⟩, accepts.held, rfl⟩
  · exact (WebAuthn.verifyAuthentication_reports accepts.verified).2.2

theorem keeps_second_assertion :
    Prog.Keeps assertionContract [] (handleWebauthn2faVerify libs request clientIp) := by
  apply keeps_2faVerify_of assertion_fault assertion_refused (fun _ => trivial)
    (fun _ _ _ => trivial) (fun _ _ _ _ => trivial) (fun _ => trivial) (fun _ _ => trivial)
    (fun _ _ => trivial)
  intro token username challenge config user fields credential result pending accepts before same
  refine ⟨⟨?_, credential.signCount, ?_, ?_⟩, trivial, fun later r => assertion_reported later r⟩
  · simp [same, Call.KeepsRecords, RecordsKept]
  · exact ⟨user, credential, Or.inl (by simp [same]), accepts.held, rfl⟩
  · exact (WebAuthn.verifyAuthentication_reports accepts.verified).2.2

theorem keeps_assertion (p : AssertionParty) : Prog.Keeps assertionContract [] (p.program libs) := by
  obtain ⟨use, request, clientIp⟩ := p
  cases use with
  | login => exact keeps_login_assertion
  | secondFactor => exact keeps_second_assertion

/-! ### One call -/

theorem reports_cons {e : Made} : Reports (e :: done) username credentialId count ↔
    e.op = .usersUpdateWebauthnSignCount username credentialId count ∨
      Reports done username credentialId count := by
  simp [Reports]

theorem signCountOf_perform (allowed : assertionContract.allowed done op)
    (other : ∀ count, op ≠ .usersUpdateWebauthnSignCount username credentialId count) :
    (perform libs op m s).2.users.signCountOf username credentialId =
      s.users.signCountOf username credentialId := by
  by_cases keeps : op.KeepsRecords
  · refine UserStore.signCountOf_congr ?_
    unfold UserStore.find
    rw [perform_users keeps]
  · cases op with
    | usersUpdateWebauthnSignCount name id count =>
      refine UserStore.signCountOf_update_of_ne (not_and_or.mp ?_)
      intro given
      obtain ⟨rfl, rfl⟩ := given
      exact other count rfl
    | _ => exact absurd allowed keeps

theorem foundAt_perform (known : s.users.signCountOf username credentialId = some count)
    (found : FoundAt (⟨op, (perform libs op m s).1⟩ :: done) username credentialId stored) :
    stored = count ∨ FoundAt done username credentialId stored := by
  obtain ⟨user, credential, returned, held, rfl⟩ := found
  have here : s.users.find username = some user → credential.signCount = count := by
    intro there
    have read := UserStore.signCountOf_some.mpr ⟨user, credential, there, held, rfl⟩
    exact Option.some.inj (read.symm.trans known)
  have earlier : (Returned done (.usersFind username) (some user) ∨
      Returned done (.usersFindByCredentialId credentialId) (some user) ∧ user.username = username) →
      credential.signCount = count ∨ FoundAt done username credentialId credential.signCount :=
    fun before => Or.inr ⟨user, credential, before, held, rfl⟩
  simp only [returned_cons] at returned
  rcases returned with (now | before) | ⟨now | before, named⟩
  · injection now with same result
    subst same
    exact Or.inl (here (eq_of_heq result).symm)
  · exact earlier (Or.inl before)
  · injection now with same result
    subst same
    subst named
    exact Or.inl (here (UserStore.find_of_findByCredentialId known (eq_of_heq result).symm))
  · exact earlier (Or.inr ⟨before, named⟩)

/-! ### Interleavings -/

section Interleaving

variable {ι : Type} [DecidableEq ι] {party : ι → AssertionParty} {app : AppState}

abbrev AssertionPool (ι : Type) := Prog.Pool ι Moment Call Call.Result Fault Response AppState

def asserting (libs : Libraries) (party : ι → AssertionParty) (app : AppState) : AssertionPool ι :=
  ⟨app, fun i => (party i).program libs, []⟩

def ReportedBy (now : AssertionPool ι) (username credentialId : String) (i : ι) (count : UInt32) :
    Prop :=
  Reports (Prog.historyOf i now.log) username credentialId count

def NotLower (username credentialId : String) (now later : AssertionPool ι) : Prop :=
  ∀ count, now.store.users.signCountOf username credentialId = some count →
    ∃ newer, later.store.users.signCountOf username credentialId = some newer ∧ count ≤ newer

/-- No two verifications reported the same count, other than 0. -/
def ReportedOnce (username credentialId : String) (now : AssertionPool ι) : Prop :=
  ∀ i j count, ReportedBy now username credentialId i count →
    ReportedBy now username credentialId j count → count ≠ 0 → i = j

/-- A count that the step writes still passes the check, against the one that is stored by then. -/
def WritesNewer (username credentialId : String) (now : AssertionPool ι) (a : ι × Moment) : Prop :=
  ∀ count next stored,
    now.threads a.1 = .call (.usersUpdateWebauthnSignCount username credentialId count) next →
    now.store.users.signCountOf username credentialId = some stored → CountPasses stored count

/-- What every run keeps: the stored count was reported by a verification, or is the one that every
verification found. -/
structure Counted (username credentialId : String) (now : AssertionPool ι) : Prop where
  kept : Prog.Pool.Kept (fun _ => assertionContract) now
  stored : ∃ count, now.store.users.signCountOf username credentialId = some count ∧
    ((∃ i, ReportedBy now username credentialId i count) ∨
      ∀ i found, FoundAt (Prog.historyOf i now.log) username credentialId found → found = count)

/-- What the runs that meet the condition keep besides: no count reported is above the stored one. -/
structure Newest (username credentialId : String) (now : AssertionPool ι) : Prop where
  once : ReportedOnce username credentialId now
  below : ∀ i reported, ReportedBy now username credentialId i reported →
    ∃ count, now.store.users.signCountOf username credentialId = some count ∧ reported ≤ count

theorem reportedBy_call {now : AssertionPool ι} {i j : ι} {result : op.Result} {t : AppState}
    {threads : ι → Handler Response} :
    ReportedBy ⟨t, threads, ⟨i, m, ⟨op, result⟩⟩ :: now.log⟩ username credentialId j count ↔
      (j = i ∧ op = .usersUpdateWebauthnSignCount username credentialId count) ∨
        ReportedBy now username credentialId j count := by
  unfold ReportedBy
  by_cases own : i = j
  · subst own
    rw [Prog.historyOf_cons_same, reports_cons]
    simp
  · rw [Prog.historyOf_cons_other own]
    simp [Ne.symm own]

theorem ReportedBy.before {now : AssertionPool ι} {i j : ι} {result : op.Result} {t : AppState}
    {threads : ι → Handler Response}
    (other : ∀ count, op ≠ .usersUpdateWebauthnSignCount username credentialId count)
    (h : ReportedBy ⟨t, threads, ⟨i, m, ⟨op, result⟩⟩ :: now.log⟩ username credentialId j count) :
    ReportedBy now username credentialId j count :=
  (reportedBy_call.mp h).resolve_left fun here => other count here.2

theorem Counted.step {now next : AssertionPool ι} {a : ι × Moment}
    (counted : Counted username credentialId now)
    (taken : Prog.Pool.step (perform libs) now a = some next) :
    Counted username credentialId next := by
  refine ⟨Prog.Pool.step_kept counted.kept taken, ?_⟩
  obtain ⟨i, m⟩ := a
  obtain ⟨op, rest, calls, rfl⟩ := Prog.Pool.step_call taken
  have here := counted.kept i
  rw [calls] at here
  obtain ⟨count, known, origin⟩ := counted.stored
  by_cases writing : ∃ written, op = .usersUpdateWebauthnSignCount username credentialId written
  · obtain ⟨written, rfl⟩ := writing
    refine ⟨written, UserStore.signCountOf_update known, Or.inl ⟨i, ?_⟩⟩
    exact reportedBy_call.mpr (Or.inl ⟨rfl, rfl⟩)
  · have same := @signCountOf_perform libs username credentialId _ op m now.store here.1
      (not_exists.mp writing)
    refine ⟨count, same.trans known, ?_⟩
    rcases origin with ⟨j, reported⟩ | found
    · exact Or.inl ⟨j, reportedBy_call.mpr (Or.inr reported)⟩
    · refine Or.inr fun j stored there => ?_
      by_cases own : i = j
      · subst own
        rw [Prog.historyOf_cons_same] at there
        rcases foundAt_perform known there with newly | before
        · exact newly
        · exact found i stored before
      · rw [Prog.historyOf_cons_other own] at there
        exact found j stored there

theorem Counted.writesNewer {now : AssertionPool ι} {a : ι × Moment}
    (counted : Counted username credentialId now)
    (kept : ∀ next, Prog.Pool.step (perform libs) now a = some next →
      NotLower username credentialId now next)
    (once : ∀ next, Prog.Pool.step (perform libs) now a = some next →
      ReportedOnce username credentialId next) : WritesNewer username credentialId now a := by
  intro written rest stored calls known
  obtain ⟨i, m⟩ := a
  have here := counted.kept i
  rw [calls] at here
  obtain ⟨unwritten, found, there, passed⟩ := here.1
  have taken : Prog.Pool.step (perform libs) now (i, m) = some _ := Prog.Pool.step_of_call calls
  obtain ⟨newer, left, le⟩ := kept _ taken stored known
  obtain rfl : written = newer := Option.some.inj ((UserStore.signCountOf_update known).symm.trans left)
  by_cases above : stored < written
  · exact Or.inr above
  obtain rfl : stored = written := UInt32.le_antisymm le (UInt32.not_lt.mp above)
  rcases passed with ⟨_, zero⟩ | above
  · exact Or.inl ⟨zero, zero⟩
  · -- the count found was another one, so a verification has reported this one before
    obtain ⟨count, known', origin⟩ := counted.stored
    obtain rfl : count = stored := Option.some.inj (known'.symm.trans known)
    rcases origin with ⟨j, reported⟩ | every
    · have nonzero : count ≠ 0 := by
        intro same
        obtain rfl := same
        exact UInt32.not_lt_zero above
      obtain rfl := once _ taken i j count (reportedBy_call.mpr (Or.inl ⟨rfl, rfl⟩))
        (reportedBy_call.mpr (Or.inr reported)) nonzero
      obtain ⟨e, member, same⟩ := reported
      have keeps := unwritten e member
      rw [same] at keeps
      exact keeps.elim
    · rw [every i found there] at above
      exact absurd above (UInt32.lt_irrefl _)

theorem Newest.step {now next : AssertionPool ι} {a : ι × Moment}
    (newest : Newest username credentialId now) (counted : Counted username credentialId now)
    (writes : WritesNewer username credentialId now a)
    (taken : Prog.Pool.step (perform libs) now a = some next) :
    NotLower username credentialId now next ∧ Newest username credentialId next := by
  obtain ⟨i, m⟩ := a
  obtain ⟨op, rest, calls, rfl⟩ := Prog.Pool.step_call taken
  have here := counted.kept i
  rw [calls] at here
  obtain ⟨stored, known, _⟩ := counted.stored
  have bounded : ∀ j reported, ReportedBy now username credentialId j reported → reported ≤ stored := by
    intro j reported by_j
    obtain ⟨count, known', le⟩ := newest.below j reported by_j
    rwa [Option.some.inj (known'.symm.trans known)] at le
  by_cases writing : ∃ written, op = .usersUpdateWebauthnSignCount username credentialId written
  · obtain ⟨written, rfl⟩ := writing
    have after := @UserStore.signCountOf_update now.store.users m _ _ _ written known
    have passes := writes written rest stored calls known
    have le : stored ≤ written := by
      rcases passes with ⟨zero, zero'⟩ | above
      · rw [zero, zero']
        exact UInt32.le_refl 0
      · exact UInt32.le_of_lt above
    have fresh : ∀ j, ReportedBy now username credentialId j written → written = 0 := by
      intro j reported
      rcases passes with ⟨_, zero⟩ | above
      · exact zero
      · exact absurd (bounded j written reported) (UInt32.not_le.mpr above)
    refine ⟨fun count known' => ⟨written, after, ?_⟩, ?_, ?_⟩
    · rwa [Option.some.inj (known'.symm.trans known)]
    · intro j k count first second nonzero
      rcases reportedBy_call.mp first with ⟨rfl, same⟩ | before <;>
        rcases reportedBy_call.mp second with ⟨rfl, same'⟩ | before'
      · rfl
      · injection same with _ _ same
        subst same
        exact absurd (fresh k before') nonzero
      · injection same' with _ _ same
        subst same
        exact absurd (fresh j before) nonzero
      · exact newest.once j k count before before' nonzero
    · intro j reported by_j
      refine ⟨written, after, ?_⟩
      rcases reportedBy_call.mp by_j with ⟨_, same⟩ | before
      · injection same with _ _ same
        rw [same]
        exact UInt32.le_refl reported
      · exact UInt32.le_trans (bounded j reported before) le
  · have same := @signCountOf_perform libs username credentialId _ op m now.store here.1
      (not_exists.mp writing)
    have other := not_exists.mp writing
    refine ⟨fun count known' => ⟨count, same.trans known', UInt32.le_refl _⟩, ?_, ?_⟩
    · intro j k count first second
      exact newest.once j k count (first.before other) (second.before other)
    · intro j reported by_j
      exact ⟨stored, same.trans known, bounded j reported (by_j.before other)⟩

theorem counted_throughout {actions : List (ι × Moment)}
    (stored : (app.users.signCountOf username credentialId).isSome = true) :
    Lts.Throughout (Prog.Pool.step (perform libs)) (Counted username credentialId)
      (asserting libs party app) actions := by
  obtain ⟨count, known⟩ := Option.isSome_iff_exists.mp stored
  have start : Counted username credentialId (asserting libs party app) := by
    refine ⟨fun i => keeps_assertion (party i), count, known, Or.inr ?_⟩
    rintro i found ⟨user, credential, returned | ⟨returned, _⟩, _⟩ <;> cases returned
  exact Lts.throughout_of_meets (fun now a next counted _ taken => counted.step taken) start
    (Lts.meets_of_forall (fun _ _ => trivial) _ _)

/-- In every interleaving of verifications: the stored count never goes back and no count is reported
twice, exactly when each count that is written still passes the check against the stored one. A
verification that succeeds has reported one. -/
theorem sign_counts_advance_iff {actions : List (ι × Moment)}
    (stored : (app.users.signCountOf username credentialId).isSome = true) :
    (Lts.Along (Prog.Pool.step (perform libs)) (NotLower username credentialId)
        (asserting libs party app) actions ∧
      Lts.Throughout (Prog.Pool.step (perform libs)) (ReportedOnce username credentialId)
        (asserting libs party app) actions ↔
      Lts.Meets (Prog.Pool.step (perform libs)) (WritesNewer username credentialId)
        (asserting libs party app) actions) ∧
    ∀ s, Lts.run (Prog.Pool.step (perform libs)) (asserting libs party app) actions = some s →
      ∀ i res, s.threads i = .ret res → res.status = 200 →
        ∃ username credentialId count, ReportedBy s username credentialId i count := by
  have counted := @counted_throughout libs username credentialId ι _ party app actions stored
  have goes : Lts.Along (Prog.Pool.step (perform libs)) (NotLower username credentialId)
      (asserting libs party app) actions ↔ _ :=
    Lts.along_iff_meets (fun now count known => ⟨count, known, UInt32.le_refl _⟩)
      fun now mid later first second count known => by
        obtain ⟨newer, there, le⟩ := first count known
        obtain ⟨newest, last, le'⟩ := second newer there
        exact ⟨newest, last, UInt32.le_trans le le'⟩
  refine ⟨⟨?_, fun meets => ?_⟩, fun s run i res ended ok => ?_⟩
  · intro given
    obtain ⟨along, once⟩ := given
    have steps := counted.meets_and ((goes.mp along).and once.meets_next)
    exact steps.mono fun now a known => known.1.writesNewer known.2.1 known.2.2
  · have steps := counted.meets_and meets
    have start : Newest username credentialId (asserting libs party app) := by
      refine ⟨?_, ?_⟩
      · intro i j count given
        obtain ⟨e, none, _⟩ := given
        cases none
      · intro i reported given
        obtain ⟨e, none, _⟩ := given
        cases none
    have newest : Lts.Throughout (Prog.Pool.step (perform libs)) (Newest username credentialId)
        (asserting libs party app) actions :=
      Lts.throughout_of_meets (fun now a next newest known taken =>
        (newest.step known.1 known.2 taken).2) start steps
    refine ⟨goes.mpr ?_, newest.mono fun now known => known.once⟩
    exact (newest.meets_and steps).mono fun now a known next taken =>
      (known.1.step known.2.1 known.2.2 taken).1
  · have here := Prog.Pool.run_keeps (fun i => keeps_assertion (party i)) run i
    rw [ended] at here
    exact here res rfl ok

end Interleaving

/-! ### Two assertions over one stored count -/

def assertionChallenge (second : Bool) : Challenge := List.replicate 32 (if second then 6 else 5)

def assertionClientData : Bool → String
  | false =>
    "\x7b\"type\":\"webauthn.get\",\"challenge\":\"BQUFBQUFBQUFBQUFBQUFBQUFBQUFBQUFBQUFBQUFBQU\"," ++
      "\"origin\":\"http://localhost\"\x7d"
  | true =>
    "\x7b\"type\":\"webauthn.get\",\"challenge\":\"BgYGBgYGBgYGBgYGBgYGBgYGBgYGBgYGBgYGBgYGBgY\"," ++
      "\"origin\":\"http://localhost\"\x7d"

/-- User presence and count 10, and presence, verification and count 7. -/
def assertionAuthData (second : Bool) : List UInt8 :=
  sampleRpIdHash ++ if second then [0x05, 0, 0, 0, 7] else [0x01, 0, 0, 0, 10]

def assertionHash : Bool → List UInt8
  | false =>
    [92, 27, 224, 123, 31, 219, 16, 248, 37, 85, 86, 31, 8, 126, 75, 71, 178, 218, 77, 98, 226, 78,
     128, 3, 32, 6, 47, 110, 160, 115, 59, 211]
  | true =>
    [45, 239, 210, 41, 220, 176, 78, 119, 79, 246, 163, 139, 13, 201, 232, 126, 170, 119, 37, 200,
     234, 66, 93, 198, 147, 57, 20, 5, 248, 165, 215, 158]

def assertionSignature : Bool → List UInt8
  | false =>
    [48, 68, 2, 32, 124, 242, 123, 24, 141, 3, 79, 126, 138, 82, 56, 3, 4, 181, 26, 195, 192, 137,
     105, 226, 119, 242, 27, 53, 166, 11, 72, 252, 71, 102, 153, 120, 2, 32, 79, 213, 47, 165, 21,
     118, 179, 127, 75, 164, 131, 160, 42, 163, 13, 238, 156, 247, 77, 208, 149, 34, 186, 197, 146,
     117, 154, 183, 200, 206, 247, 205]
  | true =>
    [48, 68, 2, 32, 94, 203, 228, 209, 166, 51, 10, 68, 200, 247, 239, 149, 29, 75, 241, 101, 230,
     198, 183, 33, 239, 173, 169, 133, 251, 65, 102, 27, 198, 231, 253, 108, 2, 32, 118, 221, 116,
     119, 81, 163, 36, 195, 141, 83, 143, 97, 150, 177, 77, 247, 13, 61, 143, 131, 60, 252, 215, 181,
     103, 9, 50, 144, 13, 31, 147, 221]

/-- `clientDataJSON`, `authenticatorData` and `signature` as the page sends them. -/
def assertionResponse : Bool → String × String × String
  | false =>
    ("eyJ0eXBlIjoid2ViYXV0aG4uZ2V0IiwiY2hhbGxlbmdlIjoiQlFVRkJRVUZCUVVGQlFVRkJRVUZCUVVGQlFVRkJRVUZCUVVGQlFV" ++
        "RkJRVSIsIm9yaWdpbiI6Imh0dHA6Ly9sb2NhbGhvc3QifQ",
     "SZYN5YgOjGh0NBcPZHZgW4_krrmihjLHmVzzuoMdl2MBAAAACg",
     "MEQCIHzyexiNA09-ilI4AwS1GsPAiWnid_IbNaYLSPxHZpl4AiBP1S-lFXazf0ukg6Aqow3unPdN0JUiusWSdZq3yM73zQ")
  | true =>
    ("eyJ0eXBlIjoid2ViYXV0aG4uZ2V0IiwiY2hhbGxlbmdlIjoiQmdZR0JnWUdCZ1lHQmdZR0JnWUdCZ1lHQmdZR0JnWUdCZ1lHQmdZ" ++
        "R0JnWSIsIm9yaWdpbiI6Imh0dHA6Ly9sb2NhbGhvc3QifQ",
     "SZYN5YgOjGh0NBcPZHZgW4_krrmihjLHmVzzuoMdl2MFAAAABw",
     "MEQCIF7L5NGmMwpEyPfvlR1L8WXmxrch762phftBZhvG5_1sAiB23XR3UaMkw41Tj2GWsU33DT2Pgzz817VnCTKQDR-T3Q")

def assertionBody (second : Bool) : String :=
  let (clientData, authData, signature) := assertionResponse second
  "\x7b\"credential\":\x7b\"id\":\"AQIDBA\",\"response\":\x7b\"clientDataJSON\":\"" ++ clientData ++
    "\",\"authenticatorData\":\"" ++ authData ++ "\",\"signature\":\"" ++ signature ++ "\"\x7d\x7d\x7d"

def assertionCredential (second : Bool) : Json :=
  let (clientData, authData, signature) := assertionResponse second
  .object
    [("id", .string "AQIDBA"),
     ("response", .object
       [("clientDataJSON", .string clientData), ("authenticatorData", .string authData),
        ("signature", .string signature)])]

def assertionClientDataJson (second : Bool) : Json :=
  .object
    [("type", .string "webauthn.get"),
     ("challenge", .string (if second then "BgYGBgYGBgYGBgYGBgYGBgYGBgYGBgYGBgYGBgYGBgY"
       else "BQUFBQUFBQUFBQUFBQUFBQUFBQUFBQUFBQUFBQUFBQU")),
     ("origin", .string "http://localhost")]

/-- What the libraries return for the two, signed with the key of the sample registration. -/
def assertionLibraries : Libraries :=
  { registrationLibraries with
    jsonParse := fun text => [false, true].findSome? fun second =>
      if text = assertionBody second then some (.object [("credential", assertionCredential second)])
      else if text = assertionClientData second then some (assertionClientDataJson second)
      else none
    sha256 := fun data =>
      if data = bytes "localhost" then some sampleRpIdHash
      else if data = bytes (assertionClientData false) then some (assertionHash false)
      else if data = bytes (assertionClientData true) then some (assertionHash true)
      else none
    digestVerify := fun key data signature =>
      registrationLibraries.validKey key && [false, true].any fun second =>
        data == assertionAuthData second ++ assertionHash second &&
          signature == assertionSignature second }

def assertionToken (draw : UInt8) : String := toHex (List.replicate 32 draw)

/-- A passkey at count 5, with a challenge for a login and one for the second factor of a login. -/
def assertionApp : AppState where
  users := { users :=
    [{ username := "root", saltHex := "", hashHex := "", iterations := 1, createdAt := 0,
       webauthnCredentials := [⟨"AQIDBA", "Laptop", sampleCoseKey, 5, 0⟩] }] }
  pendingMfa := (∅ : PendingMfaStore).insert (assertionToken 2) ⟨"root", minutes 5⟩
  challenges :=
    { entries := ((∅ : KeyMap String ChallengeEntry).insert (loginKey (assertionToken 1))
        ⟨assertionChallenge false, minutes 2⟩).insert (login2faKey "root")
        ⟨assertionChallenge true, minutes 2⟩
      order := [⟨loginKey (assertionToken 1), minutes 2⟩, ⟨login2faKey "root", minutes 2⟩] }

def assertionParty (second : Bool) : AssertionParty where
  use := if second then .secondFactor else .login
  request :=
    { methodString := "POST"
      target := if second then "/api/auth/webauthn/2fa/verify" else "/api/auth/webauthn/login/verify"
      fields := [("Host", "localhost"),
        ("Cookie", if second then kPendingMfaCookieName ++ "=" ++ assertionToken 2
          else kWebAuthnLoginCookieName ++ "=" ++ assertionToken 1)]
      body := assertionBody second }

def assertionStart : AssertionPool Bool := asserting assertionLibraries assertionParty assertionApp

def assertionActions (order : List Bool) : List (Bool × Moment) :=
  order.map fun second => (second, ⟨seconds 10, fun _ => some (if second then 8 else 9), true⟩)

def assertionRun (order : List Bool) : Option (AssertionPool Bool) :=
  Lts.run (Prog.Pool.step (perform assertionLibraries)) assertionStart (assertionActions order)

/-- Who answered what, and the count that is left. -/
def assertionOutcome (s : AssertionPool Bool) : Option Nat × Option Nat × Option UInt32 :=
  (statusOf (s.threads false), statusOf (s.threads true), s.store.users.signCountOf "root" "AQIDBA")

/-- The second factor finds the count 5, and writes 7 when the login is done. -/
def overlappingOrder : List Bool :=
  List.replicate 4 true ++ List.replicate 9 false ++ List.replicate 6 true

/-- The second factor comes when the login is done, and is refused. -/
def inTurnOrder : List Bool := List.replicate 9 false ++ List.replicate 4 true

/-! #### What the two requests carry -/

theorem assertionResponse_encodes (second : Bool) : assertionResponse second =
    (base64urlEncode (bytes (assertionClientData second)), base64urlEncode (assertionAuthData second),
      base64urlEncode (assertionSignature second)) := by
  refine Prod.ext ?_ (Prod.ext ?_ ?_)
  · rw [bytes_eq_quick]
    refine eq_ofList ?_
    cases second <;> decide +kernel
  · refine eq_ofList ?_
    cases second <;> decide +kernel
  · refine eq_ofList ?_
    cases second <;> decide +kernel

def assertionDecoded (second : Bool) : List Decoded :=
  [⟨(assertionResponse second).1, bytes (assertionClientData second), by
      rw [assertionResponse_encodes, base64urlDecode_encode]⟩,
   ⟨(assertionResponse second).2.1, assertionAuthData second, by
      rw [assertionResponse_encodes, base64urlDecode_encode]⟩,
   ⟨(assertionResponse second).2.2, assertionSignature second, by
      rw [assertionResponse_encodes, base64urlDecode_encode]⟩]

theorem assertion_cookies :
    extractWebauthnLoginToken (assertionParty false).request.fields = some (assertionToken 1) ∧
      extractPendingMfaToken (assertionParty true).request.fields = some (assertionToken 2) := by
  unfold extractWebauthnLoginToken extractPendingMfaToken extractCookie cookieValue
  rw [toList_eq_stored]
  decide +kernel

theorem assertion_texts_ne :
    assertionBody true ≠ assertionBody false ∧ assertionClientData true ≠ assertionClientData false ∧
      ∀ second, assertionClientData second ≠ "localhost" ∧
        ∀ other, assertionBody other ≠ assertionClientData second := by
  simp only [Ne, ← storedBytes_inj]
  decide +kernel

theorem assertion_ascii (second : Bool) :
    ofBytes (bytes (assertionClientData second)) = assertionClientData second := by
  refine ofBytes_bytes ?_
  rw [toList_eq_stored]
  cases second <;> decide +kernel

theorem assertion_jsonParse (text : String) : assertionLibraries.jsonParse text =
    [false, true].findSome? fun second =>
      if text = assertionBody second then some (.object [("credential", assertionCredential second)])
      else if text = assertionClientData second then some (assertionClientDataJson second)
      else none := rfl

theorem assertion_parsesBody (second : Bool) : assertionLibraries.jsonParse (assertionBody second) =
    some (.object [("credential", assertionCredential second)]) := by
  rw [assertion_jsonParse]
  cases second with
  | false => rw [List.findSome?_cons, if_pos rfl]
  | true =>
    have apart := (assertion_texts_ne.2.2 false).2 true
    rw [List.findSome?_cons, if_neg assertion_texts_ne.1, if_neg apart, List.findSome?_cons, if_pos rfl]

theorem assertion_parsesClientData (second : Bool) :
    assertionLibraries.jsonParse (assertionClientData second) =
      some (assertionClientDataJson second) := by
  have other := fun one => ((assertion_texts_ne.2.2 second).2 one).symm
  rw [assertion_jsonParse]
  cases second with
  | false => rw [List.findSome?_cons, if_neg (other _), if_pos rfl]
  | true =>
    rw [List.findSome?_cons, if_neg (other _), if_neg assertion_texts_ne.2.1, List.findSome?_cons,
      if_neg (other _), if_pos rfl]

def assertionFields (second : Bool) : WebAuthnCredentialFields :=
  ⟨"AQIDBA", assertionClientData second, assertionAuthData second, assertionSignature second⟩

theorem assertion_sendsFields (second : Bool) :
    parseCredentialFields [("credential", assertionCredential second)] false =
      some (assertionFields second) := by
  have decoded : parseCredentialFields [("credential", assertionCredential second)] false = do
      let response := [("clientDataJSON", Json.string (assertionResponse second).1),
        ("authenticatorData", .string (assertionResponse second).2.1),
        ("signature", .string (assertionResponse second).2.2)]
      let clientData ← decodedField response "clientDataJSON"
      let authData ← decodedField response "authenticatorData"
      let signature ← decodedField response "signature"
      return ⟨"AQIDBA", ofBytes clientData, authData, signature⟩ := rfl
  rw [decoded]
  dsimp only
  have three : (assertionDecoded second).length = 3 := rfl
  rw [decodedField_of (assertionDecoded second)[0] rfl, decodedField_of (assertionDecoded second)[1] rfl,
    decodedField_of (assertionDecoded second)[2] rfl]
  change some (WebAuthnCredentialFields.mk "AQIDBA" (ofBytes (bytes (assertionClientData second))) _ _) = _
  rw [assertion_ascii]
  rfl

/-! #### What their check finds -/

def assertionCount (second : Bool) : UInt32 := if second then 7 else 10

theorem assertion_client (second : Bool) :
    WebAuthn.verifyClientData assertionLibraries (assertionClientData second)
      (assertionChallenge second) "http://localhost" "webauthn.get" = .ok () := by
  have encodes : (if second then "BgYGBgYGBgYGBgYGBgYGBgYGBgYGBgYGBgYGBgYGBgY"
      else "BQUFBQUFBQUFBQUFBQUFBQUFBQUFBQUFBQUFBQUFBQU") =
        base64urlEncode (assertionChallenge second) := by
    refine eq_ofList ?_
    cases second <;> decide +kernel
  refine WebAuthn.verifyClientData_of (assertion_parsesClientData second) rfl rfl rfl ?_
  rw [encodes, base64urlDecode_encode]

theorem assertion_digest (second : Bool) :
    WebAuthn.sha256 assertionLibraries (bytes (assertionClientData second)) =
      .ok (assertionHash second) := by
  have host : bytes (assertionClientData second) ≠ bytes "localhost" := by
    intro same
    have text := congrArg ofBytes same
    rw [assertion_ascii, ofBytes_bytes (by decide)] at text
    exact (assertion_texts_ne.2.2 second).1 text
  have apart : bytes (assertionClientData true) ≠ bytes (assertionClientData false) := by
    intro same
    have text := congrArg ofBytes same
    rw [assertion_ascii, assertion_ascii] at text
    exact assertion_texts_ne.2.1 text
  have digest : assertionLibraries.sha256 (bytes (assertionClientData second)) =
      some (assertionHash second) := by
    refine (if_neg host).trans ?_
    cases second with
    | false => exact if_pos rfl
    | true => exact (if_neg apart).trans (if_pos rfl)
  unfold WebAuthn.sha256
  rw [digest]

theorem assertion_verified (second : Bool) (count : UInt32) :
    WebAuthn.verifyAuthentication assertionLibraries (assertionChallenge second)
        (assertionClientData second) (assertionAuthData second) (assertionSignature second)
        sampleCoseKey count "localhost" "http://localhost" =
      if ¬ (count = 0 ∧ assertionCount second = 0) ∧ assertionCount second ≤ count then
        WebAuthn.invalid "sign counter did not increase — possible cloned authenticator"
      else .ok ⟨assertionCount second, second⟩ := by
  have parsed : WebAuthn.parseAuthenticatorData assertionLibraries (assertionAuthData second) false =
      .ok ⟨sampleRpIdHash, if second then 5 else 1, assertionCount second, [], []⟩ := by
    cases second <;> rfl
  have checked : WebAuthn.checkAuthenticator assertionLibraries
      ⟨sampleRpIdHash, if second then 5 else 1, assertionCount second, [], []⟩ "localhost" =
        .ok () := by
    cases second <;> rfl
  have built : (WebAuthn.parseCbor assertionLibraries sampleCoseKey >>=
      WebAuthn.parseCosePublicKey assertionLibraries) = .ok (.ec sampleKeyX sampleKeyY) := rfl
  have signed : assertionLibraries.digestVerify (.ec sampleKeyX sampleKeyY)
      (assertionAuthData second ++ assertionHash second) (assertionSignature second) = true := by
    cases second <;> decide +kernel
  obtain ⟨coseKey, read, key⟩ := bind_ok built
  unfold WebAuthn.verifyAuthentication
  simp only [assertion_client, parsed, checked, assertion_digest, read, key, signed, bind, Except.bind,
    pure, Except.pure, Bool.not_true, Bool.false_eq_true, if_false]
  cases second <;> rfl

/-- The check of a request, as a function of what the handler finds. -/
abbrev AssertionCheck :=
  Challenge → List UInt8 → UInt32 → String → String → Except Fault WebAuthn.AssertionResult

/-- The check of the sample requests, with its result for their own challenge at hand. -/
def assertionVerify (second : Bool) : AssertionCheck := fun challenge key count rpId origin =>
  if challenge = assertionChallenge second ∧ key = sampleCoseKey ∧ rpId = "localhost" ∧
      origin = "http://localhost" then
    if ¬ (count = 0 ∧ assertionCount second = 0) ∧ assertionCount second ≤ count then
      WebAuthn.invalid "sign counter did not increase — possible cloned authenticator"
    else .ok ⟨assertionCount second, second⟩
  else WebAuthn.verifyAuthentication assertionLibraries challenge (assertionClientData second)
    (assertionAuthData second) (assertionSignature second) key count rpId origin

/-- What a verification parses, and the check it makes of it. -/
structure Carries (libs : Libraries) (request : Request) (body : JsonObject)
    (fields : WebAuthnCredentialFields) (check : AssertionCheck) : Prop where
  parses : libs.parseJsonObject request.body = some body
  sends : parseCredentialFields body false = some fields
  checks : ∀ challenge key count rpId origin,
    WebAuthn.verifyAuthentication libs challenge fields.clientDataJson
      fields.authenticatorDataOrAttestationObject fields.signature key count rpId origin =
        check challenge key count rpId origin

theorem assertionParty_body (second : Bool) :
    (assertionParty second).request.body = assertionBody second := rfl

theorem assertionParty_carries (second : Bool) :
    Carries assertionLibraries (assertionParty second).request
      [("credential", assertionCredential second)] (assertionFields second)
      (assertionVerify second) where
  parses := by
    unfold Libraries.parseJsonObject
    rw [assertionParty_body, assertion_parsesBody]
  sends := assertion_sendsFields second
  checks := by
    intro challenge key count rpId origin
    unfold assertionVerify
    split
    · next same =>
      obtain ⟨rfl, rfl, rfl, rfl⟩ := same
      exact assertion_verified second count
    · rfl

/-! #### Their runs -/

theorem assertionParty_programs :
    (assertionParty false).program assertionLibraries =
        handleWebauthnLoginVerify assertionLibraries (assertionParty false).request "unknown" ∧
      (assertionParty true).program assertionLibraries =
        handleWebauthn2faVerify assertionLibraries (assertionParty true).request "unknown" :=
  ⟨rfl, rfl⟩

/-- The runs are those of any two programs that the handlers are on requests which carry as much. -/
theorem assertionRun_eq
    {first second : Request → WebAuthnCredentialFields → AssertionCheck → Handler Response}
    (login : ∀ libs request body fields check,
      extractWebauthnLoginToken request.fields = some (assertionToken 1) →
      Carries libs request body fields check →
      handleWebauthnLoginVerify libs request "unknown" = first request fields check)
    (factor : ∀ libs request body fields check,
      extractPendingMfaToken request.fields = some (assertionToken 2) →
      Carries libs request body fields check →
      handleWebauthn2faVerify libs request "unknown" = second request fields check) :
    assertionRun = fun order => Lts.run (Prog.Pool.step (perform assertionLibraries))
      ⟨assertionApp, fun i =>
        bif i then second (assertionParty true).request (assertionFields true) (assertionVerify true)
        else first (assertionParty false).request (assertionFields false) (assertionVerify false), []⟩
      (assertionActions order) := by
  have programs : (fun i => (assertionParty i).program assertionLibraries) = fun i =>
      bif i then second (assertionParty true).request (assertionFields true) (assertionVerify true)
      else first (assertionParty false).request (assertionFields false) (assertionVerify false) := by
    funext i
    cases i with
    | false =>
      exact assertionParty_programs.1.trans
        (login _ _ _ _ _ assertion_cookies.1 (assertionParty_carries false))
    | true =>
      exact assertionParty_programs.2.trans
        (factor _ _ _ _ _ assertion_cookies.2 (assertionParty_carries true))
  funext order
  unfold assertionRun assertionStart asserting
  rw [programs]

theorem assertion_runs :
    ((assertionRun (overlappingOrder.take 13)).bind fun mid =>
      (Lts.run (Prog.Pool.step (perform assertionLibraries)) mid
        (assertionActions (overlappingOrder.drop 13))).map fun s =>
          (mid.store.users.signCountOf "root" "AQIDBA", assertionOutcome s)) =
        some (some 10, some 200, some 200, some 7) ∧
      (assertionRun inTurnOrder).map assertionOutcome = some (some 200, some 401, some 10) := by
  rw [assertionRun_eq]
  -- what the requests carry is unknown here, so that evaluating the two programs takes few steps
  case login =>
    intro libs request body fields check cookie carries
    unfold handleWebauthnLoginVerify acceptAssertion
    simp only [cookie, carries.parses, carries.sends, carries.checks]
    exact rfl
  case factor =>
    intro libs request body fields check cookie carries
    unfold handleWebauthn2faVerify acceptAssertion pendingUser
    simp only [cookie, carries.parses, carries.sends, carries.checks]
    exact rfl
  decide +kernel

theorem sign_count_goes_back :
    ¬ ∀ (ι : Type) (_ : DecidableEq ι) (libs : Libraries) (party : ι → AssertionParty) (app : AppState)
        (username credentialId : String) (actions : List (ι × Moment)),
        (app.users.signCountOf username credentialId).isSome = true →
        Lts.Along (Prog.Pool.step (perform libs)) (NotLower username credentialId)
            (asserting libs party app) actions ∧
          Lts.Throughout (Prog.Pool.step (perform libs)) (ReportedOnce username credentialId)
            (asserting libs party app) actions := by
  intro claim
  have along := (claim Bool inferInstance assertionLibraries assertionParty assertionApp "root" "AQIDBA"
    (assertionActions overlappingOrder) (by decide +kernel)).1
  obtain ⟨mid, before, rest⟩ := Option.bind_eq_some_iff.mp assertion_runs.1
  obtain ⟨s, after, outcome⟩ := Option.map_eq_some_iff.mp rest
  obtain ⟨ten, answers⟩ := Prod.mk.inj outcome
  have seven : s.store.users.signCountOf "root" "AQIDBA" = some 7 := congrArg (·.2.2) answers
  have split : assertionActions overlappingOrder =
      assertionActions (overlappingOrder.take 13) ++ assertionActions (overlappingOrder.drop 13) := rfl
  obtain ⟨newer, left, le⟩ := along _ _ mid split before _ [] s (by simp) after 10 ten
  obtain rfl : 7 = newer := Option.some.inj (seven.symm.trans left)
  exact absurd le (by decide)

theorem sign_counts_advance_in_turn :
    (assertionRun inTurnOrder).map assertionOutcome = some (some 200, some 401, some 10) ∧
    (Lts.Along (Prog.Pool.step (perform assertionLibraries)) (NotLower "root" "AQIDBA") assertionStart
        (assertionActions inTurnOrder) ∧
      Lts.Throughout (Prog.Pool.step (perform assertionLibraries)) (ReportedOnce "root" "AQIDBA")
        assertionStart (assertionActions inTurnOrder) ↔
      Lts.Meets (Prog.Pool.step (perform assertionLibraries)) (WritesNewer "root" "AQIDBA")
        assertionStart (assertionActions inTurnOrder)) :=
  ⟨assertion_runs.2, (sign_counts_advance_iff (by decide +kernel)).1⟩

end Atomwall.Admin
