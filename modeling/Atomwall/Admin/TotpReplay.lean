import Atomwall.Admin.MandatoryFactor

/-!
TOTP confirmations and login verifications whose calls interleave: which codes are accepted while a
confirmation has stored its secret and not yet seeded the replay floor.
-/

namespace Atomwall.Admin

open Http ByteString

inductive TotpRole where
  | confirm | verify
  deriving DecidableEq

structure TotpParty where
  role : TotpRole
  request : Request
  actingUser : String := ""
  clientIp : String := "unknown"

def TotpParty.program (libs : Libraries) (p : TotpParty) : Handler Response :=
  match p.role with
  | .confirm => handleAuth2faTotpConfirm libs p.request p.actingUser
  | .verify => handleAuth2faTotpVerify libs p.request p.clientIp

/-- The request's code was checked against the secret, and matched at `step`. -/
def MatchedStep (libs : Libraries) (request : Request) (done : List Made) (secret : String)
    (step : Int) : Prop :=
  ∃ code now, codeOf libs request = some code ∧ Returned done .now now ∧
    Totp.verify libs secret code (toSeconds now) = .ok (some step)

def UnderSecret (done : List Made) (username secret : String) : Prop :=
  ∃ user, Returned done (.usersFind username) (some user) ∧ user.totp = some ⟨secret⟩

/-- The confirmation stored the secret, having matched its code at `step`. -/
def Stored (libs : Libraries) (request : Request) (done : List Made) (username secret : String)
    (step : Int) : Prop :=
  (∃ codes, Returned done (.usersSetTotp username secret codes) (.ok ())) ∧
    MatchedStep libs request done secret step

/-- The code matched at `step` under the secret of the account, and the step was new. -/
def Consumed (libs : Libraries) (request : Request) (done : List Made) (username secret : String)
    (step : Int) : Prop :=
  Returned done (.usersConsumeTotpStep username step) true ∧ UnderSecret done username secret ∧
    MatchedStep libs request done secret step

/-- A confirmation accepts its code when it stores the secret, a verification when its step is new. -/
def TotpParty.Accepts (libs : Libraries) (p : TotpParty) (done : List Made) (username secret : String)
    (step : Int) : Prop :=
  match p.role with
  | .confirm => Stored libs p.request done username secret step
  | .verify => Consumed libs p.request done username secret step

def Unseeded (done : List Made) : Prop :=
  ∀ e ∈ done, ∀ username step, e.op ≠ .usersConsumeTotpStep username step

/-- A confirmation seeds the floor of the account it enrolled with the step it matched, after it has
read the clock and stored the secret; a verification uses up the step its code matched under the secret
it found, and has done so when it succeeds. -/
def TotpParty.contract (libs : Libraries) (p : TotpParty) :
    Prog.Contract Call Call.Result Fault Response where
  allowed done
    | .usersConsumeTotpStep username step =>
      match p.role with
      | .confirm => ∀ name secret matched, Stored libs p.request done name secret matched →
          name = username ∧ matched = step
      | .verify => ∃ secret, UnderSecret done username secret ∧
          MatchedStep libs p.request done secret step
    | .usersSetTotp _ _ _ | .now => Unseeded done
    | _ => True
  post done result :=
    p.role = .verify → ∀ res, result = .ok res → res.status = 200 →
      ∃ username secret step, Consumed libs p.request done username secret step

variable {libs : Libraries} {p : TotpParty} {request : Request}
  {actingUser clientIp username secret : String} {done : List Made} {step : Int}

namespace TotpParty

theorem post_confirm (role : p.role = .confirm) (done : List Made) (result : Except Fault Response) :
    (p.contract libs).post done result := by
  intro verify
  rw [role] at verify
  cases verify

theorem post_fault (done : List Made) (fault : Fault) :
    (p.contract libs).post done (.error fault) := by
  intro _ res returned
  cases returned

theorem post_reply {status version : Nat} (other : status ≠ 200) (done : List Made)
    (message : String) :
    (p.contract libs).post done (.ok (errorResponse status message version)) := by
  intro _ res returned ok
  obtain rfl := Except.ok.inj returned
  exact absurd ok other

theorem post_consumed (consumed : Consumed libs p.request done username secret step)
    (result : Except Fault Response) : (p.contract libs).post done result :=
  fun _ _ _ _ => ⟨username, secret, step, consumed⟩

end TotpParty

theorem MatchedStep.cons {e : Made} (h : MatchedStep libs request done secret step) :
    MatchedStep libs request (e :: done) secret step := by
  obtain ⟨code, now, sent, clock, verified⟩ := h
  exact ⟨code, now, sent, List.mem_cons_of_mem _ clock, verified⟩

theorem UnderSecret.cons {e : Made} (h : UnderSecret done username secret) :
    UnderSecret (e :: done) username secret := by
  obtain ⟨user, found, enrolled⟩ := h
  exact ⟨user, List.mem_cons_of_mem _ found, enrolled⟩

theorem Consumed.cons {e : Made} (h : Consumed libs request done username secret step) :
    Consumed libs request (e :: done) username secret step :=
  ⟨List.mem_cons_of_mem _ h.1, h.2.1.cons, h.2.2.cons⟩

theorem keeps_confirm :
    Prog.Keeps (TotpParty.contract libs ⟨.confirm, request, actingUser, clientIp⟩) []
      (handleAuth2faTotpConfirm libs request actingUser) := by
  have ends := @TotpParty.post_confirm libs ⟨.confirm, request, actingUser, clientIp⟩ rfl
  refine ⟨trivial, fun pending => ?_⟩
  cases pending with
  | none => exact ends _ _
  | some secret =>
    cases sent : codeOf libs request with
    | none => exact ends _ _
    | some code =>
      simp only [Prog.bind_eq_bind, Prog.bind_ret]
      refine ⟨by simp [TotpParty.contract, Unseeded], fun now => ?_⟩
      cases verified : Totp.verify libs secret code (toSeconds now) with
      | error fault =>
        simp only [verified, Prog.bind_eq_bind, Prog.bind_ret, Prog.orRaise_error, Prog.bind_raise]
        exact ends _ _
      | ok matched =>
        simp only [verified, Prog.bind_eq_bind, Prog.bind_ret, Prog.orRaise_ok]
        cases matched with
        | none => exact ends _ _
        | some step =>
          refine ⟨trivial, fun generated => ?_⟩
          rcases generated with fault | codes
          · exact ends _ _
          refine ⟨by simp [TotpParty.contract, Unseeded], fun stored => ?_⟩
          rcases stored with (what | _) | _
          · exact ends _ _
          · exact ends _ _
          refine ⟨?_, fun _ => ⟨trivial, fun _ => ?_⟩⟩
          · rintro name other matched ⟨⟨codes', set⟩, code', now', sent', clock, verified'⟩
            have named : name = actingUser ∧ other = secret := by
              rcases List.mem_cons.mp set with same | before
              · injection same with op
                injection op with named enrolled
                exact ⟨named, enrolled⟩
              · simp at before
            have moment : now' = now := by
              simpa [Returned] using clock
            obtain ⟨rfl, rfl⟩ := named
            obtain rfl := moment
            obtain rfl : code' = code := Option.some.inj (sent'.symm.trans sent)
            rw [verified'] at verified
            exact ⟨rfl, Option.some.inj (Except.ok.inj verified)⟩
          · cases extractSessionToken request.fields with
            | none => exact ends _ _
            | some token => exact ⟨trivial, fun _ => ends _ _⟩

theorem keeps_verify :
    Prog.Keeps (TotpParty.contract libs ⟨.verify, request, actingUser, clientIp⟩) []
      (handleAuth2faTotpVerify libs request clientIp) := by
  unfold handleAuth2faTotpVerify
  apply keeps_pendingUser (fun _ => trivial)
  · exact fun done => TotpParty.post_reply (by decide) _ _
  intro token username pending
  cases sent : codeOf libs request with
  | none => exact TotpParty.post_reply (by decide) _ _
  | some code =>
    refine ⟨trivial, fun found => ?_⟩
    cases known : found.bind (·.totp) with
    | none =>
      simp only [Prog.bind_eq_bind, Prog.bind_ret, known]
      exact TotpParty.post_reply (by decide) _ _
    | some totp =>
      obtain ⟨user, rfl, enrolled⟩ := Option.bind_eq_some_iff.mp known
      simp only [Prog.bind_eq_bind, Prog.bind_ret, known]
      refine ⟨by simp [TotpParty.contract, Unseeded], fun now => ?_⟩
      cases verified : Totp.verify libs totp.secretBase32 code (toSeconds now) with
      | error fault =>
        simp only [verified, Prog.bind_eq_bind, Prog.bind_ret, Prog.orRaise_error, Prog.bind_raise]
        exact TotpParty.post_fault _ _
      | ok matched =>
        simp only [verified, Prog.bind_eq_bind, Prog.bind_ret, Prog.orRaise_ok]
        cases matched with
        | none => exact TotpParty.post_reply (by decide) _ _
        | some step =>
          have under : UnderSecret (⟨.now, now⟩ :: ⟨.usersFind username, some user⟩ ::
              [⟨.pendingMfaValidate token, some username⟩]) username totp.secretBase32 :=
            ⟨user, by simp, enrolled⟩
          have matched : MatchedStep libs request (⟨.now, now⟩ ::
              ⟨.usersFind username, some user⟩ :: [⟨.pendingMfaValidate token, some username⟩])
              totp.secretBase32 step :=
            ⟨code, now, sent, by simp, verified⟩
          refine ⟨⟨totp.secretBase32, under, matched⟩, fun fresh => ?_⟩
          cases fresh with
          | false => exact TotpParty.post_reply (by decide) _ _
          | true =>
            have consumed : Consumed libs request
                (⟨.usersConsumeTotpStep username step, true⟩ :: _) username totp.secretBase32 step :=
              ⟨List.mem_cons_self, under.cons, matched.cons⟩
            refine ⟨trivial, fun _ => ⟨trivial, ?_⟩⟩
            rintro (fault | token)
            · exact TotpParty.post_fault _ _
            · exact ⟨trivial, fun _ => ⟨trivial, fun _ => ⟨trivial, fun _ =>
                TotpParty.post_consumed consumed.cons.cons.cons.cons.cons _⟩⟩⟩

theorem keeps_totpProgram (p : TotpParty) :
    Prog.Keeps (p.contract libs) [] (p.program libs) := by
  obtain ⟨role, request, actingUser, clientIp⟩ := p
  cases role with
  | confirm => exact keeps_confirm
  | verify => exact keeps_verify

/-! ### Interleavings -/

section Interleaving

variable {ι : Type} [DecidableEq ι] {party : ι → TotpParty} {log later : List (Logged ι)} {s : AppState}

/-- Whatever a party accepted before, a verification finds only newer steps new. -/
def NoReplay (libs : Libraries) (party : ι → TotpParty) (log : List (Logged ι)) : Prop :=
  ∀ later i m username step earlier,
    log = later ++ ⟨i, m, ⟨.usersConsumeTotpStep username step, true⟩⟩ :: earlier →
    (party i).role = .verify → ∀ secret, UnderSecret (Prog.historyOf i earlier) username secret →
    ∀ j accepted, (party j).Accepts libs (Prog.historyOf j earlier) username secret accepted →
      accepted < step

abbrev TotpPool (ι : Type) := Prog.Pool ι Moment Call Call.Result Fault Response AppState

/-- Where a verification is about to use up a step newer than the floor, each confirmation of its
secret that has not seeded the floor yet matched an older step. -/
def SeedsFirst (libs : Libraries) (party : ι → TotpParty) (now : TotpPool ι) (a : ι × Moment) : Prop :=
  ∀ username step next secret, now.threads a.1 = .call (.usersConsumeTotpStep username step) next →
    (party a.1).role = .verify → UnderSecret (Prog.historyOf a.1 now.log) username secret →
    (∀ last, now.store.users.lastTotpStep.lookup username = some last → last < step) →
    ∀ j accepted, (party j).role = .confirm →
      Stored libs (party j).request (Prog.historyOf j now.log) username secret accepted →
      Unseeded (Prog.historyOf j now.log) → accepted < step

/-- What stands while no step breaks the condition: the floor is at every step given to
`consume_totp_step`, and a confirmation that has stored its secret and called it gave the step it
matched. -/
structure Floored (libs : Libraries) (party : ι → TotpParty) (log : List (Logged ι)) (s : AppState) :
    Prop where
  floor : ∀ e ∈ log, ∀ username step, e.event.op = .usersConsumeTotpStep username step →
    ∃ last, s.users.lastTotpStep.lookup username = some last ∧ step ≤ last
  seeded : ∀ j username secret step, (party j).role = .confirm →
    Stored libs (party j).request (Prog.historyOf j log) username secret step →
    ¬ Unseeded (Prog.historyOf j log) →
    ∃ e ∈ log, e.event.op = .usersConsumeTotpStep username step
  noReplay : NoReplay libs party log

theorem NoReplay.of_append (h : NoReplay libs party (later ++ log)) : NoReplay libs party log := by
  intro newer i m username step earlier split
  exact h (later ++ newer) i m username step earlier (by rw [split, List.append_assoc])

/-- A call that is neither `set_totp` nor the clock stores nothing. -/
theorem Stored.of_cons {e : Made} (set : ∀ username secret codes, e.op ≠ .usersSetTotp username secret codes)
    (clock : e.op ≠ .now) (h : Stored libs request (e :: done) username secret step) :
    Stored libs request done username secret step := by
  obtain ⟨⟨codes, stored⟩, code, now, sent, read, verified⟩ := h
  refine ⟨⟨codes, ?_⟩, code, now, sent, ?_, verified⟩
  · rcases List.mem_cons.mp stored with rfl | before
    · exact absurd rfl (set username secret codes)
    · exact before
  · rcases List.mem_cons.mp read with rfl | before
    · exact absurd rfl clock
    · exact before

theorem Floored.floor_call {op : Call} {i : ι} {m : Moment} (floored : Floored libs party log s) :
    ∀ e ∈ (⟨i, m, ⟨op, (perform libs op m s).1⟩⟩ :: log : List (Logged ι)), ∀ username step,
      e.event.op = .usersConsumeTotpStep username step →
      ∃ last, (perform libs op m s).2.users.lastTotpStep.lookup username = some last ∧ step ≤ last := by
  intro e member username step same
  rcases List.mem_cons.mp member with rfl | before
  · have same : op = .usersConsumeTotpStep username step := same
    subst same
    exact UserStore.consumeTotpStep_floor
  · obtain ⟨last, known, le⟩ := floored.floor e before username step same
    obtain ⟨newest, known', le'⟩ := @perform_lastTotpStep libs op m s username last known
    exact ⟨newest, known', by omega⟩

theorem Floored.seeded_call {op : Call} {i : ι} {m : Moment} {result : op.Result}
    (floored : Floored libs party log s)
    (allowed : ((party i).contract libs).allowed (Prog.historyOf i log) op) :
    ∀ j username secret step, (party j).role = .confirm →
      Stored libs (party j).request (Prog.historyOf j (⟨i, m, ⟨op, result⟩⟩ :: log)) username secret step →
      ¬ Unseeded (Prog.historyOf j (⟨i, m, ⟨op, result⟩⟩ :: log)) →
      ∃ e ∈ (⟨i, m, ⟨op, result⟩⟩ :: log : List (Logged ι)),
        e.event.op = .usersConsumeTotpStep username step := by
  intro j username secret step role stored seeded
  have old : Stored libs (party j).request (Prog.historyOf j log) username secret step →
      ¬ Unseeded (Prog.historyOf j log) →
      ∃ e ∈ (⟨i, m, ⟨op, result⟩⟩ :: log : List (Logged ι)),
        e.event.op = .usersConsumeTotpStep username step := by
    intro stored seeded
    obtain ⟨e, member, same⟩ := floored.seeded j username secret step role stored seeded
    exact ⟨e, List.mem_cons_of_mem _ member, same⟩
  by_cases own : i = j
  · subst own
    rw [Prog.historyOf_cons_same] at stored seeded
    by_cases seeding : ∃ name given, op = .usersConsumeTotpStep name given
    · obtain ⟨name, given, rfl⟩ := seeding
      simp only [TotpParty.contract, role] at allowed
      obtain ⟨rfl, rfl⟩ := allowed _ _ _ (stored.of_cons (by simp) (by simp))
      exact ⟨_, List.mem_cons_self, rfl⟩
    · -- the party had called `consume_totp_step` before, so this call stores nothing
      have before : ¬ Unseeded (Prog.historyOf i log) := by
        intro unseeded
        apply seeded
        intro e member name given same
        rcases List.mem_cons.mp member with rfl | earlier
        · exact seeding ⟨name, given, same⟩
        · exact unseeded e earlier name given same
      refine old (stored.of_cons ?_ ?_) before
      · rintro name other codes rfl
        exact before allowed
      · rintro rfl
        exact before allowed
  · rw [Prog.historyOf_cons_other own] at stored seeded
    exact old stored seeded

theorem Floored.noReplay_call {now : TotpPool ι} {op : Call} {next : op.Result → Handler Response}
    {i : ι} {m : Moment} (floored : Floored libs party now.log now.store)
    (calls : now.threads i = .call op next) (first : SeedsFirst libs party now (i, m)) :
    NoReplay libs party (⟨i, m, ⟨op, (perform libs op m now.store).1⟩⟩ :: now.log) := by
  intro later j m' username step earlier split verify secret under k accepted accepts
  cases later with
  | cons newest later =>
    exact floored.noReplay later j m' username step earlier (List.cons.inj split).2 verify secret under
      k accepted accepts
  | nil =>
    obtain ⟨entry, rfl⟩ := List.cons.inj split
    injection entry with thread moment event
    subst thread
    injection event with same fresh
    subst same
    have fresh : (now.store.users.consumeTotpStep username step).1 = true := eq_of_heq fresh
    have newer : ∀ last, now.store.users.lastTotpStep.lookup username = some last → last < step :=
      UserStore.consumeTotpStep_true (Prod.ext fresh rfl)
    have below : ∀ e ∈ now.log, e.event.op = .usersConsumeTotpStep username accepted →
        accepted < step := by
      intro e member given
      obtain ⟨last, known, le⟩ := floored.floor e member username accepted given
      have := newer last known
      omega
    cases role : (party k).role with
    | verify =>
      simp only [TotpParty.Accepts, role] at accepts
      obtain ⟨m'', member⟩ := Prog.mem_historyOf.mp accepts.1
      exact below _ member rfl
    | confirm =>
      simp only [TotpParty.Accepts, role] at accepts
      by_cases unseeded : Unseeded (Prog.historyOf k now.log)
      · exact first username step next secret calls verify under newer k accepted role accepts unseeded
      · obtain ⟨e, member, given⟩ := floored.seeded k username secret accepted role accepts unseeded
        exact below e member given

/-- The step before which the condition fails accepts a code that is not newer. -/
theorem seedsFirst_of_noReplay {now : TotpPool ι} {a : ι × Moment}
    (next : ∀ t, Prog.Pool.step (perform libs) now a = some t → NoReplay libs party t.log) :
    SeedsFirst libs party now a := by
  intro username step rest secret calls verify under newer j accepted role stored _
  have fresh : (now.store.users.consumeTotpStep username step).1 = true :=
    UserStore.consumeTotpStep_new newer
  refine next _ (Prog.Pool.step_of_call calls) [] a.1 a.2 username step now.log ?_ verify secret under j accepted ?_
  · show _ = ⟨a.1, a.2, ⟨.usersConsumeTotpStep username step, true⟩⟩ :: now.log
    rw [← fresh]
    rfl
  · simp only [TotpParty.Accepts, role]
    exact stored

theorem meets_of_noReplay {now t : TotpPool ι} {actions : List (ι × Moment)}
    (run : Lts.run (Prog.Pool.step (perform libs)) now actions = some t)
    (noReplay : NoReplay libs party t.log) :
    Lts.Meets (Prog.Pool.step (perform libs)) (SeedsFirst libs party) now actions := by
  induction actions generalizing now with
  | nil => trivial
  | cons a actions ih =>
    obtain ⟨next, first, rest⟩ := Lts.run_cons_some.mp run
    refine ⟨seedsFirst_of_noReplay fun other taken => ?_, fun other taken => ?_⟩
    all_goals obtain rfl := Option.some.inj (first.symm.trans taken)
    · obtain ⟨later, grown⟩ := Prog.Pool.run_log rest
      rw [grown] at noReplay
      exact noReplay.of_append
    · exact ih rest

end Interleaving

/-- In every interleaving of confirmations and verifications, no verification accepts a step that is
not newer than one accepted before under its secret, exactly when every step meets the condition. A
verification that succeeds has accepted one. -/
theorem code_accepted_once {ι : Type} [DecidableEq ι] {libs : Libraries} {party : ι → TotpParty}
    {app : AppState} {actions : List (ι × Moment)} {s : TotpPool ι}
    (run : Lts.run (Prog.Pool.step (perform libs)) ⟨app, fun i => (party i).program libs, []⟩ actions =
      some s) :
    (NoReplay libs party s.log ↔ Lts.Meets (Prog.Pool.step (perform libs)) (SeedsFirst libs party)
      ⟨app, fun i => (party i).program libs, []⟩ actions) ∧
    ∀ i res, (party i).role = .verify → s.threads i = .ret res → res.status = 200 →
      ∃ username secret step,
        Consumed libs (party i).request (Prog.historyOf i s.log) username secret step := by
  have kept : Prog.Pool.Kept (fun i => (party i).contract libs)
      (⟨app, fun i => (party i).program libs, []⟩ : TotpPool ι) :=
    fun i => keeps_totpProgram (party i)
  have start : Floored libs party [] app := by
    refine ⟨?_, ?_, ?_⟩
    · intro e member
      cases member
    · rintro j username secret step role ⟨⟨codes, set⟩, _⟩
      cases set
    · intro later i m username step earlier split
      simp at split
  refine ⟨⟨meets_of_noReplay run, fun meets => ?_⟩, fun i res role ended ok => ?_⟩
  · have call : ∀ (now : TotpPool ι) i m op (next : op.Result → Handler Response),
        now.threads i = .call op next → Prog.Pool.Kept (fun i => (party i).contract libs) now →
        ((party i).contract libs).allowed (Prog.historyOf i now.log) op →
        SeedsFirst libs party now (i, m) → Floored libs party now.log now.store →
        Floored libs party (⟨i, m, ⟨op, (perform libs op m now.store).1⟩⟩ :: now.log)
          (perform libs op m now.store).2 :=
      fun now i m op next calls _ allowed first floored =>
        ⟨floored.floor_call, floored.seeded_call allowed, floored.noReplay_call calls first⟩
    exact (Prog.Pool.run_kept call kept start meets run).2.noReplay
  · have here := Prog.Pool.run_keeps kept run i
    rw [ended] at here
    exact here role res rfl ok

/-! ### One code, confirmed and replayed -/

def pendingCookie (draw : UInt8) : String :=
  "atomwall_pending_mfa=" ++ toHex (List.replicate 32 draw)

def sharedSecret : String := "GEZDGNBVGY3TQOJQGEZDGNBVGY3TQOJQ"

/-- The sample passwords, and the backup code that is drawn from zeros. -/
def confirmingLibraries : Libraries :=
  { sampleLibraries with
    pbkdf2 := fun password salt iterations =>
      if password = "2222-2222" ∧ salt = List.replicate 16 0 ∧ iterations = kIterations then
        some [144, 88, 112, 126, 1, 209, 220, 37, 217, 17, 207, 128, 42, 187, 191, 83, 5, 192, 205, 90,
          119, 148, 211, 44, 88, 211, 200, 250, 113, 109, 245, 163]
      else sampleLibraries.pbkdf2 password salt iterations }

/-- An account with a passkey that is setting up TOTP in one session and signing in to another. -/
def confirmingApp : AppState where
  users := { users :=
    [{ sampleUser "root" "c5199f52d095f03bb27ace7b385711999c67ec4aacd0f298a6da36ce47520daf" with
       webauthnCredentials := [⟨"AQIDBA", "Laptop", [], 0, 0⟩] }] }
  sessions := (∅ : SessionStore).insert (toHex (List.replicate 32 3)) ⟨"root", false, hours 12⟩
  pendingMfa := (∅ : PendingMfaStore).insert (toHex (List.replicate 32 1)) ⟨"root", minutes 5⟩
  pendingTotp := (∅ : PendingTotpStore).insert "root" ⟨sharedSecret, minutes 10⟩

def confirmingParty : Bool → TotpParty
  | false => ⟨.confirm,
      { methodString := "POST", target := "/api/auth/2fa/totp/confirm",
        fields := [("Cookie", sessionCookie 3)], body := firstCode }, "root", "unknown"⟩
  | true => ⟨.verify,
      { methodString := "POST", target := "/api/auth/2fa/totp/verify",
        fields := [("Cookie", pendingCookie 1)], body := firstCode }, "", "unknown"⟩

/-- The verification runs between the confirmation's `set_totp` and its `consume_totp_step`. -/
def confirmingRun : Option (TotpPool Bool) :=
  Lts.run (Prog.Pool.step (perform confirmingLibraries))
    ⟨confirmingApp, fun i => (confirmingParty i).program confirmingLibraries, []⟩
    ((List.replicate 4 false ++ List.replicate 9 true ++ List.replicate 3 false).map fun i =>
      (i, ⟨seconds 59, fun _ => some 0, true⟩))

def enrolledOf : Made → Option (String × String)
  | ⟨.usersSetTotp username secret _, .ok ()⟩ => some (username, secret)
  | _ => none

def foundSecretOf : Made → Option (String × String)
  | ⟨.usersFind username, some user⟩ => user.totp.map fun totp => (username, totp.secretBase32)
  | _ => none

def clockOf : Made → Option Int
  | ⟨.now, now⟩ => some now
  | _ => none

def newStepOf (e : Logged Bool) : Option (Bool × String × Int) :=
  match e.event with
  | ⟨.usersConsumeTotpStep username step, true⟩ => some (e.thread, username, step)
  | _ => none

theorem underSecret_of_found (h : (username, secret) ∈ done.filterMap foundSecretOf) :
    UnderSecret done username secret := by
  obtain ⟨e, member, found⟩ := List.mem_filterMap.mp h
  unfold foundSecretOf at found
  split at found
  · obtain ⟨totp, enrolled, same⟩ := Option.map_eq_some_iff.mp found
    injection same with name key
    subst name key
    exact ⟨_, member, enrolled⟩
  · cases found

theorem stored_of_enrolled {code : String} {now : Int}
    (set : (username, secret) ∈ done.filterMap enrolledOf) (clock : now ∈ done.filterMap clockOf)
    (sent : codeOf libs request = some code)
    (verified : Totp.verify libs secret code (toSeconds now) = .ok (some step)) :
    Stored libs request done username secret step := by
  obtain ⟨e, member, enrolled⟩ := List.mem_filterMap.mp set
  obtain ⟨e', member', read⟩ := List.mem_filterMap.mp clock
  unfold enrolledOf at enrolled
  unfold clockOf at read
  split at enrolled
  · split at read
    · obtain ⟨rfl, rfl⟩ := Prod.mk.inj (Option.some.inj enrolled)
      obtain rfl := Option.some.inj read
      exact ⟨⟨_, member⟩, code, _, sent, member', verified⟩
    · cases read
  · cases enrolled

theorem eq_of_newStep {e : Logged Bool} {i : Bool} (h : newStepOf e = some (i, username, step)) :
    ∃ m, e = ⟨i, m, ⟨.usersConsumeTotpStep username step, true⟩⟩ := by
  obtain ⟨thread, m, event⟩ := e
  unfold newStepOf at h
  split at h
  · next same =>
    have same : event = _ := same
    subst same
    injection h with h
    injection h with who rest
    injection rest with name given
    subst who name given
    exact ⟨m, rfl⟩
  · cases h

theorem confirmingRun_replays : ∃ s, confirmingRun = some s ∧ statusOf (s.threads false) = some 200 ∧
    statusOf (s.threads true) = some 200 ∧ ¬ NoReplay confirmingLibraries confirmingParty s.log := by
  have checked : (confirmingRun.any fun s =>
      match s.log.drop 8 with
      | e :: earlier => decide (statusOf (s.threads false) = some 200 ∧
          statusOf (s.threads true) = some 200 ∧ newStepOf e = some (true, "root", 1) ∧
          ("root", sharedSecret) ∈ (Prog.historyOf true earlier).filterMap foundSecretOf ∧
          ("root", sharedSecret) ∈ (Prog.historyOf false earlier).filterMap enrolledOf ∧
          seconds 59 ∈ (Prog.historyOf false earlier).filterMap clockOf)
      | [] => false) = true := by
    decide +kernel
  have sent : codeOf confirmingLibraries (confirmingParty false).request = some "287082" := by
    decide +kernel
  have verified : Totp.verify confirmingLibraries sharedSecret "287082" (toSeconds (seconds 59)) =
      .ok (some 1) := by
    decide +kernel
  generalize confirmingRun = run at checked
  cases run with
  | none => cases checked
  | some s =>
    refine ⟨s, rfl, ?_⟩
    have split := List.take_append_drop 8 s.log
    simp only [Option.any_some] at checked
    cases dropped : s.log.drop 8 with
    | nil => simp [dropped] at checked
    | cons e earlier =>
      rw [dropped] at checked split
      obtain ⟨confirmed, loggedIn, taken, found, set, clock⟩ := of_decide_eq_true checked
      refine ⟨confirmed, loggedIn, fun noReplay => ?_⟩
      obtain ⟨m, rfl⟩ := eq_of_newStep taken
      have newer := noReplay _ true m "root" 1 earlier split.symm rfl sharedSecret
        (underSecret_of_found found) false 1 (stored_of_enrolled set clock sent verified)
      omega

/-- A verification between a confirmation's `set_totp` and its `consume_totp_step` accepts the code
that was confirmed. -/
theorem confirmed_code_accepted_again :
    ¬ ∀ (ι : Type) (_ : DecidableEq ι) (libs : Libraries) (party : ι → TotpParty) (app : AppState)
        (actions : List (ι × Moment)) (s : TotpPool ι),
        Lts.run (Prog.Pool.step (perform libs)) ⟨app, fun i => (party i).program libs, []⟩ actions =
          some s → NoReplay libs party s.log := by
  intro claim
  obtain ⟨s, run, _, _, replays⟩ := confirmingRun_replays
  exact replays (claim Bool inferInstance confirmingLibraries confirmingParty confirmingApp _ s run)

/-! ### One code, sent with two logins -/

def twoLoginsApp : AppState :=
  { enrolledApp with
    pendingMfa := ((∅ : PendingMfaStore).insert (toHex (List.replicate 32 1))
      ⟨"root", minutes 5⟩).insert (toHex (List.replicate 32 2)) ⟨"root", minutes 5⟩ }

def loginParty (i : Bool) : TotpParty where
  role := .verify
  request :=
    { methodString := "POST", target := "/api/auth/2fa/totp/verify",
      fields := [("Cookie", pendingCookie (if i then 1 else 2))], body := firstCode }

/-- Both match the code before either uses up its step. -/
def twoLoginsRun : Option (TotpPool Bool) :=
  Lts.run (Prog.Pool.step (perform sampleLibraries))
    ⟨twoLoginsApp, fun i => (loginParty i).program sampleLibraries, []⟩
    ((List.replicate 3 true ++ List.replicate 4 false ++ List.replicate 1 true ++
      List.replicate 5 false).map fun i => (i, ⟨seconds 59, fun _ => some 0, true⟩))

theorem code_accepted_once_two_logins : ∃ s, twoLoginsRun = some s ∧
    statusOf (s.threads false) = some 200 ∧ statusOf (s.threads true) = some 401 ∧
    NoReplay sampleLibraries loginParty s.log ∧ ∃ username secret step,
      Consumed sampleLibraries (loginParty false).request (Prog.historyOf false s.log) username secret
        step := by
  have checked : (twoLoginsRun.any fun s =>
      statusOf (s.threads false) == some 200 && statusOf (s.threads true) == some 401) = true := by
    decide +kernel
  cases ran : twoLoginsRun with
  | none => simp [ran] at checked
  | some s =>
    rw [ran] at checked
    simp only [Option.any_some, Bool.and_eq_true, beq_iff_eq] at checked
    obtain ⟨accepted, refused⟩ := checked
    obtain ⟨once, consumed⟩ := @code_accepted_once Bool _ sampleLibraries loginParty twoLoginsApp _ s ran
    obtain ⟨res, ended, ok⟩ := statusOf_some accepted
    have seedsFirst : ∀ now a, SeedsFirst sampleLibraries loginParty now a := by
      intro now a username step next secret _ _ _ _ j accepted confirms
      cases confirms
    exact ⟨s, rfl, accepted, refused, once.mpr (Lts.meets_of_forall seedsFirst _ _),
      consumed false res rfl ended ok⟩

end Atomwall.Admin
