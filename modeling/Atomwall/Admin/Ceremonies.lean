import Atomwall.Admin.Discipline
import Atomwall.Auth.AuthenticatorData
import Atomwall.Auth.Base64Url

/-!
The WebAuthn ceremonies: any number of options and verify requests whose calls interleave. Each verify
request that succeeds has used up a challenge of its own ceremony.
-/

namespace Atomwall.Admin

open Http ByteString

inductive Ceremony where
  | registration | passwordless | secondFactor
  deriving DecidableEq

inductive Role where
  | options | verify
  deriving DecidableEq

structure Party where
  ceremony : Ceremony
  role : Role
  request : Request
  actingUser : String := ""
  clientIp : String := "unknown"

def Party.program (libs : Libraries) (p : Party) : Handler Response :=
  match p.ceremony, p.role with
  | .registration, .options => handleWebauthnRegisterOptions p.request p.actingUser
  | .registration, .verify => handleWebauthnRegisterVerify libs p.request p.actingUser
  | .passwordless, .options => handleWebauthnLoginOptions p.request
  | .passwordless, .verify => handleWebauthnLoginVerify libs p.request p.clientIp
  | .secondFactor, .options => handleWebauthn2faOptions p.request
  | .secondFactor, .verify => handleWebauthn2faVerify libs p.request p.clientIp

/-- The key of the party's challenge: its acting user, the login token it was given or carries, or the
user of its pending login. -/
def Party.HasKey (p : Party) (done : List Made) (key : String) : Prop :=
  match p.ceremony, p.role with
  | .registration, _ => key = registerKey p.actingUser
  | .passwordless, .options =>
    ∃ bytes, Returned done (.randBytes 32) (.ok bytes) ∧ key = loginKey (base64urlEncode bytes)
  | .passwordless, .verify =>
    ∃ token, extractWebauthnLoginToken p.request.fields = some token ∧ key = loginKey token
  | .secondFactor, _ =>
    ∃ token username, PendingValid p.request done token username ∧ key = login2faKey username

def Ceremony.clientDataType : Ceremony → String
  | .registration => "webauthn.create"
  | .passwordless | .secondFactor => "webauthn.get"

/-- The clientDataJSON of the party's body carries the challenge and the type of the ceremony. -/
def Party.SignedOver (libs : Libraries) (p : Party) (challenge : Challenge) : Prop :=
  ∃ body fields, libs.parseJsonObject p.request.body = some body ∧
    parseCredentialFields body (decide (p.ceremony = .registration)) = some fields ∧
    WebAuthn.ClientDataFor libs fields.clientDataJson p.ceremony.clientDataType challenge

/-- The party consumed a challenge and its body is signed over it. -/
def Party.Proved (libs : Libraries) (p : Party) (done : List Made) : Prop :=
  ∃ key challenge, Returned done (.challengesConsume key) (some challenge) ∧
    p.SignedOver libs challenge

/-- Options requests start challenges under their key, verify requests consume them, and a verify
request that succeeds has proved itself. -/
def Party.contract (libs : Libraries) (p : Party) : Prog.Contract Call Call.Result Fault Response where
  allowed done
    | .challengesStart key _ => p.role = .options ∧ p.HasKey done key
    | .challengesConsume key => p.role = .verify ∧ p.HasKey done key
    | _ => True
  post done result :=
    p.role = .verify → ∀ res, result = .ok res → res.status = 200 → p.Proved libs done

variable {libs : Libraries} {p : Party} {done : List Made} {request : Request}
  {actingUser clientIp : String}

theorem contract_fault (done : List Made) (fault : Fault) :
    (p.contract libs).post done (.error fault) := by
  intro _ res returned
  cases returned

theorem contract_options (role : p.role = .options) (done : List Made)
    (result : Except Fault Response) : (p.contract libs).post done result := by
  intro verify
  rw [role] at verify
  cases verify

theorem contract_reply {status version : Nat} (other : status ≠ 200) (done : List Made)
    (message : String) :
    (p.contract libs).post done (.ok (errorResponse status message version)) := by
  intro _ res returned ok
  obtain rfl := Except.ok.inj returned
  exact absurd ok other

theorem contract_proved (proved : p.Proved libs done) (later : List Made)
    (result : Except Fault Response) : (p.contract libs).post (later ++ done) result := by
  obtain ⟨key, challenge, consumed, signed⟩ := proved
  exact fun _ _ _ _ => ⟨key, challenge, List.mem_append_right later consumed, signed⟩

theorem keeps_registerOptions :
    Prog.Keeps (Party.contract libs ⟨.registration, .options, request, actingUser, clientIp⟩) []
      (handleWebauthnRegisterOptions request actingUser) := by
  have ends := @contract_options libs ⟨.registration, .options, request, actingUser, clientIp⟩ rfl
  refine ⟨trivial, fun found => ?_⟩
  cases found with
  | none => exact ends _ _
  | some user =>
    refine ⟨trivial, fun challenge => ?_⟩
    cases challenge with
    | error fault => exact ends _ _
    | ok challenge =>
      refine ⟨⟨rfl, rfl⟩, fun _ => ⟨trivial, fun handle => ?_⟩⟩
      cases handle <;> exact ends _ _

theorem keeps_loginOptions :
    Prog.Keeps (Party.contract libs ⟨.passwordless, .options, request, actingUser, clientIp⟩) []
      (handleWebauthnLoginOptions request) := by
  have ends := @contract_options libs ⟨.passwordless, .options, request, actingUser, clientIp⟩ rfl
  refine ⟨trivial, fun challenge => ?_⟩
  cases challenge with
  | error fault => exact ends _ _
  | ok challenge =>
    refine ⟨trivial, fun token => ?_⟩
    cases token with
    | error fault => exact ends _ _
    | ok token =>
      refine ⟨⟨rfl, token, ?_, rfl⟩, fun _ => ⟨trivial, fun _ => ends _ _⟩⟩
      exact List.mem_cons_self

theorem keeps_2faOptions :
    Prog.Keeps (Party.contract libs ⟨.secondFactor, .options, request, actingUser, clientIp⟩) []
      (handleWebauthn2faOptions request) := by
  have ends := @contract_options libs ⟨.secondFactor, .options, request, actingUser, clientIp⟩ rfl
  unfold handleWebauthn2faOptions
  apply keeps_pendingUser (fun _ => trivial)
  · exact fun done => ends done _
  intro token username pending
  refine ⟨trivial, fun found => ?_⟩
  cases found with
  | none => exact ends _ _
  | some user =>
    refine ⟨trivial, fun challenge => ?_⟩
    cases challenge with
    | error fault => exact ends _ _
    | ok challenge => exact ⟨⟨rfl, token, username, pending.cons.cons, rfl⟩, fun _ => ends _ _⟩

theorem keeps_registerVerify :
    Prog.Keeps (Party.contract libs ⟨.registration, .verify, request, actingUser, clientIp⟩) []
      (handleWebauthnRegisterVerify libs request actingUser) := by
  unfold handleWebauthnRegisterVerify
  cases parsed : libs.parseJsonObject request.body with
  | none => exact contract_reply (by decide) _ _
  | some body =>
    dsimp only
    cases sent : parseCredentialFields body true with
    | none => exact contract_reply (by decide) _ _
    | some fields =>
      refine ⟨⟨rfl, rfl⟩, fun consumed => ?_⟩
      cases consumed with
      | none => exact contract_reply (by decide) _ _
      | some challenge =>
        refine ⟨trivial, fun config => ?_⟩
        apply keeps_answering contract_fault (fun _ _ => contract_reply (by decide) _ _)
        cases verified : WebAuthn.verifyRegistration libs challenge fields.clientDataJson
            fields.authenticatorDataOrAttestationObject (webauthnRpId request)
            (webauthnExpectedOrigin request (RuntimeConfig.usesTls config)) with
        | error fault => exact contract_fault _ _
        | ok result =>
          have proved : Party.Proved libs ⟨.registration, .verify, request, actingUser, clientIp⟩
              [⟨.configGet, config⟩, ⟨.challengesConsume (registerKey actingUser), some challenge⟩] :=
            ⟨registerKey actingUser, challenge, by simp, body, fields, parsed, sent,
              WebAuthn.verifyRegistration_ok verified⟩
          refine ⟨trivial, fun createdAt => ⟨trivial, fun stored => ?_⟩⟩
          rcases stored with fault | _
          · exact contract_fault _ _
          · cases extractSessionToken request.fields with
            | none => exact contract_proved proved [_, _] _
            | some token => exact ⟨trivial, fun _ => contract_proved proved [_, _, _] _⟩

theorem contract_refused (done : List Made) (status : Nat) (what : String) (other : status ≠ 200) :
    (p.contract libs).post done (.ok (errorResponse status what request.version)) :=
  contract_reply other done what

theorem keeps_loginVerify :
    Prog.Keeps (Party.contract libs ⟨.passwordless, .verify, request, actingUser, clientIp⟩) []
      (handleWebauthnLoginVerify libs request clientIp) := by
  refine keeps_loginVerify_of contract_fault contract_refused (fun cookie carried => ?_)
    (fun _ _ _ => trivial) (fun _ => trivial) (fun _ _ => trivial) ?_
  · exact ⟨rfl, cookie, carried, rfl⟩
  intro cookie challenge config user fields credential result carried accepts before same
  obtain ⟨body, parsed, sent⟩ := accepts.sent
  have proved : Party.Proved libs ⟨.passwordless, .verify, request, actingUser, clientIp⟩
      (⟨.usersUpdateWebauthnSignCount user.username fields.idB64url result.newSignCount, .ok ()⟩ ::
        before) :=
    ⟨loginKey cookie, challenge, by simp [same], body, fields, parsed, sent,
      WebAuthn.verifyAuthentication_ok accepts.verified⟩
  exact ⟨trivial, trivial, fun later r => contract_proved proved later _⟩

theorem keeps_2faVerify :
    Prog.Keeps (Party.contract libs ⟨.secondFactor, .verify, request, actingUser, clientIp⟩) []
      (handleWebauthn2faVerify libs request clientIp) := by
  refine keeps_2faVerify_of contract_fault contract_refused (fun _ => trivial)
    (fun token username pending => ?_) (fun _ _ _ _ => trivial) (fun _ => trivial) (fun _ _ => trivial)
    (fun _ _ => trivial) ?_
  · exact ⟨rfl, token, username, pending, rfl⟩
  intro token username challenge config user fields credential result pending accepts before same
  obtain ⟨body, parsed, sent⟩ := accepts.sent
  have proved : Party.Proved libs ⟨.secondFactor, .verify, request, actingUser, clientIp⟩
      (⟨.usersUpdateWebauthnSignCount username fields.idB64url result.newSignCount, .ok ()⟩ ::
        before) :=
    ⟨login2faKey username, challenge, by simp [same], body, fields, parsed, sent,
      WebAuthn.verifyAuthentication_ok accepts.verified⟩
  exact ⟨trivial, trivial, fun later r => contract_proved proved later _⟩

theorem keeps_program (p : Party) : Prog.Keeps (p.contract libs) [] (p.program libs) := by
  obtain ⟨ceremony, role, request, actingUser, clientIp⟩ := p
  cases ceremony with
  | registration =>
    cases role with
    | options => exact keeps_registerOptions
    | verify => exact keeps_registerVerify
  | passwordless =>
    cases role with
    | options => exact keeps_loginOptions
    | verify => exact keeps_loginVerify
  | secondFactor =>
    cases role with
    | options => exact keeps_2faOptions
    | verify => exact keeps_2faVerify

/-! ### Keys -/

def Ceremony.keyStart : Ceremony → String
  | .registration => "register:"
  | .passwordless => "login:"
  | .secondFactor => "login2fa:"

theorem Party.HasKey.start {key : String} (h : p.HasKey done key) :
    ∃ rest, key = p.ceremony.keyStart ++ rest := by
  obtain ⟨ceremony, role, request, actingUser, clientIp⟩ := p
  cases ceremony with
  | registration => exact ⟨actingUser, h⟩
  | passwordless =>
    cases role with
    | options =>
      obtain ⟨bytes, _, same⟩ := h
      exact ⟨_, same⟩
    | verify =>
      obtain ⟨token, _, same⟩ := h
      exact ⟨token, same⟩
  | secondFactor =>
    obtain ⟨token, username, _, same⟩ := h
    exact ⟨username, same⟩

theorem keyStart_apart : ∀ c d : Ceremony, c ≠ d →
    startsWith c.keyStart d.keyStart = false := by
  intro c d apart
  cases c <;> cases d <;> first | exact absurd rfl apart | decide

theorem Party.HasKey.ceremony_eq {q : Party} {done' : List Made} {key : String}
    (h : p.HasKey done key) (h' : q.HasKey done' key) : p.ceremony = q.ceremony := by
  by_contra apart
  obtain ⟨rest, rfl⟩ := h.start
  obtain ⟨rest', same⟩ := h'.start
  exact append_ne (keyStart_apart _ _ apart) (keyStart_apart _ _ (Ne.symm apart)) rest rest' same

theorem Party.HasKey.mono {later : List Made} {key : String} (h : p.HasKey done key)
    (grown : ∀ e ∈ done, e ∈ later) : p.HasKey later key := by
  obtain ⟨ceremony, role, request, actingUser, clientIp⟩ := p
  cases ceremony with
  | registration => exact h
  | passwordless =>
    cases role with
    | options =>
      obtain ⟨bytes, drawn, same⟩ := h
      exact ⟨bytes, grown _ drawn, same⟩
    | verify => exact h
  | secondFactor =>
    obtain ⟨token, username, ⟨sent, valid⟩, same⟩ := h
    exact ⟨token, username, ⟨sent, grown _ valid⟩, same⟩

/-! ### Interleavings -/

section Interleaving

variable {ι : Type} [DecidableEq ι] {party : ι → Party} {log : List (Logged ι)} {s : AppState}
  {entry : Logged ι} {key : String} {challenge : Challenge} {expiresAt : Int}

def startedOf (e : Logged ι) : Option Challenge :=
  match e.event with
  | ⟨.challengesStart _ challenge, _⟩ => some challenge
  | _ => none

def consumedOf (e : Logged ι) : Option Challenge :=
  match e.event with
  | ⟨.challengesConsume _, some challenge⟩ => some challenge
  | _ => none

/-- An options request whose key it is started the challenge. -/
def StartedBy (party : ι → Party) (log : List (Logged ι)) (key : String) (challenge : Challenge)
    (expiresAt : Int) : Prop :=
  ∃ j m, ⟨j, m, ⟨.challengesStart key challenge, ()⟩⟩ ∈ log ∧ expiresAt = m.now + minutes 2 ∧
    (party j).role = .options ∧ (party j).HasKey (Prog.historyOf j log) key

/-- What stands while the challenges that are started differ: the store holds started challenges that
nobody has consumed, and each consumed one was in the store under its key. -/
structure Sound (party : ι → Party) (log : List (Logged ι)) (s : AppState) : Prop where
  held : ∀ key e, s.challenges.entries.lookup key = some e →
    StartedBy party log key e.challenge e.expiresAt
  spent : ∀ key e, s.challenges.entries.lookup key = some e → e.challenge ∉ log.filterMap consumedOf
  single : (log.filterMap consumedOf).Nodup
  answered : ∀ later i m key challenge earlier,
    log = later ++ ⟨i, m, ⟨.challengesConsume key, some challenge⟩⟩ :: earlier →
    (party i).role = .verify ∧ (party i).HasKey (Prog.historyOf i earlier) key ∧
      ∃ expiresAt, m.now ≤ expiresAt ∧ StartedBy party earlier key challenge expiresAt

theorem eq_of_filterMap_nodup {α β : Type} {f : α → Option β} {l : List α}
    (distinct : (l.filterMap f).Nodup) {a b : α} {c : β} (ha : a ∈ l) (hb : b ∈ l)
    (fa : f a = some c) (fb : f b = some c) : a = b := by
  induction l with
  | nil => cases ha
  | cons first rest ih =>
    have member {x : α} (there : x ∈ rest) (fx : f x = some c) : c ∈ rest.filterMap f :=
      List.mem_filterMap.mpr ⟨x, there, fx⟩
    rw [List.filterMap_cons] at distinct
    rcases List.mem_cons.mp ha with rfl | ra <;> rcases List.mem_cons.mp hb with rfl | rb
    · rfl
    · rw [fa] at distinct
      exact absurd (member rb fb) (List.nodup_cons.mp distinct).1
    · rw [fb] at distinct
      exact absurd (member ra fa) (List.nodup_cons.mp distinct).1
    · refine ih ?_ ra rb
      split at distinct
      · exact distinct
      · exact (List.nodup_cons.mp distinct).2

theorem StartedBy.cons (h : StartedBy party log key challenge expiresAt) :
    StartedBy party (entry :: log) key challenge expiresAt := by
  obtain ⟨j, m, member, expires, role, keyed⟩ := h
  exact ⟨j, m, List.mem_cons_of_mem _ member, expires, role, keyed.mono fun _ => Prog.mem_historyOf_cons⟩

theorem StartedBy.mem (h : StartedBy party log key challenge expiresAt) :
    challenge ∈ log.filterMap startedOf := by
  obtain ⟨j, m, member, _⟩ := h
  exact List.mem_filterMap.mpr ⟨_, member, rfl⟩

theorem StartedBy.key_eq {key' : String} {expiresAt' : Int}
    (distinct : (log.filterMap startedOf).Nodup) (h : StartedBy party log key challenge expiresAt)
    (h' : StartedBy party log key' challenge expiresAt') : key = key' := by
  obtain ⟨j, m, member, _⟩ := h
  obtain ⟨j', m', member', _⟩ := h'
  have same := eq_of_filterMap_nodup distinct member member' rfl rfl
  injection same with _ _ event
  injection event with op _
  injection op

omit [DecidableEq ι] in
theorem consumedOf_some (h : consumedOf entry = some challenge) :
    ∃ i m key, entry = ⟨i, m, ⟨.challengesConsume key, some challenge⟩⟩ := by
  obtain ⟨i, m, event⟩ := entry
  unfold consumedOf at h
  split at h
  · next key found same =>
    obtain rfl := Option.some.inj h
    have same : event = ⟨.challengesConsume key, some found⟩ := same
    exact ⟨i, m, key, by rw [same]⟩
  · cases h

theorem Sound.started_of_consumed (sound : Sound party log s)
    (consumed : challenge ∈ log.filterMap consumedOf) : challenge ∈ log.filterMap startedOf := by
  obtain ⟨entry, member, shown⟩ := List.mem_filterMap.mp consumed
  obtain ⟨i, m, key, rfl⟩ := consumedOf_some shown
  obtain ⟨later, earlier, rfl⟩ := List.append_of_mem member
  obtain ⟨_, _, expiresAt, _, started⟩ := sound.answered later i m key challenge earlier rfl
  obtain ⟨e, there, same⟩ := List.mem_filterMap.mp started.mem
  refine List.mem_filterMap.mpr ⟨e, ?_, same⟩
  exact List.mem_append_right later (List.mem_cons_of_mem _ there)

/-- A call that returns no challenge and stores none keeps everything. -/
theorem Sound.cons_other {t : AppState} (sound : Sound party log s)
    (within : ∀ key e, t.challenges.entries.lookup key = some e →
      s.challenges.entries.lookup key = some e)
    (consumes : consumedOf entry = none) : Sound party (entry :: log) t where
  held key e found := (sound.held key e (within key e found)).cons
  spent key e found := by
    rw [List.filterMap_cons, consumes]
    exact sound.spent key e (within key e found)
  single := by
    rw [List.filterMap_cons, consumes]
    exact sound.single
  answered later i m key challenge earlier split := by
    cases later with
    | nil =>
      obtain ⟨rfl, _⟩ := List.cons.inj split
      cases consumes
    | cons first later =>
      exact sound.answered later i m key challenge earlier (List.cons.inj split).2

theorem perform_challenges {op : Call} {m : Moment}
    (starts : ∀ key challenge, op ≠ .challengesStart key challenge)
    (consumes : ∀ key, op ≠ .challengesConsume key) :
    (perform libs op m s).2.challenges = s.challenges := by
  cases op with
  | challengesStart key challenge => exact absurd rfl (starts key challenge)
  | challengesConsume key => exact absurd rfl (consumes key)
  | configUpdate mutator =>
    unfold perform
    dsimp only
    split <;> rfl
  | _ => rfl

theorem Sound.start {i : ι} {m : Moment} (sound : Sound party log s)
    (distinct : ((⟨i, m, ⟨.challengesStart key challenge, ()⟩⟩ :: log : List (Logged ι)).filterMap
      startedOf).Nodup)
    (allowed : ((party i).contract libs).allowed (Prog.historyOf i log) (.challengesStart key challenge)) :
    Sound party (⟨i, m, ⟨.challengesStart key challenge, ()⟩⟩ :: log)
      (perform libs (.challengesStart key challenge) m s).2 where
  held other e found := by
    rcases ChallengeStore.lookup_start found with ⟨rfl, rfl⟩ | old
    · exact ⟨i, m, List.mem_cons_self, rfl, allowed.1, allowed.2.mono fun _ => Prog.mem_historyOf_cons⟩
    · exact (sound.held other e old).cons
  spent other e found := by
    have fresh : challenge ∉ log.filterMap startedOf := (List.nodup_cons.mp distinct).1
    rcases ChallengeStore.lookup_start found with ⟨rfl, rfl⟩ | old
    · exact fun consumed => fresh (sound.started_of_consumed consumed)
    · exact sound.spent other e old
  single := sound.single
  answered later j m' key' challenge' earlier split := by
    cases later with
    | nil => cases split
    | cons first later =>
      exact sound.answered later j m' key' challenge' earlier (List.cons.inj split).2

theorem Sound.consume {i : ι} {m : Moment} (sound : Sound party log s)
    (distinct : (log.filterMap startedOf).Nodup)
    (allowed : ((party i).contract libs).allowed (Prog.historyOf i log) (.challengesConsume key)) :
    Sound party (⟨i, m, ⟨.challengesConsume key, (perform libs (.challengesConsume key) m s).1⟩⟩ :: log)
      (perform libs (.challengesConsume key) m s).2 := by
  have within : ∀ other e,
      (perform libs (.challengesConsume key) m s).2.challenges.entries.lookup other = some e →
        other ≠ key ∧ s.challenges.entries.lookup other = some e :=
    fun other e found => ChallengeStore.lookup_consume found
  rcases made : s.challenges.consume m key with ⟨(_ | challenge), next⟩
  · refine sound.cons_other (fun other e found => (within other e found).2) ?_
    simp [consumedOf, perform, made]
  · obtain ⟨e, held, rfl, unexpired, _⟩ := ChallengeStore.consume_some made
    have result : (perform libs (.challengesConsume key) m s).1 = some e.challenge := by
      simp [perform, made]
    have started := sound.held key e held
    rw [result]
    refine ⟨?_, ?_, ?_, ?_⟩
    · intro other e' found
      exact (sound.held other e' (within other e' found).2).cons
    · intro other e' found
      obtain ⟨apart, found⟩ := within other e' found
      show e'.challenge ∉ e.challenge :: log.filterMap consumedOf
      rw [List.mem_cons, not_or]
      refine ⟨fun same => apart ?_, sound.spent other e' found⟩
      have here := sound.held other e' found
      rw [same] at here
      exact here.key_eq distinct started
    · show (e.challenge :: log.filterMap consumedOf).Nodup
      exact List.nodup_cons.mpr ⟨sound.spent key e held, sound.single⟩
    · intro later j m' key' challenge earlier split
      cases later with
      | nil =>
        obtain ⟨same, rfl⟩ := List.cons.inj split
        injection same with thread moment event
        subst thread moment
        injection event with op result
        injection op with op
        subst op
        obtain rfl := Option.some.inj result
        exact ⟨allowed.1, allowed.2, e.expiresAt, unexpired, started⟩
      | cons first later =>
        exact sound.answered later j m' key' challenge earlier (List.cons.inj split).2

theorem Sound.call {i : ι} {m : Moment} {op : Call} (sound : Sound party log s)
    (distinct : ((⟨i, m, ⟨op, (perform libs op m s).1⟩⟩ :: log : List (Logged ι)).filterMap
      startedOf).Nodup)
    (allowed : ((party i).contract libs).allowed (Prog.historyOf i log) op) :
    Sound party (⟨i, m, ⟨op, (perform libs op m s).1⟩⟩ :: log) (perform libs op m s).2 := by
  cases op with
  | challengesStart key challenge => exact sound.start distinct allowed
  | challengesConsume key => exact sound.consume distinct allowed
  | _ =>
    apply sound.cons_other
    · intro key e found
      rwa [perform_challenges (by simp) (by simp)] at found
    · rfl

end Interleaving

/-- The verify request of `i` consumed a challenge that an earlier options request of the same ceremony
and key started, before it expired, and its clientDataJSON is over that challenge. -/
def Authorised {ι : Type} [DecidableEq ι] (libs : Libraries) (party : ι → Party) (log : List (Logged ι))
    (i : ι) (challenge : Challenge) : Prop :=
  ∃ key m later earlier j m', log = later ++ ⟨i, m, ⟨.challengesConsume key, some challenge⟩⟩ :: earlier ∧
    ⟨j, m', ⟨.challengesStart key challenge, ()⟩⟩ ∈ earlier ∧ m.now ≤ m'.now + minutes 2 ∧
    (party j).role = .options ∧ (party j).ceremony = (party i).ceremony ∧
    (party j).HasKey (Prog.historyOf j earlier) key ∧ (party i).HasKey (Prog.historyOf i earlier) key ∧
    (party i).SignedOver libs challenge

/-- In every interleaving of options and verify requests whose challenges differ, each verify request
that succeeds has consumed a challenge of its own ceremony, and no two calls have consumed the same. -/
theorem ceremony_consumes_own_challenge {ι : Type} [DecidableEq ι] {libs : Libraries}
    {party : ι → Party} {app : AppState} {actions : List (ι × Moment)}
    {s : Prog.Pool ι Moment Call Call.Result Fault Response AppState}
    (fresh : app.challenges.entries = ∅)
    (run : Lts.run (Prog.Pool.step (perform libs)) ⟨app, fun i => (party i).program libs, []⟩ actions =
      some s)
    (distinct : (s.log.filterMap startedOf).Nodup) :
    (∀ i res, (party i).role = .verify → s.threads i = .ret res → res.status = 200 →
      ∃ challenge, Authorised libs party s.log i challenge) ∧
    ∀ i j challenge, Authorised libs party s.log i challenge → Authorised libs party s.log j challenge →
      i = j := by
  have start : Sound party [] app := by
    refine ⟨?_, ?_, List.nodup_nil, ?_⟩
    · intro key e found
      rw [fresh] at found
      cases found
    · intro key e found
      rw [fresh] at found
      cases found
    · intro later i m key challenge earlier split
      simp at split
  have call : ∀ (log : List (Logged ι)) (now : AppState) i m op,
      ((party i).contract libs).allowed (Prog.historyOf i log) op →
      ((log.filterMap startedOf).Nodup → Sound party log now) →
      ((⟨i, m, ⟨op, (perform libs op m now).1⟩⟩ :: log : List (Logged ι)).filterMap startedOf).Nodup →
      Sound party (⟨i, m, ⟨op, (perform libs op m now).1⟩⟩ :: log) (perform libs op m now).2 := by
    intro log now i m op allowed sound distinct
    refine (sound ?_).call distinct allowed
    rw [List.filterMap_cons] at distinct
    split at distinct
    · exact distinct
    · exact (List.nodup_cons.mp distinct).2
  obtain ⟨kept, holds⟩ := @Prog.Pool.run_kept Call Call.Result Fault Response ι Moment AppState _
    (perform libs) _ s (fun i => (party i).contract libs)
    (fun log now => (log.filterMap startedOf).Nodup → Sound party log now) (fun _ _ => True)
    (fun now i m op _ _ _ allowed _ sound => call now.log now.store i m op allowed sound) (fun i => keeps_program (party i))
    (fun _ => start) actions (Lts.meets_of_forall (fun _ _ => trivial) _ _) run
  have sound := holds distinct
  refine ⟨fun i res role ended ok => ?_, ?_⟩
  · have here := kept i
    rw [ended] at here
    obtain ⟨key, challenge, consumed, signed⟩ := here role res rfl ok
    obtain ⟨m, member⟩ := Prog.mem_historyOf.mp consumed
    obtain ⟨later, earlier, split⟩ := List.append_of_mem member
    obtain ⟨_, keyed, expiresAt, unexpired, j, m', started, rfl, options, startKey⟩ :=
      sound.answered later i m key challenge earlier split
    exact ⟨challenge, key, m, later, earlier, j, m', split, started, unexpired, options,
      startKey.ceremony_eq keyed, startKey, keyed, signed⟩
  · rintro i j challenge ⟨key, m, later, earlier, _, _, split, _⟩
      ⟨key', m', later', earlier', _, _, split', _⟩
    have one : (⟨i, m, ⟨.challengesConsume key, some challenge⟩⟩ : Logged ι) ∈ s.log := by
      rw [split]
      simp
    have other : (⟨j, m', ⟨.challengesConsume key', some challenge⟩⟩ : Logged ι) ∈ s.log := by
      rw [split']
      simp
    have same := eq_of_filterMap_nodup sound.single one other rfl rfl
    injection same

/-! ### One registration -/

def sampleRpIdHash : List UInt8 :=
  [73, 150, 13, 229, 136, 14, 140, 104, 116, 52, 23, 15, 100, 118, 96, 91, 143, 228, 174, 185,
   162, 134, 50, 199, 153, 92, 243, 186, 131, 29, 151, 99]

def sampleKeyX : List UInt8 :=
  [107, 23, 209, 242, 225, 44, 66, 71, 248, 188, 230, 229, 99, 164, 64, 242, 119, 3, 125, 129,
   45, 235, 51, 160, 244, 161, 57, 69, 216, 152, 194, 150]

def sampleKeyY : List UInt8 :=
  [79, 227, 66, 226, 254, 26, 127, 155, 142, 231, 235, 74, 124, 15, 158, 22, 43, 206, 51, 87,
   107, 49, 94, 206, 203, 182, 64, 104, 55, 191, 81, 245]

def sampleCoseKey : List UInt8 :=
  [165, 1, 2, 3, 38, 32, 1, 33, 88, 32] ++ sampleKeyX ++ [34, 88, 32] ++ sampleKeyY

def sampleAuthData : List UInt8 :=
  sampleRpIdHash ++ [0x41] ++ List.replicate 20 0 ++ [0, 4, 1, 2, 3, 4] ++ sampleCoseKey

def sampleAttestation : List UInt8 :=
  0xa3 :: 0x63 :: bytes "fmt" ++ 0x64 :: bytes "none" ++ 0x67 :: bytes "attStmt" ++
    0xa0 :: 0x68 :: bytes "authData" ++ 0x58 :: 136 :: sampleAuthData

def sampleClientData : String :=
  "\x7b\"type\":\"webauthn.create\",\"challenge\":\"BQUFBQUFBQUFBQUFBQUFBQUFBQUFBQUFBQUFBQUFBQU\"," ++
    "\"origin\":\"http://localhost\"\x7d"

def sampleCredential : Json :=
  .object
    [("id", .string "AQIDBA"),
     ("response", .object
       [("clientDataJSON", .string (base64urlEncode (bytes sampleClientData))),
        ("attestationObject", .string (base64urlEncode sampleAttestation))])]

def sampleBody : String :=
  "\x7b\"credential\":\x7b\"id\":\"AQIDBA\",\"response\":\x7b\"clientDataJSON\":\"" ++
    base64urlEncode (bytes sampleClientData) ++ "\",\"attestationObject\":\"" ++
    base64urlEncode sampleAttestation ++ "\"\x7d\x7d,\"label\":\"Laptop\"\x7d"

/-- What the libraries return for one registration with the generator of P-256 as its key. -/
def registrationLibraries : Libraries where
  jsonParse text :=
    if text = sampleBody then
      some (.object [("credential", sampleCredential), ("label", .string "Laptop")])
    else if text = sampleClientData then
      some (.object
        [("type", .string "webauthn.create"),
         ("challenge", .string "BQUFBQUFBQUFBQUFBQUFBQUFBQUFBQUFBQUFBQUFBQU"),
         ("origin", .string "http://localhost")])
    else none
  toIso8601 _ := "1970-01-01T00:00:00Z"
  pbkdf2 _ _ _ := none
  hmacSha1 _ _ := none
  sha256 data := if data = bytes "localhost" then some sampleRpIdHash else none
  cborLoad data :=
    if data = sampleAttestation then
      some (.map [(.string true "fmt", .string true "none"), (.string true "attStmt", .map []),
        (.string true "authData", .bytestring true sampleAuthData)], 166)
    else if data = sampleCoseKey then
      some (.map [(.uint 1, .uint 2), (.uint 3, .negint 6), (.negint 0, .uint 1),
        (.negint 1, .bytestring true sampleKeyX), (.negint 2, .bytestring true sampleKeyY)], 77)
    else none
  validKey
    | .ec x y => x == sampleKeyX && y == sampleKeyY
    | .rsa _ _ => false
  digestVerify _ _ _ := false

def registrationApp : AppState where
  users := { users := [{ username := "root", saltHex := "", hashHex := "", iterations := 1,
                         createdAt := 0 }] }

/-- An options request and a verify request of one acting user. -/
def registrationParty : Bool → Party
  | false => ⟨.registration, .options,
      { methodString := "POST", target := "/api/auth/2fa/webauthn/register/options",
        fields := [("Host", "localhost")] }, "root", "unknown"⟩
  | true => ⟨.registration, .verify,
      { methodString := "POST", target := "/api/auth/2fa/webauthn/register/verify",
        fields := [("Host", "localhost")], body := sampleBody }, "root", "unknown"⟩

def registrationRun :
    Option (Prog.Pool Bool Moment Call Call.Result Fault Response AppState) :=
  Lts.run (Prog.Pool.step (perform registrationLibraries))
    ⟨registrationApp, fun i => (registrationParty i).program registrationLibraries, []⟩
    (([false, false, false, true, false, true, true, true] : List Bool).map fun i =>
      (i, ⟨seconds 10, fun _ => some 5, true⟩))

theorem decodedField_of {obj : JsonObject} {key : String} (d : Decoded)
    (sent : jsonStringField obj key = some d.text) : decodedField obj key = some d.data := by
  rw [decodedField, sent, Option.bind_some, d.decodes]
  rfl

/-- What the sample credential carries. -/
def sampleDecoded : List Decoded := [.of (bytes sampleClientData), .of sampleAttestation]

/-! #### What it carries -/

/-- The verdict on a registration, by challenge, rp id and origin. -/
abbrev RegistrationCheck := Challenge → String → String → Except Fault WebAuthn.RegistrationResult

/-- What a registration sends, and the check that is made of it. -/
structure Registers (libs : Libraries) (text : String) (body : JsonObject)
    (fields : WebAuthnCredentialFields) (check : RegistrationCheck) : Prop where
  parses : libs.parseJsonObject text = some body
  sends : parseCredentialFields body true = some fields
  checks : ∀ challenge rpId origin,
    WebAuthn.verifyRegistration libs challenge fields.clientDataJson
      fields.authenticatorDataOrAttestationObject rpId origin = check challenge rpId origin

/-- What the libraries make of the sample. -/
structure ReadsSample (libs : Libraries) : Prop where
  body : libs.jsonParse sampleBody =
    some (.object [("credential", sampleCredential), ("label", .string "Laptop")])
  clientData : libs.jsonParse sampleClientData = some (.object
    [("type", .string "webauthn.create"),
     ("challenge", .string "BQUFBQUFBQUFBQUFBQUFBQUFBQUFBQUFBQUFBQUFBQU"),
     ("origin", .string "http://localhost")])
  attestation : libs.cborLoad sampleAttestation =
    some (.map [(.string true "fmt", .string true "none"), (.string true "attStmt", .map []),
      (.string true "authData", .bytestring true sampleAuthData)], 166)
  coseKey : libs.cborLoad sampleCoseKey =
    some (.map [(.uint 1, .uint 2), (.uint 3, .negint 6), (.negint 0, .uint 1),
      (.negint 1, .bytestring true sampleKeyX), (.negint 2, .bytestring true sampleKeyY)], 77)
  digest : libs.sha256 (bytes "localhost") = some sampleRpIdHash
  key : libs.validKey (.ec sampleKeyX sampleKeyY) = true

theorem sampleClientData_ne : sampleClientData ≠ sampleBody := by
  rw [Ne, ← storedBytes_inj]
  decide +kernel

theorem registration_jsonParse (text : String) : registrationLibraries.jsonParse text =
    if text = sampleBody then
      some (.object [("credential", sampleCredential), ("label", .string "Laptop")])
    else if text = sampleClientData then
      some (.object
        [("type", .string "webauthn.create"),
         ("challenge", .string "BQUFBQUFBQUFBQUFBQUFBQUFBQUFBQUFBQUFBQUFBQU"),
         ("origin", .string "http://localhost")])
    else none := rfl

theorem registration_cborLoad (data : List UInt8) : registrationLibraries.cborLoad data =
    if data = sampleAttestation then
      some (.map [(.string true "fmt", .string true "none"), (.string true "attStmt", .map []),
        (.string true "authData", .bytestring true sampleAuthData)], 166)
    else if data = sampleCoseKey then
      some (.map [(.uint 1, .uint 2), (.uint 3, .negint 6), (.negint 0, .uint 1),
        (.negint 1, .bytestring true sampleKeyX), (.negint 2, .bytestring true sampleKeyY)], 77)
    else none := rfl

theorem registrationLibraries_reads : ReadsSample registrationLibraries where
  body := by rw [registration_jsonParse, if_pos rfl]
  clientData := by rw [registration_jsonParse, if_neg sampleClientData_ne, if_pos rfl]
  attestation := by rw [registration_cborLoad, if_pos rfl]
  coseKey := by
    have apart : sampleCoseKey ≠ sampleAttestation :=
      fun same => absurd (congrArg List.head? same) (by decide)
    rw [registration_cborLoad, if_neg apart, if_pos rfl]
  digest := by
    have digest (data : List UInt8) : registrationLibraries.sha256 data =
      if data = bytes "localhost" then some sampleRpIdHash else none := rfl
    rw [digest, if_pos rfl]
  key := by
    show (sampleKeyX == sampleKeyX && sampleKeyY == sampleKeyY) = true
    rw [beq_self_eq_true, beq_self_eq_true]
    rfl

def sampleFields : WebAuthnCredentialFields := ⟨"AQIDBA", sampleClientData, sampleAttestation, []⟩

/-- The sample passes for its challenge. -/
def sampleCheck (libs : Libraries) : RegistrationCheck := fun challenge rpId origin =>
  if challenge = List.replicate 32 5 ∧ rpId = "localhost" ∧ origin = "http://localhost" then
    .ok ⟨"AQIDBA", sampleCoseKey, 0, false⟩
  else WebAuthn.verifyRegistration libs challenge sampleClientData sampleAttestation rpId origin

theorem parseCredentialFields_of {clientData attestation : Decoded} {json : String}
    (ascii : ofBytes clientData.data = json) : parseCredentialFields
      [("credential", .object [("id", .string "AQIDBA"),
        ("response", .object
          [("clientDataJSON", .string clientData.text), ("attestationObject", .string attestation.text)])]),
       ("label", .string "Laptop")] true = some ⟨"AQIDBA", json, attestation.data, []⟩ := by
  have decoded : ∀ first second : String, parseCredentialFields
      [("credential", .object [("id", .string "AQIDBA"),
        ("response", .object
          [("clientDataJSON", .string first), ("attestationObject", .string second)])]),
       ("label", .string "Laptop")] true = do
    let response := [("clientDataJSON", Json.string first), ("attestationObject", .string second)]
    let clientData ← decodedField response "clientDataJSON"
    let attestation ← decodedField response "attestationObject"
    return ⟨"AQIDBA", ofBytes clientData, attestation, []⟩ := fun _ _ => rfl
  rw [decoded]
  dsimp only
  rw [decodedField_of clientData rfl, decodedField_of attestation rfl, ← ascii]
  rfl

theorem sample_sends : parseCredentialFields
    [("credential", sampleCredential), ("label", .string "Laptop")] true = some sampleFields := by
  have ascii : ofBytes (bytes sampleClientData) = sampleClientData := by
    refine ofBytes_bytes ?_
    rw [toList_eq_stored]
    decide +kernel
  exact @parseCredentialFields_of sampleDecoded[0] sampleDecoded[1] _ ascii

/-- The key of the sample, and the map that it comes in. -/
def sampleKeyMap : WebAuthn.CborValue :=
  .map [(.uint 1, .uint 2), (.uint 3, .negint 6), (.negint 0, .uint 1), (.negint 1, .bytes sampleKeyX),
    (.negint 2, .bytes sampleKeyY)]

def sampleAttestationMap : WebAuthn.CborValue :=
  .map [(.text "fmt", .text "none"), (.text "attStmt", .map []), (.text "authData", .bytes sampleAuthData)]

def sampleParsed : WebAuthn.AuthenticatorData :=
  ⟨sampleRpIdHash, 0x41, 0, [1, 2, 3, 4], sampleCoseKey⟩

section ReadsSample

variable {libs : Libraries} (reads : ReadsSample libs)
include reads

theorem sample_client :
    WebAuthn.verifyClientData libs sampleClientData (List.replicate 32 5) "http://localhost"
      "webauthn.create" = .ok () := by
  have named : "BQUFBQUFBQUFBQUFBQUFBQUFBQUFBQUFBQUFBQUFBQU" = base64urlEncode (List.replicate 32 5) := by
    refine eq_ofList ?_
    decide +kernel
  refine WebAuthn.verifyClientData_of reads.clientData rfl rfl rfl ?_
  rw [named, base64urlDecode_encode]

theorem sample_attestation : WebAuthn.parseCbor libs sampleAttestation = .ok sampleAttestationMap := by
  unfold WebAuthn.parseCbor WebAuthn.parseCborPrefix
  have short : ¬ (sampleAttestation.isEmpty = true ∨ WebAuthn.kMaxCborBytes < sampleAttestation.length) := by
    decide +kernel
  rw [if_neg short, reads.attestation]
  rfl

theorem sample_coseKey : WebAuthn.parseCborPrefix libs sampleCoseKey = .ok (sampleKeyMap, 77) := by
  unfold WebAuthn.parseCborPrefix
  rw [if_neg (by decide), reads.coseKey]
  rfl

theorem sample_authData : WebAuthn.parseAuthenticatorData libs sampleAuthData true = .ok sampleParsed := by
  have four : WebAuthn.credentialIdLength sampleAuthData = 4 := rfl
  have key : sampleAuthData.drop (WebAuthn.kCredentialIdAt + 4) = sampleCoseKey := rfl
  have keyed : WebAuthn.kCredentialIdAt + WebAuthn.credentialIdLength sampleAuthData <
      sampleAuthData.length := by
    have length : sampleAuthData.length = 136 := rfl
    rw [four, length]
    decide
  rw [WebAuthn.parse_attested_eq (by decide) keyed, four, key, sample_coseKey reads]
  rfl

theorem sample_checked : WebAuthn.checkAuthenticator libs sampleParsed "localhost" = .ok () := by
  unfold WebAuthn.checkAuthenticator WebAuthn.sha256
  rw [reads.digest]
  rfl

theorem sample_verified :
    WebAuthn.verifyRegistration libs (List.replicate 32 5) sampleClientData sampleAttestation "localhost"
      "http://localhost" = .ok ⟨"AQIDBA", sampleCoseKey, 0, false⟩ := by
  have authData : WebAuthn.attestedData sampleAttestationMap = .ok sampleAuthData := rfl
  have keyMap : WebAuthn.parseCbor libs sampleParsed.cosePublicKey = .ok sampleKeyMap := by
    have same : sampleParsed.cosePublicKey = sampleCoseKey := rfl
    rw [WebAuthn.parseCbor, same, sample_coseKey reads]
    rfl
  have key : WebAuthn.parseCosePublicKey libs sampleKeyMap = .ok (.ec sampleKeyX sampleKeyY) :=
    if_pos reads.key
  unfold WebAuthn.verifyRegistration
  simp only [sample_client reads, sample_attestation reads, authData, sample_authData reads,
    sample_checked reads, keyMap, key, bind, Except.bind, pure, Except.pure]
  rfl

end ReadsSample

theorem sample_registers {libs : Libraries} (reads : ReadsSample libs) :
    Registers libs sampleBody [("credential", sampleCredential), ("label", .string "Laptop")] sampleFields
      (sampleCheck libs) where
  parses := by
    unfold Libraries.parseJsonObject
    rw [reads.body]
  sends := sample_sends
  checks := by
    intro challenge rpId origin
    unfold sampleCheck
    split
    · next same =>
      obtain ⟨rfl, rfl, rfl⟩ := same
      exact sample_verified reads
    · rfl

/-- The run is that of any program that the handler is on requests which carry as much. -/
theorem registrationRun_eq
    {verify : Request → JsonObject → RegistrationCheck → String → Handler Response}
    (verifies : ∀ libs request body fields check, Registers libs request.body body fields check →
      handleWebauthnRegisterVerify libs request = verify request body check) :
    registrationRun = Lts.run (Prog.Pool.step (perform registrationLibraries))
      ⟨registrationApp, fun i =>
        bif i then verify (registrationParty true).request
          [("credential", sampleCredential), ("label", .string "Laptop")]
          (sampleCheck registrationLibraries) "root"
        else handleWebauthnRegisterOptions (registrationParty false).request "root", []⟩
      (([false, false, false, true, false, true, true, true] : List Bool).map fun i =>
        (i, ⟨seconds 10, fun _ => some 5, true⟩)) := by
  have programs : (fun i => (registrationParty i).program registrationLibraries) = fun i =>
      bif i then verify (registrationParty true).request
        [("credential", sampleCredential), ("label", .string "Laptop")]
        (sampleCheck registrationLibraries) "root"
      else handleWebauthnRegisterOptions (registrationParty false).request "root" := by
    funext i
    cases i with
    | false => rfl
    | true =>
      have registers : Registers registrationLibraries (registrationParty true).request.body
        [("credential", sampleCredential), ("label", .string "Laptop")] sampleFields
        (sampleCheck registrationLibraries) := sample_registers registrationLibraries_reads
      exact congrFun (verifies _ _ _ _ _ registers) "root"
  unfold registrationRun
  rw [programs]

theorem registrationRun_succeeds : ∃ s, registrationRun = some s ∧
    statusOf (s.threads true) = some 200 ∧ (s.log.filterMap startedOf).Nodup := by
  have checked : (registrationRun.any fun s =>
      decide (statusOf (s.threads true) = some 200 ∧ (s.log.filterMap startedOf).Nodup)) = true := by
    rw [registrationRun_eq ?verifies]
    -- what the request carries is unknown here, so that evaluating the handler takes few steps
    case verifies =>
      intro libs request body fields check registers
      funext actingUser
      unfold handleWebauthnRegisterVerify
      simp only [registers.parses, registers.sends, registers.checks]
      exact rfl
    decide +kernel
  generalize registrationRun = run at checked
  cases run with
  | none => cases checked
  | some s => exact ⟨s, rfl, of_decide_eq_true checked⟩

theorem ceremony_consumes_own_challenge_registration : ∃ s challenge, registrationRun = some s ∧
    Authorised registrationLibraries registrationParty s.log true challenge := by
  obtain ⟨s, run, status, distinct⟩ := registrationRun_succeeds
  obtain ⟨res, ended, ok⟩ := statusOf_some status
  obtain ⟨challenge, authorised⟩ :=
    (ceremony_consumes_own_challenge rfl run distinct).1 true res rfl ended ok
  exact ⟨s, challenge, run, authorised⟩

end Atomwall.Admin
