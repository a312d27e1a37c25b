import Atomwall.Base.Decimal
import Atomwall.Config.StatusPages
import Atomwall.Listener.Decision
import Mathlib.Data.UInt

/-!
How an origin's answer reaches the client: its page may have been replaced, and `prepare_payload` has
written what frames it. A client reads the body that the fields of the message announce.
-/

namespace Atomwall

open ByteString

/-! ### Fields of other names -/

namespace Http.Fields

variable {fields : Fields} {name other : String}

theorem find_filter_other (apart : iequals other name = false) :
    Fields.find (List.filter (fun field => !iequals field.1 other) fields) name = fields.find name := by
  unfold Fields.find
  rw [List.find?_filter]
  congr 2
  funext field
  by_cases named : iequals field.1 name = true
  · have differs : iequals field.1 other = false := by
      by_contra same
      have same : lower field.1 = lower other := by simpa [iequals] using same
      have named : lower field.1 = lower name := by simpa [iequals] using named
      simp [iequals, ← same, ← named] at apart
    simp [named, differs]
  · simp [named]

theorem find_set_other {value : String} (apart : iequals other name = false) :
    (fields.set other value).find name = fields.find name := by
  rw [← @find_filter_other fields name other apart]
  unfold Fields.set Fields.find
  rw [List.find?_append]
  simp [apart]

theorem find_set_same {value : String} : (fields.set name value).find name = some value := by
  unfold Fields.set Fields.find
  rw [List.find?_append, List.find?_filter]
  have none : List.find? (fun field => decide ((!iequals field.1 name) = true ∧
      iequals field.1 name = true)) fields = none := by
    simp
  rw [none]
  simp [iequals]

end Http.Fields

namespace Listener

open Http

def bodyless (status : Nat) : Bool := status / 100 == 1 || status == 204 || status == 304

/-- No body follows the header of an answer to the method with the status. -/
def noBody (method : Verb) (status : Nat) : Prop := method = .head ∨ bodyless status = true

/-- What is relied on of `prepare_payload`, none where it throws: it announces the body and leaves
status, body and other fields alone, and it does not throw where the status agrees with the body. -/
structure PreparesPayload (prepare : Response → Option Response) : Prop where
  accepts : ∀ res, (bodyless res.status = true → res.body = "") → (prepare res).isSome = true
  status : ∀ res out, prepare res = some out → out.status = res.status
  body : ∀ res out, prepare res = some out → out.body = res.body
  announces : ∀ res out, prepare res = some out →
    out.fields.find "Content-Length" = some (toString res.body.length)
  others : ∀ res out, prepare res = some out → ∀ name, iequals "Content-Length" name = false →
    iequals "Transfer-Encoding" name = false → out.fields.find name = res.fields.find name

/-! ### What a client makes of it -/

def contentLength (fields : Fields) : Option Nat :=
  match fields.find "Content-Length" with
  | none => none
  | some text =>
    match Decimal.scanNat text.toList with
    | some (length, []) => some length
    | _ => none

/-- The text of a body under the Content-Encoding of its message; `decode` undoes a coding. -/
def decoded (decode : (coding body : String) → Option String) (fields : Fields) (body : String) :
    Option String :=
  match fields.find "Content-Encoding" with
  | none => some body
  | some coding => decode coding body

/-- What a client reads that takes for the body what the message announces: none where it goes on
waiting or takes bytes of the body for the next message. -/
def readByClient (decode : (coding body : String) → Option String) (message : Response) : Option String :=
  if contentLength message.fields = some message.body.length then
    decoded decode message.fields message.body
  else none

/-- The message is the origin's answer, framed and readable: with the page that is configured for its
status, or else with what the origin has sent. -/
structure Delivered (decode : (coding body : String) → Option String) (pages : List StatusPageEntry)
    (method : Verb) (origin message : Response) : Prop where
  status : message.status = origin.status
  empty : noBody method origin.status → message.body = ""
  length : noBody method origin.status → (∀ html, ¬ StatusPageFor pages origin.status html) →
    message.fields.find "Content-Length" = origin.fields.find "Content-Length"
  page : ¬ noBody method origin.status → ∀ html, StatusPageFor pages origin.status html →
    readByClient decode message = some html
  original : ¬ noBody method origin.status → (∀ html, ¬ StatusPageFor pages origin.status html) →
    readByClient decode message = decoded decode origin.fields origin.body

/-- An answer without a body announces none, or is given an empty page; a page for an answer with a body
can be read under the origin's Content-Encoding. -/
structure Deliverable (decode : (coding body : String) → Option String) (pages : List StatusPageEntry)
    (method : Verb) (origin : Response) : Prop where
  length : noBody method origin.status → (∀ html, ¬ StatusPageFor pages origin.status html) →
    origin.fields.find "Content-Length" = some "0"
  empty : noBody method origin.status → ∀ html, StatusPageFor pages origin.status html → html = ""
  readable : ¬ noBody method origin.status → ∀ html, StatusPageFor pages origin.status html →
    decoded decode origin.fields html = some html

variable {text : AddressText} {config : RuntimeConfig} {c : Connection} {x : Exchange} {s : AppState}
  {upstream : UpstreamConfig} {origin message : Response} {prepare : Response → Option Response}
  {decode : (coding body : String) → Option String} {pages : List StatusPageEntry} {html : String}

/-- `response.body() = *override_html` and the Content-Type. -/
def Response.withPage (origin : Response) (html : String) : Response :=
  { origin with body := html, fields := origin.fields.set "Content-Type" "text/html; charset=utf-8" }

theorem findStatusPageHtml_iff (reached : StatusPagesReached pages) {status : Nat} :
    findStatusPageHtml pages status = some html ↔ StatusPageFor pages status html :=
  reached.find_iff

theorem findStatusPageHtml_none_iff (reached : StatusPagesReached pages) {status : Nat} :
    findStatusPageHtml pages status = none ↔ ∀ html, ¬ StatusPageFor pages status html := by
  constructor
  · intro none html configured
    rw [(findStatusPageHtml_iff reached).mpr configured] at none
    cases none
  · intro none
    cases found : findStatusPageHtml pages status with
    | none => rfl
    | some html => exact absurd ((findStatusPageHtml_iff reached).mp found) (none html)

theorem runHttpSession_forwarded (h : (runHttpSession text config c x s).1.forwarded = some upstream) :
    (runHttpSession text config c x s).1 = proxied text config c x upstream := by
  rw [runHttpSession_eq, perform_served] at h ⊢
  cases outcome : decision text config c x s with
  | forwarded other =>
    rw [outcome] at h
    have forwards : (proxied text config c x other).forwarded = some other := by
      unfold proxied
      split <;> rfl
    obtain rfl : other = upstream := Option.some.inj (forwards.symm.trans h)
    rfl
  | _ =>
    rw [outcome] at h
    cases h

theorem proxied_response
    (answered : forwardToUpstream x upstream (text c.clientIp) c.listenerLabel = some origin) :
    (proxied text config c x upstream).response =
      { (match findStatusPageHtml config.pages.statusPages origin.status with
          | some html => origin.withPage html
          | none => origin) with keepAlive := x.keepAlive } := by
  unfold proxied
  rw [answered]
  rfl

theorem contentLength_announced (prepares : PreparesPayload prepare) {res : Response}
    (sent : prepare res = some message) : contentLength message.fields = some message.body.length := by
  unfold contentLength
  rw [prepares.announces _ _ sent, prepares.body _ _ sent]
  show (match Decimal.scanNat (String.ofList (Nat.toDigits 10 res.body.length)).toList with
    | some (length, []) => some length
    | _ => none) = _
  rw [String.toList_ofList, Decimal.scanNat_toDigits]

theorem decoded_congr {fields fields' : Fields} {body : String}
    (same : fields.find "Content-Encoding" = fields'.find "Content-Encoding") :
    decoded decode fields body = decoded decode fields' body := by
  unfold decoded
  rw [same]

theorem readByClient_prepared (prepares : PreparesPayload prepare) {res : Response}
    (sent : prepare res = some message) :
    readByClient decode message = decoded decode res.fields res.body := by
  unfold readByClient
  rw [if_pos (contentLength_announced prepares sent), prepares.body _ _ sent]
  exact decoded_congr (prepares.others _ _ sent _ (by decide) (by decide))

theorem delivered_original (prepares : PreparesPayload prepare) {keepAlive : Bool} {method : Verb}
    (skipped : noBody method origin.status → origin.body = "")
    (none : ∀ html, ¬ StatusPageFor pages origin.status html) :
    (∃ message, prepare { origin with keepAlive } = some message ∧
        Delivered decode pages method origin message) ↔ Deliverable decode pages method origin := by
  constructor
  · rintro ⟨message, sent, delivered⟩
    refine ⟨fun empty _ => ?_, fun _ html page => absurd page (none html),
      fun _ html page => absurd page (none html)⟩
    rw [← delivered.length empty none, prepares.announces _ _ sent]
    dsimp only
    rw [skipped empty]
    decide
  · intro deliverable
    obtain ⟨message, sent⟩ := Option.isSome_iff_exists.mp
      (prepares.accepts { origin with keepAlive } fun empty => skipped (Or.inr empty))
    have status := prepares.status _ _ sent
    have read : readByClient decode message = decoded decode origin.fields origin.body := by
      rw [readByClient_prepared prepares sent]
    refine ⟨message, sent, ⟨status, fun empty => ?_, fun empty _ => ?_,
      fun _ html page => absurd page (none html), fun _ _ => read⟩⟩
    · rw [prepares.body _ _ sent]
      exact skipped empty
    · rw [prepares.announces _ _ sent, deliverable.length empty none]
      dsimp only
      rw [skipped empty]
      decide

theorem decoded_withPage (html body : String) :
    decoded decode (origin.withPage html).fields body = decoded decode origin.fields body :=
  decoded_congr (Fields.find_set_other (by decide))

theorem delivered_page (prepares : PreparesPayload prepare) {keepAlive : Bool} {method : Verb}
    (only : ∀ other, StatusPageFor pages origin.status other ↔ other = html) :
    (∃ message, prepare { origin.withPage html with keepAlive } = some message ∧
        Delivered decode pages method origin message) ↔ Deliverable decode pages method origin := by
  have page := (only html).mpr rfl
  have read : ∀ message, prepare { origin.withPage html with keepAlive } = some message →
      readByClient decode message = decoded decode origin.fields html := by
    intro message sent
    rw [readByClient_prepared prepares sent]
    exact decoded_withPage html html
  constructor
  · rintro ⟨message, sent, delivered⟩
    refine ⟨fun _ none => absurd page (none html), fun empty other configured => ?_,
      fun full other configured => ?_⟩
    · obtain rfl := (only other).mp configured
      rw [← delivered.empty empty]
      exact (prepares.body _ _ sent).symm
    · obtain rfl := (only other).mp configured
      rw [← read message sent]
      exact delivered.page full other configured
  · intro deliverable
    obtain ⟨message, sent⟩ := Option.isSome_iff_exists.mp
      (prepares.accepts { origin.withPage html with keepAlive } fun empty =>
        deliverable.empty (Or.inr empty) html page)
    have status := prepares.status _ _ sent
    refine ⟨message, sent, ⟨status, fun empty => ?_, fun _ none => absurd page (none html), fun full other configured => ?_,
      fun _ none => absurd page (none html)⟩⟩
    · rw [prepares.body _ _ sent]
      exact deliverable.empty empty html page
    · obtain rfl := (only other).mp configured
      rw [read message sent]
      exact deliverable.readable full other configured

/-- For every request that is forwarded and every answer of the origin, whose body is empty where none
follows: the client is sent the answer, framed and readable, exactly when an answer without a body
announces none or is given an empty page, and a page for an answer with a body can be read under the
origin's Content-Encoding. -/
theorem answer_delivered_iff (prepares : PreparesPayload prepare)
    (reached : StatusPagesReached config.pages.statusPages)
    (forwarded : (runHttpSession text config c x s).1.forwarded = some upstream)
    (answered : forwardToUpstream x upstream (text c.clientIp) c.listenerLabel = some origin)
    (skipped : noBody x.request.method origin.status → origin.body = "") :
    (∃ message, prepare (runHttpSession text config c x s).1.response = some message ∧
        Delivered decode config.pages.statusPages x.request.method origin message) ↔
      Deliverable decode config.pages.statusPages x.request.method origin := by
  rw [runHttpSession_forwarded forwarded, proxied_response answered]
  cases found : findStatusPageHtml config.pages.statusPages origin.status with
  | none => exact delivered_original prepares skipped ((findStatusPageHtml_none_iff reached).mp found)
  | some html =>
    apply delivered_page prepares
    intro other
    rw [← findStatusPageHtml_iff reached, found, Option.some.injEq, eq_comm]

/-! ### A page that is found, and a HEAD request -/

/-- The fields after `content_length`, which also ends a chunked transfer. -/
def framedBy (fields : Fields) (length : Nat) : Fields :=
  let plain : Fields := List.filter (fun field => !iequals field.1 "Transfer-Encoding") fields
  plain.set "Content-Length" (toString length)

/-- `prepare_payload` on a response with a string for its body. -/
def samplePrepare (res : Response) : Option Response :=
  if bodyless res.status = true ∧ res.body ≠ "" then none
  else some { res with fields := framedBy res.fields res.body.length }

theorem samplePrepare_some {res out : Response} (h : samplePrepare res = some out) :
    out = { res with fields := framedBy res.fields res.body.length } := by
  unfold samplePrepare at h
  split at h
  · cases h
  · exact (Option.some.inj h).symm

theorem samplePrepare_prepares : PreparesPayload samplePrepare where
  accepts res fits := by
    unfold samplePrepare
    rw [if_neg (by tauto)]
    rfl
  status res out sent := by rw [samplePrepare_some sent]
  body res out sent := by rw [samplePrepare_some sent]
  announces res out sent := by
    rw [samplePrepare_some sent]
    exact Fields.find_set_same
  others res out sent name length encoding := by
    rw [samplePrepare_some sent]
    exact (Fields.find_set_other length).trans (Fields.find_filter_other encoding)

def sampleExchange (method : String) (origin : Response) : Exchange where
  request := { methodString := method, target := "/", fields := [("Host", "localhost")] }
  readings := ⟨0, 0, 0, 0, 0⟩
  origin _ _ := some origin

def sampleClient : Connection where
  clientIp := .v4 0

def missingPage : Response := ⟨404, 11, [("Content-Type", "text/plain"), ("Content-Length", "4")], "none", true⟩

def pagedConfig : RuntimeConfig := RuntimeConfig.withStatusPages {} [⟨404, "<h1>Not here</h1>", 0⟩]

theorem pagedConfig_reached : StatusPagesReached pagedConfig.pages.statusPages :=
  @StatusPagesReached.added 0 {} pagedConfig 404 "<h1>Not here</h1>" .empty rfl

/-- The page configured for 404 takes the place of the origin's. -/
theorem missing_page_delivered : ∃ message,
    samplePrepare (runHttpSession (fun _ => "0.0.0.0") pagedConfig sampleClient
      (sampleExchange "GET" missingPage) {}).1.response = some message ∧
    Delivered (fun _ _ => none) pagedConfig.pages.statusPages .get missingPage message := by
  have forwards : (runHttpSession (fun _ => "0.0.0.0") pagedConfig sampleClient
      (sampleExchange "GET" missingPage) {}).1.forwarded = some {} := by
    decide +kernel
  have full : ¬ noBody .get missingPage.status := by simp [noBody, bodyless, missingPage]
  refine (answer_delivered_iff samplePrepare_prepares pagedConfig_reached forwards rfl
    (fun empty => absurd empty full)).mpr ⟨fun empty => absurd empty full, fun empty => absurd empty full, ?_⟩
  intro _ html _
  have plain : missingPage.fields.find "Content-Encoding" = none := by decide
  unfold decoded
  rw [plain]

def headAnswer : Response := ⟨200, 11, [("Content-Length", "1234")], "", true⟩

/-- The answer to a HEAD request announces an empty body instead of the origin's. -/
theorem head_length_lost :
    ¬ ∀ (prepare : Response → Option Response) (decode : (coding body : String) → Option String)
        (text : AddressText) (config : RuntimeConfig) (c : Connection) (x : Exchange) (s : AppState)
        (upstream : UpstreamConfig) (origin : Response), PreparesPayload prepare →
        StatusPagesReached config.pages.statusPages →
        (runHttpSession text config c x s).1.forwarded = some upstream →
        forwardToUpstream x upstream (text c.clientIp) c.listenerLabel = some origin →
        (noBody x.request.method origin.status → origin.body = "") →
        ∃ message, prepare (runHttpSession text config c x s).1.response = some message ∧
          Delivered decode config.pages.statusPages x.request.method origin message := by
  intro claim
  have forwards : (runHttpSession (fun _ => "0.0.0.0") {} sampleClient
      (sampleExchange "HEAD" headAnswer) {}).1.forwarded = some {} := by
    decide +kernel
  obtain ⟨message, sent, delivered⟩ := claim samplePrepare (fun _ _ => none) (fun _ => "0.0.0.0") {}
    sampleClient (sampleExchange "HEAD" headAnswer) {} {} headAnswer samplePrepare_prepares .empty
    forwards rfl (fun _ => rfl)
  have length := delivered.length (Or.inl (by decide)) (by rintro html ⟨entry, member, _⟩; cases member)
  rw [samplePrepare_prepares.announces _ _ sent, runHttpSession_forwarded forwards] at length
  revert length
  decide +kernel

end Listener

end Atomwall
