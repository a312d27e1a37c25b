import Atomwall.Base.Lts
import Atomwall.History.RequestLog

/-!
`run_sse_session`: a client follows a log whose events are numbered by `record`. Between two polls the
log may record and evict anything; while the events of one poll are being written, it goes on.
-/

namespace Atomwall.SseStream

variable {Event : Type}

def sseHeader (extraHeaders : String) : String :=
  "HTTP/1.1 200 OK\r\n" ++ "Content-Type: text/event-stream\r\n" ++ "Cache-Control: no-cache\r\n" ++
    "Connection: keep-alive\r\n" ++ extraHeaders ++ "\r\n"

def kPing : String := ": ping\n\n"

def frame (json : String) : String := "data: " ++ json ++ "\n\n"

/-- One call of `run_sse_session`. `events` is what is left of the last poll. `since`, `delivered` and
`missed` are history: `latest_seq()` at the start, the events whose frames were written, and the
numbers that were evicted when a poll asked for them. -/
structure Subscriber (Event : Type) where
  lastSeq : Nat
  events : List (Numbered Event) := []
  sent : List String
  connected : Bool := true
  since : Nat
  delivered : List (Numbered Event) := []
  missed : List Nat := []

/-- The log with everything it ever recorded, and the call once it has sent its header. -/
structure Live (Event : Type) where
  log : RingLog Event
  subscriber : Option (Subscriber Event) := none
  recorded : List (Numbered Event) := []

inductive Action (Event : Type) where
  | record (event : Event)
  | subscribe
  | poll
  | deliver
  | disconnect

def evicted (log : RingLog Event) (recorded : List (Numbered Event)) (lastSeq : Nat) : List Nat :=
  (recorded.map Numbered.seq).filter fun seq =>
    decide (lastSeq < seq) && !(log.buffer.map Numbered.seq).contains seq

-- `to_json` followed by `serialize`, and `extra_headers`
variable (toJson : Numbered Event → String) (extraHeaders : String)

/-- The writes of a connected call; `disconnect` is one that fails. -/
def step (s : Live Event) : Action Event → Option (Live Event)
  | .record event =>
    some { s with log := s.log.record event, recorded := s.recorded ++ [⟨s.log.nextSeq, event⟩] }
  | .subscribe =>
    match s.subscriber with
    | none =>
      some { s with subscriber := some { lastSeq := s.log.latestSeq, sent := [sseHeader extraHeaders]
                                         since := s.log.latestSeq } }
    | some _ => none
  | .poll =>
    match s.subscriber with
    | some sub =>
      if sub.connected && sub.events.isEmpty then
        let missed := sub.missed ++ evicted s.log s.recorded sub.lastSeq
        match s.log.eventsSince sub.lastSeq with
        | [] => some { s with subscriber := some { sub with sent := sub.sent ++ [kPing], missed } }
        | events => some { s with subscriber := some { sub with events, missed } }
      else none
    | none => none
  | .deliver =>
    match s.subscriber with
    | some sub =>
      match sub.connected, sub.events with
      | true, event :: rest =>
        some { s with subscriber := some { sub with lastSeq := event.seq, events := rest
                                                    sent := sub.sent ++ [frame (toJson event)]
                                                    delivered := sub.delivered ++ [event] } }
      | _, _ => none
    | none => none
  | .disconnect =>
    match s.subscriber with
    | some sub =>
      if sub.connected then some { s with subscriber := some { sub with connected := false } } else none
    | none => none

/-- What each enabled action does, guards included. -/
inductive Transition : Live Event → Action Event → Live Event → Prop where
  | record {s event} :
      Transition s (.record event)
        { s with log := s.log.record event, recorded := s.recorded ++ [⟨s.log.nextSeq, event⟩] }
  | subscribe {s} (fresh : s.subscriber = none) :
      Transition s .subscribe
        { s with subscriber := some { lastSeq := s.log.latestSeq, sent := [sseHeader extraHeaders]
                                      since := s.log.latestSeq } }
  | ping {s sub} (present : s.subscriber = some sub) (connected : sub.connected = true)
      (idle : sub.events = []) (nothing : s.log.eventsSince sub.lastSeq = []) :
      Transition s .poll
        { s with subscriber := some { sub with sent := sub.sent ++ [kPing]
                                               missed := sub.missed ++ evicted s.log s.recorded sub.lastSeq } }
  | poll {s sub} (present : s.subscriber = some sub) (connected : sub.connected = true)
      (idle : sub.events = []) (found : s.log.eventsSince sub.lastSeq ≠ []) :
      Transition s .poll
        { s with subscriber := some { sub with events := s.log.eventsSince sub.lastSeq
                                               missed := sub.missed ++ evicted s.log s.recorded sub.lastSeq } }
  | deliver {s sub event rest} (present : s.subscriber = some sub) (connected : sub.connected = true)
      (next : sub.events = event :: rest) :
      Transition s .deliver
        { s with subscriber := some { sub with lastSeq := event.seq, events := rest
                                               sent := sub.sent ++ [frame (toJson event)]
                                               delivered := sub.delivered ++ [event] } }
  | disconnect {s sub} (present : s.subscriber = some sub) (connected : sub.connected = true) :
      Transition s .disconnect { s with subscriber := some { sub with connected := false } }

variable {toJson extraHeaders}

theorem step_transition {s t : Live Event} {a : Action Event}
    (h : step toJson extraHeaders s a = some t) : Transition toJson extraHeaders s a t := by
  cases a with
  | record event =>
    cases h
    exact .record
  | subscribe =>
    simp only [step] at h
    split at h <;> cases h
    exact .subscribe (by assumption)
  | poll =>
    simp only [step] at h
    split at h
    · split at h
      · rename_i ready
        obtain ⟨connected, idle⟩ := Bool.and_eq_true_iff.mp ready
        split at h <;> cases h
        · exact .ping (by assumption) connected (List.isEmpty_iff.mp idle) (by assumption)
        · exact .poll (by assumption) connected (List.isEmpty_iff.mp idle) (by assumption)
      · cases h
    · cases h
  | deliver =>
    simp only [step] at h
    split at h
    · split at h <;> cases h
      exact .deliver (by assumption) (by assumption) (by assumption)
    · cases h
  | disconnect =>
    simp only [step] at h
    split at h
    · split at h <;> cases h
      exact .disconnect (by assumption) (by assumption)
    · cases h

/-! ### What a subscriber was told -/

/-- Up to the event numbered `reach`, the subscriber was or is being told everything that was recorded
since its start and was still there when a poll asked for it. -/
structure Served (log : RingLog Event) (recorded : List (Numbered Event)) (sub : Subscriber Event)
    (reach : Nat) : Prop where
  since : sub.since ≤ sub.lastSeq
  cursor : sub.lastSeq + sub.events.length ≤ reach
  known : reach ≤ recorded.length
  inFlight : RingLog.From (reach + 1 - sub.events.length) sub.events
  idle : sub.events = [] → sub.lastSeq = reach
  told : sub.delivered ++ sub.events =
    ((recorded.take reach).drop sub.since).filter (fun e => !sub.missed.contains e.seq)
  missed : ∀ n ∈ sub.missed, sub.since < n ∧ n ≤ recorded.length - log.capacity

variable {log : RingLog Event} {recorded : List (Numbered Event)} {sub : Subscriber Event} {reach : Nat}

theorem mem_evicted (keeps : log.Keeps recorded) {lastSeq n : Nat} :
    n ∈ evicted log recorded lastSeq ↔ lastSeq < n ∧ n ≤ recorded.length - log.capacity := by
  simp only [evicted, List.mem_filter, RingLog.mem_seqs keeps.seqs, Bool.and_eq_true,
    decide_eq_true_eq, Bool.not_eq_true', List.contains_eq_mem, decide_eq_false_iff_not,
    RingLog.mem_buffer keeps]
  omega

theorem mem_told (keeps : log.Keeps recorded) (served : Served log recorded sub reach)
    {e : Numbered Event} : e ∈ sub.delivered ++ sub.events ↔
      e ∈ recorded ∧ sub.since < e.seq ∧ e.seq ≤ reach ∧ e.seq ∉ sub.missed := by
  have after := @RingLog.filter_after _ _ sub.since _ (RingLog.from_take keeps.seqs reach)
  rw [Nat.add_sub_cancel] at after
  rw [served.told, ← after, List.mem_filter, List.mem_filter, RingLog.mem_take keeps.seqs]
  simp only [decide_eq_true_eq, Bool.not_eq_true', List.contains_eq_mem, decide_eq_false_iff_not]
  constructor
  · intro given
    obtain ⟨⟨⟨member, early⟩, late⟩, kept⟩ := given
    exact ⟨member, late, by omega, kept⟩
  · intro given
    obtain ⟨member, late, early, kept⟩ := given
    exact ⟨⟨⟨member, by omega⟩, late⟩, kept⟩

theorem told_increasing (keeps : log.Keeps recorded) (served : Served log recorded sub reach) :
    ((sub.delivered ++ sub.events).map Numbered.seq).Pairwise (· < ·) := by
  have whole := RingLog.from_increasing keeps.seqs
  have part : (sub.delivered ++ sub.events).Sublist recorded := by
    rw [served.told]
    exact List.filter_sublist.trans ((List.drop_sublist _ _).trans (List.take_sublist _ _))
  exact whole.sublist (part.map Numbered.seq)

theorem served_record (served : Served log recorded sub reach) (event : Event) :
    Served (log.record event) (recorded ++ [⟨log.nextSeq, event⟩]) sub reach := by
  obtain ⟨since, cursor, known, inFlight, idle, told, missed⟩ := served
  refine ⟨since, cursor, ?_, inFlight, idle, ?_, ?_⟩
  · rw [List.length_append]
    omega
  · rw [List.take_append_of_le_length known]
    exact told
  · intro n member
    obtain ⟨after, gone⟩ := missed n member
    refine ⟨after, ?_⟩
    show n ≤ (recorded ++ [_]).length - log.capacity
    rw [List.length_append]
    omega

theorem served_deliver {event : Numbered Event} {rest : List (Numbered Event)} {sent : List String}
    (served : Served log recorded sub reach) (next : sub.events = event :: rest) :
    Served log recorded { sub with lastSeq := event.seq, events := rest, sent
                                   delivered := sub.delivered ++ [event] } reach := by
  obtain ⟨since, cursor, known, inFlight, idle, told, missed⟩ := served
  rw [next] at cursor inFlight told
  rw [List.length_cons] at cursor inFlight
  obtain ⟨seq, later⟩ := RingLog.from_cons.mp inFlight
  have number : event.seq = reach - rest.length := by omega
  refine ⟨?_, ?_, known, ?_, ?_, ?_, missed⟩
  · show sub.since ≤ event.seq
    omega
  · show event.seq + rest.length ≤ reach
    omega
  · have first : reach + 1 - rest.length = reach + 1 - (rest.length + 1) + 1 := by omega
    show RingLog.From (reach + 1 - rest.length) rest
    rw [first]
    exact later
  · intro done
    show event.seq = reach
    rw [number, show rest = [] from done, List.length_nil, Nat.sub_zero]
  · rw [← told, List.append_assoc, List.singleton_append]

theorem filter_missed_earlier (keeps : log.Keeps recorded) (served : Served log recorded sub reach)
    (idle : sub.events = []) :
    ((recorded.take reach).drop sub.since).filter
        (fun e => !(sub.missed ++ evicted log recorded sub.lastSeq).contains e.seq) =
      sub.delivered := by
  have told := served.told
  rw [idle, List.append_nil] at told
  rw [told]
  refine List.filter_congr fun e member => ?_
  have bounds := RingLog.seq_bounds (RingLog.from_take keeps.seqs reach) (List.mem_of_mem_drop member)
  rw [List.length_take] at bounds
  have cursor := served.idle idle
  have present : e.seq ∉ evicted log recorded sub.lastSeq := by
    intro gone
    have after := (mem_evicted keeps).mp gone
    omega
  simp [present]

theorem poll_eq (keeps : log.Keeps recorded) (cursor : sub.lastSeq = reach) :
    ∃ start, start = max reach (recorded.length - log.capacity) ∧
      log.eventsSince sub.lastSeq =
        (recorded.drop start).take (log.eventsSince sub.lastSeq).length ∧
      (log.eventsSince sub.lastSeq).length = min 500 (recorded.length - start) := by
  refine ⟨_, rfl, ?_⟩
  have polled := RingLog.eventsSince_eq keeps sub.lastSeq 500
  rw [cursor] at polled ⊢
  have start := List.take_prefix (max 1 500) (recorded.drop (max reach (recorded.length - log.capacity)))
  rw [← polled] at start
  refine ⟨List.prefix_iff_eq_take.mp start, ?_⟩
  rw [polled, List.length_take, List.length_drop]
  rfl

theorem served_poll {sent : List String} (keeps : log.Keeps recorded)
    (served : Served log recorded sub reach) (idle : sub.events = [])
    (found : log.eventsSince sub.lastSeq ≠ []) :
    Served log recorded { sub with sent, events := log.eventsSince sub.lastSeq
                                   missed := sub.missed ++ evicted log recorded sub.lastSeq }
      (max reach (recorded.length - log.capacity) + (log.eventsSince sub.lastSeq).length) := by
  have cursor := served.idle idle
  have earlier := filter_missed_earlier keeps served idle
  obtain ⟨start, oldest, polled, length⟩ := poll_eq keeps cursor
  rw [← oldest]
  obtain ⟨since, _, known, _, _, _, missed⟩ := served
  generalize log.eventsSince sub.lastSeq = events at *
  generalize evicted_eq : evicted log recorded sub.lastSeq = gone at *
  have some : 0 < events.length := List.length_pos_iff.mpr found
  have numbered : RingLog.From (start + 1) events := by
    rw [polled, Nat.add_comm]
    exact RingLog.from_take (RingLog.from_drop keeps.seqs (by omega)) _
  refine ⟨since, ?_, by omega, ?_, fun none => absurd none found, ?_, ?_⟩
  · show sub.lastSeq + events.length ≤ start + events.length
    omega
  · have first : start + events.length + 1 - events.length = start + 1 := by omega
    show RingLog.From (start + events.length + 1 - events.length) events
    rw [first]
    exact numbered
  · -- up to the cursor as before, then the gap that was evicted, then the events of the poll
    let gap := (recorded.drop reach).take (start - reach)
    have gap_numbered : RingLog.From (1 + reach) gap :=
      RingLog.from_take (RingLog.from_drop keeps.seqs known) _
    have pieces : recorded.take (start + events.length) = recorded.take reach ++ (gap ++ events) := by
      have upTo : start = reach + (start - reach) := by omega
      rw [List.take_add, ← polled, upTo, List.take_add, List.append_assoc]
    have within : sub.since ≤ (recorded.take reach).length := by
      rw [List.length_take]
      omega
    have gap_missed : gap.filter (fun e => !(sub.missed ++ gone).contains e.seq) = [] := by
      refine List.filter_eq_nil_iff.mpr fun e member => ?_
      have bounds := RingLog.seq_bounds gap_numbered member
      have short : gap.length ≤ start - reach := by
        rw [List.length_take]
        omega
      have out : e.seq ∈ gone := by
        rw [← evicted_eq, mem_evicted keeps]
        omega
      simp [out]
    have events_kept : events.filter (fun e => !(sub.missed ++ gone).contains e.seq) = events := by
      refine List.filter_eq_self.mpr fun e member => ?_
      have bounds := RingLog.seq_bounds numbered member
      have before : e.seq ∉ sub.missed := by
        intro old
        have gone := (missed e.seq old).2
        omega
      have now : e.seq ∉ gone := by
        rw [← evicted_eq, mem_evicted keeps]
        omega
      simp [before, now]
    show sub.delivered ++ events = _
    rw [pieces, List.drop_append_of_le_length within, List.filter_append, List.filter_append, earlier,
      gap_missed, events_kept, List.nil_append]
  · intro n member
    rcases List.mem_append.mp member with old | new
    · exact missed n old
    · rw [← evicted_eq, mem_evicted keeps] at new
      show sub.since < n ∧ n ≤ recorded.length - log.capacity
      omega

theorem served_ping {sent : List String} (keeps : log.Keeps recorded)
    (served : Served log recorded sub reach) (idle : sub.events = []) :
    Served log recorded { sub with sent, missed := sub.missed ++ evicted log recorded sub.lastSeq }
      reach := by
  have earlier := filter_missed_earlier keeps served idle
  have cursor := served.idle idle
  obtain ⟨since, ahead, known, inFlight, still, _, missed⟩ := served
  refine ⟨since, ahead, known, inFlight, still, ?_, ?_⟩
  · show sub.delivered ++ sub.events = _
    rw [earlier, idle, List.append_nil]
  · intro n member
    rcases List.mem_append.mp member with old | new
    · exact missed n old
    · rw [mem_evicted keeps] at new
      show sub.since < n ∧ n ≤ recorded.length - log.capacity
      omega

/-- The log keeps what was recorded, and the subscriber was served up to some event. -/
def Following (s : Live Event) : Prop :=
  s.log.Keeps s.recorded ∧
    ∀ sub, s.subscriber = some sub → ∃ reach, Served s.log s.recorded sub reach

theorem step_following {s t : Live Event} {a : Action Event} (inv : Following s)
    (h : step toJson extraHeaders s a = some t) : Following t := by
  obtain ⟨keeps, serving⟩ := inv
  cases step_transition h with
  | record =>
    refine ⟨RingLog.keeps_record keeps _, fun sub present => ?_⟩
    obtain ⟨reach, served⟩ := serving sub present
    exact ⟨reach, served_record served _⟩
  | subscribe fresh =>
    refine ⟨keeps, fun sub present => ?_⟩
    obtain rfl := Option.some.inj present
    have latest := RingLog.latestSeq_eq keeps
    refine ⟨s.log.latestSeq, Nat.le_refl _, Nat.le_refl _, Nat.le_of_eq latest, rfl, fun _ => rfl, ?_,
      by simp⟩
    show [] ++ [] = _
    rw [latest, List.take_length, List.drop_length]
    rfl
  | ping present connected idle nothing =>
    refine ⟨keeps, fun sub now => ?_⟩
    obtain rfl := Option.some.inj now
    obtain ⟨reach, served⟩ := serving _ present
    exact ⟨reach, served_ping keeps served idle⟩
  | poll present connected idle found =>
    refine ⟨keeps, fun sub now => ?_⟩
    obtain rfl := Option.some.inj now
    obtain ⟨reach, served⟩ := serving _ present
    exact ⟨_, served_poll keeps served idle found⟩
  | deliver present connected next =>
    refine ⟨keeps, fun sub now => ?_⟩
    obtain rfl := Option.some.inj now
    obtain ⟨reach, served⟩ := serving _ present
    exact ⟨reach, served_deliver served next⟩
  | disconnect present connected =>
    refine ⟨keeps, fun sub now => ?_⟩
    obtain rfl := Option.some.inj now
    obtain ⟨reach, since, cursor, known, inFlight, idle, told, missed⟩ := serving _ present
    exact ⟨reach, since, cursor, known, inFlight, idle, told, missed⟩

/-! ### What went over the connection -/

theorem frame_ne_ping (json : String) : frame json ≠ kPing := by
  intro same
  have first := congrArg (fun s => s.toList.head?) same
  simp [frame, kPing] at first

/-- After the header, and pings aside, the frames of the delivered events were sent. -/
def Framed (toJson : Numbered Event → String) (extraHeaders : String) (sub : Subscriber Event) : Prop :=
  ∃ written, sub.sent = sseHeader extraHeaders :: written ∧
    written.filter (· ≠ kPing) = sub.delivered.map (fun e => frame (toJson e))

theorem step_framed {s t : Live Event} {a : Action Event}
    (inv : ∀ sub, s.subscriber = some sub → Framed toJson extraHeaders sub)
    (h : step toJson extraHeaders s a = some t) :
    ∀ sub, t.subscriber = some sub → Framed toJson extraHeaders sub := by
  intro now here
  cases step_transition h with
  | record => exact inv now here
  | subscribe fresh =>
    obtain rfl := Option.some.inj here
    exact ⟨[], rfl, rfl⟩
  | @ping sub present connected idle nothing =>
    obtain rfl := Option.some.inj here
    obtain ⟨written, sent, frames⟩ := inv sub present
    refine ⟨written ++ [kPing], ?_, ?_⟩
    · simp only [sent, List.cons_append]
    · simpa [List.filter_append] using frames
  | @poll sub present | @disconnect sub present =>
    obtain rfl := Option.some.inj here
    exact inv sub present
  | @deliver sub event rest present connected next =>
    obtain rfl := Option.some.inj here
    obtain ⟨written, sent, frames⟩ := inv sub present
    refine ⟨written ++ [frame (toJson event)], ?_, ?_⟩
    · simp only [sent, List.cons_append]
    · have kept : [frame (toJson event)].filter (· ≠ kPing) = [frame (toJson event)] :=
        List.filter_cons_of_pos (decide_eq_true (frame_ne_ping (toJson event)))
      rw [List.filter_append, kept, frames, List.map_append]
      rfl

/-! ### Without eviction the subscriber catches up -/

def Action.Serves : Action Event → Prop
  | .poll | .deliver => True
  | _ => False

theorem reaches_of_delivered {goal : Live Event → Prop} {s : Live Event}
    (present : s.subscriber = some sub) (connected : sub.connected = true)
    (served : Served s.log s.recorded sub reach)
    (idle : ∀ t now, t.log = s.log → t.recorded = s.recorded → t.subscriber = some now →
      now.connected = true → now.since = sub.since → now.missed = sub.missed → now.events = [] →
      Served s.log s.recorded now reach →
      Lts.Reaches (step toJson extraHeaders) Action.Serves goal t) :
    Lts.Reaches (step toJson extraHeaders) Action.Serves goal s := by
  generalize left : sub.events = events
  induction events generalizing s sub with
  | nil => exact idle s sub rfl rfl present connected rfl rfl left served
  | cons event rest ih =>
    have first : step toJson extraHeaders s .deliver = some { s with subscriber := some { sub with
        lastSeq := event.seq, events := rest, sent := sub.sent ++ [frame (toJson event)]
        delivered := sub.delivered ++ [event] } } := by
      simp only [step, present, connected, left]
    refine Lts.reaches_of_step first trivial ?_
    exact ih rfl connected (served_deliver served left) idle rfl

theorem delivered_all {s : Live Event} (served : Served s.log s.recorded sub s.recorded.length)
    (idle : sub.events = []) (whole : sub.missed = []) :
    sub.delivered = s.recorded.drop sub.since := by
  have told := served.told
  rw [idle, whole, List.append_nil, List.take_length] at told
  rw [told]
  simp

/-- Poll after poll, what is still kept is delivered. -/
theorem catches_up (k : Nat) {s : Live Event} (keeps : s.log.Keeps s.recorded)
    (present : s.subscriber = some sub) (connected : sub.connected = true)
    (served : Served s.log s.recorded sub reach) (idle : sub.events = []) (whole : sub.missed = [])
    (kept : s.recorded.length - s.log.capacity ≤ reach) (left : s.recorded.length - reach ≤ k) :
    Lts.Reaches (step toJson extraHeaders) Action.Serves
      (fun t => ∃ now, t.subscriber = some now ∧ now.delivered = s.recorded.drop sub.since) s := by
  induction k generalizing s sub reach with
  | zero =>
    have known := served.known
    obtain rfl : reach = s.recorded.length := by omega
    exact Lts.reaches_here ⟨sub, present, delivered_all served idle whole⟩
  | succ k ih =>
    have known := served.known
    by_cases done : reach = s.recorded.length
    · rw [done] at served
      exact Lts.reaches_here ⟨sub, present, delivered_all served idle whole⟩
    · obtain ⟨start, oldest, _, length⟩ := poll_eq keeps (served.idle idle)
      have found : s.log.eventsSince sub.lastSeq ≠ [] := by
        refine List.length_pos_iff.mp ?_
        omega
      have nothing : evicted s.log s.recorded sub.lastSeq = [] := by
        refine List.eq_nil_iff_forall_not_mem.mpr fun n gone => ?_
        have bounds := (mem_evicted keeps).mp gone
        have cursor := served.idle idle
        omega
      have first : step toJson extraHeaders s .poll = some { s with subscriber := some { sub with
          events := s.log.eventsSince sub.lastSeq
          missed := sub.missed ++ evicted s.log s.recorded sub.lastSeq } } := by
        simp only [step, present, connected, idle, List.isEmpty_nil, Bool.and_self, if_true]
      have later := @served_poll _ _ _ sub _ sub.sent keeps served idle found
      refine Lts.reaches_of_step first trivial (reaches_of_delivered rfl connected later ?_)
      intro t now log recorded here linked since missed empty servedNow
      replace log : t.log = s.log := log
      replace recorded : t.recorded = s.recorded := recorded
      have none : now.missed = [] := by rw [missed, whole, nothing, List.append_nil]
      have again := @ih now _ t (by rw [log, recorded]; exact keeps) here linked
        (by rw [log, recorded]; exact servedNow) empty none (by rw [log, recorded]; omega)
        (by rw [recorded]; omega)
      rw [recorded, since] at again
      exact again

/-- Where every event since the subscription is told or still kept, all of them are delivered. -/
theorem catches_up_kept {s : Live Event} (keeps : s.log.Keeps s.recorded)
    (present : s.subscriber = some sub) (connected : sub.connected = true)
    (served : Served s.log s.recorded sub reach)
    (kept : ∀ e ∈ s.recorded, sub.since < e.seq →
      e ∈ sub.delivered ∨ e ∈ sub.events ∨ e ∈ s.log.buffer) :
    Lts.Reaches (step toJson extraHeaders) Action.Serves
      (fun t => ∃ now, t.subscriber = some now ∧ now.delivered = s.recorded.drop sub.since) s := by
  have known := served.known
  have cursor := served.cursor
  have since := served.since
  have found : ∀ n, sub.since < n → n ≤ s.recorded.length →
      (n ≤ reach ∧ n ∉ sub.missed) ∨ s.recorded.length - s.log.capacity < n := by
    intro n late early
    obtain ⟨e, member, rfl⟩ := List.mem_map.mp ((RingLog.mem_seqs keeps.seqs).mpr
      (show 1 ≤ n ∧ n < 1 + s.recorded.length by omega))
    rcases kept e member late with delivered | pending | buffered
    · have told := (mem_told keeps served).mp (List.mem_append_left _ delivered)
      exact Or.inl told.2.2
    · have told := (mem_told keeps served).mp (List.mem_append_right _ pending)
      exact Or.inl told.2.2
    · exact Or.inr ((RingLog.mem_buffer keeps).mp (List.mem_map_of_mem buffered)).1
  have floor : s.recorded.length - s.log.capacity ≤ reach := by
    by_cases done : reach = s.recorded.length
    · omega
    · rcases found (reach + 1) (by omega) (by omega) with told | buffered
      · omega
      · omega
  have whole : sub.missed = [] := by
    refine List.eq_nil_iff_forall_not_mem.mpr fun n gone => ?_
    have bounds := served.missed n gone
    rcases found n bounds.1 (by omega) with told | buffered
    · exact told.2 gone
    · omega
  refine reaches_of_delivered present connected served ?_
  intro t now log recorded here linked since missed empty servedNow
  have again := @catches_up Event toJson extraHeaders now reach t.recorded.length t
    (by rw [log, recorded]; exact keeps) here linked (by rw [log, recorded]; exact servedNow) empty
    (missed.trans whole) (by rw [log, recorded]; exact floor) (Nat.sub_le _ _)
  rw [recorded, since] at again
  exact again

/-- In every run of a log and one subscriber: what was sent are the frames of the delivered events;
their numbers increase from the subscription on; an event that was passed over had been evicted when a
poll asked for it, and such an event is not delivered; where none was, the events delivered are the
first of those recorded after the subscription; and where every event not yet delivered is still kept,
polls and writes deliver them all. -/
theorem stream_skips_evicted_only {capacity : Nat} {actions : List (Action Event)} {s : Live Event}
    (h : Lts.run (step toJson extraHeaders) { log := { capacity } } actions = some s)
    (present : s.subscriber = some sub) :
    Framed toJson extraHeaders sub ∧
    (sub.delivered.map Numbered.seq).Pairwise (· < ·) ∧
    (∀ e ∈ sub.delivered, sub.since < e.seq ∧ e ∈ s.recorded ∧ e.seq ∉ sub.missed) ∧
    (∀ e ∈ s.recorded, sub.since < e.seq → (∃ later ∈ sub.delivered, e.seq < later.seq) →
      e ∈ sub.delivered ∨ e.seq ∈ sub.missed) ∧
    (sub.missed = [] → sub.delivered <+: s.recorded.filter (sub.since < ·.seq)) ∧
    (sub.connected = true →
      (∀ e ∈ s.recorded, sub.since < e.seq →
        e ∈ sub.delivered ∨ e ∈ sub.events ∨ e ∈ s.log.buffer) →
      Lts.Reaches (step toJson extraHeaders) Action.Serves
        (fun t => ∃ now, t.subscriber = some now ∧
          now.delivered = s.recorded.filter (sub.since < ·.seq)) s) := by
  have start : Following ({ log := { capacity } } : Live Event) :=
    ⟨RingLog.keeps_empty capacity, fun _ none => by cases none⟩
  obtain ⟨keeps, serving⟩ := Lts.run_invariant (fun _ _ _ inv _ => step_following inv) start
    (Lts.meets_of_forall (fun _ _ => trivial) _ _) h
  have framed := Lts.run_invariant (fun _ _ _ inv _ => step_framed inv) (fun _ none => by cases none)
    (Lts.meets_of_forall (fun _ _ => trivial) _ _) h sub present
  obtain ⟨reach, served⟩ := serving sub present
  have after : s.recorded.filter (sub.since < ·.seq) = s.recorded.drop sub.since := by
    rw [RingLog.filter_after keeps.seqs, Nat.add_sub_cancel]
  have known := served.known
  have increasing := told_increasing keeps served
  rw [List.map_append] at increasing
  obtain ⟨delivered_increasing, _, between⟩ := List.pairwise_append.mp increasing
  have told : ∀ e ∈ sub.delivered, e ∈ s.recorded ∧ sub.since < e.seq ∧ e.seq ≤ reach ∧
      e.seq ∉ sub.missed :=
    fun e member => (mem_told keeps served).mp (List.mem_append_left _ member)
  refine ⟨framed, delivered_increasing, ?_, ?_, ?_, ?_⟩
  · intro e member
    obtain ⟨recorded, late, _, kept⟩ := told e member
    exact ⟨late, recorded, kept⟩
  · intro e recorded late given
    obtain ⟨later, member, before⟩ := given
    by_cases gone : e.seq ∈ sub.missed
    · exact Or.inr gone
    · have reached := (told later member).2.2.1
      have here := (mem_told keeps served).mpr ⟨recorded, late, by omega, gone⟩
      rcases List.mem_append.mp here with delivered | pending
      · exact Or.inl delivered
      · -- what is still to be written comes after what is delivered
        have order := between _ (List.mem_map_of_mem member) _ (List.mem_map_of_mem pending)
        omega
  · intro whole
    have all := served.told
    rw [whole, List.filter_eq_self.mpr (by simp), List.drop_take] at all
    rw [after]
    exact (List.prefix_append _ _).trans (all ▸ List.take_prefix _ _)
  · intro connected kept
    rw [after]
    exact catches_up_kept keeps present connected served kept

def sampleArc : GlobeArcEvent := ⟨1709208000000000000, 0, 0, false⟩

/-- Three events follow the subscription in a log of two; the first of them is gone when the poll
comes, and another is recorded while the poll's events are written. -/
def burstRun : List (Action GlobeArcEvent) :=
  [.record sampleArc, .subscribe, .poll, .record sampleArc, .record sampleArc, .record sampleArc, .poll,
    .deliver, .record sampleArc, .deliver]

theorem stream_skips_evicted_burst : ∃ (s : Live GlobeArcEvent) (sub : Subscriber GlobeArcEvent),
    Lts.run (step (fun e => toString e.seq) "") { log := GlobeEventLog.make 2 } burstRun = some s ∧
    s.subscriber = some sub ∧ sub.since = 1 ∧ sub.delivered.map Numbered.seq = [3, 4] ∧
    sub.missed = [2] ∧
    Framed (fun e => toString e.seq) "" sub ∧
    (sub.delivered.map Numbered.seq).Pairwise (· < ·) ∧
    (∀ e ∈ sub.delivered, sub.since < e.seq ∧ e ∈ s.recorded ∧ e.seq ∉ sub.missed) ∧
    (∀ e ∈ s.recorded, sub.since < e.seq → (∃ later ∈ sub.delivered, e.seq < later.seq) →
      e ∈ sub.delivered ∨ e.seq ∈ sub.missed) ∧
    (sub.missed = [] → sub.delivered <+: s.recorded.filter (sub.since < ·.seq)) ∧
    (sub.connected = true →
      (∀ e ∈ s.recorded, sub.since < e.seq →
        e ∈ sub.delivered ∨ e ∈ sub.events ∨ e ∈ s.log.buffer) →
      Lts.Reaches (step (fun e => toString e.seq) "") Action.Serves
        (fun t => ∃ now, t.subscriber = some now ∧
          now.delivered = s.recorded.filter (sub.since < ·.seq)) s) :=
  ⟨_, _, rfl, rfl, rfl, rfl, rfl,
    @stream_skips_evicted_only GlobeArcEvent (fun e => toString e.seq) "" _ 2 burstRun _ rfl rfl⟩

/-- A step of a `RequestLog` is a `record` of its buffer or leaves it alone, so that what holds of a
subscriber of the buffer holds of a subscriber of the log, whatever its writer does. -/
theorem requestLog_step_follows {toJson : Numbered RequestEvent → String} {s t : RequestLog.State}
    {a : RequestLog.Action} {subscriber : Option (Subscriber RequestEvent)}
    (h : RequestLog.step s a = some t) :
    Lts.run (step toJson extraHeaders) ⟨s.ring, subscriber, s.recorded⟩
      (a.recorded.map Action.record).toList = some ⟨t.ring, subscriber, t.recorded⟩ := by
  cases RequestLog.step_transition h <;> rfl

end Atomwall.SseStream
