import Atomwall.Base.Calendar
import Atomwall.Base.Decimal
import Atomwall.Base.Lts
import Atomwall.History.EventLogs
import Atomwall.Platform.Libraries

/-!
`RequestLog`: the ring buffer of recent requests, and the CSV file behind it. `record()` collects
batches, `writer_loop` takes the queue of full ones and writes them outside the mutex. Every section
that holds the mutex, every row and every flush is one action.
-/

namespace Atomwall

/-- `to_iso8601` of this file: towards zero, with milliseconds. -/
def toIso8601Millis (tp : Int) : String :=
  let ms := (tp.tdiv 1000000).tmod 1000
  let tm := Calendar.gmtime (toSeconds tp)
  String.ofList (Decimal.padded 4 (tm.year + 1900) ++ '-' :: (Decimal.padded 2 (tm.mon + 1) ++
    '-' :: (Decimal.padded 2 tm.mday ++ 'T' :: (Decimal.padded 2 tm.hour ++
    ':' :: (Decimal.padded 2 tm.min ++ ':' :: (Decimal.padded 2 tm.sec ++
    '.' :: (Decimal.padded 3 ms ++ ['Z'])))))))

def formulaLike (raw : String) : Bool :=
  match raw.toList with
  | [] => false
  | first :: _ => ['=', '+', '-', '@', '\t', '\r'].contains first

def csvEscape (raw : String) : String :=
  let value := if formulaLike raw then "'" ++ raw else raw
  if value.toList.all (fun c => !([',', '"', '\n', '\r'].contains c)) then value
  else
    String.ofList ('"' :: (value.toList.flatMap fun c => if c = '"' then ['"', c] else [c]) ++ ['"'])

def kCsvHeader : String :=
  "seq,timestamp,client_ip,country,isp,user_agent,method,path,domain,listener,blocked," ++
  "block_reason,bytes_transferred,status_code\n"

def toCsvRow (entry : Numbered RequestEvent) : String :=
  let event := entry.event
  toString entry.seq ++ "," ++ toIso8601Millis event.timestamp ++ "," ++ csvEscape event.clientIp ++
    "," ++ csvEscape event.country ++ "," ++ csvEscape event.isp ++ "," ++ csvEscape event.userAgent ++
    "," ++ csvEscape event.method ++ "," ++ csvEscape event.path ++ "," ++ csvEscape event.domain ++
    "," ++ csvEscape event.listener ++ "," ++ (if event.blocked then "true" else "false") ++ "," ++
    csvEscape event.blockReason ++ "," ++ toString event.bytesTransferred ++ "," ++
    toString event.statusCode ++ "\n"

def csvRows : List (Numbered RequestEvent) → String
  | [] => ""
  | entry :: rest => toCsvRow entry ++ csvRows rest

theorem csvRows_append (before after : List (Numbered RequestEvent)) :
    csvRows (before ++ after) = csvRows before ++ csvRows after := by
  induction before with
  | nil => exact (String.empty_append).symm
  | cons entry rest ih => rw [List.cons_append, csvRows, csvRows, ih, String.append_assoc]

/-- What the file starts with once it is open: a missing or empty one gets the header. -/
def csvStart (file : Option String) : String :=
  if file.getD "" = "" then kCsvHeader else file.getD ""

namespace RequestLog

def kCsvBatchSize : Nat := 100

/-- `writer_loop`: no thread, before it has opened the file, after that failed, waiting on `cv_`, with
the events of the batches it took that are still to be written, or after the loop. -/
inductive WriterPhase where
  | absent
  | opening
  | gaveUp
  | waiting
  | writing (rest : List (Numbered RequestEvent))
  | exited

/-- `ring` is `buffer_`, `capacity_` and `next_seq_`. `buffered` are the rows that `out` was given
since its last flush; some of them may be in the file already. The last two fields are history. -/
structure State where
  ring : RingLog RequestEvent
  csvPath : String
  pendingBatch : List (Numbered RequestEvent) := []
  writeQueue : List (List (Numbered RequestEvent)) := []
  stop : Bool := false
  writer : WriterPhase
  file : Option String
  buffered : String := ""
  recorded : List (Numbered RequestEvent) := []
  written : List (Numbered RequestEvent) := []

/-- `close` is the section of the destructor that holds the mutex; it returns once the writer has. -/
inductive Action where
  | record (event : RequestEvent)
  | openFile (opens : Bool)
  | swap
  | writeRow
  | flush
  | close

/-- The constructor. -/
def make (capacity : Nat) (csvPath : String) (file : Option String) : State :=
  { ring := { capacity }, csvPath, file, writer := if csvPath = "" then .absent else .opening }

def step (s : State) : Action → Option State
  | .record event =>
    let entry : Numbered RequestEvent := ⟨s.ring.nextSeq, event⟩
    let logged := { s with ring := s.ring.record event, recorded := s.recorded ++ [entry] }
    if s.csvPath = "" then some logged
    else if kCsvBatchSize ≤ (s.pendingBatch ++ [entry]).length then
      some { logged with pendingBatch := [], writeQueue := s.writeQueue ++ [s.pendingBatch ++ [entry]] }
    else some { logged with pendingBatch := s.pendingBatch ++ [entry] }
  | .openFile opens =>
    match s.writer with
    | .opening =>
      if opens then some { s with file := some (csvStart s.file), writer := .waiting }
      else some { s with writer := .gaveUp }
    | _ => none
  | .swap =>
    match s.writer with
    | .waiting =>
      match s.writeQueue with
      | [] => if s.stop then some { s with writer := .exited } else none
      | batches => some { s with writer := .writing batches.flatten, writeQueue := [] }
    | _ => none
  | .writeRow =>
    match s.writer with
    | .writing (entry :: rest) =>
      some { s with buffered := s.buffered ++ toCsvRow entry, written := s.written ++ [entry],
                    writer := .writing rest }
    | _ => none
  | .flush =>
    match s.writer with
    | .writing [] =>
      some { s with file := s.file.map (· ++ s.buffered), buffered := "", writer := .waiting }
    | _ => none
  | .close =>
    match s.writer with
    | .absent => some s
    | _ =>
      if s.pendingBatch = [] then some { s with stop := true }
      else
        some { s with writeQueue := s.writeQueue ++ [s.pendingBatch], pendingBatch := [], stop := true }

def eventsSince (s : State) (sinceSeq : Nat) (limit : Nat := 500) : List (Numbered RequestEvent) :=
  s.ring.eventsSince sinceSeq limit

def latestSeq (s : State) : Nat := s.ring.latestSeq

def WriterPhase.taken : WriterPhase → List (Numbered RequestEvent)
  | .writing rest => rest
  | _ => []

def entryOf (s : State) (event : RequestEvent) : Numbered RequestEvent := ⟨s.ring.nextSeq, event⟩

def logged (s : State) (event : RequestEvent) : State :=
  { s with ring := s.ring.record event, recorded := s.recorded ++ [entryOf s event] }

/-- What each enabled action does, guards included. -/
inductive Transition : State → Action → State → Prop where
  | recordOnly {s event} (disabled : s.csvPath = "") : Transition s (.record event) (logged s event)
  | recordPending {s event} (enabled : s.csvPath ≠ "")
      (room : (s.pendingBatch ++ [entryOf s event]).length < kCsvBatchSize) :
      Transition s (.record event)
        { logged s event with pendingBatch := s.pendingBatch ++ [entryOf s event] }
  | recordFull {s event} (enabled : s.csvPath ≠ "")
      (full : kCsvBatchSize ≤ (s.pendingBatch ++ [entryOf s event]).length) :
      Transition s (.record event)
        { logged s event with pendingBatch := []
                              writeQueue := s.writeQueue ++ [s.pendingBatch ++ [entryOf s event]] }
  | opened {s} (opening : s.writer = .opening) :
      Transition s (.openFile true) { s with file := some (csvStart s.file), writer := .waiting }
  | gaveUp {s} (opening : s.writer = .opening) :
      Transition s (.openFile false) { s with writer := .gaveUp }
  | swap {s} (waiting : s.writer = .waiting) (queued : s.writeQueue ≠ []) :
      Transition s .swap { s with writer := .writing s.writeQueue.flatten, writeQueue := [] }
  | exit {s} (waiting : s.writer = .waiting) (drained : s.writeQueue = []) (stopped : s.stop = true) :
      Transition s .swap { s with writer := .exited }
  | writeRow {s entry rest} (writing : s.writer = .writing (entry :: rest)) :
      Transition s .writeRow { s with buffered := s.buffered ++ toCsvRow entry
                                      written := s.written ++ [entry], writer := .writing rest }
  | flush {s} (written : s.writer = .writing []) :
      Transition s .flush { s with file := s.file.map (· ++ s.buffered), buffered := ""
                                   writer := .waiting }
  | closeDisabled {s} (absent : s.writer = .absent) : Transition s .close s
  | close {s} (present : s.writer ≠ .absent) (drained : s.pendingBatch = []) :
      Transition s .close { s with stop := true }
  | closeFlush {s} (present : s.writer ≠ .absent) (partly : s.pendingBatch ≠ []) :
      Transition s .close { s with writeQueue := s.writeQueue ++ [s.pendingBatch]
                                   pendingBatch := [], stop := true }

theorem step_transition {s t : State} {a : Action} (h : step s a = some t) : Transition s a t := by
  cases a with
  | record event =>
    simp only [step] at h
    split at h
    · cases h
      exact .recordOnly (by assumption)
    · split at h <;> cases h
      · exact .recordFull (by assumption) (by assumption)
      · exact .recordPending (by assumption) (Nat.lt_of_not_le (by assumption))
  | openFile opens =>
    simp only [step] at h
    split at h
    · cases opens <;> cases h
      · exact .gaveUp (by assumption)
      · exact .opened (by assumption)
    · cases h
  | swap =>
    simp only [step] at h
    split at h
    · split at h
      · split at h <;> cases h
        exact .exit (by assumption) (by assumption) (by assumption)
      · cases h
        exact .swap (by assumption) (by assumption)
    · cases h
  | writeRow =>
    simp only [step] at h
    split at h <;> cases h
    exact .writeRow (by assumption)
  | flush =>
    simp only [step] at h
    split at h <;> cases h
    exact .flush (by assumption)
  | close =>
    simp only [step] at h
    split at h
    · cases h
      exact .closeDisabled (by assumption)
    · split at h <;> cases h
      · exact .close (by assumption) (by assumption)
      · exact .closeFlush (by assumption) (by assumption)

/-! ### Nothing is lost on the way to the file -/

/-- Nothing is recorded once the destructor runs, and the file opens. -/
def Used (s : State) : Action → Prop
  | .record _ => s.stop = false
  | .openFile opens => opens = true
  | _ => True

/-- What is written, taken, queued and pending is together what was recorded. -/
structure Conserved (s : State) : Prop where
  enabled : s.csvPath ≠ ""
  numbers : s.ring.Keeps s.recorded
  all : s.written ++ s.writer.taken ++ s.writeQueue.flatten ++ s.pendingBatch = s.recorded
  stopped : s.stop = true → s.pendingBatch = []
  exited : s.writer = .exited → s.stop = true ∧ s.writeQueue = []

theorem step_conserved {s t : State} {a : Action} (inv : Conserved s) (cond : Used s a)
    (h : step s a = some t) : Conserved t := by
  obtain ⟨enabled, numbers, all, stopped, exited⟩ := inv
  have open_of_record : s.stop = false → s.stop ≠ true := by
    intro still stop
    exact absurd (still.symm.trans stop) (by decide)
  cases step_transition h with
  | recordOnly disabled => exact absurd disabled enabled
  | @recordPending event _ room =>
    have still := open_of_record cond
    refine ⟨enabled, RingLog.keeps_record numbers event, ?_, fun stop => absurd stop still,
      fun out => absurd (exited out).1 still⟩
    show s.written ++ s.writer.taken ++ s.writeQueue.flatten ++
      (s.pendingBatch ++ [entryOf s event]) = s.recorded ++ [entryOf s event]
    rw [← List.append_assoc, all]
  | @recordFull event _ full =>
    have still := open_of_record cond
    refine ⟨enabled, RingLog.keeps_record numbers event, ?_, fun stop => absurd stop still,
      fun out => absurd (exited out).1 still⟩
    show s.written ++ s.writer.taken ++
      (s.writeQueue ++ [s.pendingBatch ++ [entryOf s event]]).flatten ++ [] =
        s.recorded ++ [entryOf s event]
    rw [List.flatten_append, List.flatten_singleton, List.append_nil, ← List.append_assoc,
      ← List.append_assoc, all]
  | opened opening =>
    refine ⟨enabled, numbers, ?_, stopped, by simp⟩
    simpa [opening, WriterPhase.taken] using all
  | gaveUp opening =>
    refine ⟨enabled, numbers, ?_, stopped, by simp⟩
    simpa [opening, WriterPhase.taken] using all
  | swap waiting queued =>
    refine ⟨enabled, numbers, ?_, stopped, by simp⟩
    simpa [waiting, WriterPhase.taken] using all
  | exit waiting drained stop =>
    refine ⟨enabled, numbers, ?_, stopped, fun _ => ⟨stop, drained⟩⟩
    simpa [waiting, WriterPhase.taken] using all
  | writeRow writing =>
    refine ⟨enabled, numbers, ?_, stopped, by simp⟩
    simpa [writing, WriterPhase.taken] using all
  | flush written =>
    refine ⟨enabled, numbers, ?_, stopped, by simp⟩
    simpa [written, WriterPhase.taken] using all
  | closeDisabled => exact ⟨enabled, numbers, all, stopped, exited⟩
  | close present drained =>
    exact ⟨enabled, numbers, all, fun _ => drained, fun out => ⟨rfl, (exited out).2⟩⟩
  | closeFlush present partly =>
    refine ⟨enabled, numbers, ?_, fun _ => rfl, ?_⟩
    · simpa using all
    · intro out
      exact absurd (stopped (exited out).1) partly

/-- The file holds the rows written, up to what the stream still buffers. -/
structure FileHolds (file : Option String) (s : State) : Prop where
  unopened : s.writer = .opening → s.file = file ∧ s.written = [] ∧ s.buffered = ""
  text : s.writer ≠ .opening → ∃ text, s.file = some text ∧
    text ++ s.buffered = csvStart file ++ csvRows s.written
  flushed : s.writer = .waiting ∨ s.writer = .exited → s.buffered = ""

theorem step_fileHolds {file : Option String} {s t : State} {a : Action} (inv : FileHolds file s)
    (cond : Used s a) (h : step s a = some t) : FileHolds file t := by
  obtain ⟨unopened, text, flushed⟩ := inv
  cases step_transition h with
  | opened opening =>
    obtain ⟨same, nothing, empty⟩ := unopened opening
    refine ⟨by simp, fun _ => ⟨csvStart s.file, rfl, ?_⟩, fun _ => empty⟩
    rw [same, nothing, empty]
    rfl
  | gaveUp opening => cases cond
  | swap waiting queued =>
    exact ⟨by simp, fun _ => text (by simp [waiting]), by simp⟩
  | exit waiting drained stop =>
    exact ⟨by simp, fun _ => text (by simp [waiting]), fun _ => flushed (Or.inl waiting)⟩
  | @writeRow entry rest writing =>
    obtain ⟨old, same, holds⟩ := text (by simp [writing])
    refine ⟨by simp, fun _ => ⟨old, same, ?_⟩, by simp⟩
    rw [← String.append_assoc, holds, csvRows_append, String.append_assoc]
    simp [csvRows]
  | flush written =>
    obtain ⟨old, same, holds⟩ := text (by simp [written])
    refine ⟨by simp, fun _ => ⟨old ++ s.buffered, by simp [same], ?_⟩, fun _ => rfl⟩
    rw [String.append_empty, holds]
  | recordOnly | recordPending | recordFull | closeDisabled | close | closeFlush =>
    exact ⟨unopened, text, flushed⟩

/-! ### The destructor returns -/

def Action.OfWriter : Action → Prop
  | .openFile opens => opens = true
  | .swap | .writeRow | .flush => True
  | _ => False

/-- The writer's own steps lead it out of its loop. -/
def Exits (s : State) : Prop :=
  Lts.Reaches step Action.OfWriter (fun t => t.writer = .exited) s

theorem exits_of_waiting {queue : List (List (Numbered RequestEvent))}
    (free : ∀ s, s.stop = true → s.writer = .waiting → s.writeQueue = queue → Exits s)
    (rest : List (Numbered RequestEvent)) (s : State) (stop : s.stop = true)
    (queued : s.writeQueue = queue) (writing : s.writer = .writing rest) : Exits s := by
  induction rest generalizing s with
  | nil =>
    have first : step s .flush = some { s with
        file := s.file.map (· ++ s.buffered), buffered := "", writer := .waiting } := by
      simp only [step, writing]
    exact Lts.reaches_of_step first trivial (free _ stop rfl queued)
  | cons entry rest ih =>
    have first : step s .writeRow = some { s with
        buffered := s.buffered ++ toCsvRow entry, written := s.written ++ [entry]
        writer := .writing rest } := by
      simp only [step, writing]
    exact Lts.reaches_of_step first trivial (ih _ stop queued rfl)

/-- Once `stop_` is set, the writer writes what is queued and exits. -/
theorem stopped_exits (s : State) (stop : s.stop = true) (present : s.writer ≠ .absent)
    (opened : s.writer ≠ .gaveUp) : Exits s := by
  have drained : ∀ s : State, s.stop = true → s.writer = .waiting → s.writeQueue = [] → Exits s := by
    intro s stop waiting nothing
    have first : step s .swap = some { s with writer := .exited } := by
      simp only [step, waiting, nothing, stop, if_true]
    exact Lts.reaches_of_step first trivial (Lts.reaches_here rfl)
  have waits : ∀ s : State, s.stop = true → s.writer = .waiting → Exits s := by
    intro s stop waiting
    cases queued : s.writeQueue with
    | nil => exact drained s stop waiting queued
    | cons batch rest =>
      have first : step s .swap = some { s with
          writer := .writing (batch :: rest).flatten, writeQueue := [] } := by
        simp only [step, waiting, queued]
      exact Lts.reaches_of_step first trivial (exits_of_waiting drained _ _ stop rfl rfl)
  cases phase : s.writer with
  | absent => exact absurd phase present
  | gaveUp => exact absurd phase opened
  | opening =>
    have first : step s (.openFile true) = some { s with
        file := some (csvStart s.file), writer := .waiting } := by
      simp only [step, phase, if_true]
    exact Lts.reaches_of_step first rfl (waits _ stop rfl)
  | waiting => exact waits s stop phase
  | writing rest => exact exits_of_waiting (fun s stop waiting _ => waits s stop waiting) rest s stop rfl phase
  | exited => exact Lts.reaches_here phase

/-! ### What the file holds in the end -/

def Action.recorded : Action → Option RequestEvent
  | .record event => some event
  | _ => none

theorem run_recorded {s t : State} {actions : List Action} (h : Lts.run step s actions = some t) :
    t.recorded.map Numbered.event =
      s.recorded.map Numbered.event ++ actions.filterMap Action.recorded := by
  induction actions generalizing s with
  | nil =>
    obtain rfl := Option.some.inj h
    simp
  | cons a rest ih =>
    obtain ⟨next, first, later⟩ := Lts.run_cons_some.mp h
    rw [ih later]
    cases step_transition first with
    | recordOnly | recordPending | recordFull =>
      simp [logged, entryOf, Action.recorded]
    | _ => rw [List.filterMap_cons_none rfl]

def sampleVisit : RequestEvent :=
  { timestamp := 1709208000123000000, clientIp := "203.0.113.9", country := "unknown"
    isp := "unknown", userAgent := "=1+1", method := "GET", path := "/a,b", domain := "example.com"
    listener := "http", bytesTransferred := 12, statusCode := 200 }

/-- Two events are recorded before the file is open; the destructor finds them in a partial batch. -/
def closingRun : List Action :=
  [.record sampleVisit, .record sampleVisit, .openFile true, .close, .swap, .writeRow, .writeRow,
    .flush, .swap]

end RequestLog

end Atomwall
