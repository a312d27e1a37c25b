import Mathlib.Data.List.Basic
import Mathlib.Data.List.Infix

/-!
Messages framed in a stream that arrives in reads of any size. Each message is a header and a body,
which the parser takes from the front of a buffer; a connection reads and answers one message after the
other.
-/

namespace Framing

variable {β α σ η κ μ ρ : Type*}

/-- What the buffer starts with and what follows it; none while more is needed. -/
abbrev Decoder (β α : Type*) := List β → Option (α × List β)

/-- Before anything, the decoder takes exactly `w` for `a`, and needs all of it. -/
def Decoder.Exact (d : Decoder β α) (w : List β) (a : α) : Prop :=
  (∀ rest, d (w ++ rest) = some (a, rest)) ∧ ∀ part, part <+: w → part ≠ w → d part = none

/-- Reads into the buffer until the decoder is done. -/
def read (d : Decoder β α) : List β → List (List β) → Option (α × List β × List (List β))
  | buffer, [] => (d buffer).map fun found => (found.1, found.2, [])
  | buffer, r :: reads =>
    match d buffer with
    | some found => some (found.1, found.2, r :: reads)
    | none => read d (buffer ++ r) reads

theorem read_some {d : Decoder β α} {buffer : List β} {reads : List (List β)} {a : α} {rest : List β}
    (h : d buffer = some (a, rest)) : read d buffer reads = some (a, rest, reads) := by
  cases reads with
  | nil => simp [read, h]
  | cons r reads => simp [read, h]

theorem read_length {d : Decoder β α} {buffer rest : List β} {reads left : List (List β)} {a : α}
    (h : read d buffer reads = some (a, rest, left)) : left.length ≤ reads.length := by
  induction reads generalizing buffer with
  | nil =>
    simp only [read, Option.map_eq_some_iff, Prod.mk.injEq] at h
    obtain ⟨_, _, _, _, rfl⟩ := h
    exact Nat.le_refl _
  | cons r reads ih =>
    unfold read at h
    split at h
    · cases h
      exact Nat.le_refl _
    · exact Nat.le_succ_of_le (ih h)

theorem Decoder.Exact.needs_more {d : Decoder β α} {w tail more : List β} {a : α}
    (exact : d.Exact w a) {buffer : List β} (split : buffer ++ more = w ++ tail)
    (short : ¬ w <+: buffer) : d buffer = none := by
  apply exact.2 buffer
  · rcases List.prefix_or_prefix_of_prefix (List.prefix_append buffer more)
      (split ▸ List.prefix_append w tail) with part | whole
    · exact part
    · exact absurd whole short
  · rintro rfl
    exact short (List.prefix_refl _)

/-- What a read until `w` has come takes up: the reads up to the first at which `w` is there. -/
theorem read_exact {d : Decoder β α} {w tail : List β} {a : α} (exact : d.Exact w a) {buffer : List β}
    {reads : List (List β)} (split : buffer ++ reads.flatten = w ++ tail) :
    ∃ rest used left, read d buffer reads = some (a, rest, left) ∧ reads = used ++ left ∧
      buffer ++ used.flatten = w ++ rest ∧
      ∀ before after, reads = before ++ after → w <+: buffer ++ before.flatten → used <+: before := by
  have there (buffer : List β) (reads : List (List β)) (here : w <+: buffer) :
      ∃ rest used left, read d buffer reads = some (a, rest, left) ∧ reads = used ++ left ∧
        buffer ++ used.flatten = w ++ rest ∧
        ∀ before after, reads = before ++ after → w <+: buffer ++ before.flatten → used <+: before := by
    obtain ⟨rest, rfl⟩ := here
    exact ⟨rest, [], reads, read_some (exact.1 rest), rfl, by simp, fun _ _ _ _ => List.nil_prefix⟩
  induction reads generalizing buffer with
  | nil => exact there buffer [] ⟨tail, by simpa using split.symm⟩
  | cons r reads ih =>
    by_cases here : w <+: buffer
    · exact there buffer (r :: reads) here
    · have needs := exact.needs_more split here
      rw [List.flatten_cons, ← List.append_assoc] at split
      obtain ⟨rest, used, left, done, taken, flat, least⟩ := ih split
      refine ⟨rest, r :: used, left, ?_, by rw [taken, List.cons_append], ?_, ?_⟩
      · rw [read, needs]
        exact done
      · rw [List.flatten_cons, ← List.append_assoc, flat]
      · intro before after cut whole
        cases before with
        | nil => exact absurd (by simpa using whole) here
        | cons first before =>
          obtain ⟨rfl, later⟩ := List.cons.inj cut
          rw [List.flatten_cons, ← List.append_assoc] at whole
          exact List.cons_prefix_cons.mpr ⟨rfl, least before after later whole⟩

theorem read_nothing {d : Decoder β α} (needs : d [] = none) {reads : List (List β)}
    (empty : reads.flatten = []) : read d [] reads = none := by
  induction reads with
  | nil => simp [read, needs]
  | cons r reads ih =>
    obtain ⟨rfl, empty⟩ := List.append_eq_nil_iff.mp (List.flatten_cons ▸ empty)
    rw [read, needs]
    exact ih empty

/-! ### Messages -/

/-- No buffer without a byte in it holds a header. -/
structure Parser (β η μ : Type*) where
  header : Decoder β η
  body : η → Decoder β μ
  header_nil : header [] = none

/-- A message as it is sent. -/
structure Sent (β η μ : Type*) where
  header : η
  message : μ
  head : List β
  body : List β

def Sent.bytes (m : Sent β η μ) : List β := m.head ++ m.body

def wires (sent : List (Sent β η μ)) : List β := sent.flatMap Sent.bytes

/-- The parser reads the message from its bytes, and no byte more. -/
structure Parser.Frames (p : Parser β η μ) (m : Sent β η μ) : Prop where
  header : p.header.Exact m.head m.header
  body : (p.body m.header).Exact m.body m.message

theorem read_message {p : Parser β η μ} {m : Sent β η μ} (frames : p.Frames m) {tail : List β}
    {reads : List (List β)} (split : reads.flatten = m.bytes ++ tail) :
    ∃ buffer between rest used left, read p.header [] reads = some (m.header, buffer, between) ∧
      read (p.body m.header) buffer between = some (m.message, rest, left) ∧
      reads = used ++ left ∧ used.flatten = m.bytes ++ rest ∧
      ∀ before after, reads = before ++ after → m.bytes <+: before.flatten → used <+: before := by
  obtain ⟨buffer, first, between, head, taken, flat, least⟩ :=
    @read_exact _ _ _ _ (m.body ++ tail) _ frames.header [] reads
      (by rw [List.nil_append, split, Sent.bytes, List.append_assoc])
  rw [List.nil_append] at flat
  have onward : buffer ++ between.flatten = m.body ++ tail := by
    apply (List.append_right_inj m.head).mp
    rw [← List.append_assoc, ← flat, ← List.flatten_append, ← taken, split, Sent.bytes,
      List.append_assoc]
  obtain ⟨rest, second, left, body, taken', flat', least'⟩ := read_exact frames.body onward
  refine ⟨buffer, between, rest, first ++ second, left, head, body, ?_, ?_, ?_⟩
  · rw [taken, taken', List.append_assoc]
  · rw [List.flatten_append, flat, List.append_assoc, flat', Sent.bytes, List.append_assoc]
  · intro before after cut whole
    have part : m.head <+: before.flatten := (List.prefix_append m.head m.body).trans whole
    obtain ⟨more, rfl⟩ := least before after cut (by simpa using part)
    have cut' : between = more ++ after := by
      apply (List.append_right_inj first).mp
      rw [← taken, cut, List.append_assoc]
    rw [List.flatten_append, flat, List.append_assoc, Sent.bytes] at whole
    have covered : m.body <+: buffer ++ more.flatten := (List.prefix_append_right_inj m.head).mp whole
    obtain ⟨others, rfl⟩ := least' more after cut' covered
    exact ⟨others, by rw [List.append_assoc]⟩

/-! ### Connections -/

/-- What a server does with a message: on its header alone, where an answer ends the connection, and
once its body is there, where it answers and says whether the connection ends, or fails. -/
structure Service (σ η κ μ ρ : Type*) where
  onHeader : σ → η → (ρ ⊕ κ) × σ
  onMessage : σ → κ → μ → Option (ρ × Bool) × σ

structure Answered (η μ ρ : Type*) where
  header : η
  message : Option μ
  answer : ρ

/-- What has been answered, what was left in the buffers that were given up between two messages, and
the state at the end. -/
structure Session (β σ η μ ρ : Type*) where
  answered : List (Answered η μ ρ)
  discarded : List (List β)
  state : σ

theorem read_header_length {p : Parser β η μ} {reads left : List (List β)} {header : η} {rest : List β}
    (h : read p.header [] reads = some (header, rest, left)) : left.length < reads.length := by
  cases reads with
  | nil => simp [read, p.header_nil] at h
  | cons r reads =>
    rw [read, p.header_nil] at h
    exact Nat.lt_succ_of_le (read_length h)

/-- One message after the other, each read into a buffer of its own. -/
def connection (p : Parser β η μ) (svc : Service σ η κ μ ρ) (s : σ) (reads : List (List β)) :
    Session β σ η μ ρ :=
  match _ : read p.header [] reads with
  | none => ⟨[], [], s⟩
  | some (header, buffer, between) =>
    match svc.onHeader s header with
    | (.inl answer, s) => ⟨[⟨header, none, answer⟩], [], s⟩
    | (.inr context, s) =>
      match _ : read (p.body header) buffer between with
      | none => ⟨[], [], s⟩
      | some (message, buffer, left) =>
        match svc.onMessage s context message with
        | (none, s) => ⟨[], [], s⟩
        | (some (answer, closes), s) =>
          if closes then ⟨[⟨header, some message, answer⟩], [], s⟩
          else
            let later := connection p svc s left
            ⟨⟨header, some message, answer⟩ :: later.answered, buffer :: later.discarded, later.state⟩
termination_by reads.length
decreasing_by exact Nat.lt_of_le_of_lt (read_length ‹_›) (read_header_length ‹_›)

/-- The messages have been answered, and no byte was given up between two of them. -/
def Session.Serves (session : Session β σ η μ ρ) (sent : List (Sent β η μ)) : Prop :=
  List.Forall₂ (fun a m => a.header = m.header ∧ ∀ message ∈ a.message, message = m.message)
    session.answered sent ∧ ∀ buffer ∈ session.discarded, buffer = []

/-- Each message is answered, and no answer but the last ends the connection. -/
def Service.staysOpen (svc : Service σ η κ μ ρ) : σ → List (Sent β η μ) → Bool
  | _, [] => true
  | s, m :: later =>
    match svc.onHeader s m.header with
    | (.inl _, _) => later.isEmpty
    | (.inr context, s) =>
      match svc.onMessage s context m.message with
      | (none, _) => false
      | (some (_, closes), s) => if closes then later.isEmpty else svc.staysOpen s later

/-- Every message but the last ends where a read ends. -/
def EndsWithReads (sent : List (Sent β η μ)) (reads : List (List β)) : Prop :=
  ∀ first later, sent = first ++ later → later ≠ [] →
    ∃ before after, reads = before ++ after ∧ before.flatten = wires first

/-- What becomes of a connection once a message has been read: `left` are the reads to come, `rest` is
what the buffer holds of them. -/
def Session.after (p : Parser β η μ) (svc : Service σ η κ μ ρ) (s : σ) (header : η) (message : μ)
    (rest : List β) (left : List (List β)) : Session β σ η μ ρ :=
  match svc.onHeader s header with
  | (.inl answer, s) => ⟨[⟨header, none, answer⟩], [], s⟩
  | (.inr context, s) =>
    match svc.onMessage s context message with
    | (none, s) => ⟨[], [], s⟩
    | (some (answer, closes), s) =>
      if closes then ⟨[⟨header, some message, answer⟩], [], s⟩
      else
        let later := connection p svc s left
        ⟨⟨header, some message, answer⟩ :: later.answered, rest :: later.discarded, later.state⟩

variable {p : Parser β η μ} {svc : Service σ η κ μ ρ} {s : σ} {m : Sent β η μ}
  {later : List (Sent β η μ)} {reads used left : List (List β)} {rest : List β}

theorem connection_nothing (empty : reads.flatten = []) : connection p svc s reads = ⟨[], [], s⟩ := by
  rw [connection, read_nothing p.header_nil empty]

theorem connection_message {buffer : List β} {between : List (List β)}
    (head : read p.header [] reads = some (m.header, buffer, between))
    (body : read (p.body m.header) buffer between = some (m.message, rest, left)) :
    connection p svc s reads = Session.after p svc s m.header m.message rest left := by
  rw [connection, head]
  unfold Session.after
  dsimp only
  split
  · rfl
  · rw [body]

@[simp] theorem wires_nil : wires ([] : List (Sent β η μ)) = [] := rfl

@[simp] theorem wires_cons : wires (m :: later) = m.bytes ++ wires later := List.flatMap_cons

theorem endsWithReads_nil : EndsWithReads ([] : List (Sent β η μ)) reads := by
  intro first later split more
  exact absurd (List.append_eq_nil_iff.mp split.symm).2 more

theorem endsWithReads_single : EndsWithReads [m] reads := by
  intro first later split more
  cases first with
  | nil => exact ⟨[], reads, rfl, rfl⟩
  | cons first others =>
    have none := (List.cons.inj split).2
    exact absurd (List.append_eq_nil_iff.mp none.symm).2 more

theorem not_endsWithReads (more : later ≠ []) (flat : used.flatten = m.bytes ++ rest)
    (least : ∀ before after, reads = before ++ after → m.bytes <+: before.flatten → used <+: before)
    (beyond : rest ≠ []) : ¬ EndsWithReads (m :: later) reads := by
  intro ends
  obtain ⟨before, after, cut, here⟩ := ends [m] later rfl more
  rw [wires_cons, wires_nil, List.append_nil] at here
  obtain ⟨others, rfl⟩ := least before after cut (by rw [here])
  rw [List.flatten_append, flat, List.append_assoc] at here
  have none := List.append_right_eq_self.mp here
  exact beyond (List.append_eq_nil_iff.mp none).1

theorem endsWithReads_cons (taken : reads = used ++ left) (flat : used.flatten = m.bytes)
    (least : ∀ before after, reads = before ++ after → m.bytes <+: before.flatten → used <+: before) :
    EndsWithReads (m :: later) reads ↔ EndsWithReads later left := by
  constructor
  · intro ends first others split more
    obtain ⟨before, after, cut, here⟩ := ends (m :: first) others (by rw [split, List.cons_append]) more
    rw [wires_cons] at here
    obtain ⟨before, rfl⟩ := least before after cut (by rw [here]; exact List.prefix_append _ _)
    refine ⟨before, after, ?_, ?_⟩
    · rw [taken, List.append_assoc] at cut
      exact List.append_cancel_left cut
    · rw [List.flatten_append, flat] at here
      exact List.append_cancel_left here
  · intro ends first others split more
    cases first with
    | nil => exact ⟨[], reads, rfl, rfl⟩
    | cons first firsts =>
      obtain ⟨rfl, rest⟩ := List.cons.inj split
      obtain ⟨before, after, cut, here⟩ := ends firsts others rest more
      refine ⟨used ++ before, after, by rw [taken, cut, List.append_assoc], ?_⟩
      rw [List.flatten_append, flat, here, wires_cons]

theorem serves_last {message : Option μ} {answer : ρ} (known : ∀ x ∈ message, x = m.message) :
    (⟨[⟨m.header, message, answer⟩], [], s⟩ : Session β σ η μ ρ).Serves (m :: later) ↔ later = [] := by
  constructor
  · rintro ⟨answered, _⟩
    obtain ⟨_, rest⟩ := List.forall₂_cons.mp answered
    cases rest
    rfl
  · rintro rfl
    exact ⟨List.Forall₂.cons ⟨rfl, known⟩ List.Forall₂.nil, by simp⟩

theorem serves_cons {session : Session β σ η μ ρ} {answer : ρ} :
    (⟨⟨m.header, some m.message, answer⟩ :: session.answered, rest :: session.discarded,
        session.state⟩ : Session β σ η μ ρ).Serves (m :: later) ↔ rest = [] ∧ session.Serves later := by
  simp only [Session.Serves, List.forall₂_cons, List.mem_cons, forall_eq_or_imp, Option.mem_def,
    Option.some.injEq, forall_eq', true_and]
  exact and_left_comm

/-- The messages of a stream are all answered, without a byte lost, exactly when the server keeps the
connection open for them and every message but the last ends where a read ends. -/
theorem serves_iff {sent : List (Sent β η μ)} (frames : ∀ m ∈ sent, p.Frames m)
    (split : reads.flatten = wires sent) :
    (connection p svc s reads).Serves sent ↔
      svc.staysOpen s sent = true ∧ EndsWithReads sent reads := by
  induction sent generalizing reads s with
  | nil =>
    rw [connection_nothing split]
    exact iff_of_true ⟨List.Forall₂.nil, by simp⟩ ⟨rfl, endsWithReads_nil⟩
  | cons m later ih =>
    rw [wires_cons] at split
    obtain ⟨buffer, between, rest, used, left, head, body, taken, flat, least⟩ :=
      read_message (frames m List.mem_cons_self) split
    have single : later = [] → EndsWithReads (m :: later) reads := by
      rintro rfl
      exact endsWithReads_single
    have onward : rest ++ left.flatten = wires later := by
      apply (List.append_right_inj m.bytes).mp
      rw [← List.append_assoc, ← flat, ← List.flatten_append, ← taken, split]
    rw [connection_message head body, Session.after, Service.staysOpen]
    cases svc.onHeader s m.header with
    | mk early s =>
    cases early with
    | inl answer =>
      dsimp only
      rw [serves_last (by simp), List.isEmpty_iff]
      exact ⟨fun last => ⟨last, single last⟩, And.left⟩
    | inr context =>
      dsimp only
      cases svc.onMessage s context m.message with
      | mk late s =>
      cases late with
      | none => exact iff_of_false (fun serves => by cases serves.1) (fun stays => by cases stays.1)
      | some late =>
        obtain ⟨answer, closes⟩ := late
        cases closes with
        | true =>
          simp only [if_true]
          rw [serves_last (by simp), List.isEmpty_iff]
          exact ⟨fun last => ⟨last, single last⟩, And.left⟩
        | false =>
          simp only [Bool.false_eq_true, if_false]
          rw [serves_cons]
          by_cases beyond : rest = []
          · subst beyond
            rw [List.append_nil] at flat
            rw [endsWithReads_cons taken flat least,
              ih (fun m member => frames m (List.mem_cons_of_mem _ member)) onward]
            simp
          · have more : later ≠ [] := by
              rintro rfl
              exact beyond (List.append_eq_nil_iff.mp onward).1
            exact iff_of_false (fun serves => beyond serves.1)
              (fun stays => not_endsWithReads more flat least beyond stays.2)

theorem endsWithReads_map (sent : List (Sent β η μ)) :
    EndsWithReads sent (sent.map Sent.bytes) := by
  rintro first later rfl _
  exact ⟨first.map Sent.bytes, later.map Sent.bytes, List.map_append, (List.flatMap_def).symm⟩

end Framing
