import Atomwall.History.RequestLog

/-!
The CSV file over the lives of the process. Every life numbers its events from 1 on and appends them; the next one
finds what the destructor of the last one left.
-/

namespace Atomwall

namespace RequestLog

/-- The life of a log: its capacity, whether the file can be opened, and what happens. -/
structure Life where
  capacity : Nat := 5000
  opens : Bool := true
  actions : List Action

def Life.events (life : Life) : List RequestEvent := life.actions.filterMap Action.recorded

/-- The rows that the life leaves in the file. -/
def Life.rows (life : Life) : List (Numbered RequestEvent) := if life.opens then RingLog.numbered life.events else []

/-- Nothing is recorded once the destructor runs, and the file opens if it can. -/
def UsedIn (opens : Bool) (s : State) : Action → Prop
  | .record _ => s.stop = false
  | .openFile answer => answer = opens
  | _ => True

/-- The destructor has joined the writer. -/
def Ended (s : State) : Bool :=
  match s.writer with
  | .exited => true
  | .gaveUp => s.stop
  | _ => false

/-- What one life makes of the file. -/
def liveOn (csvPath : String) (file : Option String) (life : Life) : Option (Option String) :=
  (Lts.run step (make life.capacity csvPath file) life.actions).bind fun s => if Ended s then some s.file else none

def LivesWell (csvPath : String) (file : Option String) (life : Life) : Prop :=
  Lts.Meets step (UsedIn life.opens) (make life.capacity csvPath file) life.actions

variable {csvPath : String} {file : Option String} {s t : State} {a : Action} {actions : List Action} {capacity : Nat}

/-! ### A life that opens the file -/

theorem used_of_opens (used : UsedIn true s a) : Used s a := by
  cases a with
  | record | openFile => exact used
  | _ => trivial

theorem make_holds (enabled : csvPath ≠ "") :
    Conserved (make capacity csvPath file) ∧ FileHolds file (make capacity csvPath file) := by
  have opening : (make capacity csvPath file).writer = .opening := if_neg enabled
  refine ⟨⟨enabled, RingLog.keeps_empty capacity, ?_, by simp [make], ?_⟩, ?_⟩
  · rw [opening]
    rfl
  · intro out
    exact absurd (opening.symm.trans out) (by simp)
  · exact ⟨fun _ => ⟨rfl, rfl, rfl⟩, fun other => absurd opening other, fun _ => rfl⟩

/-- The events are recorded under the numbers from 1 on. -/
theorem recorded_numbered {recorded : List (Numbered RequestEvent)} (seqs : RingLog.From 1 recorded) :
    recorded = RingLog.numbered (recorded.map Numbered.event) := by
  have general : ∀ (first : Nat) (entries : List (Numbered RequestEvent)), RingLog.From first entries →
      entries = ((entries.map Numbered.event).zipIdx first).map fun item => ⟨item.2, item.1⟩ := by
    intro first entries
    induction entries generalizing first with
    | nil => exact fun _ => rfl
    | cons entry rest ih =>
      intro seqs
      obtain ⟨here, later⟩ := RingLog.from_cons.mp seqs
      rw [List.map_cons, List.zipIdx_cons, List.map_cons, ← ih (first + 1) later, ← here]
  exact general 1 recorded seqs

theorem exited_file (enabled : csvPath ≠ "") (used : Lts.Meets step (UsedIn true) (make capacity csvPath file) actions)
    (h : Lts.run step (make capacity csvPath file) actions = some s) (out : s.writer = .exited) :
    s.file = some (csvStart file ++ csvRows (RingLog.numbered (actions.filterMap Action.recorded))) := by
  have both : Conserved s ∧ FileHolds file s := @Lts.run_invariant _ _ _ _ _ _
    (fun s => Conserved s ∧ FileHolds file s) _
    (fun s a t both cond h => ⟨step_conserved both.1 cond h, step_fileHolds both.2 cond h⟩) (make_holds enabled)
    (used.mono fun _ _ => used_of_opens) h
  obtain ⟨conserved, text⟩ := both
  obtain ⟨stop, drained⟩ := conserved.exited out
  have written : s.written = s.recorded := by
    simpa [out, WriterPhase.taken, drained, conserved.stopped stop] using conserved.all
  have events : s.recorded.map Numbered.event = actions.filterMap Action.recorded := by
    simpa [make] using run_recorded h
  obtain ⟨old, same, holds⟩ := text.text (by simp [out])
  rw [text.flushed (Or.inr out), String.append_empty, written, recorded_numbered conserved.numbers.seqs, events] at holds
  rw [same, holds]

theorem opened_not_gaveUp (h : Lts.run step s actions = some t) (used : Lts.Meets step (UsedIn true) s actions)
    (start : s.writer ≠ .gaveUp) : t.writer ≠ .gaveUp := by
  refine @Lts.run_invariant _ _ _ _ _ _ (fun s => s.writer ≠ .gaveUp) _ ?_ start used h
  intro s a next before used taken
  cases step_transition taken with
  | gaveUp opening => cases used
  | recordOnly | recordPending | recordFull | closeDisabled | close | closeFlush => exact before
  | _ => simp

/-! ### A life that cannot open it -/

theorem unopened_file (used : Lts.Meets step (UsedIn false) s actions)
    (start : s.writer = .opening ∨ s.writer = .gaveUp) (h : Lts.run step s actions = some t) : t.file = s.file := by
  have kept : (t.writer = .opening ∨ t.writer = .gaveUp) ∧ t.file = s.file := by
    refine @Lts.run_invariant _ _ _ _ _ _ (fun now => (now.writer = .opening ∨ now.writer = .gaveUp) ∧ now.file = s.file)
      _ ?_ ⟨start, rfl⟩ used h
    rintro now a next ⟨phase, same⟩ used taken
    cases step_transition taken with
    | opened opening => cases used
    | gaveUp opening => exact ⟨.inr rfl, same⟩
    | recordOnly | recordPending | recordFull | closeDisabled | close | closeFlush => exact ⟨phase, same⟩
    | swap other | exit other | writeRow other | flush other =>
      rw [other] at phase
      rcases phase with phase | phase <;> cases phase
  exact kept.2

theorem liveOn_file {life : Life} {left : Option String} (enabled : csvPath ≠ "") (well : LivesWell csvPath file life)
    (lived : liveOn csvPath file life = some left) :
    left = if life.opens then some (csvStart file ++ csvRows life.rows) else file := by
  obtain ⟨capacity, opens, actions⟩ := life
  obtain ⟨s, h, ended⟩ := Option.bind_eq_some_iff.mp lived
  have opening : (make capacity csvPath file).writer = .opening := if_neg enabled
  split at ended
  · next quit =>
    obtain rfl := Option.some.inj ended
    cases opens with
    | false => exact unopened_file well (.inl opening) h
    | true =>
      refine exited_file enabled well h ?_
      have tried := opened_not_gaveUp h well (by simp [opening])
      unfold Ended at quit
      cases phase : s.writer with
      | exited => rfl
      | gaveUp => exact absurd phase tried
      | _ => simp [phase] at quit
  · cases ended

/-! ### Life after life -/

theorem csvStart_ne (file : Option String) : csvStart file ≠ "" := by
  unfold csvStart
  split
  · decide
  · assumption

theorem csvStart_left (rows : String) : csvStart (some (csvStart file ++ rows)) = csvStart file ++ rows := by
  have filled : csvStart file ++ rows ≠ "" := by
    intro none
    have parts : csvStart file = "" ∧ rows = "" := by simpa using congrArg String.toList none
    exact csvStart_ne file parts.1
  unfold csvStart at filled ⊢
  exact if_neg filled

/-- However often the process is started and ended: the file has its header once, from the first life that could open
it, and then a row for each event of every life that could, in the order in which they were recorded. -/
theorem csv_spans_lives (csvPath : String) (file final : Option String) (lives : List Life) (enabled : csvPath ≠ "")
    (well : Lts.Meets (liveOn csvPath) (LivesWell csvPath) file lives)
    (lived : Lts.run (liveOn csvPath) file lives = some final) :
    final = if lives.any Life.opens then some (csvStart file ++ csvRows (lives.flatMap Life.rows)) else file := by
  induction lives generalizing file with
  | nil => exact (Option.some.inj lived).symm
  | cons life rest ih =>
    obtain ⟨left, first, later⟩ := Lts.run_cons_some.mp lived
    have here := liveOn_file enabled well.1 first
    have there := ih left (well.2 left first) later
    cases opens : life.opens with
    | false =>
      obtain rfl : left = file := by simpa [opens] using here
      have nothing : life.rows = [] := by simp [Life.rows, opens]
      rw [there, List.any_cons, opens, Bool.false_or, List.flatMap_cons, nothing, List.nil_append]
    | true =>
      rw [opens, if_pos rfl] at here
      rw [List.any_cons, opens, Bool.true_or, if_pos rfl, List.flatMap_cons, csvRows_append, ← String.append_assoc]
      split at there
      · rw [there, here, csvStart_left]
      · next none =>
        have nothing : rest.flatMap Life.rows = [] := by
          rw [List.flatMap_eq_nil_iff]
          intro other member
          have closed : other.opens = false := by
            cases opened : other.opens with
            | false => rfl
            | true => exact absurd (List.any_eq_true.mpr ⟨other, member, opened⟩) none
          simp [Life.rows, closed]
        rw [there, here, nothing, csvRows, String.append_empty]

/-- A life whose file cannot be opened. -/
def refusedLife : Life := { opens := false, actions := [.record sampleVisit, .openFile false, .close] }

def closingLife : Life := { actions := closingRun }

theorem refusedLife_well (file : Option String) : LivesWell "data/requests.csv" file refusedLife := by
  simp [LivesWell, refusedLife, Lts.Meets, UsedIn, step, make, kCsvBatchSize]

theorem closingLife_well (file : Option String) : LivesWell "data/requests.csv" file closingLife := by
  simp [LivesWell, closingLife, closingRun, Lts.Meets, UsedIn, step, make, kCsvBatchSize]

/-- The numbers start over in the second life that opens the file. -/
theorem csv_spans_three_lives : ∃ final,
    Lts.run (liveOn "data/requests.csv") none [refusedLife, closingLife, closingLife] = some final ∧
      final = if [refusedLife, closingLife, closingLife].any Life.opens then
        some (csvStart none ++ csvRows ([refusedLife, closingLife, closingLife].flatMap Life.rows)) else none := by
  refine ⟨_, rfl, csv_spans_lives "data/requests.csv" none _ _ (by decide) ?_ rfl⟩
  exact ⟨refusedLife_well none, fun first _ => ⟨closingLife_well first, fun second _ =>
    ⟨closingLife_well second, fun _ _ => trivial⟩⟩⟩

end RequestLog

end Atomwall
