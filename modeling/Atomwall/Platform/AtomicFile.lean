import Mathlib.Logic.Function.Basic
import Atomwall.Base.Lts

/-!
`util/atomic_file.cpp`: a file is replaced, one call of the system after another. Calls fail as they like, a
write may be short or interrupted; the target holds its old state or the whole new one at any time.
-/

namespace Atomwall.AtomicFile

/-! ### Files -/

structure File where
  contents : List UInt8
  permissions : BitVec 12

abbrev Files := String → Option File

namespace Files

variable (files : Files)

/-- `O_CREAT | O_TRUNC`: one that is there keeps its permissions. -/
def openTruncated (path : String) (permissions : BitVec 12) : Files :=
  Function.update files path (some ⟨[], (files path).elim permissions File.permissions⟩)

def chmod (path : String) (permissions : BitVec 12) : Files :=
  Function.update files path ((files path).map ({ · with permissions }))

def append (path : String) (data : List UInt8) : Files :=
  Function.update files path ((files path).map fun file => { file with contents := file.contents ++ data })

def rename (source target : String) : Files := Function.update (Function.update files target (files source)) source none

def unlink (path : String) : Files := Function.update files path none

end Files

/-! ### The function, call by call -/

abbrev ModeT := BitVec 32

/-- `st_mode` of a regular file. -/
def stMode (file : File) : ModeT := 0o100000#32 ||| file.permissions.setWidth 32

inductive ExistingFileMode where
  | reset | preserve
  deriving DecidableEq

structure Request where
  path : String
  contents : List UInt8
  mode : ModeT
  existing : ExistingFileMode

def Request.temp (req : Request) : String := req.path ++ ".tmp"

inductive Errno where
  | eintr
  | other (code : Nat)

/-- The call succeeds, a write with so many bytes, or fails. -/
inductive Outcome where
  | succeeds (count : Nat)
  | fails (error : Errno)

/-- The `std::runtime_error` of `throw_errno`. -/
structure Thrown where
  what : String
  path : String
  error : Errno

/-- Which call is next; the last three belong to the destructor of `TempFile`. -/
inductive Point where
  | stat | openTemp | fchmod | write | fsync | close | rename | openParent | fsyncParent | closeParent
  | closeTemp (result : Except Thrown Unit)
  | unlinkTemp (result : Except Thrown Unit)
  | ended (result : Except Thrown Unit)

structure State where
  files : Files
  mode : ModeT
  fdOpen : Bool := false
  committed : Bool := false
  remaining : List UInt8
  point : Point

def start (req : Request) (files : Files) : State where
  files := files
  mode := req.mode
  remaining := req.contents
  point := if req.existing = .preserve then .stat else .openTemp

/-- Through the destructor of `TempFile` to the end. -/
def State.leave (s : State) (result : Except Thrown Unit) : State :=
  { s with
    point := if s.fdOpen then .closeTemp result else if !s.committed then .unlinkTemp result else .ended result }

def State.throwErrno (s : State) (what path : String) (error : Errno) : State := s.leave (.error ⟨what, path, error⟩)

/-- `while (remaining > 0)`. -/
def State.loop (s : State) : State := { s with point := if s.remaining = [] then .fsync else .write }

variable (umask : BitVec 12) (req : Request)

def step (s : State) (outcome : Outcome) : Option State :=
  match s.point with
  | .stat =>
    match s.files req.path with
    | some current => some { s with mode := stMode current &&& 0o7777#32, point := .openTemp }
    | none => some { s with point := .openTemp }
  | .openTemp =>
    match outcome with
    | .fails error => some (s.throwErrno "cannot write" req.temp error)
    | .succeeds _ => some { s with
        files := s.files.openTruncated req.temp (s.mode.setWidth 12 &&& ~~~umask), fdOpen := true, point := .fchmod }
  | .fchmod =>
    match outcome with
    | .fails error => some (s.throwErrno "cannot set permissions on" req.temp error)
    | .succeeds _ => some ({ s with files := s.files.chmod req.temp (s.mode.setWidth 12) } : State).loop
  | .write =>
    match outcome with
    | .fails .eintr => some s
    | .fails error => some (s.throwErrno "cannot write" req.temp error)
    | .succeeds count =>
      if 0 < count ∧ count ≤ s.remaining.length then
        some ({ s with files := s.files.append req.temp (s.remaining.take count)
                       remaining := s.remaining.drop count } : State).loop
      else none
  | .fsync =>
    match outcome with
    | .fails error => some (s.throwErrno "cannot sync" req.temp error)
    | .succeeds _ => some { s with point := .close }
  | .close =>
    let s := { s with fdOpen := false }
    match outcome with
    | .fails error => some (s.throwErrno "cannot close" req.temp error)
    | .succeeds _ => some { s with point := .rename }
  | .rename =>
    match outcome with
    | .fails error => some (s.throwErrno "cannot replace" req.path error)
    | .succeeds _ => some { s with files := s.files.rename req.temp req.path, committed := true, point := .openParent }
  | .openParent =>
    match outcome with
    | .fails _ => some (s.leave (.ok ()))
    | .succeeds _ => some { s with point := .fsyncParent }
  | .fsyncParent => some { s with point := .closeParent }
  | .closeParent => some (s.leave (.ok ()))
  | .closeTemp result => some ({ s with fdOpen := false }.leave result)
  | .unlinkTemp result => some { s with files := s.files.unlink req.temp, point := .ended result }
  | .ended _ => none

/-! ### What holds at each call -/

def wanted (old : Files) : BitVec 12 :=
  match req.existing, old req.path with
  | .preserve, some file => file.permissions
  | _, _ => req.mode.setWidth 12

def replacement (old : Files) : File := ⟨req.contents, wanted req old⟩

/-- The target as it was, and the temporary file. -/
structure Before (old : Files) (s : State) (temp : Option File → Prop) : Prop where
  target : s.files req.path = old req.path
  temp : temp (s.files req.temp)
  uncommitted : s.committed = false

structure After (old : Files) (s : State) : Prop where
  target : s.files req.path = some (replacement req old)
  gone : s.files req.temp = none
  closed : s.fdOpen = false
  committed : s.committed = true

/-- What is known before the call at each point. -/
def Known (old : Files) (s : State) : Prop :=
  match s.point with
  | .stat => Before req old s (fun _ => True) ∧ s.fdOpen = false ∧ s.mode = req.mode ∧
      req.existing = .preserve ∧ s.remaining = req.contents
  | .openTemp => Before req old s (fun _ => True) ∧ s.fdOpen = false ∧ s.mode.setWidth 12 = wanted req old ∧
      s.remaining = req.contents
  | .fchmod => Before req old s (∃ permissions, · = some ⟨[], permissions⟩) ∧ s.mode.setWidth 12 = wanted req old ∧
      s.remaining = req.contents
  | .write => ∃ written, Before req old s (· = some ⟨written, wanted req old⟩) ∧ written ++ s.remaining = req.contents
  | .fsync | .close => Before req old s (· = some (replacement req old))
  | .rename => Before req old s (· = some (replacement req old)) ∧ s.fdOpen = false
  | .openParent | .fsyncParent | .closeParent => After req old s
  | .closeTemp result => Before req old s (fun _ => True) ∧ ∃ thrown, result = .error thrown
  | .unlinkTemp result => Before req old s (fun _ => True) ∧ ∃ thrown, result = .error thrown
  | .ended (.ok ()) => After req old s
  | .ended (.error _) => Before req old s (· = none)

variable {umask} {req} {old : Files} {s next : State} {outcome : Outcome} {temp : Option File → Prop}

theorem temp_ne (req : Request) : req.temp ≠ req.path := by
  intro same
  have lengths := congrArg String.length same
  unfold Request.temp at lengths
  rw [String.length_append] at lengths
  have suffix : ".tmp".length = 4 := rfl
  omega

theorem stMode_permissions (file : File) : (stMode file &&& 0o7777#32).setWidth 12 = file.permissions := by
  have kind : (0o100000#32).setWidth 12 = 0#12 := by decide
  have mask : (0o7777#32).setWidth 12 = BitVec.allOnes 12 := by decide
  have back : (file.permissions.setWidth 32).setWidth 12 = file.permissions := by
    rw [BitVec.setWidth_setWidth_of_le _ (by decide), BitVec.setWidth_eq]
  unfold stMode
  rw [BitVec.setWidth_and, BitVec.setWidth_or, kind, mask, back, BitVec.zero_or, BitVec.and_allOnes]

theorem Before.change (known : Before req old s temp) {files : Files} {other : Option File → Prop}
    (apart : files req.path = s.files req.path) (holds : other (files req.temp)) :
    Before req old { s with files } other :=
  ⟨apart.trans known.target, holds, known.uncommitted⟩

theorem known_throwErrno (known : Before req old s temp) (what path : String) (error : Errno) :
    Known req old (s.throwErrno what path error) := by
  have kept : Before req old (s.throwErrno what path error) fun _ => True :=
    ⟨known.target, trivial, known.uncommitted⟩
  have point : (s.throwErrno what path error).point =
      if s.fdOpen then .closeTemp (.error ⟨what, path, error⟩) else .unlinkTemp (.error ⟨what, path, error⟩) := by
    simp [State.throwErrno, State.leave, known.uncommitted]
  unfold Known
  cases opened : s.fdOpen with
  | true =>
    rw [point, if_pos opened]
    exact ⟨kept, _, rfl⟩
  | false =>
    rw [point, if_neg (by simp [opened])]
    exact ⟨kept, _, rfl⟩

theorem known_return (known : After req old s) : Known req old (s.leave (.ok ())) := by
  have point : (s.leave (.ok ())).point = .ended (.ok ()) := by
    simp [State.leave, known.closed, known.committed]
  unfold Known
  rw [point]
  exact ⟨known.target, known.gone, known.closed, known.committed⟩

theorem known_loop {written : List UInt8} (known : Before req old s (· = some ⟨written, wanted req old⟩))
    (whole : written ++ s.remaining = req.contents) : Known req old s.loop := by
  unfold State.loop Known
  by_cases rest : s.remaining = []
  · rw [if_pos rest]
    rw [rest, List.append_nil] at whole
    subst whole
    exact ⟨known.target, known.temp, known.uncommitted⟩
  · rw [if_neg rest]
    exact ⟨written, ⟨known.target, known.temp, known.uncommitted⟩, whole⟩

theorem known_start (req : Request) (files : Files) : Known req files (start req files) := by
  have kept : Before req files (start req files) fun _ => True := ⟨rfl, trivial, rfl⟩
  unfold Known
  by_cases preserve : req.existing = .preserve
  · have point : (start req files).point = .stat := if_pos preserve
    rw [point]
    exact ⟨kept, rfl, rfl, preserve, rfl⟩
  · have point : (start req files).point = .openTemp := if_neg preserve
    rw [point]
    refine ⟨kept, rfl, ?_, rfl⟩
    unfold wanted
    cases mode : req.existing with
    | preserve => exact absurd mode preserve
    | reset => rfl

/-! ### One call -/

section Calls

variable (known : Known req old s) (taken : step umask req s outcome = some next)
include known taken

theorem stat_known (here : s.point = .stat) : Known req old next := by
  simp only [Known, here] at known
  simp only [step, here] at taken
  obtain ⟨kept, closed, mode, preserve, whole⟩ := known
  cases found : s.files req.path with
  | some current =>
    simp only [found] at taken
    obtain rfl := Option.some.inj taken
    refine ⟨⟨kept.target, trivial, kept.uncommitted⟩, closed, ?_, whole⟩
    have there : old req.path = some current := kept.target.symm.trans found
    rw [stMode_permissions, wanted, preserve, there]
  | none =>
    simp only [found] at taken
    obtain rfl := Option.some.inj taken
    refine ⟨⟨kept.target, trivial, kept.uncommitted⟩, closed, ?_, whole⟩
    have there : old req.path = none := kept.target.symm.trans found
    rw [mode, wanted, preserve, there]

theorem openTemp_known (here : s.point = .openTemp) : Known req old next := by
  simp only [Known, here] at known
  simp only [step, here] at taken
  obtain ⟨kept, closed, mode, whole⟩ := known
  cases outcome with
  | fails error =>
    obtain rfl := Option.some.inj taken
    exact known_throwErrno kept ..
  | succeeds count =>
    obtain rfl := Option.some.inj taken
    refine ⟨⟨?_, ?_, kept.uncommitted⟩, mode, whole⟩
    · exact (Function.update_of_ne (temp_ne req).symm ..).trans kept.target
    · exact ⟨_, Function.update_self ..⟩

theorem fchmod_known (here : s.point = .fchmod) : Known req old next := by
  simp only [Known, here] at known
  simp only [step, here] at taken
  obtain ⟨kept, mode, whole⟩ := known
  cases outcome with
  | fails error =>
    obtain rfl := Option.some.inj taken
    exact known_throwErrno kept ..
  | succeeds count =>
    obtain rfl := Option.some.inj taken
    obtain ⟨permissions, there⟩ := kept.temp
    refine @known_loop _ _ _ [] ⟨?_, ?_, kept.uncommitted⟩ whole
    · exact (Function.update_of_ne (temp_ne req).symm ..).trans kept.target
    · refine (Function.update_self ..).trans ?_
      rw [there, mode]
      rfl

theorem write_known (here : s.point = .write) : Known req old next := by
  have entry := known
  simp only [Known, here] at known
  simp only [step, here] at taken
  obtain ⟨written, kept, whole⟩ := known
  cases outcome with
  | fails error =>
    cases error with
    | eintr =>
      obtain rfl := Option.some.inj taken
      exact entry
    | other code =>
      obtain rfl := Option.some.inj taken
      exact known_throwErrno kept ..
  | succeeds count =>
    simp only at taken
    split at taken
    · next progress =>
      obtain rfl := Option.some.inj taken
      refine @known_loop _ _ _ (written ++ s.remaining.take count) ⟨?_, ?_, kept.uncommitted⟩ ?_
      · exact (Function.update_of_ne (temp_ne req).symm ..).trans kept.target
      · refine (Function.update_self ..).trans ?_
        rw [kept.temp]
        rfl
      · rw [List.append_assoc]
        show written ++ (s.remaining.take count ++ s.remaining.drop count) = req.contents
        rw [List.take_append_drop, whole]
    · cases taken

theorem fsync_known (here : s.point = .fsync) : Known req old next := by
  simp only [Known, here] at known
  simp only [step, here] at taken
  cases outcome with
  | fails error =>
    obtain rfl := Option.some.inj taken
    exact known_throwErrno known ..
  | succeeds count =>
    obtain rfl := Option.some.inj taken
    exact ⟨known.target, known.temp, known.uncommitted⟩

theorem close_known (here : s.point = .close) : Known req old next := by
  simp only [Known, here] at known
  simp only [step, here] at taken
  have kept : Before req old { s with fdOpen := false } (· = some (replacement req old)) :=
    ⟨known.target, known.temp, known.uncommitted⟩
  cases outcome with
  | fails error =>
    obtain rfl := Option.some.inj taken
    exact known_throwErrno kept ..
  | succeeds count =>
    obtain rfl := Option.some.inj taken
    exact ⟨⟨kept.target, kept.temp, kept.uncommitted⟩, rfl⟩

theorem rename_known (here : s.point = .rename) : Known req old next := by
  simp only [Known, here] at known
  simp only [step, here] at taken
  obtain ⟨kept, closed⟩ := known
  cases outcome with
  | fails error =>
    obtain rfl := Option.some.inj taken
    exact known_throwErrno kept ..
  | succeeds count =>
    obtain rfl := Option.some.inj taken
    refine ⟨?_, Function.update_self .., closed, rfl⟩
    refine (Function.update_of_ne (temp_ne req).symm ..).trans ?_
    exact (Function.update_self ..).trans kept.temp

theorem openParent_known (here : s.point = .openParent) : Known req old next := by
  simp only [Known, here] at known
  simp only [step, here] at taken
  cases outcome with
  | fails error =>
    obtain rfl := Option.some.inj taken
    exact known_return known
  | succeeds count =>
    obtain rfl := Option.some.inj taken
    exact ⟨known.target, known.gone, known.closed, known.committed⟩

theorem closeTemp_known {result : Except Thrown Unit} (here : s.point = .closeTemp result) : Known req old next := by
  simp only [Known, here] at known
  simp only [step, here] at taken
  obtain ⟨kept, thrown, rfl⟩ := known
  obtain rfl := Option.some.inj taken
  have closed : Before req old { s with fdOpen := false } fun _ => True := ⟨kept.target, trivial, kept.uncommitted⟩
  exact known_throwErrno closed thrown.what thrown.path thrown.error

theorem unlinkTemp_known {result : Except Thrown Unit} (here : s.point = .unlinkTemp result) : Known req old next := by
  simp only [Known, here] at known
  simp only [step, here] at taken
  obtain ⟨kept, thrown, rfl⟩ := known
  obtain rfl := Option.some.inj taken
  exact ⟨(Function.update_of_ne (temp_ne req).symm ..).trans kept.target, Function.update_self .., kept.uncommitted⟩

theorem step_known : Known req old next := by
  cases here : s.point with
  | stat => exact stat_known known taken here
  | openTemp => exact openTemp_known known taken here
  | fchmod => exact fchmod_known known taken here
  | write => exact write_known known taken here
  | fsync => exact fsync_known known taken here
  | close => exact close_known known taken here
  | rename => exact rename_known known taken here
  | openParent => exact openParent_known known taken here
  | fsyncParent =>
    simp only [Known, here] at known
    simp only [step, here] at taken
    obtain rfl := Option.some.inj taken
    exact ⟨known.target, known.gone, known.closed, known.committed⟩
  | closeParent =>
    simp only [Known, here] at known
    simp only [step, here] at taken
    obtain rfl := Option.some.inj taken
    exact known_return known
  | closeTemp result => exact closeTemp_known known taken here
  | unlinkTemp result => exact unlinkTemp_known known taken here
  | ended result => simp [step, here] at taken

end Calls

/-! ### Any number of calls -/

theorem Known.target (known : Known req old s) :
    s.files req.path = old req.path ∨ s.files req.path = some (replacement req old) := by
  unfold Known at known
  split at known
  · exact .inl known.1.target
  · exact .inl known.1.target
  · exact .inl known.1.target
  · obtain ⟨written, kept, _⟩ := known
    exact .inl kept.target
  · exact .inl known.target
  · exact .inl known.target
  · exact .inl known.1.target
  · exact .inr known.target
  · exact .inr known.target
  · exact .inr known.target
  · exact .inl known.1.target
  · exact .inl known.1.target
  · exact .inr known.target
  · exact .inl known.target

theorem run_known {outcomes : List Outcome} {files : Files}
    (reached : Lts.run (step umask req) (start req files) outcomes = some s) : Known req files s :=
  Lts.run_invariant (fun _ _ _ known _ taken => step_known known taken) (known_start req files)
    (@Lts.meets_of_forall _ _ _ (fun _ _ => True) (fun _ _ => trivial) _ outcomes) reached

/-- After any calls the target is as it was or replaced; once the function has returned it is replaced, and once
it has thrown it is as it was and the temporary file is gone. -/
theorem replaced_completely_or_not_at_all (umask : BitVec 12) (req : Request) (files : Files)
    (outcomes : List Outcome) (s : State)
    (reached : Lts.run (step umask req) (start req files) outcomes = some s) :
    (s.files req.path = files req.path ∨ s.files req.path = some (replacement req files)) ∧
    (s.point = .ended (.ok ()) → s.files req.path = some (replacement req files)) ∧
    (∀ thrown, s.point = .ended (.error thrown) →
      s.files req.path = files req.path ∧ s.files req.temp = none) := by
  have known := run_known reached
  refine ⟨known.target, fun returned => ?_, fun thrown threw => ?_⟩
  · simp only [Known, returned] at known
    exact known.target
  · simp only [Known, threw] at known
    exact ⟨known.target, known.temp⟩

def sampleRequest : Request := ⟨"users.yaml", [1, 2, 3], 0o600#32, .preserve⟩

def sampleFiles : Files := fun path => if path = "users.yaml" then some ⟨[9], 0o640#12⟩ else none

/-- A write in two parts, interrupted in between; the parent directory cannot be opened. -/
def sampleOutcomes : List Outcome :=
  [.succeeds 0, .succeeds 0, .succeeds 0, .succeeds 2, .fails .eintr, .succeeds 1, .succeeds 0, .succeeds 0,
   .succeeds 0, .fails (.other 24)]

theorem replaced_completely_or_not_at_all_interrupted :
    ∃ s, Lts.run (step 0o022#12 sampleRequest) (start sampleRequest sampleFiles) sampleOutcomes = some s ∧
      s.files "users.yaml" = some ⟨[1, 2, 3], 0o640#12⟩ :=
  ⟨_, rfl, (replaced_completely_or_not_at_all 0o022#12 sampleRequest sampleFiles sampleOutcomes _ rfl).2.1 rfl⟩

end Atomwall.AtomicFile
