import Atomwall.Base.Lts
import Mathlib.Data.List.Basic
import Mathlib.Logic.Function.Basic

/-!
Programs that make calls one at a time. A contract says which calls a program may make after the
calls it has made, and what it may end with; a program that keeps its contract does so when it runs
alone and when its calls interleave with those of other programs.
-/

/-- A program over the calls `Op`: it returns, raises, or makes a call and goes on with the result. -/
inductive Prog (Op : Type) (Res : Op → Type) (ε α : Type) where
  | ret (value : α)
  | raise (fault : ε)
  | call (op : Op) (next : Res op → Prog Op Res ε α)

namespace Prog

variable {Op : Type} {Res : Op → Type} {ε α β : Type}

protected def bind : Prog Op Res ε α → (α → Prog Op Res ε β) → Prog Op Res ε β
  | ret a, f => f a
  | raise e, _ => raise e
  | call op next, f => call op fun res => (next res).bind f

def handle : Prog Op Res ε α → (ε → Prog Op Res ε α) → Prog Op Res ε α
  | ret a, _ => ret a
  | raise e, h => h e
  | call op next, h => call op fun res => (next res).handle h

instance : Monad (Prog Op Res ε) where
  pure := ret
  bind := Prog.bind

def make (op : Op) : Prog Op Res ε (Res op) := call op ret

/-- What a call returned, raised where it is an error. -/
def orRaise : Except ε α → Prog Op Res ε α
  | .ok a => ret a
  | .error e => raise e

@[simp] theorem pure_eq_ret (a : α) : (pure a : Prog Op Res ε α) = ret a := rfl

@[simp] theorem bind_eq_bind (p : Prog Op Res ε α) (f : α → Prog Op Res ε β) :
    p.bind f = p >>= f := rfl

@[simp] theorem bind_ret (a : α) (f : α → Prog Op Res ε β) : (ret a >>= f) = f a := rfl

@[simp] theorem bind_raise (e : ε) (f : α → Prog Op Res ε β) :
    ((raise e : Prog Op Res ε α) >>= f) = raise e := rfl

@[simp] theorem bind_call (op : Op) (next : Res op → Prog Op Res ε α) (f : α → Prog Op Res ε β) :
    (call op next >>= f) = call op fun res => next res >>= f := rfl

@[simp] theorem bind_make (op : Op) (f : Res op → Prog Op Res ε β) :
    (make op >>= f) = call op f := rfl

@[simp] theorem orRaise_ok (a : α) : (orRaise (.ok a) : Prog Op Res ε α) = ret a := rfl

@[simp] theorem orRaise_error (e : ε) : (orRaise (.error e) : Prog Op Res ε α) = raise e := rfl

theorem orRaise_bind (r : Except ε α) (f : α → Except ε β) :
    (orRaise (r >>= f) : Prog Op Res ε β) = orRaise r >>= fun a => orRaise (f a) := by
  cases r <;> rfl

@[simp] theorem handle_ret (a : α) (h : ε → Prog Op Res ε α) : (ret a).handle h = ret a := rfl

@[simp] theorem handle_raise (e : ε) (h : ε → Prog Op Res ε α) : (raise e).handle h = h e := rfl

@[simp] theorem handle_call (op : Op) (next : Res op → Prog Op Res ε α) (h : ε → Prog Op Res ε α) :
    (call op next).handle h = call op fun res => (next res).handle h := rfl

/-! ### Contracts -/

/-- A call that was made and what it returned. -/
structure Event (Op : Type) (Res : Op → Type) where
  op : Op
  result : Res op

/-- Which call may follow the calls made so far, newest first, and what may be ended with. -/
structure Contract (Op : Type) (Res : Op → Type) (ε α : Type) where
  allowed : List (Event Op Res) → Op → Prop
  post : List (Event Op Res) → Except ε α → Prop

/-- Having made the calls `done`, the program keeps the contract, whatever its calls return. -/
def Keeps (c : Contract Op Res ε α) : List (Event Op Res) → Prog Op Res ε α → Prop
  | done, ret a => c.post done (.ok a)
  | done, raise e => c.post done (.error e)
  | done, call op next => c.allowed done op ∧ ∀ res, Keeps c (⟨op, res⟩ :: done) (next res)

section Keeps

variable {c : Contract Op Res ε α} {done : List (Event Op Res)}

@[simp] theorem keeps_ret {a : α} : Keeps c done (ret a) ↔ c.post done (.ok a) := Iff.rfl

@[simp] theorem keeps_raise {e : ε} : Keeps c done (raise e) ↔ c.post done (.error e) := Iff.rfl

@[simp] theorem keeps_call {op : Op} {next : Res op → Prog Op Res ε α} :
    Keeps c done (call op next) ↔
      c.allowed done op ∧ ∀ res, Keeps c (⟨op, res⟩ :: done) (next res) := Iff.rfl

theorem keeps_bind {c : Contract Op Res ε β} {p : Prog Op Res ε α} {f : α → Prog Op Res ε β} :
    Keeps c done (p >>= f) ↔
      Keeps ⟨c.allowed, fun done r =>
        match r with
        | .ok a => Keeps c done (f a)
        | .error e => c.post done (.error e)⟩ done p := by
  induction p generalizing done with
  | ret a => exact Iff.rfl
  | raise e => exact Iff.rfl
  | call op next ih =>
    simp only [bind_call, keeps_call]
    exact and_congr_right fun _ => forall_congr' fun res => ih res

theorem keeps_handle {p : Prog Op Res ε α} {h : ε → Prog Op Res ε α} :
    Keeps c done (p.handle h) ↔
      Keeps ⟨c.allowed, fun done r =>
        match r with
        | .ok a => c.post done (.ok a)
        | .error e => Keeps c done (h e)⟩ done p := by
  induction p generalizing done with
  | ret a => exact Iff.rfl
  | raise e => exact Iff.rfl
  | call op next ih =>
    simp only [handle_call, keeps_call]
    exact and_congr_right fun _ => forall_congr' fun res => ih res

theorem Keeps.mono {other : Contract Op Res ε α} {p : Prog Op Res ε α} (h : Keeps c done p)
    (allowed : ∀ done op, c.allowed done op → other.allowed done op)
    (post : ∀ done r, c.post done r → other.post done r) : Keeps other done p := by
  induction p generalizing done with
  | ret a => exact post _ _ h
  | raise e => exact post _ _ h
  | call op next ih => exact ⟨allowed _ _ h.1, fun res => ih res (h.2 res)⟩

/-- Calls that are all allowed, and an end that the calls made so far settle. -/
theorem keeps_of_post {p : Prog Op Res ε α} (allowed : ∀ done op, c.allowed done op)
    (post : ∀ later r, c.post (later ++ done) r) : Keeps c done p := by
  induction p generalizing done with
  | ret a => exact post [] _
  | raise e => exact post [] _
  | call op next ih =>
    refine ⟨allowed _ _, fun res => ih res fun later r => ?_⟩
    have settled := post (later ++ [⟨op, res⟩]) r
    rwa [List.append_assoc, List.singleton_append] at settled

end Keeps

/-! ### A program that runs alone -/

section Alone

variable {M S : Type} (sem : (op : Op) → M → S → Res op × S)

/-- The calls a program has made, newest first, what it ended with and the store it left. -/
structure Ran (Op : Type) (Res : Op → Type) (ε α S : Type) where
  done : List (Event Op Res)
  result : Except ε α
  store : S

/-- The program run with nothing between its calls, after the calls `done`; the `n`-th call from now
is made at `moments n`. -/
def exec : Prog Op Res ε α → List (Event Op Res) → (Nat → M) → S → Ran Op Res ε α S
  | ret a, done, _, s => ⟨done, .ok a, s⟩
  | raise e, done, _, s => ⟨done, .error e, s⟩
  | call op next, done, moments, s =>
    let made := sem op (moments 0) s
    (next made.1).exec (⟨op, made.1⟩ :: done) (fun n => moments (n + 1)) made.2

variable {sem} {c : Contract Op Res ε α} {p : Prog Op Res ε α} {done : List (Event Op Res)}

/-- A program that keeps its contract ends as the contract says, in a store that has every invariant
which the allowed calls preserve. -/
theorem Keeps.exec {inv : List (Event Op Res) → S → Prop} (keeps : Keeps c done p) {moments : Nat → M}
    (preserved : ∀ done op n s, inv done s → c.allowed done op →
      inv (⟨op, (sem op (moments n) s).1⟩ :: done) (sem op (moments n) s).2)
    {s : S} (start : inv done s) :
    inv (p.exec sem done moments s).done (p.exec sem done moments s).store ∧
      c.post (p.exec sem done moments s).done (p.exec sem done moments s).result := by
  induction p generalizing done moments s with
  | ret a => exact ⟨start, keeps⟩
  | raise e => exact ⟨start, keeps⟩
  | call op next ih =>
    exact ih _ (keeps.2 _) (fun done op n => preserved done op (n + 1))
      (preserved _ _ 0 _ start keeps.1)

end Alone

/-! ### Programs of some calls only -/

/-- Every call that the program can come to is an allowed one. -/
def Only (allowed : Op → Prop) : Prog Op Res ε α → Prop
  | ret _ => True
  | raise _ => True
  | call op next => allowed op ∧ ∀ res, Only allowed (next res)

section Only

variable {allowed : Op → Prop}

theorem only_ret (a : α) : (ret a : Prog Op Res ε α).Only allowed := trivial

theorem only_make {op : Op} (own : allowed op) : (make op : Prog Op Res ε (Res op)).Only allowed :=
  ⟨own, fun _ => trivial⟩

theorem only_orRaise (r : Except ε α) : (orRaise r : Prog Op Res ε α).Only allowed := by
  cases r <;> trivial

theorem only_bind {p : Prog Op Res ε α} {f : α → Prog Op Res ε β} (first : p.Only allowed)
    (rest : ∀ a, (f a).Only allowed) : (p >>= f).Only allowed := by
  induction p with
  | ret a => exact rest a
  | raise e => trivial
  | call op next ih => exact ⟨first.1, fun res => ih res (first.2 res)⟩

theorem only_handle {p : Prog Op Res ε α} {h : ε → Prog Op Res ε α} (first : p.Only allowed)
    (rest : ∀ e, (h e).Only allowed) : (p.handle h).Only allowed := by
  induction p with
  | ret a => trivial
  | raise e => exact rest e
  | call op next ih => exact ⟨first.1, fun res => ih res (first.2 res)⟩

/-- What the allowed calls keep is kept by the program. -/
theorem Only.exec {M S : Type} {sem : (op : Op) → M → S → Res op × S} {inv : S → Prop}
    {p : Prog Op Res ε α} (only : p.Only allowed)
    (preserved : ∀ op m s, allowed op → inv s → inv (sem op m s).2) {done : List (Event Op Res)}
    {moments : Nat → M} {s : S} (start : inv s) : inv (p.exec sem done moments s).store := by
  induction p generalizing done moments s with
  | ret a => exact start
  | raise e => exact start
  | call op next ih => exact ih _ (only.2 _) (preserved op _ s only.1 start)

end Only

/-! ### Programs whose calls interleave -/

section Interleaved

variable {ι M S : Type} [DecidableEq ι]

structure Entry (ι M Op : Type) (Res : Op → Type) where
  thread : ι
  moment : M
  event : Event Op Res

/-- The store, what is left of each program, and the calls made so far, newest first. -/
structure Pool (ι M Op : Type) (Res : Op → Type) (ε α S : Type) where
  store : S
  threads : ι → Prog Op Res ε α
  log : List (Entry ι M Op Res) := []

def historyOf (i : ι) (log : List (Entry ι M Op Res)) : List (Event Op Res) :=
  (log.filter fun e => e.thread = i).map Entry.event

@[simp] theorem historyOf_nil (i : ι) : historyOf i ([] : List (Entry ι M Op Res)) = [] := rfl

theorem historyOf_cons_same {i : ι} {log : List (Entry ι M Op Res)} {m : M} {e : Event Op Res} :
    historyOf i (⟨i, m, e⟩ :: log) = e :: historyOf i log := by
  simp [historyOf]

theorem historyOf_cons_other {i j : ι} (other : j ≠ i) {log : List (Entry ι M Op Res)} {m : M}
    {e : Event Op Res} : historyOf i (⟨j, m, e⟩ :: log) = historyOf i log := by
  simp [historyOf, other]

theorem mem_historyOf {i : ι} {log : List (Entry ι M Op Res)} {e : Event Op Res} :
    e ∈ historyOf i log ↔ ∃ m, ⟨i, m, e⟩ ∈ log := by
  simp only [historyOf, List.mem_map, List.mem_filter, decide_eq_true_eq]
  constructor
  · rintro ⟨⟨_, m, _⟩, ⟨member, rfl⟩, rfl⟩
    exact ⟨m, member⟩
  · rintro ⟨m, member⟩
    exact ⟨_, ⟨member, rfl⟩, rfl⟩

theorem mem_historyOf_cons {i : ι} {log : List (Entry ι M Op Res)} {e : Event Op Res}
    {entry : Entry ι M Op Res} (h : e ∈ historyOf i log) : e ∈ historyOf i (entry :: log) := by
  obtain ⟨m, member⟩ := mem_historyOf.mp h
  exact mem_historyOf.mpr ⟨m, List.mem_cons_of_mem _ member⟩

variable (sem : (op : Op) → M → S → Res op × S)

namespace Pool

def step (s : Pool ι M Op Res ε α S) (a : ι × M) : Option (Pool ι M Op Res ε α S) :=
  match s.threads a.1 with
  | call op next =>
    let made := sem op a.2 s.store
    some { store := made.2, threads := Function.update s.threads a.1 (next made.1),
           log := ⟨a.1, a.2, ⟨op, made.1⟩⟩ :: s.log }
  | _ => none

variable {sem} {s t : Pool ι M Op Res ε α S} {c : ι → Contract Op Res ε α}

theorem step_call {i : ι} {m : M} (h : step sem s (i, m) = some t) :
    ∃ op next, s.threads i = call op next ∧
      t = { store := (sem op m s.store).2,
            threads := Function.update s.threads i (next (sem op m s.store).1),
            log := ⟨i, m, ⟨op, (sem op m s.store).1⟩⟩ :: s.log } := by
  unfold step at h
  split at h
  · next op next calls => exact ⟨op, next, calls, (Option.some.inj h).symm⟩
  · cases h

theorem step_of_call {i : ι} {m : M} {op : Op} {next : Res op → Prog Op Res ε α}
    (calls : s.threads i = call op next) :
    step sem s (i, m) = some
      { store := (sem op m s.store).2,
        threads := Function.update s.threads i (next (sem op m s.store).1),
        log := ⟨i, m, ⟨op, (sem op m s.store).1⟩⟩ :: s.log } := by
  unfold step
  rw [calls]

theorem run_log {actions : List (ι × M)} (h : Lts.run (step sem) s actions = some t) :
    ∃ later, t.log = later ++ s.log := by
  induction actions generalizing s with
  | nil =>
    obtain rfl := Option.some.inj h
    exact ⟨[], rfl⟩
  | cons a actions ih =>
    obtain ⟨next, first, rest⟩ := Lts.run_cons_some.mp h
    obtain ⟨op, after, _, rfl⟩ := step_call first
    obtain ⟨later, grown⟩ := ih rest
    exact ⟨later ++ [_], by rw [grown, List.append_assoc]; rfl⟩

def Kept (c : ι → Contract Op Res ε α) (s : Pool ι M Op Res ε α S) : Prop :=
  ∀ i, Keeps (c i) (historyOf i s.log) (s.threads i)

theorem step_kept {a : ι × M} (kept : Kept c s) (h : step sem s a = some t) : Kept c t := by
  obtain ⟨i, m⟩ := a
  obtain ⟨op, next, calls, rfl⟩ := step_call h
  intro j
  by_cases same : i = j
  · subst same
    have here := kept i
    rw [calls] at here
    rw [historyOf_cons_same]
    simpa using here.2 _
  · rw [historyOf_cons_other same]
    simpa [Function.update_of_ne (Ne.symm same)] using kept j

theorem run_keeps {actions : List (ι × M)} (kept : Kept c s)
    (h : Lts.run (step sem) s actions = some t) : Kept c t :=
  Lts.run_invariant (fun _ _ _ kept _ first => step_kept kept first) kept
    (@Lts.meets_of_forall _ _ _ (fun _ _ => True) (fun _ _ => trivial) s actions) h

/-- Programs that keep their contracts go on keeping them, and the store has every invariant, of it
and of the log, which the allowed calls preserve. -/
theorem run_kept {inv : List (Entry ι M Op Res) → S → Prop} {cond : Pool ι M Op Res ε α S → ι × M → Prop}
    (preserved : ∀ (now : Pool ι M Op Res ε α S) i m op next, now.threads i = call op next →
      Kept c now → (c i).allowed (historyOf i now.log) op → cond now (i, m) → inv now.log now.store →
      inv (⟨i, m, ⟨op, (sem op m now.store).1⟩⟩ :: now.log) (sem op m now.store).2)
    (kept : Kept c s) (start : inv s.log s.store) {actions : List (ι × M)}
    (meets : Lts.Meets (step sem) cond s actions)
    (h : Lts.run (step sem) s actions = some t) : Kept c t ∧ inv t.log t.store := by
  refine @Lts.run_invariant _ _ _ cond s t (fun now => Kept c now ∧ inv now.log now.store) actions ?_
    ⟨kept, start⟩ meets h
  intro now a next ⟨kept, holds⟩ meets first
  refine ⟨step_kept kept first, ?_⟩
  obtain ⟨i, m⟩ := a
  obtain ⟨op, rest, calls, rfl⟩ := step_call first
  have here := kept i
  rw [calls] at here
  exact preserved now i m op rest calls kept here.1 meets holds

end Pool

end Interleaved

end Prog
