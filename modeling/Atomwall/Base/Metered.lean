import Atomwall.Base.Program

/-!
Programs that also do work of their own between their calls. Work is a call here, so a run shows what
was done and in which order; erasing it gives the program back that only makes the calls.
-/

namespace Prog

/-- A call, or a piece of work. -/
inductive Metered (Op W : Type) where
  | call (op : Op)
  | work (w : W)

variable {Op W : Type} {Res : Op → Type} {R : W → Type} {ε α β M S : Type}

def Metered.Result (Res : Op → Type) (R : W → Type) : Metered Op W → Type
  | .call op => Res op
  | .work w => R w

def work (w : W) : Prog (Metered Op W) (Metered.Result Res R) ε (R w) := call (.work w) ret

def lift (R : W → Type) : Prog Op Res ε α → Prog (Metered Op W) (Metered.Result Res R) ε α
  | ret a => ret a
  | raise e => raise e
  | call op next => call (.call op) fun res => (next res).lift R

/-- The program with the results of its work put in. -/
def erase (does : ∀ w, R w) : Prog (Metered Op W) (Metered.Result Res R) ε α → Prog Op Res ε α
  | ret a => ret a
  | raise e => raise e
  | call (.call op) next => call op fun res => (next res).erase does
  | call (.work w) next => (next (does w)).erase does

/-- Work leaves the store alone. -/
def meteredSem (sem : (op : Op) → M → S → Res op × S) (does : ∀ w, R w) :
    (op : Metered Op W) → M → S → Metered.Result Res R op × S
  | .call op, m, s => sem op m s
  | .work w, _, s => (does w, s)

def Ran.works (ran : Ran (Metered Op W) (Metered.Result Res R) ε α S) : List W :=
  ran.done.reverse.filterMap fun e =>
    match e.op with
    | .call _ => none
    | .work w => some w

section

variable {does : ∀ w, R w}

@[simp] theorem erase_ret (a : α) :
    (ret a : Prog (Metered Op W) (Metered.Result Res R) ε α).erase does = ret a := rfl

@[simp] theorem erase_raise (e : ε) :
    (raise e : Prog (Metered Op W) (Metered.Result Res R) ε α).erase does = raise e := rfl

@[simp] theorem erase_lift (p : Prog Op Res ε α) : (p.lift R).erase does = p := by
  induction p with
  | ret a => rfl
  | raise e => rfl
  | call op next ih =>
    change call op (fun res => ((next res).lift R).erase does) = call op next
    exact congrArg _ (funext ih)

@[simp] theorem erase_orRaise (r : Except ε α) :
    (orRaise r : Prog (Metered Op W) (Metered.Result Res R) ε α).erase does = orRaise r := by
  cases r <;> rfl

@[simp] theorem erase_bind (p : Prog (Metered Op W) (Metered.Result Res R) ε α)
    (f : α → Prog (Metered Op W) (Metered.Result Res R) ε β) :
    (p >>= f).erase does = p.erase does >>= fun a => (f a).erase does := by
  induction p with
  | ret a => rfl
  | raise e => rfl
  | call op next ih =>
    cases op with
    | call op => exact congrArg _ (funext ih)
    | work w => exact ih (does w)

@[simp] theorem erase_work (w : W) :
    (work w : Prog (Metered Op W) (Metered.Result Res R) ε (R w)).erase does = ret (does w) := rfl

@[simp] theorem exec_work_bind {sem : (op : Op) → M → S → Res op × S} (w : W)
    (f : R w → Prog (Metered Op W) (Metered.Result Res R) ε α)
    (done : List (Event (Metered Op W) (Metered.Result Res R))) (moments : Nat → M) (s : S) :
    (work w >>= f).exec (meteredSem sem does) done moments s =
      (f (does w)).exec (meteredSem sem does) (⟨.work w, does w⟩ :: done)
        (fun n => moments (n + 1)) s := rfl

end

end Prog
