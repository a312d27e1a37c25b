import Mathlib.Data.List.Basic

/-!
Runs of a partial step function, conditions on the steps of a run, and the rule that carries an
invariant along the runs that meet a condition.
-/

namespace Lts

variable {S A : Type*}

/-- The state after the actions of the list, each enabled where it is taken. -/
def run (step : S → A → Option S) : S → List A → Option S
  | s, [] => some s
  | s, a :: rest => (step s a).bind (run step · rest)

/-- Every step of the run meets `cond` in the state before it. -/
def Meets (step : S → A → Option S) (cond : S → A → Prop) : S → List A → Prop
  | _, [] => True
  | s, a :: rest => cond s a ∧ ∀ next, step s a = some next → Meets step cond next rest

variable {step : S → A → Option S} {cond other : S → A → Prop} {s t : S}

theorem run_nil : run step s [] = some s := rfl

theorem run_cons {a : A} {rest : List A} :
    run step s (a :: rest) = (step s a).bind (run step · rest) := rfl

theorem run_cons_some {a : A} {rest : List A} :
    run step s (a :: rest) = some t ↔ ∃ next, step s a = some next ∧ run step next rest = some t := by
  rw [run_cons, Option.bind_eq_some_iff]

theorem run_append {before after : List A} :
    run step s (before ++ after) = (run step s before).bind (run step · after) := by
  induction before generalizing s with
  | nil => rfl
  | cons a before ih =>
    rw [List.cons_append, run_cons, run_cons, Option.bind_assoc]
    exact congrArg _ (funext fun next => ih)

theorem meets_cons {a : A} {rest : List A} {next : S} (h : Meets step cond s (a :: rest))
    (first : step s a = some next) : cond s a ∧ Meets step cond next rest :=
  ⟨h.1, h.2 next first⟩

theorem meets_append {before after : List A} {mid : S} (h : Meets step cond s (before ++ after))
    (first : run step s before = some mid) :
    Meets step cond s before ∧ Meets step cond mid after := by
  induction before generalizing s with
  | nil =>
    obtain rfl : s = mid := Option.some.inj (run_nil.symm.trans first)
    exact ⟨trivial, h⟩
  | cons a before ih =>
    obtain ⟨next, taken, rest⟩ := run_cons_some.mp first
    refine ⟨⟨h.1, fun other same => ?_⟩, (ih (h.2 next taken) rest).2⟩
    obtain rfl : next = other := Option.some.inj (taken.symm.trans same)
    exact (ih (h.2 next taken) rest).1

theorem meets_of_forall (always : ∀ s a, cond s a) (s : S) (actions : List A) :
    Meets step cond s actions := by
  induction actions generalizing s with
  | nil => trivial
  | cons a rest ih => exact ⟨always s a, fun next _ => ih next⟩

theorem meets_and {actions : List A} {every : A → Prop} (h : Meets step cond s actions)
    (all : ∀ a ∈ actions, every a) : Meets step (fun s a => cond s a ∧ every a) s actions := by
  induction actions generalizing s with
  | nil => trivial
  | cons a rest ih =>
    exact ⟨⟨h.1, all a List.mem_cons_self⟩, fun next first =>
      ih (h.2 next first) (fun b member => all b (List.mem_cons_of_mem _ member))⟩

/-- An invariant of the steps that meet `cond` holds after every run that meets it. -/
theorem run_invariant {inv : S → Prop} {actions : List A}
    (preserved : ∀ s a next, inv s → cond s a → step s a = some next → inv next)
    (start : inv s) (meets : Meets step cond s actions) (h : run step s actions = some t) : inv t := by
  induction actions generalizing s with
  | nil =>
    obtain rfl : s = t := Option.some.inj (run_nil.symm.trans h)
    exact start
  | cons a rest ih =>
    obtain ⟨next, first, tail⟩ := run_cons_some.mp h
    have later := meets_cons meets first
    exact ih (preserved s a next start later.1 first) later.2 tail

/-- `inv` stands in every state that the run comes through, from the first to the last. -/
def Throughout (step : S → A → Option S) (inv : S → Prop) (s : S) (actions : List A) : Prop :=
  ∀ before after mid, actions = before ++ after → run step s before = some mid → inv mid

theorem throughout_nil {inv : S → Prop} : Throughout step inv s [] ↔ inv s := by
  constructor
  · intro all
    exact all [] [] s rfl rfl
  · intro here before after mid split first
    obtain ⟨rfl, rfl⟩ := List.append_eq_nil_iff.mp split.symm
    obtain rfl := Option.some.inj first
    exact here

theorem throughout_cons {inv : S → Prop} {a : A} {rest : List A} :
    Throughout step inv s (a :: rest) ↔
      inv s ∧ ∀ next, step s a = some next → Throughout step inv next rest := by
  constructor
  · intro all
    refine ⟨all [] _ s rfl rfl, fun next first before after mid split later => ?_⟩
    exact all (a :: before) after mid (by rw [split, List.cons_append])
      (run_cons_some.mpr ⟨next, first, later⟩)
  · rintro ⟨here, all⟩ before after mid split taken
    cases before with
    | nil =>
      obtain rfl := Option.some.inj taken
      exact here
    | cons b before =>
      obtain ⟨rfl, rest⟩ := List.cons.inj split
      obtain ⟨next, first, later⟩ := run_cons_some.mp taken
      exact all next first before after mid rest later

theorem throughout_of_meets {inv : S → Prop} {actions : List A}
    (preserved : ∀ s a next, inv s → cond s a → step s a = some next → inv next)
    (start : inv s) (meets : Meets step cond s actions) : Throughout step inv s actions := by
  rintro before after mid rfl taken
  exact run_invariant preserved start (meets_append meets taken).1 taken

/-- What is known of every state of the run may be used to carry an invariant along it. -/
theorem Throughout.invariant {assume inv : S → Prop} {actions : List A}
    (assumed : Throughout step assume s actions)
    (preserved : ∀ s a next, assume s → inv s → step s a = some next → inv next) (start : inv s) :
    Throughout step (fun now => assume now ∧ inv now) s actions := by
  induction actions generalizing s with
  | nil => exact throughout_nil.mpr ⟨throughout_nil.mp assumed, start⟩
  | cons a rest ih =>
    obtain ⟨here, later⟩ := throughout_cons.mp assumed
    refine throughout_cons.mpr ⟨⟨here, start⟩, fun next first => ?_⟩
    exact ih (later next first) (preserved s a next here start first)

theorem Throughout.mono {inv weaker : S → Prop} {actions : List A} (h : Throughout step inv s actions)
    (weaken : ∀ now, inv now → weaker now) : Throughout step weaker s actions :=
  fun before after mid split taken => weaken mid (h before after mid split taken)

theorem Meets.mono {actions : List A} (h : Meets step cond s actions)
    (weaken : ∀ s a, cond s a → other s a) : Meets step other s actions := by
  induction actions generalizing s with
  | nil => trivial
  | cons a rest ih => exact ⟨weaken s a h.1, fun next first => ih (h.2 next first)⟩

theorem Meets.and {actions : List A} (h : Meets step cond s actions)
    (also : Meets step other s actions) : Meets step (fun s a => cond s a ∧ other s a) s actions := by
  induction actions generalizing s with
  | nil => trivial
  | cons a rest ih =>
    exact ⟨⟨h.1, also.1⟩, fun next first => ih (h.2 next first) (also.2 next first)⟩

/-- What stands at the end and not all along was brought about by a last step. -/
theorem exists_onset {inv : S → Prop} {actions : List A} (h : run step s actions = some t)
    (broken : ¬ Throughout step inv s actions) (done : inv t) :
    ∃ before a after mid next, actions = before ++ a :: after ∧ run step s before = some mid ∧
      ¬ inv mid ∧ step mid a = some next ∧ run step next after = some t ∧
      Throughout step inv next after := by
  induction actions generalizing s with
  | nil =>
    obtain rfl := Option.some.inj h
    exact absurd (throughout_nil.mpr done) broken
  | cons a rest ih =>
    obtain ⟨next, first, tail⟩ := run_cons_some.mp h
    by_cases later : Throughout step inv next rest
    · refine ⟨[], a, rest, s, next, rfl, rfl, fun here => broken ?_, first, tail, later⟩
      refine throughout_cons.mpr ⟨here, fun other taken => ?_⟩
      obtain rfl := Option.some.inj (first.symm.trans taken)
      exact later
    · obtain ⟨before, b, after, mid, next', split, taken, rest⟩ := ih tail later
      exact ⟨a :: before, b, after, mid, next', by rw [split, List.cons_append],
        run_cons_some.mpr ⟨next, first, taken⟩, rest⟩

theorem Throughout.meets_next {inv : S → Prop} {actions : List A}
    (h : Throughout step inv s actions) :
    Meets step (fun s a => ∀ next, step s a = some next → inv next) s actions := by
  induction actions generalizing s with
  | nil => trivial
  | cons a rest ih =>
    have later := (throughout_cons.mp h).2
    refine ⟨fun next first => ?_, fun next first => ih (later next first)⟩
    exact later next first [] rest next rfl rfl

/-- Conditions that agree where an assumption is met are met alike by the runs that meet it. -/
theorem meets_congr_of {assume : S → A → Prop} {actions : List A}
    (assumed : Meets step assume s actions) (same : ∀ s a, assume s a → (cond s a ↔ other s a)) :
    Meets step cond s actions ↔ Meets step other s actions := by
  induction actions generalizing s with
  | nil => exact Iff.rfl
  | cons a rest ih =>
    refine and_congr (same s a assumed.1) (forall_congr' fun next => ?_)
    constructor
    · intro h first
      exact (ih (assumed.2 next first)).mp (h first)
    · intro h first
      exact (ih (assumed.2 next first)).mpr (h first)

theorem Throughout.meets_and {good : S → Prop} {assume : S → A → Prop} {actions : List A}
    (goods : Throughout step good s actions) (assumed : Meets step assume s actions) :
    Meets step (fun s a => good s ∧ assume s a) s actions := by
  induction actions generalizing s with
  | nil => trivial
  | cons a rest ih =>
    obtain ⟨here, later⟩ := throughout_cons.mp goods
    exact ⟨⟨here, assumed.1⟩, fun next first => ih (later next first) (assumed.2 next first)⟩

theorem meets_congr {good : S → Prop} {actions : List A} (goods : Throughout step good s actions)
    (same : ∀ s a, good s → (cond s a ↔ other s a)) :
    Meets step cond s actions ↔ Meets step other s actions :=
  meets_congr_of (goods.meets_and (meets_of_forall (fun _ _ => trivial) s actions))
    fun s a both => same s a both.1

theorem meets_of_throughout {good : S → Prop} {actions : List A}
    (goods : Throughout step good s actions) (always : ∀ s a, good s → cond s a) :
    Meets step cond s actions :=
  (meets_congr goods fun s a here => iff_of_true (always s a here) trivial).mpr
    (meets_of_forall (fun _ _ => trivial) s actions)

/-- Where a step from a good state keeps the invariant exactly when it meets `cond`, the invariant
stands throughout a run of good states exactly when it stands at the start and every step meets
`cond`. -/
theorem throughout_iff_meets_of {good inv : S → Prop} {actions : List A}
    (goods : Throughout step good s actions) (idle : ∀ s a, step s a = none → cond s a)
    (kept : ∀ s a next, good s → inv s → step s a = some next → (inv next ↔ cond s a)) :
    Throughout step inv s actions ↔ inv s ∧ Meets step cond s actions := by
  induction actions generalizing s with
  | nil => exact throughout_nil.trans (and_iff_left trivial).symm
  | cons a rest ih =>
    obtain ⟨good, goods⟩ := throughout_cons.mp goods
    rw [throughout_cons]
    refine and_congr_right fun here => ?_
    cases taken : step s a with
    | none =>
      refine iff_of_true (fun next first => by cases first) ⟨idle s a taken, fun next first => ?_⟩
      rw [taken] at first
      cases first
    | some next =>
      have one := kept s a next good here taken
      have later := ih (goods next taken)
      have follows : Meets step cond s (a :: rest) ↔ cond s a ∧ Meets step cond next rest := by
        refine ⟨fun h => meets_cons h taken, fun h => ⟨h.1, fun other same => ?_⟩⟩
        obtain rfl := Option.some.inj (taken.symm.trans same)
        exact h.2
      simp only [follows, Option.some.injEq, forall_eq', later, one]

/-- Where a step keeps the invariant exactly when it meets `cond`, the invariant stands throughout a
run exactly when it stands at the start and every step meets `cond`. -/
theorem throughout_iff_meets {inv : S → Prop} {actions : List A}
    (idle : ∀ s a, step s a = none → cond s a)
    (kept : ∀ s a next, inv s → step s a = some next → (inv next ↔ cond s a)) :
    Throughout step inv s actions ↔ inv s ∧ Meets step cond s actions := by
  have goods : Throughout step (fun _ => True) s actions := fun _ _ _ _ _ => trivial
  exact throughout_iff_meets_of goods idle fun s a next _ => kept s a next

/-- Every two states of the run, the earlier one first, are related. -/
def Along (step : S → A → Option S) (rel : S → S → Prop) (s : S) (actions : List A) : Prop :=
  ∀ before after mid, actions = before ++ after → run step s before = some mid →
    Throughout step (rel mid) mid after

theorem along_cons {rel : S → S → Prop} {a : A} {rest : List A} :
    Along step rel s (a :: rest) ↔
      Throughout step (rel s) s (a :: rest) ∧ ∀ next, step s a = some next → Along step rel next rest := by
  constructor
  · intro all
    refine ⟨all [] _ s rfl rfl, fun next first before after mid split later => ?_⟩
    exact all (a :: before) after mid (by rw [split, List.cons_append])
      (run_cons_some.mpr ⟨next, first, later⟩)
  · rintro ⟨here, all⟩ before after mid split taken
    cases before with
    | nil =>
      obtain rfl := Option.some.inj taken
      rw [List.nil_append] at split
      rw [← split]
      exact here
    | cons b before =>
      obtain ⟨rfl, rest⟩ := List.cons.inj split
      obtain ⟨next, first, later⟩ := run_cons_some.mp taken
      exact all next first before after mid rest later

/-- A preorder relates all states of a run as soon as it relates those that follow each other. -/
theorem along_iff_meets {rel : S → S → Prop} (refl : ∀ s, rel s s)
    (trans : ∀ s t u, rel s t → rel t u → rel s u) {actions : List A} :
    Along step rel s actions ↔
      Meets step (fun s a => ∀ next, step s a = some next → rel s next) s actions := by
  induction actions generalizing s with
  | nil =>
    refine iff_of_true ?_ trivial
    intro before after mid split taken
    obtain ⟨rfl, rfl⟩ := List.append_eq_nil_iff.mp split.symm
    exact throughout_nil.mpr (refl mid)
  | cons a rest ih =>
    rw [along_cons, throughout_cons]
    constructor
    · rintro ⟨⟨_, here⟩, later⟩
      refine ⟨fun next first => ?_, fun next first => ih.mp (later next first)⟩
      exact here next first [] rest next rfl rfl
    · rintro ⟨one, later⟩
      have along : ∀ next, step s a = some next → Along step rel next rest :=
        fun next first => ih.mpr (later next first)
      refine ⟨⟨refl s, fun next first => ?_⟩, along⟩
      have onwards := along next first [] rest next rfl rfl
      exact onwards.mono fun now related => trans s next now (one next first) related

/-- Some run of actions of the kind ends in a state of the goal. -/
def Reaches (step : S → A → Option S) (kind : A → Prop) (goal : S → Prop) (s : S) : Prop :=
  ∃ actions t, (∀ a ∈ actions, kind a) ∧ run step s actions = some t ∧ goal t

variable {kind : A → Prop} {goal : S → Prop}

theorem reaches_here (here : goal s) : Reaches step kind goal s :=
  ⟨[], s, by simp, rfl, here⟩

theorem reaches_of_step {a : A} {next : S} (first : step s a = some next) (own : kind a)
    (later : Reaches step kind goal next) : Reaches step kind goal s := by
  obtain ⟨actions, t, owns, h, there⟩ := later
  refine ⟨a :: actions, t, ?_, run_cons_some.mpr ⟨next, first, h⟩, there⟩
  exact List.forall_mem_cons.mpr ⟨own, owns⟩

/-! ### A system and one that sees less of it -/

/-- How the actions of a run are matched by those of the other system: one by one, in their order, save the actions
that change nothing of what it sees. -/
inductive Matched {T B : Type*} (step : S → A → Option S) (view : S → T) (rel : S → A → B → Prop) :
    S → List A → List B → Prop where
  | nil (s : S) : Matched step view rel s [] []
  | hidden {s next : S} {a : A} {actions : List A} {others : List B} (taken : step s a = some next)
      (same : view next = view s) (rest : Matched step view rel next actions others) :
      Matched step view rel s (a :: actions) others
  | shown {s next : S} {a : A} {b : B} {actions : List A} {others : List B} (taken : step s a = some next)
      (own : rel s a b) (rest : Matched step view rel next actions others) :
      Matched step view rel s (a :: actions) (b :: others)

/-- Where an invariant makes every step matched or hidden, every run is a run of the other system. -/
theorem run_matched_of {T B : Type*} {view : S → T} {rel : S → A → B → Prop} {abstractStep : T → B → Option T}
    {inv : S → Prop}
    (simulates : ∀ s a next, inv s → cond s a → step s a = some next →
      inv next ∧ (view next = view s ∨ ∃ b, rel s a b ∧ abstractStep (view s) b = some (view next)))
    {actions : List A} (start : inv s) (meets : Meets step cond s actions) (h : run step s actions = some t) :
    ∃ others, Matched step view rel s actions others ∧ run abstractStep (view s) others = some (view t) := by
  induction actions generalizing s with
  | nil =>
    obtain rfl := Option.some.inj h
    exact ⟨[], .nil s, rfl⟩
  | cons a rest ih =>
    obtain ⟨next, taken, tail⟩ := run_cons_some.mp h
    obtain ⟨here, onwards⟩ := meets_cons meets taken
    obtain ⟨kept, simulated⟩ := simulates s a next start here taken
    obtain ⟨others, matched, later⟩ := ih kept onwards tail
    rcases simulated with same | ⟨b, own, first⟩
    · exact ⟨others, .hidden taken same matched, same ▸ later⟩
    · exact ⟨b :: others, .shown taken own matched, run_cons_some.mpr ⟨view next, first, later⟩⟩

/-- Where every step is matched or hidden, every run is a run of the other system. -/
theorem run_matched {T B : Type*} {view : S → T} {rel : S → A → B → Prop} {abstractStep : T → B → Option T}
    (simulates : ∀ s a next, step s a = some next →
      view next = view s ∨ ∃ b, rel s a b ∧ abstractStep (view s) b = some (view next))
    {actions : List A} (h : run step s actions = some t) :
    ∃ others, Matched step view rel s actions others ∧ run abstractStep (view s) others = some (view t) :=
  run_matched_of (fun s a next _ _ taken => ⟨trivial, simulates s a next taken⟩) trivial
    (meets_of_forall (fun _ _ => trivial) s actions) h

end Lts
