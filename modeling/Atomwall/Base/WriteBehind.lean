import Atomwall.Base.Lts
import Mathlib.Data.List.Sublists

/-!
Versions of a value behind a background writer. A version is published, then queued, then taken and written; a
version in the queue gives way to the next. So versions may be skipped and writes may fail, but what is written
comes in the order of publication, and a crash loses the newest versions only.
-/

/-- The versions on their way and, newest first, those that were published and those that were written. -/
structure WriteBehind (C : Type*) where
  fresh : Option C := none
  pending : Option C := none
  held : Option C := none
  published : List C := []
  written : List C := []

namespace WriteBehind

variable {C : Type*}

inductive Move where
  | enqueue
  | take
  | write
  | fail

inductive Action (C : Type*) where
  | publish (version : C)
  | move (m : Move)

def publish (s : WriteBehind C) (version : C) : Option (WriteBehind C) :=
  match s.fresh with
  | none => some { s with fresh := some version, published := version :: s.published }
  | some _ => none

def move (s : WriteBehind C) : Move → Option (WriteBehind C)
  | .enqueue => s.fresh.map fun version => { s with fresh := none, pending := some version }
  | .take =>
    match s.held, s.pending with
    | none, some version => some { s with pending := none, held := some version }
    | _, _ => none
  | .write => s.held.map fun version => { s with held := none, written := version :: s.written }
  | .fail => s.held.map fun _ => { s with held := none }

def step (s : WriteBehind C) : Action C → Option (WriteBehind C)
  | .publish version => s.publish version
  | .move m => s.move m

/-- The versions that are published and not yet written, newest first. -/
def onTheWay (s : WriteBehind C) : List C := s.fresh.toList ++ s.pending.toList ++ s.held.toList

/-- The writer gives up a version only where a newer one is on its way. -/
def Superseded (s : WriteBehind C) : Move → Prop
  | .fail => s.fresh ≠ none ∨ s.pending ≠ none
  | _ => True

/-- Of the published versions a crash loses `lost` and leaves `kept`, whose newest was written last. -/
structure Durable (s : WriteBehind C) (lost kept : List C) : Prop where
  split : s.published = lost ++ kept
  written : s.written.head? = kept.head?
  waiting : s.onTheWay.Sublist lost

/-- The newest version is on its way or written. -/
def Newest (s : WriteBehind C) (lost : List C) : Prop := s.onTheWay.head? = lost.head?

variable {s t : WriteBehind C} {lost kept : List C} {version : C}

theorem Durable.empty : Durable ({} : WriteBehind C) [] [] := ⟨rfl, rfl, List.nil_sublist _⟩

theorem Newest.empty : Newest ({} : WriteBehind C) [] := rfl

theorem publish_some (h : s.publish version = some t) :
    s.fresh = none ∧ t = { s with fresh := some version, published := version :: s.published } := by
  unfold publish at h
  split at h
  · next free => exact ⟨free, (Option.some.inj h).symm⟩
  · cases h

theorem publish_durable (durable : Durable s lost kept) (h : s.publish version = some t) :
    Durable t (version :: lost) kept ∧ Newest t (version :: lost) := by
  obtain ⟨free, rfl⟩ := publish_some h
  have waiting : onTheWay { s with fresh := some version, published := version :: s.published } =
      version :: s.onTheWay := by simp [onTheWay, free]
  refine ⟨⟨?_, durable.written, ?_⟩, ?_⟩
  · exact congrArg (version :: ·) durable.split
  · rw [waiting]
    exact durable.waiting.cons_cons version
  · rw [Newest, waiting]
    rfl

/-- What comes before the oldest version that waits is newer than it. -/
theorem split_last {newer : List C} (waiting : (newer ++ [version]).Sublist lost) :
    ∃ rest older, lost = rest ++ version :: older ∧ newer.Sublist rest ∧
      ((newer ++ [version]).head? = lost.head? → newer.head? = rest.head?) := by
  cases newer with
  | nil =>
    obtain ⟨rest, older, rfl⟩ := List.append_of_mem (List.singleton_sublist.mp waiting)
    cases rest with
    | nil => exact ⟨[], older, rfl, List.nil_sublist _, fun _ => rfl⟩
    | cons first rest =>
      by_cases same : first = version
      · subst same
        exact ⟨[], rest ++ first :: older, rfl, List.nil_sublist _, fun _ => rfl⟩
      · refine ⟨first :: rest, older, rfl, List.nil_sublist _, fun newest => ?_⟩
        exact absurd (Option.some.inj newest).symm same
  | cons first newer =>
    obtain ⟨rest, tail, rfl, before, last⟩ := List.append_sublist_iff.mp waiting
    obtain ⟨between, older, rfl⟩ := List.append_of_mem (List.singleton_sublist.mp last)
    refine ⟨rest ++ between, older, by rw [List.append_assoc], before.trans (List.sublist_append_left _ _), ?_⟩
    intro newest
    cases rest with
    | nil => cases before
    | cons other rest => exact newest

theorem move_written {m : Move} (other : m ≠ .write) (h : s.move m = some t) : t.written = s.written := by
  cases m with
  | write => exact absurd rfl other
  | enqueue | fail =>
    obtain ⟨version, -, rfl⟩ := Option.map_eq_some_iff.mp h
    rfl
  | take =>
    unfold move at h
    dsimp only at h
    split at h
    · obtain rfl := Option.some.inj h
      rfl
    · cases h

theorem move_durable {m : Move} (durable : Durable s lost kept) (h : s.move m = some t) :
    ∃ rest more, lost = rest ++ more ∧ Durable t rest (more ++ kept) ∧
      (Newest s lost → s.Superseded m → Newest t rest) := by
  obtain ⟨split, written, waiting⟩ := durable
  cases m with
  | enqueue =>
    obtain ⟨version, fresh, rfl⟩ := Option.map_eq_some_iff.mp h
    have skips : onTheWay { s with fresh := none, pending := some version } = version :: s.held.toList := rfl
    have whole : s.onTheWay = version :: (s.pending.toList ++ s.held.toList) := by simp [onTheWay, fresh]
    refine ⟨lost, [], (List.append_nil _).symm, ⟨split, written, ?_⟩, fun newest _ => ?_⟩
    · rw [skips]
      rw [whole] at waiting
      exact ((List.sublist_append_right _ _).cons_cons version).trans waiting
    · rw [Newest, skips]
      rw [Newest, whole] at newest
      exact newest
  | take =>
    unfold move at h
    dsimp only at h
    split at h
    · next version free queued =>
      obtain rfl := Option.some.inj h
      have same : onTheWay { s with pending := none, held := some version } = s.onTheWay := by
        simp [onTheWay, free, queued]
      refine ⟨lost, [], (List.append_nil _).symm, ⟨split, written, ?_⟩, fun newest _ => ?_⟩
      · rwa [same]
      · rwa [Newest, same]
    · cases h
  | write =>
    obtain ⟨version, held, rfl⟩ := Option.map_eq_some_iff.mp h
    have whole : s.onTheWay = (s.fresh.toList ++ s.pending.toList) ++ [version] := by simp [onTheWay, held]
    have left : onTheWay { s with held := none, written := version :: s.written } =
        s.fresh.toList ++ s.pending.toList := by simp [onTheWay]
    rw [whole] at waiting
    obtain ⟨rest, older, rfl, newer, first⟩ := split_last waiting
    refine ⟨rest, version :: older, rfl, ⟨?_, rfl, ?_⟩, fun newest _ => ?_⟩
    · rw [split, List.append_assoc]
    · rw [left]
      exact newer
    · rw [Newest, left]
      rw [Newest, whole] at newest
      exact first newest
  | fail =>
    obtain ⟨version, held, rfl⟩ := Option.map_eq_some_iff.mp h
    have whole : s.onTheWay = (s.fresh.toList ++ s.pending.toList) ++ [version] := by simp [onTheWay, held]
    have left : onTheWay { s with held := none } = s.fresh.toList ++ s.pending.toList := by simp [onTheWay]
    refine ⟨lost, [], (List.append_nil _).symm, ⟨split, written, ?_⟩, fun newest newer => ?_⟩
    · rw [left]
      rw [whole] at waiting
      exact (List.sublist_append_left _ _).trans waiting
    · rw [Newest, left]
      rw [Newest, whole] at newest
      rw [← newest]
      cases fresh : s.fresh with
      | some version => rfl
      | none =>
        cases queued : s.pending with
        | some version => rfl
        | none => exact absurd ⟨fresh, queued⟩ (not_and_or.mpr newer)

/-- Whatever fails, a step takes nothing from what a crash leaves. -/
theorem step_durable {a : Action C} (durable : Durable s lost kept) (h : s.step a = some t) :
    ∃ rest more, Durable t rest (more ++ kept) := by
  cases a with
  | publish version => exact ⟨version :: lost, [], (publish_durable durable h).1⟩
  | move m =>
    obtain ⟨rest, more, -, after, -⟩ := move_durable durable h
    exact ⟨rest, more, after⟩

theorem run_durable {actions : List (Action C)} (durable : Durable s lost kept)
    (h : Lts.run step s actions = some t) : ∃ rest more, Durable t rest (more ++ kept) := by
  induction actions generalizing s lost kept with
  | nil =>
    obtain rfl := Option.some.inj h
    exact ⟨lost, [], durable⟩
  | cons a rest ih =>
    obtain ⟨next, taken, tail⟩ := Lts.run_cons_some.mp h
    obtain ⟨less, more, after⟩ := step_durable durable taken
    obtain ⟨left, newer, final⟩ := ih after tail
    rw [← List.append_assoc] at final
    exact ⟨left, newer ++ more, final⟩

/-- With nothing on its way the newest version is the one written last. -/
theorem Newest.settled (newest : Newest s lost) (drained : s.onTheWay = []) : lost = [] := by
  rw [Newest, drained] at newest
  exact List.head?_eq_none_iff.mp newest.symm

end WriteBehind
