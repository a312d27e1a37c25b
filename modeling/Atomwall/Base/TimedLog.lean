import Mathlib.Data.List.Induction

/-!
Entries that are added under a key, removed by it and expire: what a log of such events says is there,
and the rules by which a container that drops expired entries at any time still answers like the log.
-/

namespace TimedLog

variable {K E : Type*}

inductive Event (K E : Type*) where
  | added (entry : E)
  | removed (key : K)

variable (key : E → K) (expires : E → Int)

/-- Replaces or removes what is there under the key. -/
def Event.Ends (k : K) : Event K E → Prop
  | .added entry => key entry = k
  | .removed gone => gone = k

/-- Added, and neither replaced nor removed since. -/
def Stands (log : List (Event K E)) (entry : E) : Prop :=
  ∃ before after, log = before ++ .added entry :: after ∧
    ∀ event ∈ after, ¬ event.Ends key (key entry)

/-- What is held stands in the log, and what stands is held unless it has expired by `now`. -/
structure Tracks (log : List (Event K E)) (held : E → Prop) (now : Int) : Prop where
  sound : ∀ entry, held entry → Stands key log entry
  complete : ∀ entry, Stands key log entry → now < expires entry → held entry

variable {key expires} {log : List (Event K E)} {held after : E → Prop} {now later : Int}

theorem not_stands_nil (entry : E) : ¬ Stands key ([] : List (Event K E)) entry := by
  rintro ⟨before, after, same, -⟩
  simp at same

theorem stands_append {event : Event K E} {entry : E} :
    Stands key (log ++ [event]) entry ↔
      event = .added entry ∨ Stands key log entry ∧ ¬ event.Ends key (key entry) := by
  constructor
  · rintro ⟨before, after, same, kept⟩
    obtain rfl | ⟨init, last, rfl⟩ := List.eq_nil_or_concat after
    · exact .inl (List.cons.inj (List.append_inj' same rfl).2).1
    · rw [List.concat_eq_append, ← List.cons_append, ← List.append_assoc] at same
      obtain ⟨rfl, last_eq⟩ := List.append_inj' same rfl
      obtain ⟨rfl, -⟩ := List.cons.inj last_eq
      refine .inr ⟨⟨before, init, rfl, fun other member => kept other ?_⟩, kept event ?_⟩
      · simp [member]
      · simp
  · rintro (rfl | ⟨⟨before, after, rfl, kept⟩, spares⟩)
    · exact ⟨log, [], rfl, by simp⟩
    · refine ⟨before, after ++ [event], by simp, fun other member => ?_⟩
      rcases List.mem_append.mp member with old | new
      · exact kept other old
      · rwa [List.mem_singleton.mp new]

namespace Tracks

theorem empty (none_held : ∀ entry, ¬ held entry) : Tracks key expires [] held now where
  sound entry h := absurd h (none_held entry)
  complete entry h := absurd h (not_stands_nil entry)

theorem later_time (tracks : Tracks key expires log held now) (passed : now ≤ later) :
    Tracks key expires log held later where
  sound := tracks.sound
  complete entry stands live := tracks.complete entry stands (Int.lt_of_le_of_lt passed live)

theorem pruned (tracks : Tracks key expires log held now)
    (kept : ∀ entry, after entry ↔ held entry ∧ now < expires entry) :
    Tracks key expires log after now where
  sound entry h := tracks.sound entry ((kept entry).mp h).1
  complete entry stands live := (kept entry).mpr ⟨tracks.complete entry stands live, live⟩

theorem logged {event : Event K E} (tracks : Tracks key expires log held now)
    (kept : ∀ entry, after entry ↔ event = .added entry ∨ held entry ∧ ¬ event.Ends key (key entry)) :
    Tracks key expires (log ++ [event]) after now where
  sound entry h := by
    apply stands_append.mpr
    rcases (kept entry).mp h with new | ⟨old, spares⟩
    · exact .inl new
    · exact .inr ⟨tracks.sound entry old, spares⟩
  complete entry stands live := by
    apply (kept entry).mpr
    rcases stands_append.mp stands with new | ⟨old, spares⟩
    · exact .inl new
    · exact .inr ⟨tracks.complete entry old live, spares⟩

theorem live_iff (tracks : Tracks key expires log held now) (passed : now ≤ later) (entry : E) :
    held entry ∧ later < expires entry ↔ Stands key log entry ∧ later < expires entry := by
  constructor
  · rintro ⟨there, live⟩
    exact ⟨tracks.sound entry there, live⟩
  · rintro ⟨stands, live⟩
    exact ⟨tracks.complete entry stands (Int.lt_of_le_of_lt passed live), live⟩

end Tracks

end TimedLog
