import Atomwall.Base.KeyMap
import Atomwall.Base.TimedLog

/-!
Finite maps that track a log of expiring entries. A view picks what of a value the log speaks about, and which
values it does not speak about at all.
-/

namespace TimedMap

open TimedLog

variable {K V W : Type*} [DecidableEq K] (view : V → Option W)

def Holds (m : KeyMap K V) (entry : K × W) : Prop := (m.lookup entry.1).bind view = some entry.2

/-- What it is to the log that the key is given a value. -/
def stored (k : K) : Option W → Event K (K × W)
  | some w => .added (k, w)
  | none => .removed k

variable {view} {expires : W → Int} {m : KeyMap K V} {log : List (Event K (K × W))} {now : Int} {k : K} {v : V}

theorem tracks_empty : Tracks Prod.fst (fun e => expires e.2) [] (Holds view (∅ : KeyMap K V)) now := by
  refine .empty fun entry held => ?_
  rw [Holds, AList.lookup_empty] at held
  cases held

theorem tracks_insert (tracks : Tracks Prod.fst (fun e => expires e.2) log (Holds view m) now) :
    Tracks Prod.fst (fun e => expires e.2) (log ++ [stored k (view v)]) (Holds view (m.insert k v)) now := by
  refine tracks.logged fun (j, w) => ?_
  rw [Holds, KeyMap.lookup_insert_ite]
  by_cases same : j = k
  · subst same
    rw [if_pos rfl, Option.bind_some]
    cases seen : view v <;> simp [stored, Event.Ends, eq_comm]
  · rw [if_neg same]
    cases seen : view v <;> simp [stored, Event.Ends, Holds, Ne.symm same]

theorem tracks_erase (tracks : Tracks Prod.fst (fun e => expires e.2) log (Holds view m) now) :
    Tracks Prod.fst (fun e => expires e.2) (log ++ [.removed k]) (Holds view (m.erase k)) now := by
  refine tracks.logged fun (j, w) => ?_
  rw [Holds, KeyMap.lookup_erase_ite]
  by_cases same : j = k
  · subst same
    simp [Event.Ends]
  · rw [if_neg same]
    simp [Event.Ends, Holds, Ne.symm same]

theorem tracks_eraseIf {drop : V → Bool} (tracks : Tracks Prod.fst (fun e => expires e.2) log (Holds view m) now)
    (expired : ∀ v w, view v = some w → (drop v = false ↔ now < expires w)) :
    Tracks Prod.fst (fun e => expires e.2) log (Holds view (KeyMap.eraseIf drop m)) now := by
  refine tracks.pruned fun (j, w) => ?_
  rw [Holds, Holds, Option.bind_eq_some_iff, Option.bind_eq_some_iff]
  constructor
  · rintro ⟨v, held, seen⟩
    obtain ⟨there, kept⟩ := KeyMap.lookup_eraseIf_eq_some.mp held
    exact ⟨⟨v, there, seen⟩, (expired v w seen).mp kept⟩
  · rintro ⟨⟨v, there, seen⟩, live⟩
    exact ⟨v, KeyMap.lookup_eraseIf_eq_some.mpr ⟨there, (expired v w seen).mpr live⟩, seen⟩

/-- A change that the view does not show. -/
theorem tracks_congr {other : KeyMap K V} (same : ∀ k, (other.lookup k).bind view = (m.lookup k).bind view)
    (tracks : Tracks Prod.fst (fun e => expires e.2) log (Holds view m) now) :
    Tracks Prod.fst (fun e => expires e.2) log (Holds view other) now := by
  have held : Holds view other = Holds view m := funext fun entry => by rw [Holds, Holds, same]
  rwa [held]

end TimedMap
