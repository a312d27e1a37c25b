import Mathlib.Data.List.Basic
import Mathlib.Data.List.Nodup

/-!
Tokens that work once: attempts on a list of tokens, those that are spent, and the flags that a store
keeps of them.
-/

namespace OneTime

section

variable {α : Type} [DecidableEq α]

/-- An attempt wins with a token that is not spent, and spends it. -/
def Wins (tokens spent : List α) (candidate : α) : Prop := candidate ∈ tokens ∧ candidate ∉ spent

instance (tokens spent : List α) (candidate : α) : Decidable (Wins tokens spent candidate) :=
  inferInstanceAs (Decidable (_ ∧ _))

/-- The results of a sequence of attempts, and what is spent after it. -/
def attempts (tokens spent : List α) : List α → List Bool × List α
  | [] => ([], spent)
  | candidate :: later =>
    let won := decide (Wins tokens spent candidate)
    let after := attempts tokens (if won then candidate :: spent else spent) later
    (won :: after.1, after.2)

def hits (tokens spent : List α) (candidate : α) : List Bool :=
  tokens.map fun token => decide (candidate = token ∧ token ∉ spent)

variable {tokens spent : List α} {candidate token : α}

theorem length_attempts (tokens spent later : List α) :
    (attempts tokens spent later).1.length = later.length := by
  induction later generalizing spent with
  | nil => rfl
  | cons candidate later ih =>
    rw [attempts, List.length_cons, List.length_cons, ih]

theorem mem_spent (tokens spent later : List α) :
    token ∈ (attempts tokens spent later).2 ↔
      token ∈ spent ∨ (token, true) ∈ later.zip (attempts tokens spent later).1 := by
  induction later generalizing spent with
  | nil => simp [attempts]
  | cons candidate later ih =>
    simp only [attempts, List.zip_cons_cons, List.mem_cons, Prod.mk.injEq]
    rw [ih]
    by_cases won : Wins tokens spent candidate
    · simp only [won, decide_true, if_true, List.mem_cons]
      tauto
    · simp [won]

theorem idxOf?_hits (tokens spent : List α) (candidate : α) :
    (hits tokens spent candidate).idxOf? true =
      if Wins tokens spent candidate then some (tokens.idxOf candidate) else none := by
  induction tokens with
  | nil => simp [hits, Wins]
  | cons token rest ih =>
    change (decide (candidate = token ∧ token ∉ spent) :: hits rest spent candidate).idxOf? true = _
    rw [List.idxOf?_cons]
    by_cases same : candidate = token
    · subst same
      by_cases unspent : candidate ∈ spent
      · simp [ih, Wins, unspent]
      · simp [Wins, unspent]
    · have miss : decide (candidate = token ∧ token ∉ spent) = false := by simp [same]
      have further : Wins (token :: rest) spent candidate ↔ Wins rest spent candidate := by
        simp [Wins, same]
      rw [miss, ih, List.idxOf_cons_ne _ (Ne.symm same), if_neg (by decide)]
      by_cases won : Wins rest spent candidate
      · rw [if_pos won, if_pos (further.mpr won)]
        rfl
      · rw [if_neg won, if_neg (mt further.mp won)]
        rfl

variable {ι γ : Type} {token : ι → α} {entry : ι → Bool → γ} {mark : γ → γ} {items : List ι}

theorem modify_idxOf (marks : ∀ item used, mark (entry item used) = entry item true)
    (distinct : (items.map token).Nodup) :
    (items.map fun item => entry item (decide (token item ∈ spent))).modify
        ((items.map token).idxOf candidate) mark =
      items.map fun item => entry item (decide (token item ∈ candidate :: spent)) := by
  induction items with
  | nil => rfl
  | cons item rest ih =>
    rw [List.map_cons, List.nodup_cons] at distinct
    rw [List.map_cons, List.map_cons, List.map_cons]
    by_cases same : token item = candidate
    · rw [same, List.idxOf_cons_self, List.modify_zero_cons, marks]
      congr 1
      · simp
      · refine List.map_congr_left fun later member => ?_
        have other : token later ≠ candidate := by
          intro twice
          exact distinct.1 (List.mem_map.mpr ⟨later, member, twice.trans same.symm⟩)
        simp [other]
    · rw [List.idxOf_cons_ne _ same, List.modify_succ_cons, ih distinct.2]
      simp [same]

end

end OneTime
