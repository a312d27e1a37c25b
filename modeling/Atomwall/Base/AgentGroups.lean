import Mathlib.Data.List.TakeWhile

/-!
Texts in groups: the names that a group is for, then its rules, up to the next name after a rule. What the
rules of every name become when rules are put in after one of the names.
-/

namespace AgentGroups

inductive Directive (α β : Type) where
  | agent (name : α)
  | rule (text : β)
  deriving DecidableEq

structure Group (α β : Type) where
  agents : List α
  rules : List β
  deriving DecidableEq

variable {α β : Type}

/-- A name is one more of the group after it; a rule is one more if that group has no name. -/
def join : Directive α β → List (Group α β) → List (Group α β)
  | .agent name, [] => [⟨[name], []⟩]
  | .agent name, ⟨agents, rules⟩ :: later => ⟨name :: agents, rules⟩ :: later
  | .rule text, ⟨[], rules⟩ :: later => ⟨[], text :: rules⟩ :: later
  | .rule text, later => ⟨[], [text]⟩ :: later

def groups (directives : List (Directive α β)) : List (Group α β) := directives.foldr join []

/-- The rules of all groups that name the agent. -/
def collect [DecidableEq α] (parts : List (Group α β)) (a : α) : List β :=
  parts.flatMap fun part => if a ∈ part.agents then part.rules else []

def names : List (Directive α β) → List α
  | .agent name :: rest => name :: names rest
  | _ => []

def afterNames : List (Directive α β) → List (Directive α β)
  | .agent _ :: rest => afterNames rest
  | rest => rest

def rules : List (Directive α β) → List β
  | .rule text :: rest => text :: rules rest
  | _ => []

/-- The names at the end of the text, with no rule after them yet. -/
def pending (directives : List (Directive α β)) : List α := (names directives.reverse).reverse

variable {a star name : α} {text : β} {d : Directive α β} {directives closed first last : List (Directive α β)}
  {parts later : List (Group α β)} {agents A B : List α} {more R F : List β}

/-! ### Groups of a text from its parts -/

theorem join_append (some : parts ≠ []) : join d (parts ++ later) = join d parts ++ later := by
  obtain ⟨⟨agents, more⟩, others, rfl⟩ := List.exists_cons_of_ne_nil some
  cases d with
  | agent name => rfl
  | rule text => cases agents <;> rfl

theorem join_ne_nil : join d parts ≠ [] := by
  fun_cases join d parts <;> simp

theorem foldr_join_append (some : parts ≠ []) :
    directives.foldr join (parts ++ later) = directives.foldr join parts ++ later := by
  induction directives with
  | nil => rfl
  | cons d rest ih =>
    have inner : rest.foldr join parts ≠ [] := by
      cases rest with
      | nil => exact some
      | cons e others => exact join_ne_nil
    rw [List.foldr_cons, List.foldr_cons, ih, join_append inner]

theorem foldr_agents : (agents.map .agent).foldr join (⟨A, more⟩ :: later) =
    (⟨agents ++ A, more⟩ :: later : List (Group α β)) := by
  induction agents with
  | nil => rfl
  | cons name rest ih => rw [List.map_cons, List.foldr_cons, ih]; rfl

theorem foldr_rules : (R.map .rule).foldr join (⟨[], more⟩ :: later) =
    (⟨[], R ++ more⟩ :: later : List (Group α β)) := by
  induction R with
  | nil => rfl
  | cons text rest ih => rw [List.map_cons, List.foldr_cons, ih]; rfl

def Named (parts : List (Group α β)) : Prop := ∀ part ∈ parts.head?, part.agents ≠ []

theorem join_rule (named : Named parts) : join (.rule text) parts = ⟨[], [text]⟩ :: parts := by
  rcases parts with _ | ⟨⟨_ | ⟨name, agents⟩, more⟩, later⟩
  · rfl
  · exact absurd rfl (named _ rfl)
  · rfl

theorem foldr_rules_named (named : Named parts) (some : R ≠ []) :
    (R.map .rule).foldr join parts = ⟨[], R⟩ :: parts := by
  obtain ⟨init, text, rfl⟩ : ∃ init text, R = init ++ [text] :=
    ⟨_, _, (List.dropLast_concat_getLast some).symm⟩
  rw [List.map_append, List.foldr_append, List.map_singleton, List.foldr_cons, List.foldr_nil,
    join_rule named, foldr_rules]

theorem named_agent : Named (join (.agent name) parts) := by
  intro part inside
  rcases parts with _ | ⟨⟨agents, more⟩, later⟩
  all_goals
    cases inside
    simp

def Fresh (directives : List (Directive α β)) : Prop := ∀ text, directives.head? ≠ some (.rule text)

/-- A text in which no name waits for a rule. -/
def Closed (directives : List (Directive α β)) : Prop := ∀ name, directives.getLast? ≠ some (.agent name)

theorem named_groups (fresh : Fresh directives) : Named (groups directives) := by
  rcases directives with _ | ⟨name | text, rest⟩
  · exact fun _ inside => by cases inside
  · exact named_agent
  · exact absurd rfl (fresh text)

theorem groups_append (ended : Closed first) (fresh : Fresh last) :
    groups (first ++ last) = groups first ++ groups last := by
  by_cases empty : first = []
  · simp [empty, groups]
  · obtain ⟨init, d, rfl⟩ : ∃ init d, first = init ++ [d] :=
      ⟨_, _, (List.dropLast_concat_getLast empty).symm⟩
    cases d with
    | agent name => exact absurd (by simp) (ended name)
    | rule text =>
      have inner : join (.rule text) (groups last) = ⟨[], [text]⟩ :: groups last :=
        join_rule (named_groups fresh)
      simp only [groups] at inner ⊢
      rw [List.foldr_append, List.foldr_append, List.foldr_append, List.foldr_cons, List.foldr_nil, inner,
        ← List.singleton_append, foldr_join_append (by simp)]
      rfl

theorem groups_group (fresh : Fresh last) (some : agents ≠ []) (ends : R = [] → last = []) :
    groups (agents.map .agent ++ (R.map .rule ++ last)) = ⟨agents, R⟩ :: groups last := by
  by_cases empty : R = []
  · obtain ⟨init, name, rfl⟩ : ∃ init name, agents = init ++ [name] :=
      ⟨_, _, (List.dropLast_concat_getLast some).symm⟩
    subst empty
    rw [ends rfl, List.map_append]
    have whole : (init.map .agent).foldr join [⟨[name], []⟩] = ([⟨init ++ [name], []⟩] : List (Group α β)) :=
      foldr_agents
    simpa [groups, join] using whole
  · have inner := foldr_rules_named (named_groups fresh) empty
    rw [groups] at inner
    rw [groups, List.foldr_append, List.foldr_append, inner, foldr_agents, List.append_nil]
    rfl

theorem fresh_agents (some : agents ≠ []) : Fresh (agents.map .agent ++ last) := by
  obtain ⟨name, others, rfl⟩ := List.exists_cons_of_ne_nil some
  intro text starts
  cases starts

theorem groups_after (ended : Closed closed) (some : agents ≠ []) (fresh : Fresh last)
    (ends : R = [] → last = []) :
    groups (closed ++ (agents.map .agent ++ (R.map .rule ++ last))) =
      groups closed ++ ([⟨agents, R⟩] ++ groups last) := by
  rw [groups_append ended (fresh_agents some), groups_group fresh some ends, List.singleton_append]

theorem groups_names (ended : Closed closed) (some : agents ≠ []) :
    groups (closed ++ (agents.map .agent ++ R.map .rule)) = groups closed ++ [⟨agents, R⟩] := by
  have same : groups (closed ++ (agents.map .agent ++ (R.map .rule ++ []))) =
      groups closed ++ ([⟨agents, R⟩] ++ groups []) :=
    groups_after ended some nofun fun _ => rfl
  rw [List.append_nil] at same
  exact same

/-! ### Parts of a text -/

theorem names_append (directives : List (Directive α β)) :
    (names directives).map .agent ++ afterNames directives = directives := by
  fun_induction names directives with
  | case1 name rest ih => rw [List.map_cons, List.cons_append, afterNames, ih]
  | case2 directives other =>
    rw [List.map_nil, List.nil_append, afterNames]
    intro name rest same
    exact other name rest same

theorem afterNames_head : (afterNames directives).head? ≠ some (.agent name) := by
  fun_induction afterNames directives with
  | case1 name rest ih => exact ih
  | case2 directives other =>
    intro starts
    obtain ⟨rest, same⟩ := List.head?_eq_some_iff.mp starts
    exact other name rest same

theorem exists_rules (directives : List (Directive α β)) :
    ∃ last, directives = (rules directives).map .rule ++ last ∧ Fresh last := by
  fun_induction rules directives with
  | case1 text rest ih =>
    obtain ⟨last, same, fresh⟩ := ih
    exact ⟨last, by rw [List.map_cons, List.cons_append, ← same], fresh⟩
  | case2 directives other =>
    refine ⟨directives, rfl, fun text starts => ?_⟩
    obtain ⟨rest, same⟩ := List.head?_eq_some_iff.mp starts
    exact other text rest same

theorem exists_group (directives : List (Directive α β)) :
    ∃ last, directives = (names directives).map .agent ++
      ((rules (afterNames directives)).map .rule ++ last) ∧ Fresh last ∧
      (rules (afterNames directives) = [] → last = []) := by
  obtain ⟨last, same, fresh⟩ := exists_rules (afterNames directives)
  refine ⟨last, by rw [← same, names_append], fresh, fun none => ?_⟩
  rw [none, List.map_nil, List.nil_append] at same
  rcases last with _ | ⟨name | text, rest⟩
  · rfl
  · have starts : (afterNames directives).head? = some (.agent name) := by rw [same]; rfl
    exact absurd starts afterNames_head
  · exact absurd rfl (fresh text)

theorem exists_pending (directives : List (Directive α β)) :
    ∃ closed, directives = closed ++ (pending directives).map .agent ∧ Closed closed := by
  refine ⟨(afterNames directives.reverse).reverse, ?_, fun name ends => ?_⟩
  · rw [pending, List.map_reverse, ← List.reverse_append, names_append, List.reverse_reverse]
  · rw [List.getLast?_reverse] at ends
    exact afterNames_head ends

/-! ### Rules put in after a name -/

section
variable [DecidableEq α]

@[simp] theorem collect_nil : collect ([] : List (Group α β)) a = [] := rfl

@[simp] theorem collect_cons {part : Group α β} :
    collect (part :: parts) a = (if a ∈ part.agents then part.rules else []) ++ collect parts a := rfl

@[simp] theorem collect_append : collect (parts ++ later) a = collect parts a ++ collect later a := by
  simp [collect]

/-- The names before the new rules lose none of theirs and gain none: there are none of them, or the names
after the new rules hide them by chance. -/
def Separable (star : α) (A B : List α) (R F : List β) : Prop :=
  if B = [] then A = [] else (star ∈ B ∨ R = []) ∧ ∀ a ∈ A, a ∉ B ∧ F = R

instance [DecidableEq β] : Decidable (Separable star A B R F) :=
  inferInstanceAs (Decidable (if B = [] then A = [] else (star ∈ B ∨ R = []) ∧ ∀ a ∈ A, a ∉ B ∧ F = R))

/-- One name gains the rules and the others keep theirs. -/
def Extends (star : α) (F : List β) (new old : List (Group α β)) : Prop :=
  (collect new star).Perm (collect old star ++ F) ∧ ∀ a, a ≠ star → collect new a = collect old a

theorem extends_cancel {new old : List (Group α β)} :
    Extends star F (parts ++ (new ++ later)) (parts ++ (old ++ later)) ↔ Extends star F new old := by
  have outer : ∀ a, collect (parts ++ (new ++ later)) a = collect (parts ++ (old ++ later)) a ↔
      collect new a = collect old a := by simp
  have inner : (collect (parts ++ (new ++ later)) star).Perm (collect (parts ++ (old ++ later)) star ++ F) ↔
      (collect new star).Perm (collect old star ++ F) := by
    simp only [collect_append, List.append_assoc, List.perm_append_left_iff]
    have moved : (collect old star ++ (collect later star ++ F)).Perm
        (collect old star ++ F ++ collect later star) := by
      rw [List.append_assoc]
      exact List.Perm.append_left _ List.perm_append_comm
    exact ⟨fun same => (List.perm_append_right_iff _).mp (same.trans moved),
      fun same => (same.append_right _).trans moved.symm⟩
  simp only [Extends, outer, inner]

theorem extends_first (absent : star ∉ A) (added : F ≠ []) :
    Extends star F [⟨A ++ [star], F ++ R⟩] [⟨A ++ [star], R⟩] ↔ A = [] := by
  constructor
  · intro holds
    by_contra some
    obtain ⟨a, inside⟩ := List.exists_mem_of_ne_nil _ some
    have other : a ≠ star := fun same => absent (same ▸ inside)
    have gained := holds.2 a other
    simp [inside, added] at gained
  · intro none
    subst none
    refine ⟨?_, fun a other => ?_⟩
    · simpa using List.perm_append_comm
    · simp [other]

theorem extends_between (absent : star ∉ A) (added : F ≠ []) :
    Extends star F [⟨A ++ [star], F⟩, ⟨B, R⟩] [⟨A ++ star :: B, R⟩] ↔
      (star ∈ B ∨ R = []) ∧ ∀ a ∈ A, a ∉ B ∧ F = R := by
  constructor
  · intro holds
    refine ⟨?_, fun a inside => ?_⟩
    · by_cases again : star ∈ B
      · exact .inl again
      · have length := holds.1.length_eq
        simp [again] at length
        exact .inr length
    · have other : a ≠ star := fun same => absent (same ▸ inside)
      have kept := holds.2 a other
      by_cases again : a ∈ B
      · simp [inside, again, added] at kept
      · simpa [inside, other, again] using kept
  · intro ⟨own, others⟩
    refine ⟨?_, fun a other => ?_⟩
    · by_cases again : star ∈ B
      · simpa [again] using List.perm_append_comm
      · simp [again, own.resolve_left again]
    · by_cases inside : a ∈ A
      · simp [inside, others a inside]
      · simp [inside, other]

/-- Which rules each name has after new ones were put in behind the first `star`. -/
theorem extends_inserted (absent : .agent star ∉ first) (added : F ≠ []) :
    Extends star F (groups (first ++ .agent star :: (F.map .rule ++ last)))
        (groups (first ++ .agent star :: last)) ↔
      Separable star (pending first) (names last) (rules (afterNames last)) F := by
  obtain ⟨closed, split, ended⟩ := exists_pending first
  obtain ⟨rest, parts, fresh, ends⟩ := exists_group last
  have unnamed : star ∉ pending first := by
    intro inside
    apply absent
    rw [split]
    exact List.mem_append_right _ (List.mem_map_of_mem inside)
  generalize pending first = A at split unnamed ⊢
  generalize names last = B at parts ⊢
  generalize rules (afterNames last) = R at parts ends ⊢
  subst split parts
  have old : groups (closed ++ A.map .agent ++ .agent star :: (B.map .agent ++ (R.map .rule ++ rest))) =
      groups closed ++ ([⟨A ++ star :: B, R⟩] ++ groups rest) := by
    rw [← groups_after ended (by simp) fresh ends]
    simp
  rw [old, Separable]
  split
  · rename_i alone
    subst alone
    have new : groups (closed ++ A.map .agent ++ .agent star :: (F.map .rule ++ (List.map .agent [] ++
        (R.map .rule ++ rest)))) = groups closed ++ ([⟨A ++ [star], F ++ R⟩] ++ groups rest) := by
      rw [← groups_after ended (by simp) fresh (by simp [added])]
      simp
    rw [new, extends_cancel]
    exact extends_first unnamed added
  · rename_i more
    have next : groups (B.map .agent ++ (R.map .rule ++ rest)) = ⟨B, R⟩ :: groups rest :=
      groups_group fresh more ends
    have new : groups (closed ++ A.map .agent ++ .agent star :: (F.map .rule ++ (B.map .agent ++
        (R.map .rule ++ rest)))) = groups closed ++ ([⟨A ++ [star], F⟩, ⟨B, R⟩] ++ groups rest) := by
      have opened : groups (closed ++ ((A ++ [star]).map .agent ++ (F.map .rule ++ (B.map .agent ++
          (R.map .rule ++ rest))))) = groups closed ++ ([⟨A ++ [star], F⟩] ++ (⟨B, R⟩ :: groups rest)) := by
        rw [← next]
        exact groups_after ended (by simp) (fresh_agents more) (by simp [added])
      simpa using opened
    rw [new, extends_cancel]
    exact extends_between unnamed added

theorem extends_appended (absent : .agent star ∉ directives) (added : F ≠ []) :
    Extends star F (groups (directives ++ .agent star :: F.map .rule)) (groups directives) ↔
      pending directives = [] := by
  obtain ⟨closed, split, ended⟩ := exists_pending directives
  have unnamed : star ∉ pending directives := by
    intro inside
    apply absent
    rw [split]
    exact List.mem_append_right _ (List.mem_map_of_mem inside)
  generalize pending directives = A at split unnamed ⊢
  subst split
  have new : groups (closed ++ A.map .agent ++ .agent star :: F.map .rule) =
      groups closed ++ [⟨A ++ [star], F⟩] := by
    rw [← groups_names ended (by simp)]
    simp
  rw [new]
  constructor
  · intro holds
    by_contra some
    have old : groups (closed ++ A.map .agent) = groups closed ++ [⟨A, []⟩] := by
      rw [← groups_names ended some, List.map_nil, List.append_nil]
    obtain ⟨a, inside⟩ := List.exists_mem_of_ne_nil _ some
    have other : a ≠ star := fun same => unnamed (same ▸ inside)
    have gained := holds.2 a other
    rw [old] at gained
    simp [inside, added] at gained
  · intro none
    subst none
    refine ⟨by simp, fun a other => ?_⟩
    simp [other]

/-- The text with the rules put in behind the first `star`, or behind a `star` of their own at the end. -/
def insertAfter (star : α) (F : List β) : List (Directive α β) → List (Directive α β)
  | [] => .agent star :: F.map .rule
  | .rule text :: rest => .rule text :: insertAfter star F rest
  | .agent name :: rest =>
    if name = star then .agent name :: (F.map .rule ++ rest) else .agent name :: insertAfter star F rest

theorem insertAfter_nil : insertAfter star F [] = .agent star :: F.map .rule := rfl

theorem insertAfter_append (absent : .agent star ∉ first) :
    insertAfter star F (first ++ last) = first ++ insertAfter star F last := by
  induction first with
  | nil => rfl
  | cons d rest ih =>
    rw [List.mem_cons, not_or] at absent
    cases d with
    | rule text => rw [List.cons_append, insertAfter, ih absent.2, List.cons_append]
    | agent name =>
      have other : name ≠ star := fun same => absent.1 (by rw [same])
      rw [List.cons_append, insertAfter, if_neg other, ih absent.2, List.cons_append]

/-- The first `star` stands alone over its group, or the group can be taken apart there; without a `star`,
no name at the end waits for a rule. -/
def Keeps [DecidableEq β] (star : α) (F : List β) (directives : List (Directive α β)) : Prop :=
  match directives.dropWhile (· ≠ .agent star) with
  | [] => pending directives = []
  | _ :: later => Separable star (pending (directives.takeWhile (· ≠ .agent star))) (names later)
      (rules (afterNames later)) F

instance [DecidableEq β] : Decidable (Keeps star F directives) :=
  match found : directives.dropWhile (· ≠ .agent star) with
  | [] => decidable_of_iff (pending directives = []) (by rw [Keeps, found])
  | _ :: later =>
    decidable_of_iff (Separable star (pending (directives.takeWhile (· ≠ .agent star))) (names later)
      (rules (afterNames later)) F) (by rw [Keeps, found])

theorem extends_insertAfter_iff [DecidableEq β] (added : F ≠ []) :
    Extends star F (groups (insertAfter star F directives)) (groups directives) ↔
      Keeps star F directives := by
  have parts := List.takeWhile_append_dropWhile (p := (· ≠ .agent star)) (l := directives)
  have absent : .agent star ∉ directives.takeWhile (· ≠ .agent star) := by
    intro inside
    simpa using List.mem_takeWhile_imp inside
  rw [Keeps]
  split
  · rename_i none
    rw [none, List.append_nil] at parts
    rw [parts] at absent
    have whole : insertAfter star F directives = directives ++ .agent star :: F.map .rule := by
      rw [← insertAfter_nil, ← insertAfter_append absent, List.append_nil]
    rw [whole, extends_appended absent added]
  · rename_i d later found
    have same : d = .agent star := by
      have stops := List.head?_dropWhile_not (fun d => decide (d ≠ .agent star)) directives
      rw [found] at stops
      simpa using stops
    rw [found, same] at parts
    clear found
    generalize directives.takeWhile (· ≠ .agent star) = init at parts absent ⊢
    subst parts
    rw [insertAfter_append absent, insertAfter, if_pos rfl]
    exact extends_inserted absent added

end

end AgentGroups
