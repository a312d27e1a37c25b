import Mathlib.Data.List.Sublists

/-! Lists that take an item for each key once, in the order in which the keys are first seen. -/

namespace FirstSeen

variable {α κ : Type} [DecidableEq κ] (key : α → κ)

/-- The list with an item of the key, which is new where there was none. -/
def insert (items : List α) (item : α) : List α :=
  if items.all (key · != key item) then items ++ [item] else items

def fresh (held keys : List κ) : List κ := (keys.filter (· ∉ held)).eraseDups

variable {key} {items inputs : List α} {item : α} {held keys : List κ} {k : κ}

theorem all_iff : items.all (key · != key item) = true ↔ key item ∉ items.map key := by
  simp only [List.all_eq_true, bne_iff_ne, List.mem_map, not_exists, not_and, ne_eq]

theorem insert_held (there : key item ∈ items.map key) : insert key items item = items :=
  if_neg fun all => all_iff.mp all there

theorem insert_new (absent : key item ∉ items.map key) : insert key items item = items ++ [item] :=
  if_pos (all_iff.mpr absent)

theorem insert_nodup (nodup : (items.map key).Nodup) : ((insert key items item).map key).Nodup := by
  by_cases there : key item ∈ items.map key
  · rwa [insert_held there]
  · rw [insert_new there, List.map_append, List.nodup_append]
    refine ⟨nodup, by simp, fun a old b new same => ?_⟩
    obtain rfl : b = key item := by simpa using new
    exact there (same ▸ old)

theorem mem_insert {other : α} (member : other ∈ insert key items item) : other ∈ items ∨ other = item := by
  by_cases there : key item ∈ items.map key
  · rw [insert_held there] at member
    exact .inl member
  · rw [insert_new there] at member
    simpa using member

theorem fresh_held (there : k ∈ held) : fresh held (k :: keys) = fresh held keys := by
  unfold fresh
  rw [List.filter_cons_of_neg (by simpa using there)]

theorem fresh_new (absent : k ∉ held) : fresh held (k :: keys) = k :: fresh (held ++ [k]) keys := by
  unfold fresh
  rw [List.filter_cons_of_pos (by simpa using absent), List.eraseDups_cons, List.filter_filter]
  congr 3
  funext other
  by_cases same : other = k <;> simp [same]

theorem foldl_insert (items inputs : List α) :
    ∃ added, inputs.foldl (insert key) items = items ++ added ∧ added.Sublist inputs ∧
      added.map key = fresh (items.map key) (inputs.map key) := by
  induction inputs generalizing items with
  | nil => exact ⟨[], (List.append_nil items).symm, List.Sublist.refl _, rfl⟩
  | cons item rest ih =>
    rw [List.foldl_cons, List.map_cons]
    by_cases there : key item ∈ items.map key
    · rw [insert_held there, fresh_held there]
      obtain ⟨added, whole, part, keys⟩ := ih items
      exact ⟨added, whole, part.cons item, keys⟩
    · rw [insert_new there, fresh_new there]
      obtain ⟨added, whole, part, keys⟩ := ih (items ++ [item])
      refine ⟨item :: added, ?_, part.cons_cons item, ?_⟩
      · rw [whole, List.append_assoc]
        rfl
      · rw [List.map_cons, keys, List.map_append]
        rfl

theorem foldl_insert_held (there : ∀ item ∈ inputs, key item ∈ items.map key) :
    inputs.foldl (insert key) items = items := by
  induction inputs with
  | nil => rfl
  | cons item rest ih =>
    obtain ⟨first, others⟩ := List.forall_mem_cons.mp there
    rw [List.foldl_cons, insert_held first]
    exact ih others

theorem foldl_insert_nodup (nodup : (items.map key).Nodup) : ((inputs.foldl (insert key) items).map key).Nodup := by
  induction inputs generalizing items with
  | nil => exact nodup
  | cons item rest ih => exact ih (insert_nodup nodup)

theorem of_mem_foldl_insert (member : item ∈ inputs.foldl (insert key) items) : item ∈ items ∨ item ∈ inputs := by
  obtain ⟨added, whole, part, _⟩ := @foldl_insert α κ _ key items inputs
  rw [whole] at member
  exact (List.mem_append.mp member).imp id fun new => part.subset new

theorem mem_foldl_insert (items : List α) (member : item ∈ inputs) :
    key item ∈ (inputs.foldl (insert key) items).map key := by
  obtain ⟨added, whole, _, keys⟩ := @foldl_insert α κ _ key items inputs
  rw [whole, List.map_append, List.mem_append]
  by_cases there : key item ∈ items.map key
  · exact .inl there
  · refine .inr ?_
    rw [keys]
    unfold fresh
    rw [List.mem_eraseDups, List.mem_filter]
    exact ⟨List.mem_map_of_mem member, by simpa using there⟩

end FirstSeen
