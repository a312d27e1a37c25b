import Atomwall.Base.KeyMap

/-!
A map whose entries carry a stamp, and the queue of the stamps in the order they were made. An item
that leaves the queue takes the entry of its key away if that still has the item's stamp; the items of
entries that were removed or replaced since stay in the queue and match nothing.
-/

namespace AgeQueue

variable {K V I T : Type*} [DecidableEq K]

section Defs

variable (key : I → K) (age : I → T) (stamp : V → T)

def Stamps (item : I) (k : K) (v : V) : Prop := key item = k ∧ age item = stamp v

/-- Every entry has its item in the queue. -/
def Queued (entries : KeyMap K V) (order : List I) : Prop :=
  ∀ k v, entries.lookup k = some v → ∃ item ∈ order, Stamps key age stamp item k v

variable [DecidableEq T]

/-- The entry the item was made for, dropped unless its key was removed or stamped again since. -/
def dropStamped (entries : KeyMap K V) (item : I) : KeyMap K V :=
  match entries.lookup (key item) with
  | some v => if stamp v = age item then entries.erase (key item) else entries
  | none => entries

/-- What is left once the items have left the queue, the first one first. -/
def popItems (entries : KeyMap K V) : List I → KeyMap K V
  | [] => entries
  | item :: rest => popItems (dropStamped key age stamp entries item) rest

end Defs

variable {key : I → K} {age : I → T} {stamp : V → T} {entries : KeyMap K V} {item : I}
  {order gone : List I} {k : K} {v : V}

theorem Queued.of_lookup {after : KeyMap K V} (queued : Queued key age stamp entries order)
    (older : ∀ k v, after.lookup k = some v → entries.lookup k = some v) :
    Queued key age stamp after order :=
  fun k v held => queued k v (older k v held)

theorem Queued.push (queued : Queued key age stamp entries order) (own : key item = k)
    (same : age item = stamp v) : Queued key age stamp (entries.insert k v) (order ++ [item]) := by
  intro other w held
  rw [KeyMap.lookup_insert_ite] at held
  split at held
  · next here =>
    obtain rfl := Option.some.inj held
    exact ⟨item, by simp, own.trans here.symm, same⟩
  · obtain ⟨older, member, stamps⟩ := queued other w held
    exact ⟨older, List.mem_append_left _ member, stamps⟩

theorem Queued.length_le (queued : Queued key age stamp entries order) :
    entries.entries.length ≤ order.length := by
  rw [← List.length_map key]
  apply KeyMap.length_le_of_held
  intro k v held
  obtain ⟨item, there, own, _⟩ := queued k v held
  exact List.mem_map.mpr ⟨item, there, own⟩

variable [DecidableEq T]

theorem lookup_dropStamped_other (other : k ≠ key item) :
    (dropStamped key age stamp entries item).lookup k = entries.lookup k := by
  unfold dropStamped
  split
  · split
    · rw [KeyMap.lookup_erase_ite, if_neg other]
    · rfl
  · rfl

theorem lookup_dropStamped : (dropStamped key age stamp entries item).lookup k = some v ↔
    entries.lookup k = some v ∧ ¬ Stamps key age stamp item k v := by
  unfold Stamps
  by_cases own : key item = k
  · subst own
    unfold dropStamped
    cases held : entries.lookup (key item) with
    | none => simp [held]
    | some w =>
      by_cases same : stamp w = age item
      · simp only [same, if_true, KeyMap.lookup_erase_ite, Option.some.injEq, true_and]
        constructor
        · intro absurd
          cases absurd
        · intro given
          obtain ⟨rfl, other⟩ := given
          exact absurd same.symm other
      · simp only [same, if_false, held, Option.some.injEq, true_and]
        constructor
        · intro this
          subst this
          exact ⟨rfl, Ne.symm same⟩
        · exact And.left
  · rw [lookup_dropStamped_other (Ne.symm own)]
    simp [own]

/-- An entry outlives exactly the items that were not made for it. -/
theorem lookup_popItems : (popItems key age stamp entries gone).lookup k = some v ↔
    entries.lookup k = some v ∧ ∀ item ∈ gone, ¬ Stamps key age stamp item k v := by
  induction gone generalizing entries with
  | nil => simp [popItems]
  | cons item rest ih => rw [popItems, ih, lookup_dropStamped, List.forall_mem_cons, and_assoc]

theorem Queued.pop (queued : Queued key age stamp entries (gone ++ order)) :
    Queued key age stamp (popItems key age stamp entries gone) order := by
  intro k v held
  obtain ⟨there, spared⟩ := lookup_popItems.mp held
  obtain ⟨item, member, stamps⟩ := queued k v there
  rcases List.mem_append.mp member with popped | kept
  · exact absurd stamps (spared item popped)
  · exact ⟨item, kept, stamps⟩

end AgeQueue
