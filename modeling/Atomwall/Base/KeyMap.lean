import Mathlib.Data.List.AList
import Mathlib.Data.List.Perm.Subperm

/-! Finite maps with one value type, read by `lookup`, and the entries a predicate on values keeps. -/

abbrev KeyMap (K V : Type*) := AList fun _ : K => V

namespace KeyMap

variable {K V : Type*} [DecidableEq K]

/-- The entries whose value does not satisfy `drop`. -/
def eraseIf (drop : V → Bool) (m : KeyMap K V) : KeyMap K V :=
  ⟨m.entries.filter fun e => !drop e.2,
    (List.filter_sublist.map Sigma.fst).nodup m.nodupKeys⟩

theorem lookup_insert_ite (m : KeyMap K V) (k j : K) (v : V) :
    (m.insert k v).lookup j = if j = k then some v else m.lookup j := by
  split
  · next same => rw [same, AList.lookup_insert]
  · next other => exact AList.lookup_insert_ne other

theorem lookup_erase_ite (m : KeyMap K V) (k j : K) :
    (m.erase k).lookup j = if j = k then none else m.lookup j := by
  split
  · next same => rw [same, AList.lookup_erase]
  · next other => exact AList.lookup_erase_ne other

theorem lookup_eq_some_iff {m : KeyMap K V} {k : K} {v : V} :
    m.lookup k = some v ↔ (⟨k, v⟩ : Sigma fun _ : K => V) ∈ m.entries :=
  AList.mem_lookup_iff

theorem lookup_eraseIf_eq_some {drop : V → Bool} {m : KeyMap K V} {k : K} {v : V} :
    (eraseIf drop m).lookup k = some v ↔ m.lookup k = some v ∧ drop v = false := by
  rw [lookup_eq_some_iff, lookup_eq_some_iff]
  simp [eraseIf]

theorem lookup_of_eraseIf {drop : V → Bool} {m : KeyMap K V} {k : K} {v : V}
    (h : (eraseIf drop m).lookup k = some v) : m.lookup k = some v :=
  (lookup_eraseIf_eq_some.mp h).1

theorem length_le_of_held {m : KeyMap K V} {l : List K} (within : ∀ k v, m.lookup k = some v → k ∈ l) :
    m.entries.length ≤ l.length := by
  have covered : m.keys ⊆ l := by
    intro k member
    obtain ⟨v, held⟩ := Option.isSome_iff_exists.mp (AList.lookup_isSome.mpr (AList.mem_keys.mp member))
    exact within k v held
  have fewer := (m.keys_nodup.subperm covered).length_le
  have each : m.keys.length = m.entries.length := List.length_map _
  rwa [each] at fewer

end KeyMap
