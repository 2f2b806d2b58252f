import Mathlib
import GossipCluster.Proofs.Table.Lookup

namespace GossipCluster

namespace Dict

variable {β : Type}

-- An entry than which none is older.
def Oldest (time : β → ℤ) (d : Dict β) (k : String) : Prop :=
  ∃ v, d.get? k = some v ∧ ∀ i w, d.get? i = some w → time v ≤ time w

-- What is left of a dictionary in which there has to be room for a key.
inductive MakesRoom (time : β → ℤ) (bound : ℕ) (d : Dict β) (k : String) : Dict β → Prop
  | present (h : d.contains k) : MakesRoom time bound d k d
  | spare (h : d.size < bound) : MakesRoom time bound d k d
  | evict {i : String} (absent : ¬d.contains k) (full : bound ≤ d.size) (oldest : d.Oldest time i) :
      MakesRoom time bound d k (d.erase i)

variable {time : β → ℤ} {bound : ℕ} {d room : Dict β} {k j : String} {v : β}

theorem oldest_of_argmin (h : (d.rows.argmin fun e => time e.2).map Prod.fst = some k) : d.Oldest time k := by
  obtain ⟨⟨_, v⟩, least, rfl⟩ := Option.map_eq_some_iff.mp h
  refine ⟨v, get?_eq_some_iff.mpr (List.argmin_mem least), fun i w found => ?_⟩
  exact List.le_of_mem_argmin (f := fun e : String × β => time e.2) (get?_eq_some_iff.mp found) least

theorem size_eq_zero_of_argmin (h : (d.rows.argmin fun e => time e.2).map Prod.fst = none) : d.size = 0 :=
  List.length_eq_zero_iff.mpr (List.argmin_eq_none.mp (Option.map_eq_none_iff.mp h))

theorem Oldest.contains (h : d.Oldest time k) : d.contains k :=
  have ⟨_, found, _⟩ := h
  contains_of_get? found

namespace MakesRoom

theorem get?_of_get? (h : MakesRoom time bound d k room) (found : room.get? j = some v) : d.get? j = some v := by
  cases h with
  | present => exact found
  | spare => exact found
  | evict =>
    rw [get?_erase] at found
    split at found
    case isTrue => exact nomatch found
    case isFalse => exact found

-- The key for which room is made keeps what it has.
theorem get?_self (h : MakesRoom time bound d k room) : room.get? k = d.get? k := by
  cases h with
  | present => rfl
  | spare => rfl
  | evict absent _ oldest => exact get?_erase.trans (if_neg fun same => absurd (same ▸ oldest.contains) absent)

theorem size_put_le (h : MakesRoom time bound d k room) (le : d.size ≤ bound) : (room.put k v).size ≤ bound := by
  cases h with
  | present h => exact (Table.size_insert_of_contains h).trans_le le
  | spare h => exact Table.size_insert_le.trans h
  | evict _ _ oldest => exact Table.size_insert_le.trans ((Table.size_erase_of_contains oldest.contains).trans_le le)

-- Nothing is lost but an oldest entry, and that only to a new key for which there is no room.
theorem oldest_of_lost (h : MakesRoom time bound d k room) (had : d.contains j) (lost : ¬(room.put k v).contains j) :
    ¬d.contains k ∧ bound ≤ d.size ∧ d.Oldest time j ∧ room = d.erase j := by
  have gone : room.get? j = none := by
    rw [contains_eq_isSome, get?_put] at lost
    split at lost
    case isTrue => contradiction
    case isFalse => simpa using lost
  rw [contains_eq_isSome] at had
  cases h with
  | present => rw [gone] at had; contradiction
  | spare => rw [gone] at had; contradiction
  | @evict i absent full oldest =>
    rw [get?_erase] at gone
    split at gone
    case isTrue same => exact ⟨absent, full, same ▸ oldest, same ▸ rfl⟩
    case isFalse => rw [gone] at had; contradiction

-- One key at most is lost.
theorem eq_of_lost {i : String} (h : MakesRoom time bound d k room) (had : d.contains j)
    (lost : ¬(room.put k v).contains j) (had' : d.contains i) (lost' : ¬(room.put k v).contains i) : j = i := by
  obtain ⟨_, _, _, rfl⟩ := h.oldest_of_lost had lost
  by_contra other
  rw [contains_eq_isSome] at had' lost'
  rw [get?_put, get?_erase, if_neg other] at lost'
  split at lost' <;> contradiction

end MakesRoom

end Dict

end GossipCluster
