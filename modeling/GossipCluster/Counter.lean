namespace GossipCluster.Counter

def last : UInt64 := 0xffffffffffffffff

def next? (n : UInt64) : Option UInt64 := if n = last then none else some (n + 1)

-- The last counter follows itself.
def next (n : UInt64) : UInt64 := (next? n).getD n

theorem toNat_next? {n m : UInt64} (h : next? n = some m) : m.toNat = n.toNat + 1 := by
  simp only [next?] at h
  split at h
  case isTrue => contradiction
  case isFalse ne =>
    have : n.toNat ≠ last.toNat := fun e => ne (UInt64.toNat_inj.mp e)
    have : last.toNat = 2 ^ 64 - 1 := rfl
    have := n.toNat_lt
    injection h with h
    subst h
    rw [UInt64.toNat_add, UInt64.toNat_one]
    omega

theorem le_next (n : UInt64) : n ≤ next n := by
  rw [UInt64.le_iff_toNat_le, next]
  cases h : next? n
  case none => simp
  case some => simp [toNat_next? h]

theorem next?_eq_none_iff {n : UInt64} : next? n = none ↔ n = last := by
  simp [next?]

theorem le_last (n : UInt64) : n ≤ last :=
  UInt64.le_iff_toNat_le.mpr (Nat.le_of_lt_succ n.toNat_lt)

theorem max_eq_last_iff {n m : UInt64} : max n m = last ↔ n = last ∨ m = last := by
  change (if n ≤ m then m else n) = last ↔ _
  split
  case isTrue le => exact ⟨.inr, fun h => h.elim (fun full => UInt64.le_antisymm (le_last m) (full ▸ le)) id⟩
  case isFalse nle => exact ⟨.inl, fun h => h.elim id fun full => absurd (full ▸ le_last n) nle⟩

end GossipCluster.Counter
