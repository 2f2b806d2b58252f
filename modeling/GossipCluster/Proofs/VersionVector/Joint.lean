import GossipCluster.Proofs.VersionVector.Rank

namespace GossipCluster.VersionVector

def first (v : VersionVector) (k : ℕ) : VersionVector := ⟨v.counters.take k⟩

def joint (vs : List VersionVector) : VersionVector := vs.foldl merge empty

variable {v w u : VersionVector} {vs ws : List VersionVector} {ids : List String} {id : String} {k n : ℕ}

theorem first_first : (v.first k).first k = v.first k :=
  VersionVector.ext <| Table.ext <| List.take_take.trans (by rw [min_self]; rfl)

theorem first_eq_iff : v.first k = v ↔ v.size ≤ k := by
  rw [VersionVector.ext_iff, Table.ext_iff]
  exact List.take_eq_self_iff _

theorem prune_eq_first (h : ∀ e ∈ v.entries, e.1 ∈ ids) : v.prune ids k = v.first k := by
  have all : v.restrict ids = v :=
    VersionVector.ext <| Table.ext <| List.filter_eq_self.mpr fun e he => List.contains_iff_mem.mpr (h e he)
  rw [prune, all]
  rfl

-- As many rows as are wanted of a merge are enough of the first part of it.
theorem take_mergeRows_take {α : Type} {key : α → String} {both : α → α → α} {as bs : List α} {j : ℕ}
    (le : k ≤ j) : (Table.mergeRows key both (as.take j) bs).take k = (Table.mergeRows key both as bs).take k := by
  have nil (l : List α) : Table.mergeRows key both l [] = l := by cases l <;> rw [Table.mergeRows]; simp
  fun_induction Table.mergeRows key both as bs generalizing j k with
  | case1 => rw [List.take_nil, Table.mergeRows]
  | case2 as => rw [nil, List.take_take, min_eq_left le]
  | case3 a as b bs lt ih =>
    cases k with
    | zero => rfl
    | succ k =>
      obtain ⟨j, rfl⟩ := Nat.exists_eq_add_one_of_ne_zero (Nat.ne_zero_of_lt le)
      rw [List.take_succ_cons, Table.mergeRows, if_pos lt, List.take_succ_cons, List.take_succ_cons,
        ih (Nat.le_of_succ_le_succ le)]
  | case4 a as b bs nlt lt ih =>
    cases k with
    | zero => rfl
    | succ k =>
      have rest := ih (Nat.le_of_succ_le le)
      obtain ⟨j, rfl⟩ := Nat.exists_eq_add_one_of_ne_zero (Nat.ne_zero_of_lt le)
      rw [List.take_succ_cons] at rest ⊢
      rw [Table.mergeRows, if_neg nlt, if_pos lt, List.take_succ_cons, List.take_succ_cons, rest]
  | case5 a as b bs nlt ngt ih =>
    cases k with
    | zero => rfl
    | succ k =>
      obtain ⟨j, rfl⟩ := Nat.exists_eq_add_one_of_ne_zero (Nat.ne_zero_of_lt le)
      rw [List.take_succ_cons, Table.mergeRows, if_neg nlt, if_neg ngt, List.take_succ_cons, List.take_succ_cons,
        ih (Nat.le_of_succ_le_succ le)]

theorem first_merge_first : ((v.first k).merge w).first k = (v.merge w).first k :=
  VersionVector.ext <| Table.ext <| take_mergeRows_take le_rfl

theorem joint_singleton : joint [v] = v :=
  VersionVector.ext <| Table.ext <| show Table.mergeRows Prod.fst _ [] v.entries = v.entries by rw [Table.mergeRows]

theorem joint_concat : joint (vs ++ [v]) = (joint vs).merge v := List.foldl_concat ..

-- Merges make up no entries.
theorem mem_entries_of_foldl_merge {e : String × ℕ} (h : e ∈ (vs.foldl merge v).entries) :
    e ∈ v.entries ∨ ∃ w ∈ vs, e ∈ w.entries := by
  induction vs generalizing v with
  | nil => exact .inl h
  | cons w vs ih =>
    rcases ih h with merged | ⟨u, mem, he⟩
    · exact (mem_entries_of_merge merged).imp_right fun he => ⟨w, List.mem_cons_self, he⟩
    · exact .inr ⟨u, List.mem_cons_of_mem w mem, he⟩

theorem within_foldl_merge : v.Within (ws.foldl merge v) := by
  induction ws generalizing v with
  | nil => exact .refl v
  | cons w ws ih => exact within_merge_left.trans ih

theorem mem_entries_of_joint {e : String × ℕ} (h : e ∈ (joint vs).entries) : ∃ v ∈ vs, e ∈ v.entries :=
  (mem_entries_of_foldl_merge h).resolve_left nofun

theorem within_joint (h : v ∈ vs) : v.Within (joint vs) := by
  obtain ⟨before, after, rfl⟩ := List.append_of_mem h
  rw [joint, List.foldl_append, List.foldl_cons]
  exact within_merge_right.trans within_foldl_merge

-- The pointwise maximum.
theorem mem_entries_joint_iff : (id, n) ∈ (joint vs).entries ↔ IsGreatest {m | ∃ v ∈ vs, (id, m) ∈ v.entries} n := by
  constructor
  case mp =>
    intro h
    refine ⟨mem_entries_of_joint h, fun m ⟨v, mem, hm⟩ => ?_⟩
    obtain ⟨n', le, h'⟩ := within_joint mem (id, m) hm
    have same : ((id, n') : String × ℕ) = (id, n) := Table.row_unique h' h rfl
    exact le.trans_eq (Prod.mk.inj same).2
  case mpr =>
    intro ⟨⟨v, mem, hn⟩, bound⟩
    obtain ⟨n', le, h'⟩ := within_joint mem (id, n) hn
    have same : n' = n := (bound (mem_entries_of_joint h')).antisymm le
    exact same ▸ h'

theorem joint_congr (h : ∀ v, v ∈ vs ↔ v ∈ ws) : joint vs = joint ws := by
  refine VersionVector.ext <| Table.ext_mem fun ⟨id, n⟩ => ?_
  have iff {us : List VersionVector} := @mem_entries_joint_iff us id n
  exact iff.trans <| Iff.trans (by simp only [h]) iff.symm

end GossipCluster.VersionVector
