import GossipCluster.Proofs.Table.Lookup
import GossipCluster.VersionVector

namespace GossipCluster

-- How it looks from the other side.
def CausalOrder.swap : CausalOrder → CausalOrder
  | equal => equal
  | before => after
  | after => before
  | concurrent => concurrent

namespace VersionVector

-- What some entries count of the events of a node.
def count (entries : List (String × ℕ)) (id : String) : ℕ :=
  ((entries.find? (·.1 == id)).map Prod.snd).getD 0

variable {u v w : VersionVector} {as bs : List (String × ℕ)} {e : String × ℕ} {id : String} {n : ℕ}

theorem count_cons_self : count ((id, n) :: as) id = n := by simp [count]

theorem count_cons_of_ne (h : e.1 ≠ id) : count (e :: as) id = count as id := by
  simp [count, h]

theorem count_eq_zero (h : ∀ e ∈ as, e.1 ≠ id) : count as id = 0 := by
  have none : as.find? (·.1 == id) = none := List.find?_eq_none.mpr fun e he => by simpa using h e he
  rw [count, none]
  rfl

theorem mem_entries_iff : e ∈ v.entries ↔ v.counters.find? e.1 = some e :=
  ⟨Table.find?_key_of_mem, Table.mem_of_find?⟩

theorem get_of_mem (h : (id, n) ∈ v.entries) : v.get id = n := by
  have found : v.counters.find? id = some (id, n) := mem_entries_iff.mp h
  rw [get, Dict.get?, found]
  rfl

theorem idFault?_eq_none_iff : idFault? id = none ↔ 1 ≤ id.utf8ByteSize ∧ id.utf8ByteSize ≤ maxIdBytes := by
  have empty : id = "" ↔ id.utf8ByteSize = 0 := String.utf8ByteSize_eq_zero_iff.symm
  rw [idFault?]
  grind

-- Each entry is held against what the others count of the same node.
theorem below_iff_count (ha : as.Pairwise (·.1 < ·.1)) (hb : bs.Pairwise (·.1 < ·.1)) :
    below as bs ↔ ∀ a ∈ as, a.2 ≤ count bs a.1 := by
  fun_induction below as bs with
  | case1 => simp
  | case2 i n as ih =>
    have none : count [] i = 0 := rfl
    simp [ih (List.pairwise_cons.mp ha).2 hb, none]
  | case3 i n as j m bs lt ih =>
    have none : count ((j, m) :: bs) i = 0 := count_eq_zero fun e he => by
      have ⟨later, _⟩ := List.pairwise_cons.mp hb
      exact ne_of_gt <| (List.mem_cons.mp he).elim (· ▸ lt) (String.lt_trans lt <| later e ·)
    simp [ih (List.pairwise_cons.mp ha).2 hb, none]
  | case4 i n as j m bs _ gt ih =>
    have ⟨later, _⟩ := List.pairwise_cons.mp ha
    have skip (a) (h : a ∈ (i, n) :: as) : count ((j, m) :: bs) a.1 = count bs a.1 :=
      count_cons_of_ne <| ne_of_lt <| (List.mem_cons.mp h).elim (· ▸ gt) (String.lt_trans gt <| later a ·)
    rw [ih ha (List.pairwise_cons.mp hb).2]
    exact forall₂_congr fun a h => by rw [skip a h]
  | case5 i n as j m bs nlt ngt ih =>
    have ⟨later, ha⟩ := List.pairwise_cons.mp ha
    obtain rfl : i = j := String.le_antisymm (String.not_lt.mp ngt) (String.not_lt.mp nlt)
    have skip (a) (h : a ∈ as) : count ((i, m) :: bs) a.1 = count bs a.1 := count_cons_of_ne (ne_of_lt (later a h))
    rw [Bool.and_eq_true, decide_eq_true_iff, ih ha (List.pairwise_cons.mp hb).2, List.forall_mem_cons, count_cons_self]
    exact and_congr_right fun _ => forall₂_congr fun a h => by rw [skip a h]

theorem below_iff : below v.entries w.entries ↔ v.get ≤ w.get := by
  refine (below_iff_count v.counters.sorted w.counters.sorted).trans ?_
  constructor
  case mp =>
    intro h id
    cases known : v.counters.find? id with
    | none => simp [get, Dict.get?, known]
    | some e =>
      obtain rfl := Table.key_of_find? known
      have mem := Table.mem_of_find? known
      exact (get_of_mem mem).trans_le (h e mem)
  case mpr => exact fun h e he => (get_of_mem he).symm.trans_le (h e.1)

theorem compare_eq_equal_iff : v.compare w = .equal ↔ v.get = w.get := by
  rw [le_antisymm_iff (a := v.get), ← below_iff, ← below_iff, compare]
  split <;> simp_all

theorem compare_eq_before_iff : v.compare w = .before ↔ v.get < w.get := by
  rw [lt_iff_le_not_ge, ← below_iff, ← below_iff, compare]
  split <;> simp_all

theorem compare_eq_concurrent_iff : v.compare w = .concurrent ↔ ¬v.get ≤ w.get ∧ ¬w.get ≤ v.get := by
  rw [← below_iff, ← below_iff, compare]
  split <;> simp_all

theorem compare_swap : w.compare v = (v.compare w).swap := by
  rw [compare, compare]
  cases below v.entries w.entries <;> cases below w.entries v.entries <;> rfl

theorem compare_eq_after_iff : v.compare w = .after ↔ w.get < v.get := by
  rw [← compare_eq_before_iff, compare_swap]
  cases w.compare v <;> simp [CausalOrder.swap]

theorem dominates_iff : v.dominates w ↔ w.get ≤ v.get := by
  rw [← below_iff, dominates, compare]
  cases below v.entries w.entries <;> cases below w.entries v.entries <;> simp

theorem find?_merge_counters : (v.merge w).counters.find? id =
    (v.counters.find? id).merge (fun a b => (a.1, max a.2 b.2)) (w.counters.find? id) :=
  Table.find?_merge (by exact fun _ _ _ => rfl)

theorem get?_merge : (v.merge w).counters.get? id = (v.counters.get? id).merge max (w.counters.get? id) := by
  rw [Dict.get?, find?_merge_counters, Dict.get?, Dict.get?]
  cases v.counters.find? id <;> cases w.counters.find? id <;> rfl

theorem get_merge : (v.merge w).get = v.get ⊔ w.get := by
  funext id
  rw [get, get?_merge, Pi.sup_apply, get, get]
  cases v.counters.get? id <;> cases w.counters.get? id <;> simp

theorem ext_get? (h : ∀ id, v.counters.get? id = w.counters.get? id) : v = w :=
  VersionVector.ext (Dict.ext_get? h)

theorem merge_comm : v.merge w = w.merge v :=
  ext_get? fun id => by
    rw [get?_merge, get?_merge]
    exact Std.Commutative.comm ..

theorem merge_assoc : (u.merge v).merge w = u.merge (v.merge w) :=
  ext_get? fun id => by
    rw [get?_merge, get?_merge, get?_merge, get?_merge]
    exact Std.Associative.assoc ..

theorem merge_self : v.merge v = v :=
  ext_get? fun id => by
    rw [get?_merge]
    exact Std.IdempotentOp.idempotent _

theorem increment_eq_ok_iff : v.increment id = .ok w ↔
    idFault? id = none ∧ v.get id < maxCounter ∧ w.counters = v.counters.put id (v.get id + 1) := by
  rw [increment]
  split
  case h_1 fault faulty => simp [faulty]
  case h_2 free =>
    split
    case isTrue exhausted => simp [Nat.not_lt.mpr exhausted]
    case isFalse room => simp [free, Nat.not_le.mp room, VersionVector.ext_iff, eq_comm]

theorem get_increment (h : v.increment id = .ok w) : w.get = Function.update v.get id (v.get id + 1) := by
  obtain ⟨_, _, counted⟩ := increment_eq_ok_iff.mp h
  funext i
  rw [get, counted, Dict.get?_put, Function.update_apply]
  split <;> simp_all [get, eq_comm]

-- Nothing but the entry of the node changes, and the vector moves up.
theorem compare_increment (h : v.increment id = .ok w) : w.compare v = .after := by
  rw [compare_eq_after_iff, get_increment h]
  exact lt_update_self_iff.mpr (Nat.lt_succ_self _)

theorem get?_increment_of_ne {i : String} (h : v.increment id = .ok w) (ne : i ≠ id) :
    w.counters.get? i = v.counters.get? i := by
  rw [(increment_eq_ok_iff.mp h).2.2, Dict.get?_put, if_neg ne.symm]

-- Version vectors are a join semilattice, up to entries of zero. The order is that of the counts of all nodes, and
-- an event moves a vector up at one node only.
theorem merge_semilattice (a b c : VersionVector) :
    ((a.compare b = .equal ↔ a.get = b.get) ∧
      (a.compare b = .before ↔ a.get < b.get) ∧
      (a.compare b = .after ↔ b.get < a.get) ∧
      (a.compare b = .concurrent ↔ ¬a.get ≤ b.get ∧ ¬b.get ≤ a.get) ∧
      b.compare a = (a.compare b).swap) ∧
    (a.merge b = b.merge a ∧ (a.merge b).merge c = a.merge (b.merge c) ∧ a.merge a = a) ∧
    ((a.merge b).dominates a ∧ (a.merge b).dominates b ∧
      (c.dominates a → c.dominates b → c.dominates (a.merge b))) ∧
    ∀ id,
      ((∃ w, a.increment id = .ok w) ↔ idFault? id = none ∧ a.get id < maxCounter) ∧
      ∀ w, a.increment id = .ok w →
        w.compare a = .after ∧ w.get id = a.get id + 1 ∧ ∀ i ≠ id, w.counters.get? i = a.counters.get? i := by
  refine ⟨⟨?_, ?_, ?_, ?_, ?_⟩, ⟨merge_comm, merge_assoc, merge_self⟩, ⟨?_, ?_, ?_⟩, fun id => ⟨?_, fun w h => ?_⟩⟩
  · exact compare_eq_equal_iff
  · exact compare_eq_before_iff
  · exact compare_eq_after_iff
  · exact compare_eq_concurrent_iff
  · exact compare_swap
  · exact dominates_iff.mpr <| get_merge.symm ▸ le_sup_left
  · exact dominates_iff.mpr <| get_merge.symm ▸ le_sup_right
  · intro ha hb
    rw [dominates_iff] at ha hb ⊢
    exact get_merge.symm ▸ sup_le ha hb
  · constructor
    case mp => exact fun ⟨w, h⟩ => (increment_eq_ok_iff.mp h).imp_right And.left
    case mpr => exact fun ⟨free, room⟩ => ⟨_, increment_eq_ok_iff.mpr ⟨free, room, rfl⟩⟩
  · have counted : w.get id = a.get id + 1 := by rw [get_increment h, Function.update_self]
    exact ⟨compare_increment h, counted, fun i ne => get?_increment_of_ne h ne⟩

-- An entry of zero does not count in the order, and is kept by a merge.
theorem merge_semilattice_zeros :
    let a : VersionVector := ⟨⟨[("x", 0), ("y", 2)], by decide⟩⟩
    let b : VersionVector := ⟨⟨[("y", 1), ("z", 0)], by decide⟩⟩
    let c : VersionVector := ⟨⟨[("y", 3)], by decide⟩⟩
    a.compare b = .after ∧ a.merge b = ⟨⟨[("x", 0), ("y", 2), ("z", 0)], by decide⟩⟩ ∧ c.dominates (a.merge b) ∧
      ∃ w, a.increment "z" = .ok w ∧ w.compare a = .after ∧ w.get "z" = 1 := by
  intro a b c
  have ⟨_, _, ⟨_, _, least⟩, events⟩ := merge_semilattice a b c
  obtain ⟨⟨_, possible⟩, happens⟩ := events "z"
  obtain ⟨w, counted⟩ := possible ⟨by decide +kernel, by decide +kernel⟩
  have ⟨after, one, _⟩ := happens w counted
  exact ⟨by decide +kernel, by decide +kernel, least (by decide +kernel) (by decide +kernel), w, counted, after, one⟩

end VersionVector

end GossipCluster
