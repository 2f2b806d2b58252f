import GossipCluster.Proofs.View.Level

namespace GossipCluster

namespace Table

variable {α : Type} {key : α → String} {t : Table key} {k : String} {n : ℕ}

theorem find?_take_of_sorted {l : List α} (sorted : l.Pairwise (key · < key ·))
    (few : (l.filter (key · < k)).length < n) : (l.take n).find? (key · == k) = l.find? (key · == k) := by
  induction l generalizing n with
  | nil => rw [List.take_nil]
  | cons a l ih =>
    obtain ⟨n, rfl⟩ := Nat.exists_eq_add_one_of_ne_zero (Nat.ne_zero_of_lt few)
    have ⟨later, sorted⟩ := List.pairwise_cons.mp sorted
    rw [List.take_succ_cons, List.find?_cons, List.find?_cons]
    by_cases same : key a = k
    case pos => simp [same]
    case neg =>
      rw [beq_false_of_ne same]
      by_cases before : key a < k
      case pos =>
        rw [List.filter_cons_of_pos (by simpa using before), List.length_cons] at few
        exact ih sorted (Nat.lt_of_succ_lt_succ few)
      case neg =>
        have none (b) (hb : b ∈ l) : ¬(key b == k) := by
          have := later b hb
          grind
        rw [List.find?_eq_none.mpr none, List.find?_eq_none.mpr fun b hb => none b (List.mem_of_mem_take hb)]

-- A row stays if there are fewer rows before it than are kept.
theorem find?_take {before : Finset String} (h : ∀ a ∈ t.rows, key a < k → key a ∈ before) (few : before.card < n) :
    (t.take n).find? k = t.find? k := by
  have nodup : ((t.rows.filter (key · < k)).map key).Nodup :=
    (t.sorted.filter _).map key fun _ _ lt => ne_of_lt lt
  refine find?_take_of_sorted t.sorted (Nat.lt_of_le_of_lt ?_ few)
  calc (t.rows.filter (key · < k)).length
    _ = ((t.rows.filter (key · < k)).map key).toFinset.card := by
      rw [List.toFinset_card_of_nodup nodup, List.length_map]
    _ ≤ before.card := by
      refine Finset.card_le_card fun i hi => ?_
      simp only [List.mem_toFinset, List.mem_map, List.mem_filter, decide_eq_true_eq] at hi
      obtain ⟨a, ⟨ha, lt⟩, rfl⟩ := hi
      exact h a ha lt

end Table

namespace VersionVector

variable {v w : VersionVector} {ids : List String} {id : String} {rivals : Finset String} {k : ℕ}

theorem get_prune (known : id ∈ ids) (before : ∀ e ∈ v.entries, e.1 ∈ ids → e.1 < id → e.1 ∈ rivals)
    (few : rivals.card < k) : (v.prune ids k).get id = v.get id := by
  have restricted : (v.restrict ids).counters.find? id = v.counters.find? id := by
    rw [restrict, Table.find?_filter]
    cases hv : v.counters.find? id with
    | none => rfl
    | some e =>
      have : e.1 = id := Table.key_of_find? hv
      simp [Option.filter, this, known]
  have kept : (v.prune ids k).counters.find? id = v.counters.find? id := by
    rw [← restricted]
    refine Table.find?_take (fun e he lt => ?_) few
    obtain ⟨he, known⟩ := Table.mem_filter_iff.mp he
    exact before e he (List.contains_iff_mem.mp known) lt
  rw [get, get, Dict.get?, Dict.get?, kept]

theorem mem_entries_of_increment (h : v.increment id = .ok w) {e : String × ℕ} (he : e ∈ w.entries) :
    e.1 = id ∨ e ∈ v.entries := by
  rw [entries, (increment_eq_ok_iff.mp h).2.2] at he
  rcases Table.mem_insert_iff.mp he with rfl | ⟨he, _⟩
  · exact .inl rfl
  · exact .inr he

end VersionVector

namespace View

def tally (v : View) (id : String) : ℕ := v.versions.get id

-- The entry of the member `id` is kept even if entries are cut off. Before it there are entries of `rivals` only,
-- which are not too many.
structure Roomy (rivals : Finset String) (id : String) (v : View) : Prop where
  present : v.contains id
  few     : v.vectorBound ≠ 0 → rivals.card < v.vectorBound
  before  : v.vectorBound ≠ 0 → ∀ e ∈ v.versions.entries, e.1 < id → e.1 ∈ rivals

-- Nothing that has been counted of `id` is lost from the first view to the second.
structure Onward (rivals : Finset String) (id : String) (v w : View) : Prop where
  bound : w.vectorBound = v.vectorBound
  roomy : v.Roomy rivals id → w.Roomy rivals id
  tally : v.Roomy rivals id → v.tally id ≤ w.tally id

variable {rivals : Finset String} {id i : String} {v w u other : View} {m : Member} {status : Status}
  {options : MergeOptions} {now : Timestamp} {ids : List String}

theorem contains_of_member?_eq (h : w.member? id = v.member? id) : w.contains id ↔ v.contains id := by
  rw [contains_iff, h, contains_iff]

theorem mem_memberIds_of_trimmed {bound : ℕ} (hb : bound ≠ 0) {e : String × ℕ}
    (he : e ∈ (v.trimmed bound).entries) : e.1 ∈ v.memberIds := by
  rw [trimmed, if_neg hb] at he
  exact List.contains_iff_mem.mp (Table.mem_filter_iff.mp (List.mem_of_mem_take he)).2

theorem tally_recordChange (h : v.recordChange id now = .ok w) : w.tally id = v.tally id + 1 := by
  obtain ⟨versions, counted, rfl⟩ := recordChange_eq h
  exact (congrFun (VersionVector.get_increment counted) id).trans (Function.update_self ..)

namespace Onward

theorem refl (v : View) : Onward rivals id v v := ⟨rfl, fun h => h, fun _ => le_rfl⟩

theorem trans (a : Onward rivals id v w) (b : Onward rivals id w u) : Onward rivals id v u where
  bound := b.bound.trans a.bound
  roomy h := b.roomy (a.roomy h)
  tally h := (a.tally h).trans (b.tally (a.roomy h))

theorem of_versions_eq (bound : w.vectorBound = v.vectorBound) (present : v.contains id → w.contains id)
    (versions : w.versions = v.versions) : Onward rivals id v w where
  bound := bound
  roomy h := ⟨present h.present, by rw [bound]; exact h.few, by rw [bound, versions]; exact h.before⟩
  tally _ := by rw [View.tally, View.tally, versions]

-- Entries are cut off after members or entries have come in.
theorem of_trimmed (bound : w.vectorBound = v.vectorBound) (present : v.contains id → w.contains id)
    (known : ∀ i, i ∈ u.memberIds ↔ i ∈ w.memberIds) (versions : w.versions = u.trimmed v.vectorBound)
    (within : v.versions.Within u.versions)
    (before : v.Roomy rivals id → v.vectorBound ≠ 0 →
      ∀ e ∈ u.versions.entries, e.1 ∈ u.memberIds → e.1 < id → e.1 ∈ rivals) : Onward rivals id v w where
  bound := bound
  roomy h := by
    refine ⟨present h.present, bound ▸ h.few, fun hb e he lt => ?_⟩
    rw [versions] at he
    rw [bound] at hb
    exact before h hb e (mem_entries_of_trimmed he) (mem_memberIds_of_trimmed hb he) lt
  tally h := by
    refine (VersionVector.get_le_of_within within id).trans_eq ?_
    rw [View.tally, versions, trimmed]
    split
    case isTrue => rfl
    case isFalse hb =>
      have known : id ∈ u.memberIds := (known id).mpr <| mem_memberIds_iff.mp <| present h.present
      exact (VersionVector.get_prune known (before h hb) (h.few hb)).symm

theorem refresh {members : Roster}
    (present : v.contains id → (View.refresh { v with members := members }).contains id) :
    Onward rivals id v (View.refresh { v with members := members }) :=
  of_trimmed (u := { v with members := members }) rfl present (fun _ => Iff.rfl) rfl (.refl v.versions)
    fun h hb e he _ => h.before hb e he

theorem of_akin (h : Akin v w) : Onward rivals id v w := by
  have present (i : String) : w.contains i ↔ v.contains i := by
    rw [View.mem_memberIds_iff, h.mem_memberIds_iff, View.mem_memberIds_iff]
  rcases h.versions with eq | eq
  · exact of_versions_eq h.vectorBound (present id).mpr eq
  · refine of_trimmed h.vectorBound (present id).mpr (fun _ => h.mem_memberIds_iff.symm) eq (.refl v.versions) ?_
    exact fun h hb e he _ => h.before hb e he

theorem add : Onward rivals id v (v.add m) := by
  have present (h : v.contains id) : (v.add m).contains id := by
    rw [contains_iff, member?_add]
    split
    case isTrue => exact ⟨m, rfl⟩
    case isFalse => exact contains_iff.mp h
  rcases @add_eq v m with eq | eq <;> rw [eq] at present ⊢
  · exact refl v
  · exact refresh present

theorem remove (ne : id ≠ i) : Onward rivals id v (v.remove i) := by
  have present : v.contains id → (v.remove i).contains id :=
    (contains_of_member?_eq <| member?_remove.trans <| if_neg ne).mpr
  rcases @remove_eq v i with eq | eq <;> rw [eq] at present ⊢
  · exact refl v
  · exact refresh present

theorem removeAll (h : id ∉ ids) : Onward rivals id v (Turn.removeAll v ids) := by
  induction ids generalizing v with
  | nil => exact refl v
  | cons i ids ih =>
    rw [List.mem_cons, not_or] at h
    exact (remove h.1).trans (ih h.2)

theorem suspectAll : Onward rivals id v (Turn.suspectAll v ids) := by
  induction ids generalizing v with
  | nil => exact refl v
  | cons i ids ih => exact (of_akin .setStatus).trans ih

theorem recordChange (h : v.recordChange id now = .ok w) : Onward rivals id v w := by
  have counted : w.tally id = v.tally id + 1 := tally_recordChange h
  obtain ⟨versions, incremented, rfl⟩ := recordChange_eq h
  refine ⟨rfl, fun h => ⟨h.present, h.few, fun hb e he lt => ?_⟩, fun _ => counted ▸ Nat.le_succ _⟩
  rcases VersionVector.mem_entries_of_increment incremented he with same | he
  · exact absurd lt (same ▸ String.lt_irrefl id)
  · exact h.before hb e he lt

theorem merge
    (before : ∀ e ∈ other.versions.entries, (v.contains e.1 ∨ other.contains e.1) → e.1 < id → e.1 ∈ rivals) :
    Onward rivals id v (v.merge other options now).1 := by
  cases known : other.isEmpty with
  | true =>
    rw [merge_of_isEmpty known]
    exact refl v
  | false =>
    obtain ⟨u, joined, ids, versions⟩ := versions_merge v other options now known
    have present (h : v.contains id) : (v.merge other options now).1.contains id := by
      rw [View.mem_memberIds_iff] at h ⊢
      exact mem_memberIds_merge.mpr (.inl h)
    refine of_trimmed vectorBound_merge present (fun _ => by rw [ids]) versions
      (joined ▸ VersionVector.within_merge_left) fun h hb e he member lt => ?_
    rcases VersionVector.mem_entries_of_merge (joined ▸ he) with he | he
    · exact h.before hb e he lt
    · rw [ids, mem_memberIds_merge, ← View.mem_memberIds_iff, ← View.mem_memberIds_iff] at member
      exact before e he member lt

end Onward

end View

end GossipCluster
