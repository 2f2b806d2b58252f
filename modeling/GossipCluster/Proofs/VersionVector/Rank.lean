import GossipCluster.Proofs.VersionVector.Order

namespace GossipCluster.VersionVector

-- The earlier an id, the more it counts.
abbrev Rank := List (Stringᵒᵈ ×ₗ ℕ)

def weight (e : String × ℕ) : Stringᵒᵈ ×ₗ ℕ := toLex (OrderDual.toDual e.1, e.2)

def rank (v : VersionVector) : Rank := v.entries.map weight

-- The second vector has an entry for each of the first, with a counter that is not smaller.
def Within (v w : VersionVector) : Prop := ∀ e ∈ v.entries, ∃ n, e.2 ≤ n ∧ (e.1, n) ∈ w.entries

variable {v w u : VersionVector} {ids ids' : List String} {k : ℕ}

theorem Within.refl (v : VersionVector) : v.Within v := fun e he => ⟨e.2, le_rfl, he⟩

theorem Within.trans (h : v.Within w) (h' : w.Within u) : v.Within u := by
  intro e he
  obtain ⟨n, le, hn⟩ := h e he
  obtain ⟨m, le', hm⟩ := h' (e.1, n) hn
  exact ⟨m, le.trans le', hm⟩

theorem weight_injective : Function.Injective weight := by
  intro a b h
  simpa [weight, Prod.ext_iff] using h

theorem weight_lt_iff {a b : String × ℕ} : weight a < weight b ↔ b.1 < a.1 ∨ a.1 = b.1 ∧ a.2 < b.2 := by
  simp [weight, Prod.Lex.toLex_lt_toLex]

theorem rank_injective (h : v.rank = w.rank) : v = w := by
  have : v.counters.rows = w.counters.rows := List.map_injective_iff.mpr weight_injective h
  exact VersionVector.ext (Table.ext this)

theorem map_weight_take_le {as bs : List (String × ℕ)} (ha : as.Pairwise (·.1 < ·.1))
    (hb : bs.Pairwise (·.1 < ·.1)) (h : ∀ a ∈ as, ∃ n, a.2 ≤ n ∧ (a.1, n) ∈ bs) :
    (as.take k).map weight ≤ (bs.take k).map weight := by
  induction as generalizing bs k with
  | nil =>
    rw [List.take_nil]
    exact not_lt.mp (List.not_lt_nil _)
  | cons a as ih =>
    cases k with
    | zero => exact le_rfl
    | succ k =>
      have ⟨n, le, mem⟩ := h a List.mem_cons_self
      cases bs with
      | nil => exact nomatch mem
      | cons b bs =>
        have ⟨ha₁, ha₂⟩ := List.pairwise_cons.mp ha
        have ⟨hb₁, hb₂⟩ := List.pairwise_cons.mp hb
        have ahead (lt : weight a < weight b) :
            ((a :: as).take (k + 1)).map weight ≤ ((b :: bs).take (k + 1)).map weight :=
          le_of_lt <| List.cons_lt_cons_iff.mpr <| .inl lt
        cases List.mem_cons.mp mem
        case inr later => exact ahead <| weight_lt_iff.mpr <| .inl <| hb₁ (a.1, n) later
        case inl first =>
          subst first
          rcases lt_or_eq_of_le le with lt | eq
          · exact ahead <| weight_lt_iff.mpr <| .inr ⟨rfl, lt⟩
          · have rest : ∀ c ∈ as, ∃ m, c.2 ≤ m ∧ (c.1, m) ∈ bs := by
              intro c hc
              have ⟨m, le, mem⟩ := h c (List.mem_cons_of_mem a hc)
              refine ⟨m, le, (List.mem_cons.mp mem).resolve_left fun e => ?_⟩
              exact (ha₁ c hc).ne (Prod.mk.inj e).1.symm
            have same : (a.1, n) = a := Prod.ext rfl eq.symm
            rw [same, List.take_succ_cons, List.take_succ_cons, List.map_cons, List.map_cons]
            exact not_lt.mp fun lt => not_lt.mpr (ih ha₂ hb₂ rest) (List.cons_lt_cons_self.mp lt)

theorem rank_prune_le (h : v.Within w) (hi : ids ⊆ ids') : (v.prune ids k).rank ≤ (w.prune ids' k).rank := by
  refine map_weight_take_le (v.restrict ids).counters.sorted (w.restrict ids').counters.sorted fun e he => ?_
  have ⟨he, known⟩ := Table.mem_filter_iff.mp he
  have ⟨n, le, mem⟩ := h e he
  refine ⟨n, le, Table.mem_filter_iff.mpr ⟨mem, ?_⟩⟩
  exact List.contains_iff_mem.mpr <| hi <| List.contains_iff_mem.mp known

theorem rank_le (h : v.Within w) : v.rank ≤ w.rank := by
  let k := max v.size w.size
  have all {u : VersionVector} (le : u.size ≤ k) : u.counters.rows.take k = u.counters.rows :=
    List.take_of_length_le le
  have := map_weight_take_le v.counters.sorted w.counters.sorted h (k := k)
  rwa [all (le_max_left ..), all (le_max_right ..)] at this

theorem within_prune : (v.prune ids k).Within v := fun e he =>
  ⟨e.2, le_rfl, (Table.mem_filter_iff.mp (List.mem_of_mem_take he)).1⟩

theorem within_merge_left : v.Within (v.merge w) := by
  intro e he
  have hv := mem_entries_iff.mp he
  cases hw : w.counters.find? e.1 with
  | none => exact ⟨e.2, le_rfl, mem_entries_iff.mpr (by simp [find?_merge_counters, hv, hw])⟩
  | some d =>
    exact ⟨max e.2 d.2, le_max_left .., mem_entries_iff.mpr (by simp [find?_merge_counters, hv, hw])⟩

theorem within_merge_right : w.Within (v.merge w) := by
  intro e he
  have hw := mem_entries_iff.mp he
  cases hv : v.counters.find? e.1 with
  | none => exact ⟨e.2, le_rfl, mem_entries_iff.mpr (by simp [find?_merge_counters, hv, hw])⟩
  | some d =>
    have : d.1 = e.1 := Table.key_of_find? hv
    refine ⟨max d.2 e.2, le_max_right .., mem_entries_iff.mpr ?_⟩
    simp [find?_merge_counters, hv, hw, this]

theorem merge_eq_left (h : w.Within v) : v.merge w = v := by
  refine VersionVector.ext <| Table.ext_find? fun id => ?_
  rw [find?_merge_counters]
  cases hw : w.counters.find? id with
  | none => simp
  | some e =>
    have eid : e.1 = id := Table.key_of_find? hw
    have ⟨n, le, mem⟩ := h e (Table.mem_of_find? hw)
    rw [← eid, mem_entries_iff.mp mem]
    simp [le]

-- A merge makes up no entries.
theorem mem_entries_of_merge {e : String × ℕ} (h : e ∈ (v.merge w).entries) : e ∈ v.entries ∨ e ∈ w.entries := by
  rcases Table.mem_mergeRows h with mem | mem | ⟨a, ha, b, hb, same, eq⟩
  · exact .inl mem
  · exact .inr mem
  · subst eq
    rcases max_choice a.2 b.2 with e | e
    · exact .inl <| (show (a.1, max a.2 b.2) = a from Prod.ext rfl e).symm ▸ ha
    · exact .inr <| (show (a.1, max a.2 b.2) = b from Prod.ext same e).symm ▸ hb

theorem Within.merge (hv : v.Within u) (hw : w.Within u) : (v.merge w).Within u :=
  fun e he => (mem_entries_of_merge he).elim (hv e) (hw e)

theorem mem_entries_of_prune {e : String × ℕ} (h : e ∈ (v.prune ids k).entries) : e ∈ v.entries :=
  (Table.mem_filter_iff.mp (List.mem_of_mem_take h)).1

theorem prune_congr (h : ∀ id, id ∈ ids ↔ id ∈ ids') : v.prune ids k = v.prune ids' k := by
  have : ids.contains = ids'.contains := by
    funext id
    rw [Bool.eq_iff_iff, List.contains_iff_mem, List.contains_iff_mem, h]
  rw [prune, restrict, this]
  rfl

theorem prune_prune : (v.prune ids k).prune ids k = v.prune ids k := by
  refine VersionVector.ext <| Table.ext ?_
  have kept : (((v.restrict ids).counters.take k).rows.filter fun e => ids.contains e.1) =
      ((v.restrict ids).counters.take k).rows :=
    List.filter_eq_self.mpr fun e he => (Table.mem_filter_iff.mp (List.mem_of_mem_take he)).2
  calc ((v.prune ids k).prune ids k).counters.rows
    _ = (((v.restrict ids).counters.take k).rows.filter fun e => ids.contains e.1).take k := rfl
    _ = ((v.restrict ids).counters.rows.take k).take k := congrArg (List.take k) kept
    _ = (v.prune ids k).counters.rows := List.take_take.trans <| by rw [min_self]; rfl

theorem get_le_of_within (h : v.Within w) : v.get ≤ w.get := by
  intro id
  cases hv : v.counters.find? id with
  | none => simp [get, Dict.get?, hv]
  | some e =>
    obtain ⟨rfl, mem⟩ : e.1 = id ∧ e ∈ v.entries := ⟨Table.key_of_find? hv, Table.mem_of_find? hv⟩
    obtain ⟨n, le, hn⟩ := h e mem
    rwa [get_of_mem mem, get_of_mem hn]

theorem compare_ne_concurrent (h : w.Within v) : v.compare w ≠ .concurrent :=
  fun apart => (compare_eq_concurrent_iff.mp apart).2 (get_le_of_within h)

-- Of finitely many entries there are finitely many vectors.
theorem finite_of_entries {events : Set (String × ℕ)} (h : events.Finite) :
    {v : VersionVector | ∀ e ∈ v.entries, e ∈ events}.Finite := by
  refine Set.Finite.of_finite_image (f := fun v => {e | e ∈ v.entries}) ?_ ?_
  · refine h.powerset.subset ?_
    rintro _ ⟨v, hv, eq⟩
    exact eq ▸ hv
  · intro v _ w _ same
    exact VersionVector.ext <| Table.ext_mem fun e => Set.ext_iff.mp same e

end GossipCluster.VersionVector
