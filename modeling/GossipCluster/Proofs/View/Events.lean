import GossipCluster.Proofs.VersionVector.Joint
import GossipCluster.Proofs.View.Convergence
import GossipCluster.Proofs.View.Level

namespace GossipCluster.View

-- The vector counts events of members only.
def Grounded (v : View) : Prop := ∀ e ∈ v.versions.entries, v.contains e.1

variable {v other start : View} {options options' : MergeOptions} {now : Timestamp}
  {news news' : List (View × Timestamp)}

theorem Grounded.merge (hv : v.Grounded) (ho : other.Grounded) : (v.merge other options now).1.Grounded := by
  intro e he
  rw [mem_memberIds_iff, mem_memberIds_merge, ← mem_memberIds_iff, ← mem_memberIds_iff]
  cases known : other.isEmpty with
  | true =>
    rw [merge_of_isEmpty known] at he
    exact .inl (hv e he)
  | false =>
    obtain ⟨u, joined, _, eq⟩ := versions_merge v other options now known
    have he := mem_entries_of_trimmed (eq ▸ he)
    exact (VersionVector.mem_entries_of_merge (joined ▸ he)).imp (hv e) (ho e)

theorem versions_merge_of_grounded (bounded : 0 < v.vectorBound) (known : other.isEmpty = false) (hv : v.Grounded)
    (ho : other.Grounded) : (v.merge other options now).1.versions =
      (v.versions.merge other.versions).first v.vectorBound := by
  obtain ⟨u, joined, ids, eq⟩ := versions_merge v other options now known
  rw [eq, trimmed, if_neg bounded.ne', ← joined]
  refine VersionVector.prune_eq_first fun e he => ?_
  rw [ids, mem_memberIds_merge, ← mem_memberIds_iff, ← mem_memberIds_iff]
  exact (VersionVector.mem_entries_of_merge (joined ▸ he)).imp (hv e) (ho e)

instance : Decidable v.Grounded := inferInstanceAs (Decidable (∀ e ∈ v.versions.entries, v.contains e.1))

theorem mergeAll_concat {n : View × Timestamp} : start.mergeAll options (news ++ [n]) =
    ((start.mergeAll options news).merge n.1 options n.2).1 :=
  List.foldl_concat ..

theorem vectorBound_mergeAll : (start.mergeAll options news).vectorBound = start.vectorBound := by
  induction news using List.reverseRecOn with
  | nil => rfl
  | append_singleton news n ih => rw [mergeAll_concat, vectorBound_merge, ih]

theorem grounded_mergeAll (hg : ∀ v ∈ start :: news.map Prod.fst, v.Grounded) :
    (start.mergeAll options news).Grounded := by
  induction news using List.reverseRecOn with
  | nil => exact hg start List.mem_cons_self
  | append_singleton news n ih =>
    rw [mergeAll_concat]
    exact .merge (ih fun v hv => hg v (by simp_all; tauto)) (hg n.1 (by simp))

section

variable (options) (bounded : 0 < start.vectorBound)
include bounded

theorem versions_mergeAll_concat {n : View × Timestamp} (known : n.1.isEmpty = false)
    (hg : ∀ v ∈ start :: (news ++ [n]).map Prod.fst, v.Grounded) :
    (start.mergeAll options (news ++ [n])).versions =
      ((start.mergeAll options news).versions.merge n.1.versions).first start.vectorBound := by
  have bound : (start.mergeAll options news).vectorBound = start.vectorBound := vectorBound_mergeAll
  have grounded : (start.mergeAll options news).Grounded := grounded_mergeAll fun v hv => hg v (by simp_all; tauto)
  rw [mergeAll_concat, ← bound]
  exact versions_merge_of_grounded (bound ▸ bounded) known grounded (hg n.1 (by simp))

variable (hn : ∀ n ∈ news, n.1.isEmpty = false) (hg : ∀ v ∈ start :: news.map Prod.fst, v.Grounded)
include hn hg

-- What a merge cuts off is not among the first entries of anything that comes later.
theorem first_versions_mergeAll : (start.mergeAll options news).versions.first start.vectorBound =
    (VersionVector.joint ((start :: news.map Prod.fst).map versions)).first start.vectorBound := by
  induction news using List.reverseRecOn with
  | nil => exact congrArg (VersionVector.first · _) VersionVector.joint_singleton.symm
  | append_singleton news n ih =>
    have ih := ih (fun n' hn' => hn n' (by simp [hn'])) fun v hv => hg v (by simp_all; tauto)
    have joint : VersionVector.joint ((start :: (news ++ [n]).map Prod.fst).map versions) =
        (VersionVector.joint ((start :: news.map Prod.fst).map versions)).merge n.1.versions := by
      rw [← VersionVector.joint_concat]
      simp
    rw [versions_mergeAll_concat options bounded (hn n (by simp)) hg, joint, VersionVector.first_first,
      ← VersionVector.first_merge_first, ih, VersionVector.first_merge_first]

theorem size_versions_mergeAll_le_iff : (start.mergeAll options news).versions.size ≤ start.vectorBound ↔
    news ≠ [] ∨ start.versions.size ≤ start.vectorBound := by
  cases news using List.reverseRecOn with
  | nil => simp [mergeAll]
  | append_singleton news n =>
    have cut := versions_mergeAll_concat options bounded (hn n (by simp)) hg
    have size : (start.mergeAll options (news ++ [n])).versions.size ≤ start.vectorBound := by
      rw [cut, ← VersionVector.first_eq_iff, VersionVector.first_first]
    simp [size]

theorem versions_mergeAll_eq_iff : (start.mergeAll options news).versions =
      (VersionVector.joint ((start :: news.map Prod.fst).map versions)).first start.vectorBound ↔
    news ≠ [] ∨ start.versions.size ≤ start.vectorBound := by
  rw [← size_versions_mergeAll_le_iff options bounded hn hg, ← first_versions_mergeAll options bounded hn hg,
    eq_comm, VersionVector.first_eq_iff]

end

theorem versions_mergeAll (options : MergeOptions) (start : View) (news : List (View × Timestamp))
    (bounded : 0 < start.vectorBound) (hn : ∀ n ∈ news, n.1.isEmpty = false)
    (hg : ∀ v ∈ start :: news.map Prod.fst, v.Grounded) :
    let views := start :: news.map Prod.fst
    let joint := VersionVector.joint (views.map versions)
    let final := start.mergeAll options news
    (∀ id n, (id, n) ∈ joint.entries ↔ IsGreatest {m | ∃ v ∈ views, (id, m) ∈ v.versions.entries} n) ∧
    (final.versions.entries = joint.entries.take start.vectorBound ↔
      news ≠ [] ∨ start.versions.size ≤ start.vectorBound) ∧
    ∀ options' news', (∀ v, v ∈ news'.map Prod.fst ↔ v ∈ news.map Prod.fst) →
      (start.mergeAll options' news').versions = final.versions := by
  intro views joint final
  refine ⟨fun id n => ?maximum, ?cut, fun options' news' same => ?order⟩
  case maximum =>
    rw [VersionVector.mem_entries_joint_iff]
    simp
  case cut =>
    rw [← versions_mergeAll_eq_iff options bounded hn hg, VersionVector.ext_iff, Table.ext_iff]
    rfl
  case order =>
    have h (v : View) : v ∈ start :: news'.map Prod.fst ↔ v ∈ views := by
      simp only [views, List.mem_cons, same]
    have hn' : ∀ n ∈ news', n.1.isEmpty = false := fun n hm => by
      obtain ⟨n', mem, e⟩ := List.mem_map.mp <| (same n.1).mp <| List.mem_map_of_mem hm
      exact e ▸ hn n' mem
    have hg' : ∀ v ∈ start :: news'.map Prod.fst, v.Grounded := fun v hv => hg v ((h v).mp hv)
    cases news with
    | nil =>
      have : news' = [] := List.map_eq_nil_iff.mp <| List.eq_nil_iff_forall_not_mem.mpr fun v => (same v).not.mpr nofun
      subst this
      rfl
    | cons n news =>
      have some : news' ≠ [] := by
        rintro rfl
        exact nomatch (same n.1).mpr (by simp)
      have joints : VersionVector.joint ((start :: news'.map Prod.fst).map versions) = joint :=
        VersionVector.joint_congr fun v => by simp only [List.mem_map, h]
      rw [(versions_mergeAll_eq_iff options' bounded hn' hg').mpr (.inl some), joints,
        (versions_mergeAll_eq_iff options bounded hn hg).mpr (.inl (List.cons_ne_nil n news))]

-- The event of the third member is cut off before the counter of the second one is known to its end.
theorem versions_mergeAll_reordered :
    let a := Member.starting "a" "c" "h:1" 7
    let b := Member.starting "b" "c" "h:2" 7
    let c := Member.starting "c" "c" "h:3" 7
    let start := { ((View.new "s" 0 2).add b).add c with versions := ⟨⟨[("b", 1), ("c", 5)], by decide⟩⟩ }
    let first := { (View.new "f" 0 0).add a with versions := ⟨⟨[("a", 3)], by decide⟩⟩ }
    let second := { (View.new "t" 0 0).add b with versions := ⟨⟨[("b", 4)], by decide⟩⟩ }
    (start.mergeAll {} [(first, 0), (second, 0)]).versions.entries = [("a", 3), ("b", 4)] ∧
      (start.mergeAll {} [(second, 2), (first, 1), (second, 0)]).versions =
        (start.mergeAll {} [(first, 0), (second, 0)]).versions := by
  intro a b c start first second
  have ⟨_, cut, order⟩ := versions_mergeAll {} start [(first, 0), (second, 0)] (by decide +kernel)
    (by decide +kernel) (by decide +kernel)
  refine ⟨(cut.mpr (.inl (List.cons_ne_nil _ _))).trans (by decide +kernel), order {} _ fun v => ?_⟩
  simp only [List.map_cons, List.map_nil, List.mem_cons, List.not_mem_nil]
  tauto

-- Counting a change cuts off nothing, so a view to which nothing has come may have more entries than its bound.
theorem versions_mergeAll_overfull :
    let a := Member.starting "a" "c" "h:1" 7
    let b := Member.starting "b" "c" "h:2" 7
    let members := ((View.new "s" 0 1).add a).add b
    let start := { members with versions := ⟨⟨[("a", 1), ("b", 1)], by decide⟩⟩ }
    start.Built ∧ start.Grounded ∧ 0 < start.vectorBound ∧ (start.mergeAll {} []).versions.entries ≠
      (VersionVector.joint [start.versions]).entries.take start.vectorBound := by
  intro a b members start
  let between := { members with versions := ⟨⟨[("a", 1)], by decide⟩⟩ }
  have first : members.incrementVersion "a" = .ok between := rfl
  have second : between.incrementVersion "b" = .ok start := by decide +kernel
  refine ⟨.incrementVersion (.incrementVersion (.add b <| .add a <| .new ..) first) second, ?_⟩
  decide +kernel

end GossipCluster.View
