import GossipCluster.Quorum
import GossipCluster.Proofs.View.Built
import GossipCluster.Proofs.View.Merge

namespace GossipCluster.View

-- The ids of the members that are up.
def upIds (v : View) : Finset String := (v.healthyMembers.map (·.id)).toFinset

variable {v w : View} {id : String} {rule rule' : QuorumRule}

theorem mem_upIds_iff : id ∈ v.upIds ↔ ∃ m, v.member? id = some m ∧ m.status = .up := by
  simp only [upIds, healthyMembers, Status.isHealthy, List.mem_toFinset, List.mem_map, List.mem_filter,
    decide_eq_true_eq, member?_eq_some_iff]
  grind

theorem card_upIds : v.upIds.card = v.healthyMembers.length := by
  have nodup : (v.healthyMembers.map (·.id)).Nodup := (v.members.sorted.filter _).map _ fun _ _ => ne_of_lt
  rw [upIds, List.toFinset_card_of_nodup nodup, List.length_map]

theorem card_memberIds : v.memberIds.toFinset.card = v.size := Table.card_keys

theorem upIds_subset : v.upIds ⊆ v.memberIds.toFinset := by
  intro id up
  obtain ⟨m, known, _⟩ := mem_upIds_iff.mp up
  exact List.mem_toFinset.mpr <| mem_memberIds_iff.mp <| contains_iff.mpr ⟨m, known⟩

theorem lt_quorumSize {n : ℕ} (h : n ≠ 0) : n < 2 * quorumSize n := by
  rw [quorumSize, if_neg h]
  omega

-- Half of the members is not enough.
theorem majority_of_satisfied (hv : v.Counted) (majority : rule.strategy = .globalMajority)
    (satisfied : rule.satisfied v) : v.memberIds.toFinset.card < 2 * v.upIds.card := by
  simp only [QuorumRule.satisfied, QuorumRule.tally, majority, Bool.and_eq_true, decide_eq_true_eq] at satisfied
  obtain ⟨⟨healthy, enough⟩, _⟩ := satisfied
  rw [hv.healthy, ← card_upIds] at healthy enough
  have known : v.size ≠ 0 := by
    have : v.upIds.card ≤ v.memberIds.toFinset.card := Finset.card_le_card upIds_subset
    rw [card_memberIds] at this
    omega
  calc v.memberIds.toFinset.card
    _ = v.size := card_memberIds
    _ < 2 * quorumSize v.size := lt_quorumSize known
    _ ≤ 2 * v.upIds.card := by omega

-- So two parts of a cluster that know the same members do not both go on for themselves.
theorem majorities_intersect (hv : v.Built) (hw : w.Built) (same : ∀ id, v.contains id ↔ w.contains id)
    (majority : rule.strategy = .globalMajority) (majority' : rule'.strategy = .globalMajority)
    (satisfied : rule.satisfied v) (satisfied' : rule'.satisfied w) :
    ∃ id a b, v.member? id = some a ∧ w.member? id = some b ∧ a.status = .up ∧ b.status = .up := by
  have known : w.memberIds.toFinset = v.memberIds.toFinset := by
    ext id
    rw [List.mem_toFinset, List.mem_toFinset, ← mem_memberIds_iff, ← mem_memberIds_iff, same]
  have many : v.memberIds.toFinset.card < v.upIds.card + w.upIds.card := by
    have first := majority_of_satisfied hv.counted majority satisfied
    have second := majority_of_satisfied hw.counted majority' satisfied'
    rw [known] at second
    omega
  obtain ⟨id, both⟩ := Finset.inter_nonempty_of_card_lt_card_add_card upIds_subset (known ▸ upIds_subset) many
  obtain ⟨a, ha, up⟩ := mem_upIds_iff.mp (Finset.mem_inter.mp both).1
  obtain ⟨b, hb, up'⟩ := mem_upIds_iff.mp (Finset.mem_inter.mp both).2
  exact ⟨id, a, b, ha, hb, up, up'⟩

-- Of four members each view takes another one not to be up.
theorem majorities_intersect_of_four :
    let member (id address : String) : Member := { Member.starting id "c" address 7 with status := .up }
    let four := ((((View.new "v" 3 0).add (member "a" "h:1")).add (member "b" "h:2")).add (member "c" "h:3")).add
      (member "d" "h:4")
    let v := four.setStatus "a" .down
    let w := four.setStatus "d" .suspect
    let rule : QuorumRule := .new .globalMajority [""]
    let rule' : QuorumRule := .new .globalMajority []
    rule.satisfied v ∧ rule'.satisfied w ∧
      ∃ id a b, v.member? id = some a ∧ w.member? id = some b ∧ a.status = .up ∧ b.status = .up := by
  intro member four v w rule rule'
  have built : four.Built := .add _ <| .add _ <| .add _ <| .add _ <| .new ..
  have same (id) : v.contains id ↔ w.contains id := by
    rw [mem_memberIds_iff, mem_memberIds_iff]
    exact Eq.to_iff (congrArg (id ∈ ·) (by decide +kernel))
  have satisfied : rule.satisfied v := by decide +kernel
  have satisfied' : rule'.satisfied w := by decide +kernel
  exact ⟨satisfied, satisfied',
    majorities_intersect (.setStatus _ _ built) (.setStatus _ _ built) same rfl rfl satisfied satisfied'⟩

end GossipCluster.View
