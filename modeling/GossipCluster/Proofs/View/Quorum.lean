import GossipCluster.Quorum
import GossipCluster.Proofs.View.Built

namespace GossipCluster

-- The datacenter of each member, those of several members as often as they have members.
def Member.datacenters (members : List Member) : List String := members.map (·.datacenter)

def Member.up (members : List Member) : List Member := members.filter (·.status = .up)

-- What a strategy asks of the members when one of them is up.
def QuorumStrategy.Reached (members : List Member) : QuorumStrategy → Prop
  | globalMajority => members.length < 2 * (Member.up members).length
  | majorityDatacenters =>
    (Member.datacenters members).toFinset.card ≤ 2 * (Member.datacenters (Member.up members)).toFinset.card
  | everyDatacenter => ∀ m ∈ members, ∃ peer ∈ members, peer.status = .up ∧ peer.datacenter = m.datacenter

namespace Member

variable {members : List Member} {m : Member} {dc : String}

theorem mem_up_iff : m ∈ up members ↔ m ∈ members ∧ m.status = .up := by
  simp [up]

theorem mem_datacenters_iff : dc ∈ datacenters members ↔ ∃ m ∈ members, m.datacenter = dc := by
  simp [datacenters]

theorem datacenters_up_subset : (datacenters (up members)).toFinset ⊆ (datacenters members).toFinset := by
  intro dc h
  obtain ⟨m, hm, e⟩ := mem_datacenters_iff.mp (List.mem_toFinset.mp h)
  exact List.mem_toFinset.mpr <| mem_datacenters_iff.mpr ⟨m, (mem_up_iff.mp hm).1, e⟩

theorem card_datacenters_le_iff :
    (datacenters members).toFinset.card ≤ (datacenters (up members)).toFinset.card ↔
      ∀ m ∈ members, ∃ peer ∈ members, peer.status = .up ∧ peer.datacenter = m.datacenter := by
  have inside : (datacenters members).toFinset ⊆ (datacenters (up members)).toFinset ↔
      ∀ m ∈ members, ∃ peer ∈ members, peer.status = .up ∧ peer.datacenter = m.datacenter := by
    simp [Finset.subset_iff, mem_datacenters_iff, mem_up_iff, and_assoc]
  rw [← inside]
  constructor
  case mp => exact fun few => (Finset.eq_of_subset_of_card_le datacenters_up_subset few).ge
  case mpr => exact Finset.card_le_card

end Member

open Member

-- What is known of a datacenter from the members there.
def DatacenterHealth.ofMembers (members : List Member) (dc : String) : DatacenterHealth :=
  ⟨(datacenters (up members)).count dc, (datacenters members).count dc⟩

namespace DatacenterHealth

variable {members : List Member} {m : Member} {dc : String}

theorem ofMembers_of_not_mem (h : dc ∉ datacenters members) : ofMembers members dc = ⟨0, 0⟩ := by
  have none_up : dc ∉ datacenters (up members) := fun h' =>
    h <| List.mem_toFinset.mp <| datacenters_up_subset <| List.mem_toFinset.mpr h'
  rw [ofMembers, List.count_eq_zero_of_not_mem none_up, List.count_eq_zero_of_not_mem h]

theorem ofMembers_append_self :
    ofMembers (members ++ [m]) m.datacenter = ⟨(ofMembers members m.datacenter).healthy +
      (if m.status.isHealthy then 1 else 0), (ofMembers members m.datacenter).total + 1⟩ := by
  by_cases hm : m.status = .up <;> simp [ofMembers, datacenters, up, Status.isHealthy, hm]

theorem ofMembers_append_of_ne (h : m.datacenter ≠ dc) : ofMembers (members ++ [m]) dc = ofMembers members dc := by
  by_cases hm : m.status = .up <;> simp [ofMembers, datacenters, up, hm, h]

theorem isHealthy_ofMembers_iff :
    (ofMembers members dc).isHealthy ↔ ∃ m ∈ members, m.status = .up ∧ m.datacenter = dc := by
  simp [isHealthy, ofMembers, List.count_pos_iff, mem_datacenters_iff, mem_up_iff, and_assoc]

end DatacenterHealth

namespace View

open DatacenterHealth

variable {v : View} {dc : String}

theorem get?_datacenterHealth : v.datacenterHealth.get? dc =
    if dc ∈ datacenters v.members.rows then some (ofMembers v.members.rows dc) else none := by
  rw [datacenterHealth]
  generalize v.members.rows = ms
  induction ms using List.reverseRecOn generalizing dc with
  | nil => rfl
  | append_singleton ms m ih =>
    have before : ((ms.foldl datacenterHealth.count ∅).get? m.datacenter).getD ⟨0, 0⟩ = ofMembers ms m.datacenter := by
      rw [ih]
      split
      case isTrue => rfl
      case isFalse h => exact (ofMembers_of_not_mem h).symm
    rw [List.foldl_append, List.foldl_cons, List.foldl_nil, datacenterHealth.count, Dict.get?_put, before, ih]
    by_cases h : m.datacenter = dc
    case pos =>
      subst h
      have here : m.datacenter ∈ datacenters (ms ++ [m]) := by simp [datacenters]
      rw [if_pos rfl, if_pos here, ofMembers_append_self]
    case neg =>
      have same : dc ∈ datacenters (ms ++ [m]) ↔ dc ∈ datacenters ms := by simp [datacenters, Ne.symm h]
      simp only [if_neg h, same, ofMembers_append_of_ne h]

theorem mem_keys_datacenterHealth : dc ∈ v.datacenterHealth.keys ↔ dc ∈ datacenters v.members.rows := by
  rw [Dict.mem_keys_iff_get?, get?_datacenterHealth]
  by_cases h : dc ∈ datacenters v.members.rows <;> simp [h]

theorem toFinset_keys_datacenterHealth :
    v.datacenterHealth.keys.toFinset = (datacenters v.members.rows).toFinset := by
  ext dc
  simp [mem_keys_datacenterHealth]

theorem values_datacenterHealth :
    v.datacenterHealth.values = v.datacenterHealth.keys.map (ofMembers v.members.rows) := by
  rw [Dict.values, Table.keys, List.map_map]
  refine List.map_congr_left fun e he => ?_
  have known := Dict.get?_eq_some_iff.mpr he
  rw [get?_datacenterHealth] at known
  split at known
  case isTrue => exact (Option.some_inj.mp known).symm
  case isFalse => cases known

theorem size_datacenterHealth : v.datacenterHealth.size = (datacenters v.members.rows).toFinset.card := by
  rw [← toFinset_keys_datacenterHealth, Table.card_keys]

theorem participating_eq : (v.datacenterHealth.values.filter (·.isHealthy)).length =
    (datacenters (up v.members.rows)).toFinset.card := by
  rw [values_datacenterHealth, List.filter_map, List.length_map,
    ← List.toFinset_card_of_nodup (Table.nodup_keys.filter _)]
  congr 1
  ext dc
  have := @datacenters_up_subset v.members.rows dc
  simp only [List.mem_toFinset] at this
  simp only [List.mem_toFinset, List.mem_filter, mem_keys_datacenterHealth, Function.comp, isHealthy_ofMembers_iff,
    mem_datacenters_iff, mem_up_iff] at this ⊢
  grind

-- A list whose texts are all among the keys has as many as there are of each key together.
theorem sum_count_keys {l : List String} (h : l ⊆ datacenters v.members.rows) :
    (v.datacenterHealth.keys.map l.count).sum = l.length := by
  rw [← List.sum_toFinset _ Table.nodup_keys, toFinset_keys_datacenterHealth]
  have all : ∀ dc ∈ (l : Multiset String), dc ∈ (datacenters v.members.rows).toFinset := fun dc hdc =>
    List.mem_toFinset.mpr (h hdc)
  simpa using Multiset.sum_count_eq_card all

theorem sum_total : (v.datacenterHealth.values.map (·.total)).sum = v.size := by
  rw [values_datacenterHealth, List.map_map]
  have sum := sum_count_keys (v := v) (List.Subset.refl _)
  rwa [datacenters, List.length_map] at sum

theorem sum_healthy (h : v.Counted) : (v.datacenterHealth.values.map (·.healthy)).sum = v.healthy := by
  rw [values_datacenterHealth, List.map_map, h.healthy]
  have sum := sum_count_keys (v := v) fun dc hdc =>
    List.mem_toFinset.mp <| datacenters_up_subset <| List.mem_toFinset.mpr hdc
  rwa [datacenters, List.length_map] at sum

end View

namespace QuorumRule

variable {rule : QuorumRule} {v : View} {strategy : QuorumStrategy} {required : List String}

theorem all_required_iff : (rule.required.all fun dc => (v.datacenterHealth.get? dc).any (·.isHealthy)) ↔
    ∀ dc ∈ rule.required, ∃ m ∈ v.members.rows, m.status = .up ∧ m.datacenter = dc := by
  rw [List.all_eq_true]
  refine forall₂_congr fun dc _ => ?_
  rw [View.get?_datacenterHealth, ← DatacenterHealth.isHealthy_ofMembers_iff]
  split
  case isTrue => rfl
  case isFalse h => simp [DatacenterHealth.ofMembers_of_not_mem h, DatacenterHealth.isHealthy]

theorem healthy_pos_iff (h : v.Counted) : 0 < v.healthy ↔ ∃ m ∈ v.members.rows, m.status = .up := by
  rw [h.healthy, List.length_pos_iff_exists_mem]
  exact exists_congr fun m => mem_up_iff

theorem le_tally_iff (h : v.Counted) (some_up : 0 < v.healthy) :
    (rule.tally v).required ≤ (rule.tally v).healthy ↔ rule.strategy.Reached v.members.rows := by
  have healthy : v.healthy = (up v.members.rows).length := h.healthy
  have few : (up v.members.rows).length ≤ v.size := List.length_filter_le ..
  rw [tally, View.participating_eq, View.size_datacenterHealth]
  cases rule.strategy with
  | globalMajority =>
    have known : v.size ≠ 0 := by omega
    simp only [QuorumStrategy.Reached, quorumSize, if_neg known, ← healthy]
    rw [show v.members.rows.length = v.size from rfl]
    omega
  | majorityDatacenters =>
    simp only [QuorumStrategy.Reached]
    omega
  | everyDatacenter => exact card_datacenters_le_iff

theorem satisfied_iff_of_counted (h : v.Counted) : rule.satisfied v ↔
    (∃ m ∈ v.members.rows, m.status = .up) ∧ rule.strategy.Reached v.members.rows ∧
      ∀ dc ∈ rule.required, ∃ m ∈ v.members.rows, m.status = .up ∧ m.datacenter = dc := by
  rw [satisfied, Bool.and_eq_true, Bool.and_eq_true, decide_eq_true_eq, decide_eq_true_eq, all_required_iff, and_assoc,
    ← healthy_pos_iff h]
  exact and_congr_right fun some_up => and_congr_left' (le_tally_iff h some_up)

theorem satisfied_iff (built : v.Built) :
    ((QuorumRule.new strategy required).satisfied v ↔
      (∃ m ∈ v.members.rows, m.status = .up) ∧ strategy.Reached v.members.rows ∧
      ∀ dc ∈ required, ∃ m ∈ v.members.rows, m.status = .up ∧
        m.datacenter = if dc = "" then Member.defaultDatacenter else dc) ∧
    (v.datacenterHealth.values.map (·.total)).sum = v.size ∧
    (v.datacenterHealth.values.map (·.healthy)).sum = v.healthy := by
  refine ⟨?_, View.sum_total, View.sum_healthy built.counted⟩
  rw [satisfied_iff_of_counted built.counted]
  simp [new]

-- One member is up in a datacenter of its own, the other one is not and names no datacenter.
theorem satisfied_iff_of_two : ∃ v : View, v.Built ∧ v.size = 2 ∧
    ¬(QuorumRule.new .majorityDatacenters [""]).satisfied v ∧
    (QuorumRule.new .majorityDatacenters ["eu"]).satisfied v ∧
    QuorumStrategy.majorityDatacenters.Reached v.members.rows := by
  obtain ⟨v, hv⟩ : ∃ v, v = ((View.new "v" 5 0).add { Member.starting "a" "c" "h:1" 7 with
      status := .up, labels := .ofList [("datacenter", "eu")] }).add (.starting "b" "c" "h:2" 7) := ⟨_, rfl⟩
  have built : v.Built := hv ▸ .add _ (.add _ (.new "v" 5 0))
  have satisfied : (QuorumRule.new .majorityDatacenters ["eu"]).satisfied v := hv ▸ by decide +kernel
  have reached := ((satisfied_iff built).1.mp satisfied).2.1
  exact ⟨v, built, hv ▸ by decide +kernel, hv ▸ by decide +kernel, satisfied, reached⟩

end QuorumRule

end GossipCluster
