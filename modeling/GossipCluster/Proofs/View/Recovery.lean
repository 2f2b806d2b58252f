import GossipCluster.Proofs.View.Imprints
import GossipCluster.Proofs.View.Quorum

namespace GossipCluster

namespace View

-- Whoever was up is still there as before, and of those who are not up nobody is new.
structure Healthier (v w : View) : Prop where
  stays : ∀ id m, v.member? id = some m → m.status = .up → w.member? id = some m
  known : ∀ id m, w.member? id = some m → m.status ≠ .up → v.member? id = some m

-- One change for the better. Whoever comes in may be known already, but is not up then.
inductive Recovers : View → View → Prop
  | rises {v id m} : v.member? id = some m → m.status ≠ .up → Recovers v (v.setStatus id .up)
  | leaves {v id m} : v.member? id = some m → m.status ≠ .up → Recovers v (v.remove id)
  | enters {v m} : (∀ old, v.member? m.id = some old → old.status ≠ .up) → m.status = .up → Recovers v (v.add m)

variable {v w u : View} {m : Member} {id : String}

theorem member?_of_mem (h : m ∈ v.members.rows) : v.member? m.id = some m := Table.find?_key_of_mem h

theorem nodup_rows : v.members.rows.Nodup := by
  refine v.members.sorted.imp ?_
  rintro a b lt rfl
  exact String.lt_irrefl _ lt

theorem ne_of_not_up {i : String} {a : Member} (known : v.member? id = some m) (notUp : m.status ≠ .up)
    (here : v.member? i = some a) (isUp : a.status = .up) : i ≠ id := by
  rintro rfl
  exact notUp <| Option.some_inj.mp (known.symm.trans here) ▸ isUp

theorem healthier_setStatus (known : v.member? id = some m) (notUp : m.status ≠ .up) :
    v.Healthier (v.setStatus id .up) := by
  constructor
  case stays =>
    intro i a here isUp
    have ne := ne_of_not_up known notUp here isUp
    rw [member?_setStatus, here, Option.map_some, if_neg ne]
  case known =>
    intro i a here fresh
    obtain ⟨b, hb, rfl⟩ := Option.map_eq_some_iff.mp (member?_setStatus.symm.trans here)
    split at fresh
    case isTrue => exact absurd rfl fresh
    case isFalse ne => rw [if_neg ne, hb]

theorem healthier_remove (known : v.member? id = some m) (notUp : m.status ≠ .up) : v.Healthier (v.remove id) := by
  constructor
  case stays =>
    intro i a here isUp
    have ne := ne_of_not_up known notUp here isUp
    rw [member?_remove, if_neg ne, here]
  case known =>
    intro i a here _
    rw [member?_remove] at here
    split at here
    case isTrue => contradiction
    case isFalse => exact here

theorem healthier_add (notUp : ∀ old, v.member? m.id = some old → old.status ≠ .up) (isUp : m.status = .up) :
    v.Healthier (v.add m) := by
  constructor
  case stays =>
    intro i a here up
    have ne : m.id ≠ i := by
      rintro rfl
      exact notUp a here up
    rw [member?_add, if_neg fun h => ne h.1, here]
  case known =>
    intro i a here fresh
    rw [member?_add] at here
    split at here
    case isTrue => exact absurd (Option.some_inj.mp here ▸ isUp) fresh
    case isFalse => exact here

theorem Recovers.healthier (h : v.Recovers w) : v.Healthier w := by
  cases h with
  | rises known notUp => exact healthier_setStatus known notUp
  | leaves known notUp => exact healthier_remove known notUp
  | enters notUp isUp => exact healthier_add notUp isUp

theorem Recovers.built (h : v.Recovers w) (built : v.Built) : w.Built := by
  cases h with
  | rises => exact .setStatus _ _ built
  | leaves => exact .remove _ built
  | enters => exact .add _ built

namespace Healthier

theorem refl : v.Healthier v := ⟨fun _ _ here _ => here, fun _ _ here _ => here⟩

theorem trans (h : v.Healthier w) (h' : w.Healthier u) : v.Healthier u where
  stays id m here up := h'.stays id m (h.stays id m here up) up
  known id m here fresh := h.known id m (h'.known id m here fresh) fresh

theorem mem_of_up (h : v.Healthier w) (hm : m ∈ v.members.rows) (isUp : m.status = .up) : m ∈ w.members.rows :=
  Table.mem_of_find? <| h.stays _ m (member?_of_mem hm) isUp

theorem up_subset (h : v.Healthier w) : Member.up v.members.rows ⊆ Member.up w.members.rows := by
  intro m hm
  obtain ⟨here, isUp⟩ := Member.mem_up_iff.mp hm
  exact Member.mem_up_iff.mpr ⟨h.mem_of_up here isUp, isUp⟩

theorem mem_of_not_up (h : v.Healthier w) (hm : m ∈ w.members.rows) (notUp : m.status ≠ .up) :
    m ∈ v.members.rows :=
  Table.mem_of_find? <| h.known _ m (member?_of_mem hm) notUp

end Healthier

theorem Recovers.healthier_of_chain (h : Relation.ReflTransGen Recovers v w) : v.Healthier w := by
  induction h with
  | refl => exact .refl
  | tail _ step ih => exact ih.trans step.healthier

theorem Recovers.built_of_chain (h : Relation.ReflTransGen Recovers v w) (built : v.Built) : w.Built := by
  induction h with
  | refl => exact built
  | tail _ step ih => exact step.built ih

end View

namespace Member

variable {v w : View}

def rest (members : List Member) : List Member := members.filter (·.status ≠ .up)

theorem length_up_add_length_rest (members : List Member) :
    (up members).length + (rest members).length = members.length := by
  simpa [up, rest] using (List.length_eq_length_filter_add (l := members) (·.status = .up)).symm

theorem length_up_le (h : v.Healthier w) : (up v.members.rows).length ≤ (up w.members.rows).length :=
  (List.subperm_of_subset (View.nodup_rows.filter _) h.up_subset).length_le

theorem length_rest_le (h : v.Healthier w) : (rest w.members.rows).length ≤ (rest v.members.rows).length := by
  refine (List.subperm_of_subset (View.nodup_rows.filter _) fun m hm => ?_).length_le
  obtain ⟨here, notUp⟩ := List.mem_filter.mp hm
  exact List.mem_filter.mpr ⟨h.mem_of_not_up here (of_decide_eq_true notUp), notUp⟩

theorem datacenters_up_mono (h : v.Healthier w) :
    (datacenters (up v.members.rows)).toFinset ⊆ (datacenters (up w.members.rows)).toFinset := by
  intro dc hdc
  obtain ⟨m, hm, e⟩ := mem_datacenters_iff.mp (List.mem_toFinset.mp hdc)
  exact List.mem_toFinset.mpr <| mem_datacenters_iff.mpr ⟨m, h.up_subset hm, e⟩

-- A datacenter comes in with a member that is up there.
theorem datacenters_subset (h : v.Healthier w) : (datacenters w.members.rows).toFinset ⊆
    (datacenters v.members.rows).toFinset ∪ (datacenters (up w.members.rows)).toFinset := by
  intro dc hdc
  obtain ⟨m, hm, e⟩ := mem_datacenters_iff.mp (List.mem_toFinset.mp hdc)
  rw [Finset.mem_union, List.mem_toFinset, List.mem_toFinset, mem_datacenters_iff, mem_datacenters_iff]
  by_cases isUp : m.status = .up
  case pos => exact .inr ⟨m, mem_up_iff.mpr ⟨hm, isUp⟩, e⟩
  case neg => exact .inl ⟨m, h.mem_of_not_up hm isUp, e⟩

-- There are no more new datacenters than there are datacenters that have become healthy.
theorem card_datacenters_add_le (h : v.Healthier w) :
    (datacenters w.members.rows).toFinset.card + (datacenters (up v.members.rows)).toFinset.card ≤
      (datacenters v.members.rows).toFinset.card + (datacenters (up w.members.rows)).toFinset.card := by
  have both : (datacenters (up v.members.rows)).toFinset ⊆
      (datacenters v.members.rows).toFinset ∩ (datacenters (up w.members.rows)).toFinset :=
    Finset.subset_inter datacenters_up_subset (datacenters_up_mono h)
  calc (datacenters w.members.rows).toFinset.card + (datacenters (up v.members.rows)).toFinset.card
    _ ≤ ((datacenters v.members.rows).toFinset ∪ (datacenters (up w.members.rows)).toFinset).card +
          ((datacenters v.members.rows).toFinset ∩ (datacenters (up w.members.rows)).toFinset).card :=
      Nat.add_le_add (Finset.card_le_card (datacenters_subset h)) (Finset.card_le_card both)
    _ = _ := Finset.card_union_add_card_inter ..

end Member

open Member

theorem QuorumStrategy.Reached.mono {strategy : QuorumStrategy} {v w : View} (h : v.Healthier w)
    (reached : strategy.Reached v.members.rows) : strategy.Reached w.members.rows := by
  cases strategy with
  | globalMajority =>
    have more := length_up_le h
    have fewer := length_rest_le h
    have before := length_up_add_length_rest v.members.rows
    have after := length_up_add_length_rest w.members.rows
    simp only [Reached] at reached ⊢
    omega
  | majorityDatacenters =>
    have more := Finset.card_le_card (datacenters_up_mono h)
    have fresh := card_datacenters_add_le h
    simp only [Reached] at reached ⊢
    omega
  | everyDatacenter =>
    intro m hm
    by_cases isUp : m.status = .up
    case pos => exact ⟨m, hm, isUp, rfl⟩
    case neg =>
      obtain ⟨peer, hp, up, same⟩ := reached m (h.mem_of_not_up hm isUp)
      exact ⟨peer, h.mem_of_up hp up, up, same⟩

namespace QuorumRule

variable {rule : QuorumRule} {v w : View}

theorem satisfied_of_healthier (hv : v.Counted) (hw : w.Counted) (h : v.Healthier w) (satisfied : rule.satisfied v) :
    rule.satisfied w := by
  rw [satisfied_iff_of_counted hw]
  obtain ⟨⟨m, hm, isUp⟩, reached, required⟩ := (satisfied_iff_of_counted hv).mp satisfied
  refine ⟨⟨m, h.mem_of_up hm isUp, isUp⟩, reached.mono h, fun dc hdc => ?_⟩
  obtain ⟨m, hm, isUp, e⟩ := required dc hdc
  exact ⟨m, h.mem_of_up hm isUp, isUp, e⟩

theorem satisfied_throughout_recovery (built : v.Built) (satisfied : rule.satisfied v)
    (better : Relation.ReflTransGen View.Recovers v w) : rule.satisfied w :=
  satisfied_of_healthier built.counted (View.Recovers.built_of_chain better built).counted
    (View.Recovers.healthier_of_chain better) satisfied

-- Of two datacenters one is healthy, which is just enough. Two more come in, then a member comes up and another
-- one leaves.
theorem satisfied_throughout_recovery_of_two :
    let member (id address dc : String) (status : Status) : Member :=
      { Member.starting id "c" address 7 with status := status, labels := .ofList [("datacenter", dc)] }
    let v := (((View.new "v" 5 0).add (member "a" "h:1" "eu" .up)).add (member "b" "h:2" "us" .suspect)).add
      (member "c" "h:3" "us" .down)
    let w := (((v.add (member "d" "h:4" "ap" .up)).add (member "e" "h:5" "eu" .up)).setStatus "b" .up).remove "c"
    let rule : QuorumRule := .new .majorityDatacenters ["eu"]
    rule.satisfied v ∧ v.datacenterHealth.size = 2 ∧ w.datacenterHealth.size = 3 ∧ rule.satisfied w := by
  intro member v w rule
  have built : v.Built := .add _ <| .add _ <| .add _ <| .new ..
  have satisfied : rule.satisfied v := by decide +kernel
  have better : Relation.ReflTransGen View.Recovers v w :=
    .tail (.tail (.tail (.single (.enters (by decide +kernel) rfl)) (.enters (by decide +kernel) rfl))
      (.rises (m := member "b" "h:2" "us" .suspect) (by decide +kernel) (by decide)))
      (.leaves (m := member "c" "h:3" "us" .down) (by decide +kernel) (by decide))
  exact ⟨satisfied, by decide +kernel, by decide +kernel, satisfied_throughout_recovery built satisfied better⟩

end QuorumRule

end GossipCluster
