import GossipCluster.Proofs.Event.Replica

namespace GossipCluster.Publisher

variable {p : Publisher} {r : Replica} {self : String} {inQuorum changed : Bool} {leader : Option String}
  {current : Dict DatacenterHealth} {health : DatacenterHealth} {e : Event} {name : String}

theorem announceQuorum_fst : (p.announceQuorum inQuorum).1 =
    if p.inQuorum = some inQuorum then none else some (.ofQuorum inQuorum) := by
  cases inQuorum <;> rfl

theorem announceQuorum_isSome : (p.announceQuorum inQuorum).1.isSome ↔ p.inQuorum ≠ some inQuorum := by
  rw [announceQuorum_fst]
  split <;> simp_all

theorem news_announceQuorum (h : r.inQuorum = p.inQuorum) :
    r.News (p.announceQuorum inQuorum).1.toList ∧
      (p.announceQuorum inQuorum).1.toList.foldl Replica.observe r = { r with inQuorum := some inQuorum } := by
  rw [announceQuorum_fst, ← h]
  split
  case isTrue same => exact ⟨trivial, by simp [← same]⟩
  case isFalse changed =>
    have news : r.IsNews (.ofQuorum inQuorum) := by
      rw [Replica.isNews_iff Event.subject?_ofQuorum, Event.lasting?_ofQuorum]
      exact Replica.about_quorum_eq_iff.not.mpr changed
    exact ⟨⟨news, trivial⟩, Replica.observe_ofQuorum⟩

-- What is known of the leader has to be right as long as there is nothing to be said.
theorem news_announceLeader
    (h : r.leader = some (leader, decide (leader = some self), inQuorum) ↔ p.leader = some leader ∧ changed = false) :
    r.News (p.announceLeader leader self inQuorum changed).1.toList ∧
      (p.announceLeader leader self inQuorum changed).1.toList.foldl Replica.observe r =
        { r with leader := some (leader, decide (leader = some self), inQuorum) } := by
  rw [announceLeader]
  split
  case isTrue same =>
    have right := h.mpr (by simpa using same)
    exact ⟨trivial, by simp [← right]⟩
  case isFalse wrong =>
    have wrong := h.not.mpr (by simpa using wrong)
    exact ⟨⟨(Replica.isNews_iff rfl).mpr (Replica.about_leader_eq_iff.not.mpr wrong), trivial⟩, rfl⟩

-- There is something to be said of each datacenter that has changed or vanished.
theorem mem_announceDatacenters_iff : e ∈ (p.announceDatacenters current).1 ↔
    (∃ name health, current.get? name = some health ∧ p.datacenters.get? name ≠ some health ∧
      e = .datacenterHealthChanged name health.healthy health.total) ∨
    ∃ name health, p.datacenters.get? name = some health ∧ current.get? name = none ∧
      e = .datacenterHealthChanged name 0 0 := by
  simp [announceDatacenters, ← Dict.get?_eq_some_iff, Dict.mem_keys_iff_get?, Dict.contains_eq_isSome, and_assoc,
    @eq_comm _ e]

theorem pairwise_announceDatacenters :
    (p.announceDatacenters current).1.Pairwise (·.subject? ≠ ·.subject?) := by
  have apart {k k' : String} (lt : k < k') : some (Subject.datacenter k) ≠ some (Subject.datacenter k') := by
    rintro ⟨⟩
    exact String.lt_irrefl _ lt
  rw [announceDatacenters, List.pairwise_append, List.pairwise_map, List.pairwise_map]
  refine ⟨(current.sorted.imp apart).filter _, ?_, ?_⟩
  case refine_1 =>
    have sorted : p.datacenters.keys.Pairwise (· < ·) := List.pairwise_map.mpr p.datacenters.sorted
    exact (sorted.imp apart).filter _
  case refine_2 =>
    intro e changed e' vanished
    obtain ⟨⟨name, health⟩, present, rfl⟩ := List.mem_map.mp changed
    obtain ⟨name', absent, rfl⟩ := List.mem_map.mp vanished
    have present : current.get? name = some health := Dict.get?_eq_some_iff.mpr (List.mem_filter.mp present).1
    have absent : (current.get? name').isSome = false := by
      simpa [Dict.contains_eq_isSome] using (List.mem_filter.mp absent).2
    rintro ⟨⟩
    rw [present] at absent
    exact nomatch absent

theorem get?_eq_of_unsaid (unsaid : ∀ e ∈ (p.announceDatacenters current).1, e.subject? ≠ some (.datacenter name)) :
    p.datacenters.get? name = current.get? name := by
  cases now : current.get? name with
  | some health =>
    by_contra changed
    exact unsaid _ (mem_announceDatacenters_iff.mpr (.inl ⟨name, health, now, changed, rfl⟩)) rfl
  | none =>
    by_contra known
    obtain ⟨health, known⟩ := Option.ne_none_iff_exists'.mp known
    exact unsaid _ (mem_announceDatacenters_iff.mpr (.inr ⟨name, health, known, now, rfl⟩)) rfl

-- To be told of no members is the end of a datacenter, so there has to be one where a datacenter is to last.
section Populated

variable (populated : ∀ name health, current.get? name = some health → 0 < health.total)
include populated

theorem lasting_of_get? (present : current.get? name = some health) :
    (Event.datacenterHealthChanged name health.healthy health.total).lasting? =
      some (.datacenterHealthChanged name health.healthy health.total) :=
  if_neg fun empty => (populated name health present).ne' empty.2

theorem isNews_of_mem_announceDatacenters (h : r.datacenters = p.datacenters)
    (he : e ∈ (p.announceDatacenters current).1) : r.IsNews e := by
  rcases mem_announceDatacenters_iff.mp he with ⟨name, health, present, changed, rfl⟩ | ⟨name, health, known, _, rfl⟩
  case inl =>
    rw [Replica.isNews_iff rfl, lasting_of_get? populated present, Ne, Replica.about_datacenter_eq_iff, h]
    exact changed
  case inr =>
    rw [← h, ← Replica.about_datacenter_eq_iff] at known
    rw [Replica.isNews_iff rfl, known]
    exact Option.some_ne_none _

theorem lasting_of_mem_announceDatacenters (he : e ∈ (p.announceDatacenters current).1)
    (about : e.subject? = some (.datacenter name)) :
    e.lasting? = ({ r with datacenters := current } : Replica).about (.datacenter name) := by
  rcases mem_announceDatacenters_iff.mp he with ⟨_, health, present, _, rfl⟩ | ⟨_, _, _, absent, rfl⟩ <;>
    obtain rfl := Subject.datacenter.inj (Option.some_inj.mp about)
  case inl =>
    rw [lasting_of_get? populated present]
    exact (Replica.about_datacenter_eq_iff.mpr present).symm
  case inr => exact (Option.map_eq_none_iff.mpr absent).symm

theorem foldl_announceDatacenters (h : r.datacenters = p.datacenters) :
    (p.announceDatacenters current).1.foldl Replica.observe r = { r with datacenters := current } := by
  refine Replica.ext_about fun s => ?_
  cases s with
  | quorum | leader =>
    refine Replica.about_foldl_of_forall_ne fun e he => ?_
    rcases mem_announceDatacenters_iff.mp he with ⟨_, _, _, _, rfl⟩ | ⟨_, _, _, _, rfl⟩ <;> nofun
  | datacenter name =>
    by_cases said : ∃ e ∈ (p.announceDatacenters current).1, e.subject? = some (.datacenter name)
    case pos =>
      obtain ⟨e, he, about⟩ := said
      rw [Replica.about_foldl_of_mem pairwise_announceDatacenters he about]
      exact lasting_of_mem_announceDatacenters populated he about
    case neg =>
      push Not at said
      rw [Replica.about_foldl_of_forall_ne said]
      exact congrArg (Option.map _) (h ▸ get?_eq_of_unsaid said)

theorem news_announceDatacenters (h : r.datacenters = p.datacenters) :
    r.News (p.announceDatacenters current).1 ∧
      (p.announceDatacenters current).1.foldl Replica.observe r = { r with datacenters := current } :=
  ⟨Replica.news_of_pairwise pairwise_announceDatacenters fun _ => isNews_of_mem_announceDatacenters populated h,
    foldl_announceDatacenters populated h⟩

end Populated

end GossipCluster.Publisher
