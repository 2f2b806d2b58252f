import GossipCluster.Event.Publisher
import GossipCluster.Proofs.Table.Lookup

namespace GossipCluster

inductive Subject
  | quorum
  | leader
  | datacenter (name : String)
deriving DecidableEq

-- What is known of the leader goes with whether it is this node and whether there was a quorum.
@[ext]
structure Replica where
  inQuorum    : Option Bool := none
  leader      : Option (Option String × Bool × Bool) := none
  datacenters : Dict DatacenterHealth := ∅
deriving DecidableEq, Repr

namespace Event

def ofQuorum (inQuorum : Bool) : Event := if inQuorum then quorumReached else quorumLost

def subject? : Event → Option Subject
  | quorumLost | quorumReached => some .quorum
  | leaderChanged .. => some .leader
  | datacenterHealthChanged name .. => some (.datacenter name)
  | _ => none

-- What remains known after an event: nothing, of a datacenter without members.
def lasting? : Event → Option Event
  | datacenterHealthChanged name healthy total =>
    if healthy = 0 ∧ total = 0 then none else some (.datacenterHealthChanged name healthy total)
  | e => some e

variable {inQuorum : Bool}

@[simp]
theorem subject?_ofQuorum : (ofQuorum inQuorum).subject? = some .quorum := by
  cases inQuorum <;> rfl

@[simp]
theorem lasting?_ofQuorum : (ofQuorum inQuorum).lasting? = some (ofQuorum inQuorum) := by
  cases inQuorum <;> rfl

end Event

namespace Replica

def observe (r : Replica) : Event → Replica
  | .quorumLost => { r with inQuorum := some false }
  | .quorumReached => { r with inQuorum := some true }
  | .leaderChanged leader isSelf inQuorum => { r with leader := some (leader, isSelf, inQuorum) }
  | .datacenterHealthChanged name healthy total =>
    { r with datacenters :=
        if healthy = 0 ∧ total = 0 then r.datacenters.erase name
        else r.datacenters.put name ⟨healthy, total⟩ }
  | _ => r

-- The event that would tell what is known of a subject.
def about (r : Replica) : Subject → Option Event
  | .quorum => r.inQuorum.map .ofQuorum
  | .leader => r.leader.map fun (leader, isSelf, inQuorum) => .leaderChanged leader isSelf inQuorum
  | .datacenter name =>
    (r.datacenters.get? name).map fun health => .datacenterHealthChanged name health.healthy health.total

variable {r r' : Replica} {e : Event} {es es' : List Event} {s : Subject} {name : String} {health : DatacenterHealth}
  {leader : Option String} {isSelf inQuorum : Bool}

theorem about_quorum_eq_iff :
    r.about .quorum = some (.ofQuorum inQuorum) ↔ r.inQuorum = some inQuorum :=
  (Option.map_injective (by decide)).eq_iff (b := some inQuorum)

theorem about_leader_eq_iff :
    r.about .leader = some (.leaderChanged leader isSelf inQuorum) ↔ r.leader = some (leader, isSelf, inQuorum) := by
  refine (Option.map_injective ?_).eq_iff (b := some (leader, isSelf, inQuorum))
  rintro ⟨_, _, _⟩ ⟨_, _, _⟩ same
  simpa using same

theorem about_datacenter_eq_iff :
    r.about (.datacenter name) = some (.datacenterHealthChanged name health.healthy health.total) ↔
      r.datacenters.get? name = some health := by
  refine (Option.map_injective ?_).eq_iff (b := some health)
  rintro ⟨_, _⟩ ⟨_, _⟩ same
  simpa using same

theorem ext_about (h : ∀ s, r.about s = r'.about s) : r = r' := by
  refine Replica.ext (Option.ext fun _ => ?_) (Option.ext fun ⟨_, _, _⟩ => ?_)
    (Dict.ext_get? fun _ => Option.ext fun _ => ?_)
  case refine_1 => rw [← about_quorum_eq_iff, h, about_quorum_eq_iff]
  case refine_2 => rw [← about_leader_eq_iff, h, about_leader_eq_iff]
  case refine_3 => rw [← about_datacenter_eq_iff, h, about_datacenter_eq_iff]

theorem about_observe : (r.observe e).about s = if e.subject? = some s then e.lasting? else r.about s := by
  cases e with
  | datacenterHealthChanged name healthy total =>
    cases s with
    | datacenter name' =>
      have same : some (Subject.datacenter name) = some (.datacenter name') ↔ name = name' := by simp
      simp only [observe, about, Event.subject?, Event.lasting?, same]
      split
      case isTrue => rw [Dict.get?_erase]; split <;> rfl
      case isFalse =>
        rw [Dict.get?_put]
        split
        case isTrue here => rw [here]; rfl
        case isFalse => rfl
    | quorum | leader => rfl
  | _ => cases s <;> rfl

@[simp]
theorem observe_ofQuorum : r.observe (.ofQuorum inQuorum) = { r with inQuorum := some inQuorum } := by
  cases inQuorum <;> rfl

-- Whether an event tells something that is not known yet.
def IsNews (r : Replica) (e : Event) : Prop := ∀ s, e.subject? = some s → r.about s ≠ e.lasting?

-- Each of some events is news when it comes.
def News (r : Replica) : List Event → Prop
  | [] => True
  | e :: es => r.IsNews e ∧ (r.observe e).News es

theorem isNews_iff (about : e.subject? = some s) : r.IsNews e ↔ r.about s ≠ e.lasting? := by
  simp [IsNews, about]

theorem news_append : r.News (es ++ es') ↔ r.News es ∧ (es.foldl observe r).News es' := by
  induction es generalizing r with
  | nil => simp [News]
  | cons e es ih => simp [News, ih, and_assoc]

-- By the time of the next event about its subject, an event is still all that is known of it.
theorem News.isChain (h : r.News es) (s : Subject) :
    (es.filter (·.subject? = some s)).IsChain (· ≠ ·) ∧
      ∀ e ∈ (es.filter (·.subject? = some s)).head?, r.about s ≠ e.lasting? := by
  induction es generalizing r with
  | nil => exact ⟨.nil, nofun⟩
  | cons e es ih =>
    obtain ⟨news, later⟩ := h
    obtain ⟨chain, head⟩ := ih later
    by_cases about : e.subject? = some s
    case pos =>
      simp only [List.filter_cons, about, decide_true, if_true]
      refine ⟨chain.cons fun e' he' same => ?_, ?_⟩
      · have fresh := head e' he'
        rw [about_observe, if_pos about, same] at fresh
        exact fresh rfl
      · rintro _ ⟨⟩
        exact news s about
    case neg =>
      rw [about_observe, if_neg about] at head
      rw [List.filter_cons, if_neg (by simpa using about)]
      exact ⟨chain, head⟩

theorem about_foldl_of_forall_ne (h : ∀ e ∈ es, e.subject? ≠ some s) : (es.foldl observe r).about s = r.about s := by
  induction es generalizing r with
  | nil => rfl
  | cons e es ih =>
    have ⟨other, others⟩ := List.forall_mem_cons.mp h
    rw [List.foldl_cons, ih others, about_observe, if_neg other]

theorem about_foldl_of_mem (distinct : es.Pairwise (·.subject? ≠ ·.subject?)) (he : e ∈ es)
    (about : e.subject? = some s) : (es.foldl observe r).about s = e.lasting? := by
  induction es generalizing r with
  | nil => exact absurd he List.not_mem_nil
  | cons e' es ih =>
    obtain ⟨others, distinct⟩ := List.pairwise_cons.mp distinct
    rcases List.mem_cons.mp he with rfl | he
    · rw [List.foldl_cons, about_foldl_of_forall_ne fun e' he' => (about ▸ others e' he').symm, about_observe,
        if_pos about]
    · exact ih distinct he

theorem news_of_pairwise (distinct : es.Pairwise (·.subject? ≠ ·.subject?)) (h : ∀ e ∈ es, r.IsNews e) :
    r.News es := by
  induction es generalizing r with
  | nil => trivial
  | cons e es ih =>
    obtain ⟨others, distinct⟩ := List.pairwise_cons.mp distinct
    have ⟨news, later⟩ := List.forall_mem_cons.mp h
    refine ⟨news, ih distinct fun e' he' s about => ?_⟩
    rw [about_observe, if_neg (about ▸ others e' he')]
    exact later e' he' s about

end Replica

end GossipCluster
