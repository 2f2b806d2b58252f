import GossipCluster.Proofs.Event.Announcement
import GossipCluster.Proofs.Node.Speech

namespace GossipCluster

-- A datacenter is known by its members only.
theorem View.total_pos {v : View} : ∀ name health, v.datacenterHealth.get? name = some health → 0 < health.total := by
  rw [datacenterHealth]
  generalize v.members.rows = ms
  induction ms using List.reverseRecOn with
  | nil => nofun
  | append_singleton ms m ih =>
    intro name health present
    rw [List.foldl_append, List.foldl_cons, List.foldl_nil, datacenterHealth.count, Dict.get?_put] at present
    split at present
    case isTrue =>
      obtain rfl := Option.some_inj.mp present
      exact Nat.succ_pos _
    case isFalse => exact ih name health present

-- What there is to know of the status of a node.
def Node.replica (n : Node) : Replica where
  inQuorum    := some n.inQuorum
  leader      := some (n.view.leader?, decide (n.view.leader? = some n.address), n.inQuorum)
  datacenters := n.view.datacenterHealth

-- What a publisher on a node of the given address remembers to have said.
def Publisher.replica (p : Publisher) (self : String) : Replica where
  inQuorum    := p.inQuorum
  leader      := p.leader.bind fun leader => p.inQuorum.map (leader, decide (leader = some self), ·)
  datacenters := p.datacenters

theorem Publisher.leader_replica_eq_iff {p : Publisher} {self : String} {leader : Option String} {inQuorum : Bool} :
    (p.replica self).leader = some (leader, decide (leader = some self), inQuorum) ↔
      p.leader = some leader ∧ p.inQuorum = some inQuorum := by
  obtain ⟨_ | _, _ | _, _⟩ := p <;> simp [replica]
  rintro rfl rfl
  rfl

def Effect.event? : Effect → Option Event
  | .publish e => some e
  | _ => none

namespace Turn

variable {t u w : Turn} {r r' r'' : Replica} {changed : Bool}

-- The events so far, in the order in which they are published.
def published (t : Turn) : List Event := t.effects.filterMap Effect.event?

theorem published_emit {e : Effect} : (t.emit e).published = t.published ++ e.event?.toList := by
  simp only [emit, published, List.filterMap_append]
  cases e <;> rfl

theorem published_publish {e : Option Event} : (t.publish e).published = t.published ++ e.toList := by
  cases e with
  | none => exact (List.append_nil _).symm
  | some e => exact published_emit

theorem published_foldl {α : Type} {f : Turn → α → Turn} {said : α → List Event}
    (h : ∀ t a, (f t a).published = t.published ++ said a) {l : List α} :
    (l.foldl f t).published = t.published ++ l.flatMap said := by
  induction l generalizing t with
  | nil => exact (List.append_nil _).symm
  | cons a l ih => rw [List.foldl_cons, ih, h, List.append_assoc, List.flatMap_cons]

-- Who knows `r` hears between two moments of a turn what leads to `r'`, each of it news.
def Informs (r r' : Replica) (t u : Turn) : Prop :=
  ∃ es, u.published = t.published ++ es ∧ r.News es ∧ es.foldl Replica.observe r = r'

theorem Informs.refl (r : Replica) (t : Turn) : Informs r r t t :=
  ⟨[], (List.append_nil _).symm, trivial, rfl⟩

theorem Informs.trans (a : Informs r r' t u) (b : Informs r' r'' u w) : Informs r r'' t w := by
  obtain ⟨es, said, news, rfl⟩ := a
  obtain ⟨es', said', news', rfl⟩ := b
  refine ⟨es ++ es', ?_, Replica.news_append.mpr ⟨news, news'⟩, List.foldl_append⟩
  rw [said', said, List.append_assoc]

theorem node_announceQuorum : t.announceQuorum.1.node =
    { t.node with publisher := { t.node.publisher with inQuorum := some t.node.inQuorum } } :=
  node_publish

theorem node_announceLeader : (t.announceLeader changed).node =
    { t.node with publisher := { t.node.publisher with leader := some t.node.view.leader? } } := by
  rw [announceLeader]
  dsimp only
  rw [node_publish, Publisher.announceLeader]
  split
  case isTrue same =>
    have same : t.node.publisher.leader = some t.node.view.leader? := by simpa using (Bool.and_eq_true_iff.mp same).1
    rw [← same]
  case isFalse => rfl

theorem node_announceDatacenters : t.announceDatacenters.node =
    { t.node with publisher := { t.node.publisher with datacenters := t.node.view.datacenterHealth } } :=
  node_foldl fun _ _ => node_publish

theorem node_report : t.report.node = { t.node with meter := .ofView t.node.view t.node.inQuorum } :=
  node_foldl fun _ _ => node_emit

theorem node_announceStatus : t.announceStatus.node =
    { t.node with
      publisher := ⟨some t.node.inQuorum, some t.node.view.leader?, t.node.view.datacenterHealth⟩
      meter := .ofView t.node.view t.node.inQuorum } := by
  simp only [announceStatus, node_report, node_announceDatacenters, node_announceLeader, node_announceQuorum]
  rfl

theorem informs_announceQuorum (h : r.inQuorum = t.node.publisher.inQuorum) :
    Informs r { r with inQuorum := some t.node.inQuorum } t t.announceQuorum.1 :=
  ⟨_, published_publish, Publisher.news_announceQuorum h⟩

theorem informs_announceLeader
    (h : r.leader = t.node.replica.leader ↔ t.node.publisher.leader = some t.node.view.leader? ∧ changed = false) :
    Informs r { r with leader := t.node.replica.leader } t (t.announceLeader changed) :=
  ⟨_, published_publish, Publisher.news_announceLeader h⟩

theorem informs_announceDatacenters (h : r.datacenters = t.node.publisher.datacenters) :
    Informs r { r with datacenters := t.node.view.datacenterHealth } t t.announceDatacenters := by
  refine ⟨_, ?_, Publisher.news_announceDatacenters View.total_pos h⟩
  refine (published_foldl fun _ e => published_publish (e := some e)).trans ?_
  exact congrArg _ (List.flatMap_singleton' _)

-- What is measured is not published.
theorem informs_report : Informs r r t t.report := by
  refine ⟨[], ?_, trivial, rfl⟩
  refine (published_foldl fun _ change => published_emit (e := .measure change)).trans ?_
  exact congrArg _ (List.flatMap_eq_nil_iff.mpr fun _ _ => rfl)

-- The leader is said again if the quorum has changed, for then what is known of it is outdated.
theorem informs_announceStatus :
    Informs (t.node.publisher.replica t.node.address) t.node.replica t t.announceStatus := by
  let r := { t.node.publisher.replica t.node.address with inQuorum := some t.node.inQuorum }
  let t' := t.announceQuorum.1
  let t'' := t'.announceLeader t.announceQuorum.2
  have quorum : Informs (t.node.publisher.replica t.node.address) r t t' := informs_announceQuorum rfl
  have leader : Informs r { r with leader := t'.node.replica.leader } t' t'' := by
    refine informs_announceLeader ?_
    rw [node_announceQuorum]
    refine Publisher.leader_replica_eq_iff.trans (and_congr_right' ?_)
    rw [← Bool.not_eq_true]
    exact Publisher.announceQuorum_isSome.not_left.symm
  have datacenters : Informs { t.node.replica with datacenters := r.datacenters }
      { t.node.replica with datacenters := t''.node.view.datacenterHealth } t'' t''.announceDatacenters :=
    informs_announceDatacenters (by rw [node_announceLeader, node_announceQuorum]; rfl)
  rw [node_announceQuorum] at leader
  rw [node_announceLeader, node_announceQuorum] at datacenters
  exact quorum.trans <| leader.trans <| datacenters.trans informs_report

-- The status is announced again and again, whatever has become of the view and the phase.
def announceEach (t : Turn) (situations : List (View × Phase)) : Turn :=
  situations.foldl (fun t (v, phase) => ((t.setView v).setPhase phase).announceStatus) t

theorem node_announceEach {situations : List (View × Phase)} :
    ∃ v phase publisher meter, (t.announceEach situations).node =
      { t.node with view := v, phase := phase, publisher := publisher, meter := meter } := by
  induction situations generalizing t with
  | nil => exact ⟨_, _, _, _, rfl⟩
  | cons s situations ih =>
    obtain ⟨v, phase, publisher, meter, same⟩ := ih (t := ((t.setView s.1).setPhase s.2).announceStatus)
    rw [node_announceStatus] at same
    exact ⟨v, phase, publisher, meter, same⟩

theorem informs_announceEach {situations : List (View × Phase)} :
    Informs (t.node.publisher.replica t.node.address)
      ((t.announceEach situations).node.publisher.replica t.node.address) t (t.announceEach situations) := by
  induction situations generalizing t with
  | nil => exact .refl _ _
  | cons s situations ih =>
    let u := (t.setView s.1).setPhase s.2
    have now : Informs (t.node.publisher.replica t.node.address) u.node.replica t u.announceStatus :=
      informs_announceStatus
    have later : Informs _ _ u.announceStatus (u.announceStatus.announceEach situations) := ih
    rw [node_announceStatus] at later
    exact now.trans later

-- Nothing else is needed to know the status as of the last announcement than what was published since the start.
theorem status_of_published (n : Node) (host : Host) (earlier : List (View × Phase)) (v : View) (phase : Phase) :
    let said := (announceEach ⟨host, { n with publisher := {} }, []⟩ (earlier ++ [(v, phase)])).published
    said.foldl Replica.observe {} = { n with view := v, phase := phase }.replica ∧
      ∀ s, (said.filter (·.subject? = some s)).IsChain (· ≠ ·) := by
  let t : Turn := ⟨host, { n with publisher := {} }, []⟩
  let u := t.announceEach (earlier ++ [(v, phase)])
  obtain ⟨es, said, news, known⟩ : Informs {} (u.node.publisher.replica n.address) t u := informs_announceEach
  obtain rfl : u.published = es := said
  refine ⟨known.trans ?_, fun s => (news.isChain s).1⟩
  have last : u = (((t.announceEach earlier).setView v).setPhase phase).announceStatus := List.foldl_append
  obtain ⟨_, _, _, _, before⟩ := node_announceEach (t := t)
  rw [last, node_announceStatus, setPhase, setView, before]
  rfl

end Turn

end GossipCluster
