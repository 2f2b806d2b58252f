import GossipCluster.Proofs.Node.Relay
import GossipCluster.Proofs.Node.SelfImage

namespace GossipCluster

def Happening.members : Happening → List Member
  | .input _ i => i.members
  | .fired _ => []

theorem Input.Admits.mem_members {v : View} {phase : Phase} {i : Input} (h : i.Admits v phase) {m : Member}
    (hm : m ∈ v.members.rows) : m ∈ i.members := by
  cases h with
  | outcome => exact hm
  | response h => exact by simp [Input.members, h, Message.members, hm]

namespace Turn

-- Between two moments of a turn the node stays itself, and of everybody else its view knows what it has known
-- before or what comes from elsewhere, from those who do not depart.
structure Traces (elsewhere : Set Member) (t u : Turn) : Prop where
  id    : u.node.self.id = t.node.self.id
  stems : ∀ id ≠ t.node.self.id, View.Stems elsewhere id t.node.view u.node.view

variable {elsewhere : Set Member} {t u w : Turn} {m : Member} {status : Status} {v incoming : View}
  {sender : Option Endpoint} {i : Input} {id : String}

theorem member?_setSelf (same : m.id = t.node.self.id) (ne : id ≠ t.node.self.id) :
    (t.setSelf m).node.view.member? id = t.node.view.member? id :=
  View.member?_add.trans <| if_neg fun known => ne (known.1.symm.trans same)

theorem member?_reassert (ne : id ≠ t.node.self.id) :
    t.reassert.node.view.member? id = t.node.view.member? id := by
  rcases t.reassert_cases with same | present | ⟨self, supersedes, eq⟩
  · rw [same]
  · rw [present, member?_setSelf rfl ne]
  · rw [eq, member?_recordChange, member?_setSelf supersedes.eq.1 ne]

namespace Traces

theorem of_member?_eq (id : u.node.self.id = t.node.self.id)
    (h : ∀ id ≠ t.node.self.id, u.node.view.member? id = t.node.view.member? id) : Traces elsewhere t u :=
  ⟨id, fun id ne => .of_member?_eq (h id ne)⟩

theorem idle (id : u.node.self.id = t.node.self.id) (view : u.node.view = t.node.view) : Traces elsewhere t u :=
  .of_member?_eq id fun _ _ => by rw [view]

theorem refl (t : Turn) : Traces elsewhere t t := idle rfl rfl

theorem trans (a : Traces elsewhere t u) (b : Traces elsewhere u w) : Traces elsewhere t w where
  id    := b.id.trans a.id
  stems := fun id ne => (a.stems id ne).trans (b.stems id (a.id ▸ ne))

instance : IsPreorder Turn (Traces elsewhere) where
  refl  := refl
  trans _ _ _ := trans

theorem of_quiet (h : Quiet t u) : Traces elsewhere t u := idle (congrArg Member.id h.self) h.view

theorem setView (h : ∀ id ≠ t.node.self.id, View.Stems elsewhere id t.node.view v) :
    Traces elsewhere t (t.setView v) := ⟨rfl, h⟩

theorem become (same : m.id = t.node.self.id) : Traces elsewhere t (t.become m) := idle same rfl

theorem setSelf (same : m.id = t.node.self.id) : Traces elsewhere t (t.setSelf m) :=
  .of_member?_eq same fun _ ne => member?_setSelf same ne

theorem setStatus : Traces elsewhere t (t.setStatus status) := setSelf rfl

theorem recordChange : Traces elsewhere t t.recordChange :=
  .of_member?_eq (congrArg Member.id self_recordChange) fun _ _ => member?_recordChange

theorem enterUp : Traces elsewhere t t.enterUp := idle rfl rfl

theorem heartbeat : Traces elsewhere t t.heartbeat := ⟨rfl, fun _ _ => .touch⟩

theorem discard {d : Detection} : Traces elsewhere t (t.discard d) :=
  .trans (setView fun _ _ => View.Stems.suspectAll.trans .removeAll) recordChange

theorem attend : Traces elsewhere t (t.attend sender incoming).1 := by
  refine ⟨?_, fun _ _ => stems_attend⟩
  cases sender <;> rfl

theorem learn (h : ∀ m ∈ incoming.members.rows, m ∈ elsewhere) : Traces elsewhere t (t.learn incoming).1 :=
  ⟨congrArg Member.id self_learn, fun _ ne => stems_learn ne h⟩

theorem learnAll {views : List View} (h : ∀ v ∈ views, ∀ m ∈ v.members.rows, m ∈ elsewhere) :
    Traces elsewhere t (t.learnAll views).1 :=
  learnAll_of fun _ v hv => learn (h v hv)

theorem reassert : Traces elsewhere t t.reassert :=
  .of_member?_eq Keeps.reassert.id fun _ ne => member?_reassert ne

-- Whoever is let in is up.
theorem enroll {joiner : Member} {token : String} (admitted : (t.checkAdmission joiner token).2 = .ok ())
    (h : joiner ∈ elsewhere) : Traces elsewhere t (t.enroll joiner) := by
  let member : Member := { joiner with status := .up, lastSeen := t.now }
  have up : ¬member.isDeparting := Bool.false_ne_true
  have joining : ¬joiner.isDeparting := by
    rw [Member.isDeparting, (accredits_of_admitted admitted).status]
    decide
  exact .trans (setView fun _ _ => .add fun same => ⟨up, joiner, h, same, joining⟩) recordChange

theorem depart : Traces elsewhere t t.depart :=
  depart_of (fun _ => idle rfl rfl) (fun _ _ => setStatus) (fun _ => recordChange) fun _ => idle rfl rfl

end Traces

theorem Deed.traces (deed : Deed t i u) : Traces {m | m ∈ i.members} t u := by
  cases deed with
  | nothing => exact .refl t
  | beat => exact .heartbeat
  | discard => exact Traces.heartbeat.trans .discard
  | absorb h =>
    refine Traces.attend.trans <| .trans (.learn fun m hm => ?_) .reassert
    exact by simp [Input.members, h, Message.members, hm]
  | @recover views =>
    have idle : Traces {m | m ∈ (Input.recovered views).members} t
        { t with node := { t.node with recovering := false } } :=
      .idle rfl rfl
    refine idle.trans <| .trans (.learnAll fun v hv m hm => ?_) .reassert
    exact List.mem_flatMap.mpr ⟨v, hv, hm⟩
  | enroll h admitted => exact .enroll admitted (by simp [Input.members, h, Message.members])
  | expel => exact .trans (.setView fun _ _ => .remove) .recordChange
  | @rewrite e state =>
    have rewritten : Traces {m | m ∈ (Input.envelope e).members} t (t.become { t.node.self with state := state }) :=
      .become rfl
    exact rewritten.trans <| Traces.setStatus.trans .recordChange
  | retry => exact .idle rfl rfl
  | fail => exact .idle rfl rfl
  | enter admits entered =>
    have entrant : Traces {m | m ∈ i.members} t (t.become _) := .become (entrant_stamp_le entered).1
    exact entrant.trans <| .trans (.learn fun _ hm => admits.mem_members hm) <| Traces.setStatus.trans <|
      Traces.recordChange.trans .enterUp
  | depart => exact .depart

variable (t i) in
theorem traces_run : Traces {m | m ∈ i.members} t (t.run i) :=
  have ⟨_, deed, quiet⟩ := Does.run (t := t) (i := i)
  deed.traces.trans (.of_quiet quiet)

variable (t) in
theorem traces_start : Traces ∅ t t.start := by
  refine .trans ?_ (.of_quiet quiet_start)
  rw [opening]
  split
  case isTrue => exact Traces.setStatus.trans <| Traces.recordChange.trans .enterUp
  case isFalse => exact .idle rfl rfl

theorem mem_departing_iff (ne : id ≠ t.node.self.id) : id ∈ (departing t.node incoming).map Member.id ↔
    ∃ d, incoming.member? id = some d ∧ d.isDeparting := by
  simp only [departing, List.mem_map, List.mem_filter, View.member?_eq_some_iff]
  grind

theorem newer_iff_stampOf {d ours : Member} (hd : d.id = id) (hv : v.member? id = some ours) :
    ours.Newer d ↔ d.stamp < v.stampOf id := by
  rw [Member.newer_iff ((View.member?_id hv).trans hd.symm), View.stampOf_of_member? hv, WithBot.coe_lt_coe]

theorem mem_departed_iff (known : t.node.view.contains id) (ne : id ≠ t.node.self.id) :
    id ∈ (departed t.node incoming).map Member.id ↔
      ∃ d, incoming.member? id = some d ∧ d.isDeparting ∧ ¬d.stamp < t.node.view.stampOf id := by
  obtain ⟨ours, known⟩ := View.contains_iff.mp known
  have old {d} (same : d.id = id) : (t.node.view.member? d.id).any (¬ ·.Newer d) ↔
      ¬d.stamp < t.node.view.stampOf id := by
    rw [same, known, ← newer_iff_stampOf same known, Option.any_some, decide_eq_true_iff]
  simp only [departed, List.mem_map, List.mem_filter]
  constructor
  case mp =>
    rintro ⟨d, ⟨announced, outdated⟩, same⟩
    obtain ⟨d', hd', departs⟩ := (mem_departing_iff ne).mp <| List.mem_map.mpr ⟨d, announced, same⟩
    have : d' = d := Option.some_inj.mp <| hd'.symm.trans <|
      View.member?_eq_some_iff.mpr ⟨(List.mem_filter.mp announced).1, same⟩
    exact ⟨d, this ▸ hd', this ▸ departs, (old same).mp outdated⟩
  case mpr =>
    rintro ⟨d, hd, departs, outdated⟩
    obtain ⟨mem, same⟩ := View.member?_eq_some_iff.mp hd
    have announced : d ∈ departing t.node incoming := List.mem_filter.mpr ⟨mem, by simp [departs, same, ne]⟩
    exact ⟨d, ⟨announced, (old same).mpr outdated⟩, same⟩

theorem contains_removeAll_iff {ids : List String} :
    (removeAll v ids).contains id ↔ id ∉ ids ∧ v.contains id := by
  rw [View.contains_iff, View.member?_removeAll, View.contains_iff]
  split <;> simp_all

-- Of somebody else a node knows afterwards what it has known before and what is not announced to leave, and
-- whoever else stays.
theorem contains_learn_iff (ne : id ≠ t.node.self.id) : (t.learn incoming).1.node.view.contains id ↔
    (t.node.view.contains id ∧
      ∀ d, incoming.member? id = some d → d.isDeparting → d.stamp < t.node.view.stampOf id) ∨
    ∃ d, incoming.member? id = some d ∧ ¬d.isDeparting := by
  have ⟨options, now, view, _⟩ := learn_eq t incoming
  rw [view, View.mem_memberIds_iff, View.mem_memberIds_merge, ← View.mem_memberIds_iff, ← View.mem_memberIds_iff,
    contains_removeAll_iff, contains_removeAll_iff, mem_departing_iff ne]
  refine or_congr ?_ ?_
  case refine_1 =>
    rw [and_comm]
    refine and_congr_right fun known => ?_
    rw [mem_departed_iff known ne]
    simp only [not_exists, not_and, not_not]
  case refine_2 =>
    rw [View.contains_iff]
    constructor
    case mp => exact fun ⟨stays, d, hd⟩ => ⟨d, hd, fun departs => stays ⟨d, hd, departs⟩⟩
    case mpr =>
      intro ⟨d, hd, stays⟩
      refine ⟨fun ⟨d', hd', departs⟩ => stays ?_, d, hd⟩
      exact Option.some_inj.mp (hd.symm.trans hd') ▸ departs

theorem run_gossip {e : Envelope} (gossip : e.message = .gossip incoming)
    (ok : checkProtocol t.node incoming = .ok ()) (up : t.node.isUp) :
    t.run (.envelope e) = t.absorb e.sender incoming := by
  simp only [run, receive, gossip, receiveGossip, ok, up, if_true]

theorem contains_absorb_iff (ne : id ≠ t.node.self.id) : (t.absorb sender incoming).node.view.contains id ↔
    (t.node.view.contains id ∧
      ∀ d, incoming.member? id = some d → d.isDeparting → d.stamp < t.node.view.stampOf id) ∨
    ∃ d, incoming.member? id = some d ∧ ¬d.isDeparting := by
  let heard := t.attend sender incoming
  have attentive : Keeps t heard.1 := .attend
  have stampOf : heard.1.node.view.stampOf id = t.node.view.stampOf id :=
    View.stampOf_congr <| View.Akin.imprint? akin_attend id
  have quiet : Quiet (heard.1.learn incoming).1.reassert (t.absorb sender incoming) := quiet_conclude
  have ne' : id ≠ (heard.1.learn incoming).1.node.self.id := by
    rw [self_learn, attentive.id]
    exact ne
  rw [quiet.view, View.contains_iff, member?_reassert ne', ← View.contains_iff,
    contains_learn_iff (attentive.id.symm ▸ ne), View.contains_iff_stampOf, stampOf, ← View.contains_iff_stampOf]

end Turn

namespace Node

variable {n : Node} {host : Host} {e : Envelope} {incoming : View} {id : String} {hs : List Happening}

-- An accepted gossip counts for a node that is up, and is passed over by all others.
theorem contains_gossip_iff (gossip : e.message = .gossip incoming) (ok : Turn.checkProtocol n incoming = .ok ())
    (up : n.phase = .up) (ne : id ≠ n.self.id) : (n.meet (.input host (.envelope e))).view.contains id ↔
      (n.view.contains id ∧ ∀ d, incoming.member? id = some d → d.isDeparting → d.stamp < n.view.stampOf id) ∨
      ∃ d, incoming.member? id = some d ∧ ¬d.isDeparting := by
  let t : Turn := ⟨host, n, []⟩
  have absorbs : t.run (.envelope e) = t.absorb e.sender incoming := Turn.run_gossip gossip ok (decide_eq_true up)
  have absorbed : (t.absorb e.sender incoming).node.view.contains id ↔ _ := Turn.contains_absorb_iff ne
  rwa [← absorbs] at absorbed

theorem contains_announced_iff {d : Member} (gossip : e.message = .gossip incoming)
    (ok : Turn.checkProtocol n incoming = .ok ()) (up : n.phase = .up) (ne : id ≠ n.self.id)
    (hd : incoming.member? id = some d) (departs : d.isDeparting) :
    (n.meet (.input host (.envelope e))).view.contains id ↔
      ∃ ours, n.view.member? id = some ours ∧ ours.Newer d := by
  rw [contains_gossip_iff gossip ok up ne]
  have same : d.id = id := View.member?_id hd
  constructor
  case mp =>
    rintro (⟨known, newer⟩ | ⟨d', hd', stays⟩)
    · obtain ⟨ours, known⟩ := View.contains_iff.mp known
      exact ⟨ours, known, (Turn.newer_iff_stampOf same known).mpr (newer d hd departs)⟩
    · exact absurd (Option.some_inj.mp (hd.symm.trans hd') ▸ departs) stays
  case mpr =>
    intro ⟨ours, known, newer⟩
    refine .inl ⟨View.contains_iff.mpr ⟨ours, known⟩, fun d' hd' _ => ?_⟩
    have : d' = d := Option.some_inj.mp (hd'.symm.trans hd)
    exact this ▸ (Turn.newer_iff_stampOf same known).mp newer

theorem id_meet (x : Happening) : (n.meet x).self.id = n.self.id := by
  cases x with
  | input host i => exact (Turn.traces_run ⟨host, n, []⟩ i).id
  | fired => rfl

theorem stems_meet (x : Happening) (ne : id ≠ n.self.id) :
    View.Stems {m | m ∈ x.members} id n.view (n.meet x).view := by
  cases x with
  | input host i => exact (Turn.traces_run ⟨host, n, []⟩ i).stems id ne
  | fired => exact .of_member?_eq rfl

theorem id_live : (n.live hs).self.id = n.self.id := by
  induction hs generalizing n with
  | nil => rfl
  | cons x hs ih => exact ih.trans (id_meet x)

theorem stems_live (ne : id ≠ n.self.id) :
    View.Stems {m | ∃ x ∈ hs, m ∈ x.members} id n.view (n.live hs).view := by
  induction hs generalizing n with
  | nil => exact .of_member?_eq rfl
  | cons x hs ih =>
    have first : View.Stems {m | ∃ y ∈ x :: hs, m ∈ y.members} id n.view (n.meet x).view :=
      (stems_meet x ne).mono fun m hm => ⟨x, List.mem_cons_self, hm⟩
    have rest : View.Stems {m | ∃ y ∈ hs, m ∈ y.members} id (n.meet x).view ((n.meet x).live hs).view :=
      ih (ne.trans_eq (id_meet x).symm)
    exact first.trans <| rest.mono fun m ⟨y, hy, hm⟩ => ⟨y, List.mem_cons_of_mem x hy, hm⟩

theorem Fresh.staysAt_start (h : n.Fresh) (host : Host) (ne : id ≠ n.self.id) :
    (n.start host).1.view.StaysAt id := by
  have alone : n.view.StaysAt id := by
    intro m hm
    have ⟨mem, same⟩ := View.member?_eq_some_iff.mp hm
    rw [h.members, List.mem_singleton] at mem
    exact absurd (mem ▸ same).symm ne
  simp only [Node.start]
  exact ((Turn.traces_start ⟨host, n, []⟩).stems id ne).staysAt alone

theorem id_start (host : Host) : (n.start host).1.self.id = n.self.id := by
  simp only [Node.start]
  exact (Turn.traces_start ⟨host, n, []⟩).id

theorem leavers_gone {config : Config} {now : Timestamp} {instant : Instant} (host : Host)
    (created : Node.create config now instant = .ok (some n)) (hs : List Happening) :
    let m := (n.start host).1.live hs
    (∀ id ≠ m.self.id, m.view.StaysAt id) ∧
      ∀ host' e incoming id d, m.phase = .up → e.message = .gossip incoming →
        Turn.checkProtocol m incoming = .ok () → id ≠ m.self.id → incoming.member? id = some d → d.isDeparting →
          ((m.meet (.input host' (.envelope e))).view.contains id ↔
            ∃ ours, m.view.member? id = some ours ∧ ours.Newer d) := by
  intro m
  constructor
  case left =>
    intro id ne
    have other : id ≠ (n.start host).1.self.id := ne.trans_eq id_live
    have alone : (n.start host).1.view.StaysAt id :=
      (fresh_of_create created).staysAt_start host (other.trans_eq (id_start host))
    exact (stems_live other).staysAt alone
  case right =>
    intro host' e incoming id d up gossip ok ne hd departs
    exact contains_announced_iff gossip ok up ne hd departs

-- A node hears of another one and then that it leaves.
theorem leavers_gone_announced : ∃ (n : Node) (host : Host) (x y : Happening),
    ((n.start host).1.live [x]).view.contains "z" ∧ ¬(((n.start host).1.live [x]).meet y).view.contains "z" := by
  let config : Config :=
    { node := { id := "a", address := "a:1" }, failure := { crossTimeout := some (.ofMillis 200) } }
  let host : Host := ⟨0, 0, ⟨[], []⟩, fun _ _ => [], []⟩
  let z : Member := { Member.starting "z" "meshwork" "z:1" 0 with status := .up, clock := 2 }
  let d : Member := { z with status := .leaving, clock := 3 }
  let news : View := (View.new "" 0 0).add z
  let announcement : View := (View.new "" 0 0).add d
  let x : Happening := .input host (.envelope ⟨none, .gossip news, false⟩)
  let e : Envelope := ⟨none, .gossip announcement, false⟩
  have ⟨n, created, facts⟩ : ∃ n, Node.create config 0 0 = .ok (some n) ∧
      let m := (n.start host).1.live [x]
      m.phase = .up ∧ m.view.member? "z" = some z ∧ Turn.checkProtocol m announcement = .ok () ∧ "z" ≠ m.self.id :=
    ⟨_, rfl, by decide +kernel⟩
  have ⟨_, gone⟩ := leavers_gone host created [x]
  refine ⟨n, host, x, .input host (.envelope e), ?_⟩
  generalize (n.start host).1.live [x] = m at *
  obtain ⟨up, known, ok, other⟩ := facts
  have hd : announcement.member? "z" = some d := by decide +kernel
  have gone := gone host e announcement "z" d up rfl ok other hd (by decide)
  refine ⟨View.contains_iff.mpr ⟨z, known⟩, fun after => ?_⟩
  have ⟨ours, held, newer⟩ := gone.mp after
  have same : z = ours := Option.some_inj.mp (known.symm.trans held)
  have older : ¬z.Newer d := by decide
  exact older (same ▸ newer)

end Node

end GossipCluster
