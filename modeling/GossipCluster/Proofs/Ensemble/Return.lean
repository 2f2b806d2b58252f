import GossipCluster.Proofs.Ensemble.Replay
import GossipCluster.Proofs.Node.Departure

namespace GossipCluster

-- Something in what happens speaks of a member as of one that stays.
def Happening.Vouches (x : Happening) (id : String) : Prop := ∃ m ∈ x.members, m.id = id ∧ ¬m.isDeparting

namespace Node

-- What takes somebody else out of the view of a node: the word that it leaves, unless the node knows of a newer
-- incarnation, and the word of an administrator.
inductive Forgets (n : Node) (id : String) : Envelope → Prop
  | announced {e incoming d} : e.message = .gossip incoming → Turn.checkProtocol n incoming = .ok () →
      id ≠ n.self.id → incoming.member? id = some d → d.isDeparting →
      (∀ ours, n.view.member? id = some ours → ¬ours.Newer d) → Forgets n id e
  | expelled {e token} : e.message = .forceDown id token → Turn.checkForceDown n id token = .ok () → Forgets n id e

variable {n : Node} {host : Host} {e : Envelope} {incoming : View} {id : String} {hs : List Happening}

theorem Forgets.ne (h : n.Forgets id e) : id ≠ n.self.id := by
  cases h with
  | announced _ _ ne => exact ne
  | expelled _ allowed => exact Turn.ne_of_checkForceDown allowed

theorem not_contains_forceDown {token : String} (request : e.message = .forceDown id token)
    (allowed : Turn.checkForceDown n id token = .ok ()) :
    ¬(n.meet (.input host (.envelope e))).view.contains id := by
  let t : Turn := ⟨host, n, []⟩
  have done : t.run (.envelope e) = (t.forceDown id).respond e .adminAck := by
    simp only [Turn.run, Turn.receive, request, t, allowed, Turn.whenAllowed]
  have answered : Turn.Quiet (t.forceDown id) ((t.forceDown id).respond e .adminAck) := .respond
  change ¬(t.run (.envelope e)).node.view.contains id
  rw [done, answered.view]
  have expelled : (t.forceDown id).node.view.member? id = none := by
    rcases t.forceDown_cases id with ⟨unknown, same⟩ | expelled
    · rw [same]
      exact unknown
    · rw [expelled.view, Turn.member?_recordChange]
      exact View.member?_remove.trans (if_pos rfl)
  simp [View.contains_iff, expelled]

theorem Forgets.not_contains (h : n.Forgets id e) (up : n.phase = .up) :
    ¬(n.meet (.input host (.envelope e))).view.contains id := by
  cases h with
  | expelled request allowed => exact not_contains_forceDown request allowed
  | announced gossip ok ne hd departs old =>
    rw [contains_announced_iff gossip ok up ne hd departs]
    exact fun ⟨ours, held, newer⟩ => old ours held newer

theorem view_gossip_of_passed_over (gossip : e.message = .gossip incoming)
    (h : ¬(n.phase = .up ∧ Turn.checkProtocol n incoming = .ok ())) :
    (n.meet (.input host (.envelope e))).view = n.view := by
  let t : Turn := ⟨host, n, []⟩
  have gossip : t.run (.envelope e) = t.receiveGossip e incoming := by
    simp only [Turn.run, Turn.receive, gossip]
  change (t.run (.envelope e)).node.view = n.view
  rw [gossip, Turn.receiveGossip]
  split
  case h_1 => split <;> rfl
  case h_2 ok =>
    split
    case isTrue up => exact absurd ⟨of_decide_eq_true up, ok⟩ h
    case isFalse => rfl

theorem contains_gossip_of_absent_iff (gossip : e.message = .gossip incoming) (absent : ¬n.view.contains id)
    (ne : id ≠ n.self.id) : (n.meet (.input host (.envelope e))).view.contains id ↔
      n.phase = .up ∧ Turn.checkProtocol n incoming = .ok () ∧
        ∃ entry, incoming.member? id = some entry ∧ ¬entry.isDeparting := by
  by_cases h : n.phase = .up ∧ Turn.checkProtocol n incoming = .ok ()
  case pos =>
    have ⟨up, ok⟩ := h
    rw [contains_gossip_iff gossip ok up ne]
    simp [absent, up, ok]
  case neg =>
    rw [view_gossip_of_passed_over gossip h]
    exact iff_of_false absent fun ⟨up, ok, _⟩ => h ⟨up, ok⟩

-- Nothing in a node tells who is gone from who has never been there.
theorem forgotten_returns_iff (up : n.phase = .up) (h : n.Forgets id e) (host : Host) :
    let after := n.meet (.input host (.envelope e))
    ¬after.view.contains id ∧ ∀ later,
      ((∀ x ∈ later, ¬x.Vouches id) → ¬(after.live later).view.contains id) ∧
      (¬(after.live later).view.contains id → ∀ host' e' incoming, e'.message = .gossip incoming →
        (((after.live later).meet (.input host' (.envelope e'))).view.contains id ↔
          (after.live later).phase = .up ∧ Turn.checkProtocol (after.live later) incoming = .ok () ∧
            ∃ entry, incoming.member? id = some entry ∧ ¬entry.isDeparting)) := by
  intro after
  have gone : ¬after.view.contains id := h.not_contains up
  have ne : id ≠ after.self.id := h.ne.trans_eq (id_meet _).symm
  refine ⟨gone, fun later => ⟨fun nobody => ?_, fun absent host' e' incoming gossip => ?_⟩⟩
  case refine_1 =>
    refine (stems_live ne).not_contains gone fun m ⟨x, hx, hm⟩ same => ?_
    by_contra stays
    exact nobody x hx ⟨m, hm, same, stays⟩
  case refine_2 => exact contains_gossip_of_absent_iff gossip absent (ne.trans_eq id_live.symm)

-- What a node has heard of another one comes again after the word that this one leaves.
theorem forgotten_returns_outdated : ∃ (n : Node) (host : Host) (news departure : Envelope), n.phase = .up ∧
    n.view.contains "z" ∧ ¬(n.meet (.input host (.envelope departure))).view.contains "z" ∧
    ((n.meet (.input host (.envelope departure))).meet (.input host (.envelope news))).view.contains "z" := by
  let config : Config :=
    { node := { id := "a", address := "a:1" }, failure := { crossTimeout := some (.ofMillis 200) } }
  let host : Host := ⟨0, 0, ⟨[], []⟩, fun _ _ => [], []⟩
  let z : Member := { Member.starting "z" "meshwork" "z:1" 0 with status := .up, clock := 2 }
  let d : Member := { z with status := .leaving, clock := 3 }
  let old : View := (View.new "" 0 0).add z
  let announcement : View := (View.new "" 0 0).add d
  let news : Envelope := ⟨none, .gossip old, false⟩
  let departure : Envelope := ⟨none, .gossip announcement, false⟩
  have ⟨n, _, facts⟩ : ∃ n, Node.create config 0 0 = .ok (some n) ∧
      let m := (n.start host).1.meet (.input host (.envelope news))
      m.phase = .up ∧ m.view.member? "z" = some z ∧ Turn.checkProtocol m announcement = .ok () ∧ "z" ≠ m.self.id ∧
        (m.meet (.input host (.envelope departure))).phase = .up ∧
        Turn.checkProtocol (m.meet (.input host (.envelope departure))) old = .ok () :=
    ⟨_, rfl, by decide +kernel⟩
  generalize (n.start host).1.meet (.input host (.envelope news)) = m at facts
  obtain ⟨up, known, ok, other, still, ok'⟩ := facts
  have forgets : m.Forgets "z" departure := by
    refine .announced rfl ok other (show announcement.member? "z" = some d by decide +kernel) (by decide) ?_
    intro ours held
    have same : z = ours := Option.some_inj.mp (known.symm.trans held)
    exact same ▸ (by decide)
  have ⟨gone, later⟩ := forgotten_returns_iff up forgets host
  have ⟨_, returns⟩ := later []
  have back := (returns gone host news old rfl).mpr
    ⟨still, ok', z, (by decide +kernel : old.member? "z" = some z), by decide⟩
  exact ⟨m, host, news, departure, up, View.contains_iff.mpr ⟨z, known⟩, gone, back⟩

end Node

namespace Ensemble

-- Two nodes are up when a third one joins the first of them. The second hears of it and passes that on to the
-- first; the letter is still under way when the third one leaves and the word of it overtakes the letter.
theorem forgotten_returns_overtaken : ∃ (σ₀ σ : Ensemble (Fin 3)) (host : Host),
    (∀ i, (σ₀.node i).config.validate = .ok ()) ∧ σ₀.Initial ∧ Reachable σ₀ σ ∧ (σ.node 0).phase = .up ∧ (σ.node 0).view.contains "z" ∧
    ∃ l ∈ σ.letters, ∃ l' ∈ σ.letters, l.target = (σ.node 0).endpoint ∧ l'.target = (σ.node 0).endpoint ∧
      l.message.name = "gossip" ∧ l'.message.name = "gossip" ∧
      (∃ d ∈ l.message.members, ∃ old ∈ l'.message.members,
        d.id = "z" ∧ old.id = "z" ∧ d.status = .leaving ∧ ¬old.Newer d) ∧
      let after := (σ.node 0).meet (.input host (.envelope ⟨none, l.message, false⟩))
      ¬after.view.contains "z" ∧
        (after.meet (.input host (.envelope ⟨none, l'.message, false⟩))).view.contains "z" := by
  let config (id : String) : Config :=
    { node := { id := id, address := id ++ ":1" }, failure := { crossTimeout := some (.ofMillis 200) } }
  let host : Host := ⟨0, 0, ⟨[⟨"a:1", none⟩], []⟩, fun _ targets => targets, []⟩
  let σ₀ (a b z : Node) : Ensemble (Fin 3) := ⟨![a, b, z], fun _ => false, fun _ => 0, [], [], [], []⟩
  let moves : List (Move (Fin 3)) := [.start 0 host [],
    .start 1 host ["a:1"], .joinRequest 0 host 0, .joined 0 "a:1" 0, .settle host 0,
    .start 2 host ["a:1"], .joinRequest 0 host 1, .joined 1 "a:1" 1, .settle host 1,
    .letter 1 host 1, .request 2 host .leaveRequest]
  have ⟨a, b, z, ha, hb, hz, valid, ids, played⟩ : ∃ a b z, Node.create (config "a") 0 0 = .ok (some a) ∧
      Node.create (config "b") 0 0 = .ok (some b) ∧ Node.create (config "z") 0 0 = .ok (some z) ∧
      (∀ i, ((σ₀ a b z).node i).config.validate = .ok ()) ∧
      (∀ i j, ((σ₀ a b z).node i).self.id = ((σ₀ a b z).node j).self.id → i = j) ∧
      ((σ₀ a b z).play? moves).any fun σ => (σ.node 0).phase = .up ∧ (σ.node 0).view.contains "z" ∧
        ∃ l ∈ σ.letters, ∃ l' ∈ σ.letters, l.target = (σ.node 0).endpoint ∧ l'.target = (σ.node 0).endpoint ∧
          l.message.name = "gossip" ∧ l'.message.name = "gossip" ∧
          (∃ d ∈ l.message.members, ∃ old ∈ l'.message.members,
            d.id = "z" ∧ old.id = "z" ∧ d.status = .leaving ∧ ¬old.Newer d) ∧
          let after := (σ.node 0).meet (.input host (.envelope ⟨none, l.message, false⟩))
          ¬after.view.contains "z" ∧
            (after.meet (.input host (.envelope ⟨none, l'.message, false⟩))).view.contains "z" :=
    ⟨_, _, _, rfl, rfl, rfl, by decide +kernel, by decide +kernel, by decide +kernel⟩
  obtain ⟨σ, run, facts⟩ := (Option.any_eq_true ..).mp played
  have initial : (σ₀ a b z).Initial := by
    refine ⟨fun i => ?_, fun i j => ids i j, rfl, rfl, rfl, rfl, rfl, rfl⟩
    fin_cases i
    · exact ⟨_, _, _, ha⟩
    · exact ⟨_, _, _, hb⟩
    · exact ⟨_, _, _, hz⟩
  exact ⟨σ₀ a b z, σ, host, valid, initial, reachable_of_play? run, of_decide_eq_true facts⟩

end Ensemble

end GossipCluster
