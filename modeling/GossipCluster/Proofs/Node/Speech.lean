import GossipCluster.Node.Step
import GossipCluster.Proofs.Message.Contents
import GossipCluster.Proofs.Table.Lookup

namespace GossipCluster

-- A node that wants to join says so through its attempt.
def Effect.messages : Effect → List Message
  | .send _ m | .reply m => [m]
  | .join _ self token => [.joinRequest self token]
  | _ => []

namespace Turn

-- Between two moments of a turn nothing happens to the view of the node and to itself, and all that it says
-- is in `said`.
structure Speaks (said : Set Message) (t u : Turn) : Prop where
  host    : u.host = t.host
  config  : u.node.config = t.node.config
  self    : u.node.self = t.node.self
  view    : u.node.view = t.node.view
  phase   : u.node.phase = t.node.phase
  effects : ∀ e ∈ u.effects, e ∈ t.effects ∨ ∀ m ∈ e.messages, m ∈ said

variable {said : Set Message} {t u w : Turn}

@[simp]
theorem node_emit {e : Effect} : (t.emit e).node = t.node := rfl

@[simp]
theorem node_publish {e : Option Event} : (t.publish e).node = t.node := by
  cases e <;> rfl

@[simp]
theorem node_send {targets : List Endpoint} {m : Message} : (t.send targets m).node = t.node := by
  rw [send]
  split <;> rfl

@[simp]
theorem node_respond {e : Envelope} {m : Message} : (t.respond e m).node = t.node := by
  rw [respond]
  split
  case h_1 => rfl
  case h_2 => exact node_send
  case h_3 => rfl

theorem node_foldl {α : Type} {f : Turn → α → Turn} (h : ∀ t a, (f t a).node = t.node) {l : List α} :
    (l.foldl f t).node = t.node := by
  induction l generalizing t with
  | nil => rfl
  | cons a l ih => exact ih.trans (h t a)

namespace Speaks

theorem refl (said : Set Message) (t : Turn) : Speaks said t t :=
  ⟨rfl, rfl, rfl, rfl, rfl, fun _ => .inl⟩

theorem trans (a : Speaks said t u) (b : Speaks said u w) : Speaks said t w where
  host      := b.host.trans a.host
  config    := b.config.trans a.config
  self      := b.self.trans a.self
  view      := b.view.trans a.view
  phase     := b.phase.trans a.phase
  effects e := fun he => (b.effects e he).elim (a.effects e) .inr

theorem after (b : Speaks said u w) (a : Speaks said t u) : Speaks said t w := a.trans b

theorem foldl {α σ : Type} {f : σ → α → σ} (turn : σ → Turn)
    (h : ∀ s a, Speaks said (turn s) (turn (f s a))) (s : σ) (l : List α) :
    Speaks said (turn s) (turn (l.foldl f s)) := by
  induction l generalizing s with
  | nil => exact refl said (turn s)
  | cons a l ih => exact (h s a).trans (ih _)

theorem emit {e : Effect} (h : ∀ m ∈ e.messages, m ∈ said) : Speaks said t (t.emit e) where
  host := rfl
  config := rfl
  self := rfl
  view := rfl
  phase := rfl
  effects d hd := by
    refine (List.mem_append.mp hd).imp_right fun hd => ?_
    exact (List.mem_singleton.mp hd).symm ▸ h

theorem emitNothing {e : Effect} (h : e.messages = []) : Speaks said t (t.emit e) :=
  emit (h ▸ nofun)

-- Books about peers, limits and announcements are nobody else's business.
theorem books {n : Node} (config : n.config = t.node.config) (self : n.self = t.node.self)
    (view : n.view = t.node.view) (phase : n.phase = t.node.phase) :
    Speaks said t { t with node := n } :=
  ⟨rfl, config, self, view, phase, fun _ => .inl⟩

theorem publish {e : Option Event} : Speaks said t (t.publish e) := by
  cases e with
  | none => exact refl said t
  | some => exact emitNothing rfl

theorem measure {s : Series} {count : ℕ} : Speaks said t (t.measure s count) := by
  rw [Turn.measure]
  split
  case isTrue => exact refl said t
  case isFalse => exact emitNothing rfl

theorem send {targets : List Endpoint} {m : Message} (h : m ∈ said) : Speaks said t (t.send targets m) := by
  rw [Turn.send]
  split
  case isTrue => exact refl said t
  case isFalse => exact emit (by simpa [Effect.messages] using h)

theorem respond {e : Envelope} {m : Message} (h : m ∈ said) : Speaks said t (t.respond e m) := by
  rw [Turn.respond]
  split
  case h_1 => exact emit (by simpa [Effect.messages] using h)
  case h_2 => exact send h
  case h_3 => exact refl said t

end Speaks

theorem speaks_announceQuorum : Speaks said t t.announceQuorum.1 :=
  .after .publish (.books rfl rfl rfl rfl)

theorem speaks_announceLeader {changed : Bool} : Speaks said t (t.announceLeader changed) :=
  .after .publish (.books rfl rfl rfl rfl)

theorem speaks_announceDatacenters : Speaks said t t.announceDatacenters :=
  .after (.foldl id (fun _ _ => .publish) _ _) (.books rfl rfl rfl rfl)

theorem speaks_report : Speaks said t t.report :=
  .after (.foldl id (fun _ _ => .emitNothing rfl) _ _) (.books rfl rfl rfl rfl)

theorem speaks_announceStatus : Speaks said t t.announceStatus :=
  speaks_announceQuorum.trans <| speaks_announceLeader.trans <|
    speaks_announceDatacenters.trans speaks_report

theorem speaks_announce {before : View} : Speaks said t (t.announce before) := by
  have changed (u : Turn) : Speaks said u
      (if before = u.node.view then u else u.publish (some (.viewChanged u.node.view))) := by
    split
    case isTrue => exact .refl said u
    case isFalse => exact .publish
  exact .trans .publish <| .trans (changed _) speaks_announceStatus

theorem speaks_grant {p : Turn × List Endpoint} {address : String} :
    Speaks said p.1 (grant p address).1 := by
  rw [grant]
  dsimp only
  split <;> dsimp only
  case isTrue => exact .books rfl rfl rfl rfl
  case isFalse => exact .after .measure (.books rfl rfl rfl rfl)

theorem speaks_sendGossip {addresses : List String} :
    Speaks {.gossip t.node.view} t (t.sendGossip addresses) := by
  have granted : Speaks {.gossip t.node.view} t (addresses.foldl grant (t, [])).1 :=
    .foldl Prod.fst (fun _ _ => speaks_grant) (t, []) addresses
  have sent : Message.gossip (addresses.foldl grant (t, [])).1.node.view ∈ ({.gossip t.node.view} : Set Message) :=
    congrArg Message.gossip granted.view
  exact .after .measure <| .after (.send sent) <| .after (.books rfl rfl rfl rfl) granted

theorem speaks_broadcast {skip : Option String} :
    Speaks {.gossip t.node.view} t (t.broadcast skip) := speaks_sendGossip

end Turn

end GossipCluster
