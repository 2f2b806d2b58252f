import GossipCluster.Proofs.Node.Speech
import GossipCluster.Proofs.View.Imprints

namespace GossipCluster

def Node.FindsItself (n : Node) : Prop :=
  ∃ seen, n.view.member? n.self.id = some { n.self with lastSeen := seen }

structure Node.Coherent (n : Node) : Prop where
  own   : n.FindsItself
  bound : n.view.vectorBound = n.config.membership.maxVectorEntries

-- A new node knows nobody but itself, and has yet to join.
structure Node.Fresh (n : Node) : Prop where
  clock   : n.self.clock = 1
  status  : n.self.status = .joining
  phase   : n.phase = .joining 0 false
  timers  : n.timers = .none
  members : n.view.members.rows = [n.self]
  bound   : n.view.vectorBound = n.config.membership.maxVectorEntries

theorem Node.of_create {config : Config} {now : Timestamp} {instant : Instant} {n : Node}
    (h : Node.create config now instant = .ok (some n)) :
    n.Fresh ∧ n.config = config ∧ n.self.cluster = config.clusterName := by
  rw [Node.create] at h
  split at h
  case isTrue => exact nomatch h
  case isFalse =>
    simp only [bind, Except.bind] at h
    split at h
    case h_1 => exact nomatch h
    case h_2 =>
      split at h
      case h_1 => exact nomatch h
      case h_2 =>
        split at h
        case isTrue => exact nomatch h
        case isFalse =>
          injection h with h
          injection h with h
          subst h
          exact ⟨⟨rfl, rfl, rfl, rfl, rfl, rfl⟩, rfl, rfl⟩

theorem Node.fresh_of_create {config : Config} {now : Timestamp} {instant : Instant} {n : Node}
    (h : Node.create config now instant = .ok (some n)) : n.Fresh := (of_create h).1

theorem Node.Fresh.findsItself {n : Node} (h : n.Fresh) : n.FindsItself :=
  ⟨n.self.lastSeen, View.member?_eq_some_iff.mpr ⟨h.members ▸ List.mem_cons_self, rfl⟩⟩

namespace Turn

variable {said : Set Message} {t u : Turn} {incoming : View} {sender : Option Endpoint}

@[simp]
theorem node_measure {s : Series} {count : ℕ} : (t.measure s count).node = t.node := by
  rw [measure]
  split <;> rfl

theorem node_forget : (t.forget incoming).node =
    { t.node with view := without t.node.view (departed t.node incoming) } := node_measure

theorem learn_fst : (t.learn incoming).1 =
    (t.forget incoming).setView ((t.forget incoming).node.view.merge
      (without incoming (departing t.node incoming)) (t.forget incoming).node.mergeOptions
      (t.forget incoming).now).1 := rfl

theorem self_learn : (t.learn incoming).1.node.self = t.node.self := by
  rw [learn_fst, Turn.setView, node_forget]

theorem not_mem_departing : t.node.self.id ∉ (departing t.node incoming).map Member.id := by
  intro h
  have ⟨m, hm, e⟩ := List.mem_map.mp h
  have := (List.mem_filter.mp hm).2
  simp_all

theorem not_mem_departed : t.node.self.id ∉ (departed t.node incoming).map Member.id := by
  intro h
  have ⟨m, hm, e⟩ := List.mem_map.mp h
  exact not_mem_departing <| List.mem_map.mpr ⟨m, (List.mem_filter.mp hm).1, e⟩

theorem findsItself_speaks (h : Speaks said t u) (own : t.node.FindsItself) : u.node.FindsItself := by
  rw [Node.FindsItself, h.self, h.view]
  exact own

theorem findsItself_attend (h : t.node.FindsItself) (hs : t.node.self.status ≠ .suspect) :
    (t.attend sender incoming).1.node.FindsItself := by
  cases sender with
  | none => exact h
  | some =>
    have ⟨_, own⟩ := h
    exact View.member?_revive own hs

theorem findsItself_forget (h : t.node.FindsItself) : (t.forget incoming).node.FindsItself := by
  have ⟨seen, own⟩ := h
  refine ⟨seen, ?_⟩
  rw [node_forget]
  dsimp only
  rw [View.without_eq, View.member?_removeAll, if_neg not_mem_departed]
  exact own

theorem findsItself_learn (h : t.node.FindsItself)
    (old : ∀ theirs, incoming.member? t.node.self.id = some theirs → ¬theirs.Newer t.node.self) :
    (t.learn incoming).1.node.FindsItself := by
  have ⟨seen, own⟩ : (t.forget incoming).node.FindsItself := findsItself_forget h
  have self : (t.forget incoming).node.self = t.node.self := by rw [node_forget]
  rw [Node.FindsItself, self_learn, learn_fst]
  rw [self] at own
  refine View.member?_merge ▸ ?_
  rw [own, View.without_eq, View.member?_removeAll, if_neg not_mem_departing]
  cases ht : incoming.member? t.node.self.id with
  | none => exact ⟨seen, rfl⟩
  | some theirs =>
    rw [Option.merge, Member.reconcile, if_neg (by exact old theirs ht)]
    split
    case isTrue => exact ⟨_, rfl⟩
    case isFalse => exact ⟨seen, rfl⟩

theorem stampOf_self {n : Node} (h : n.FindsItself) : n.view.stampOf n.self.id = n.self.stamp := by
  have ⟨_, own⟩ := h
  have stamp := View.stampOf_of_member? own
  exact stamp

-- A node that is newer than all that its view knows of it finds itself there when it has put itself in.
theorem findsItself_setSelf {m : Member} (newer : t.node.view.stampOf m.id < m.stamp) :
    (t.setSelf m).node.FindsItself :=
  ⟨t.now, View.member?_add_of_lt rfl newer⟩

theorem reassert_eq (h : t.node.FindsItself) : t.reassert = t := by
  have ⟨seen, own⟩ := h
  rw [Turn.reassert, own]
  dsimp only
  rw [if_neg]
  exact (Member.not_newer_iff rfl).mpr le_rfl

theorem coherent_speaks (h : Speaks said t u) (coherent : t.node.Coherent) : u.node.Coherent where
  own := findsItself_speaks h coherent.own
  bound := by
    rw [h.view, h.config]
    exact coherent.bound

theorem coherent_attend (h : t.node.Coherent) (hs : t.node.self.status ≠ .suspect) :
    (t.attend sender incoming).1.node.Coherent where
  own := findsItself_attend h.own hs
  bound := by
    cases sender with
    | none => exact h.bound
    | some => exact View.vectorBound_revive.trans h.bound

theorem coherent_forget (h : t.node.Coherent) : (t.forget incoming).node.Coherent where
  own := findsItself_forget h.own
  bound := by
    rw [node_forget, View.without_eq]
    exact View.vectorBound_removeAll.trans h.bound

theorem coherent_learn (h : t.node.Coherent)
    (old : ∀ theirs, incoming.member? t.node.self.id = some theirs → ¬theirs.Newer t.node.self) :
    (t.learn incoming).1.node.Coherent where
  own := findsItself_learn h.own old
  bound := by
    rw [learn_fst]
    exact View.vectorBound_merge.trans (coherent_forget h).bound

end Turn

end GossipCluster
