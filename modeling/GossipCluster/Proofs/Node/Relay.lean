import GossipCluster.Proofs.Node.Recognition
import GossipCluster.Proofs.View.Tidy

namespace GossipCluster

-- Gossip on its way.
structure Rumor where
  target : Endpoint
  view   : View

def Effect.rumors : Effect → List Rumor
  | .send targets (.gossip view) => targets.map (⟨·, view⟩)
  | _ => []

-- All that the node knows and hears comes from a stock, in which nothing outdoes what it knows of itself.
structure Node.Steady (known : Set Member) (events : Set (String × ℕ)) (bound : ℕ) (n : Node) : Prop where
  phase   : n.phase = .up
  status  : n.self.status = .up
  own     : n.FindsItself
  bound   : n.view.vectorBound = bound
  staying : n.view.Staying
  drawn   : n.view.Drawn known events
  newest  : ∀ p ∈ known, p.id = n.self.id → p.stamp ≤ n.self.stamp

-- A node has turned from one state into another when it heard of a view.
structure Relay (bound : ℕ) (incoming : View) (n n' : Node) (rumors : List Rumor) : Prop where
  views  : ∀ r ∈ rumors, r.view = n'.view
  tidy   : rumors ≠ [] → n'.view.Tidy bound
  level  : incoming.Tidy bound → n.view.level ≤ n'.view.level
  behind : incoming.Tidy bound → rumors ≠ [] → n'.view.level = n.view.level →
    incoming.versions.rank < n'.view.versions.rank

theorem Node.FindsItself.staysAt {n : Node} (own : n.FindsItself) (up : n.self.status = .up) :
    n.view.StaysAt n.self.id := by
  intro m hm
  obtain ⟨_, own⟩ := own
  rw [hm] at own
  rw [Option.some_inj.mp own, Member.isDeparting, up]
  decide

namespace Turn

variable {known elsewhere : Set Member} {events : Set (String × ℕ)} {bound : ℕ} {t u : Turn} {incoming v : View}
  {id : String}
  {sender : Option Endpoint} {changed revived : Bool} {said : Set Message}

theorem steady_speaks (hs : Speaks said t u) (h : t.node.Steady known events bound) :
    u.node.Steady known events bound where
  phase := hs.phase.trans h.phase
  status := hs.self ▸ h.status
  own := findsItself_speaks hs h.own
  bound := hs.view ▸ h.bound
  staying := hs.view ▸ h.staying
  drawn := hs.view ▸ h.drawn
  newest := hs.self ▸ h.newest

theorem akin_attend : View.Akin t.node.view (t.attend sender incoming).1.node.view := by
  cases sender with
  | none => exact .refl _
  | some => exact .revive

theorem stems_attend : View.Stems elsewhere id t.node.view (t.attend sender incoming).1.node.view := by
  cases sender with
  | none => exact .of_member?_eq rfl
  | some => exact .revive

theorem steady_attend (h : t.node.Steady known events bound) :
    (t.attend sender incoming).1.node.Steady known events bound := by
  have akin : View.Akin t.node.view (t.attend sender incoming).1.node.view := akin_attend
  have own : (t.attend sender incoming).1.node.FindsItself :=
    findsItself_attend h.own (by rw [h.status]; decide)
  have stems id : View.Stems ∅ id t.node.view (t.attend sender incoming).1.node.view := stems_attend
  have staying : (t.attend sender incoming).1.node.view.Staying := fun id => (stems id).staysAt (h.staying id)
  cases sender with
  | none => exact h
  | some =>
    exact ⟨h.phase, h.status, own, akin.vectorBound.trans h.bound, staying, akin.drawn h.drawn, h.newest⟩

-- Who departs is taken out of both views before they are merged.
theorem learn_eq (t : Turn) (incoming : View) : ∃ options now,
    let merged := View.merge (removeAll t.node.view ((departed t.node incoming).map Member.id))
      (removeAll incoming ((departing t.node incoming).map Member.id)) options now
    (t.learn incoming).1.node.view = merged.1 ∧
      (t.learn incoming).2 = (merged.2 || !(departed t.node incoming).isEmpty) := by
  refine ⟨(t.forget incoming).node.mergeOptions, (t.forget incoming).now, ?_⟩
  rw [← View.without_eq, ← View.without_eq]
  have : without t.node.view (departed t.node incoming) = (t.forget incoming).node.view := by rw [node_forget]
  rw [this]
  exact ⟨rfl, rfl⟩

theorem departing_eq_nil (h : incoming.Staying) : departing t.node incoming = [] := by
  refine List.filter_eq_nil_iff.mpr fun m hm => ?_
  have := h m.id m (View.member?_eq_some_iff.mpr ⟨hm, rfl⟩)
  simp [this]

theorem departed_eq_nil (h : incoming.Staying) : departed t.node incoming = [] := by
  rw [departed, departing_eq_nil h]
  rfl

theorem contains_of_departed {m : Member} (h : m ∈ departed t.node incoming) : t.node.view.contains m.id := by
  have := (List.mem_filter.mp h).2
  rw [View.contains_iff]
  cases hm : t.node.view.member? m.id with
  | none => simp [hm] at this
  | some seen => exact ⟨seen, rfl⟩

theorem staysAt_remaining {id : String} (ne : id ≠ t.node.self.id) :
    (removeAll incoming ((departing t.node incoming).map Member.id)).StaysAt id := by
  by_cases h : id ∈ (departing t.node incoming).map Member.id
  · exact View.staysAt_removeAll (.inl h)
  · refine View.staysAt_removeAll <| .inr fun m hm departs => h ?_
    have ⟨mem, same⟩ := View.member?_eq_some_iff.mp hm
    exact List.mem_map.mpr ⟨m, List.mem_filter.mpr ⟨mem, by simp [departs, same, ne]⟩, same⟩

theorem mem_of_removeAll {v : View} {ids : List String} {m : Member}
    (h : m ∈ (removeAll v ids).members.rows) : m ∈ v.members.rows := by
  have held := View.member?_removeAll ▸ View.member?_eq_some_iff.mpr ⟨h, rfl⟩
  split at held
  case isTrue => exact nomatch held
  case isFalse => exact (View.member?_eq_some_iff.mp held).1

-- What is learned of somebody else is learned from those who do not depart.
theorem stems_learn (ne : id ≠ t.node.self.id) (h : ∀ m ∈ incoming.members.rows, m ∈ elsewhere) :
    View.Stems elsewhere id t.node.view (t.learn incoming).1.node.view := by
  have ⟨options, now, view, _⟩ := learn_eq t incoming
  rw [view]
  exact View.Stems.removeAll.trans <| .merge (staysAt_remaining ne) fun m hm => h m (mem_of_removeAll hm)

theorem steady_learn (h : t.node.Steady known events bound) (hv : incoming.Drawn known events) :
    (t.learn incoming).1.node.Steady known events bound := by
  have ⟨options, now, view, _⟩ := learn_eq t incoming
  have self : (t.learn incoming).1.node.self = t.node.self := self_learn
  have own : (t.learn incoming).1.node.FindsItself := findsItself_learn h.own fun theirs ht => by
    have same : theirs.id = t.node.self.id := View.member?_id ht
    rw [Member.not_newer_iff same]
    exact h.newest theirs.imprint (hv.imprints <| View.imprint_mem_imprints ht) same
  constructor
  case phase =>
    rw [learn_fst, Turn.setView, node_forget]
    exact h.phase
  case status => exact self ▸ h.status
  case own => exact own
  case bound => rw [view, View.vectorBound_merge, View.vectorBound_removeAll, h.bound]
  case staying =>
    intro id
    by_cases e : id = t.node.self.id
    case pos =>
      rw [e, ← self]
      exact own.staysAt (self ▸ h.status)
    case neg =>
      have stems : View.Stems .univ id t.node.view (t.learn incoming).1.node.view :=
        stems_learn e fun _ _ => Set.mem_univ _
      exact stems.staysAt (h.staying id)
  case drawn => exact view ▸ h.drawn.removeAll.merge hv.removeAll
  case newest => exact self ▸ h.newest

theorem trimmed_learn (h : (t.learn incoming).2) (hb : t.node.view.vectorBound = bound) :
    (t.learn incoming).1.node.view.trimmed bound = (t.learn incoming).1.node.view.versions := by
  have ⟨options, now, view, changed⟩ := learn_eq t incoming
  have same : (removeAll t.node.view ((departed t.node incoming).map Member.id)).vectorBound = bound :=
    View.vectorBound_removeAll.trans hb
  rw [view]
  cases empty : (removeAll incoming ((departing t.node incoming).map Member.id)).isEmpty with
  | false => exact same ▸ View.trimmed_merge empty
  | true =>
    rw [View.merge, if_pos empty] at changed ⊢
    cases gone : departed t.node incoming with
    | nil =>
      rw [changed, gone] at h
      contradiction
    | cons m ms =>
      have known : t.node.view.contains m.id := contains_of_departed (gone ▸ List.mem_cons_self)
      exact hb ▸ View.trimmed_removeAll_cons known

theorem level_learn (hb : t.node.view.vectorBound = bound) (hv : incoming.Tidy bound) :
    t.node.view.level ≤ (t.learn incoming).1.node.view.level ∧
    ((t.learn incoming).2 → (t.learn incoming).1.node.view.level = t.node.view.level →
      incoming.versions.rank < (t.learn incoming).1.node.view.versions.rank) := by
  have ⟨options, now, view, changed⟩ := learn_eq t incoming
  rw [departing_eq_nil hv.staying, departed_eq_nil hv.staying] at view changed
  rw [List.isEmpty_nil, Bool.not_true, Bool.or_false] at changed
  rw [view, changed]
  exact ⟨View.level_le_merge, View.rank_lt_of_changed (hb ▸ hv.trimmed)⟩

theorem speaks_conclude (h : t.node.FindsItself) :
    Speaks {m | changed ∧ m = .gossip t.node.view} t (t.conclude v changed revived) := by
  rw [conclude, reassert_eq h]
  have told : Speaks {m | changed ∧ m = .gossip t.node.view} t (if changed then t.broadcast else t) := by
    cases changed with
    | false => exact .refl _ t
    | true => simpa using speaks_broadcast (t := t)
  split
  case isTrue => exact told.trans speaks_announce
  case isFalse => exact told

theorem silent_learn (h : ∀ e ∈ t.effects, e.messages = []) :
    ∀ e ∈ (t.learn incoming).1.effects, e.messages = [] := by
  intro e he
  have counted : Speaks ∅ (t.setView (without t.node.view (departed t.node incoming))) (t.forget incoming) :=
    .measure
  exact (counted.effects e he).elim (h e) List.eq_nil_iff_forall_not_mem.mpr

theorem rumors_conclude (h : t.node.FindsItself) (silent : ∀ e ∈ t.effects, e.messages = []) {r : Rumor}
    (hr : r ∈ (t.conclude v changed revived).effects.flatMap Effect.rumors) :
    changed ∧ r.view = t.node.view := by
  have ⟨e, he, hr⟩ := List.mem_flatMap.mp hr
  have spoken := (speaks_conclude h).effects e he
  cases e with
  | send targets m =>
    cases m with
    | gossip w =>
      have ⟨changed, eq⟩ := spoken.resolve_left (fun old => nomatch silent _ old) _ List.mem_cons_self
      have ⟨_, _, e⟩ := List.mem_map.mp hr
      exact ⟨changed, e ▸ Message.gossip.inj eq⟩
    | _ => exact nomatch hr
  | _ => exact nomatch hr

theorem relay_absorb (h : t.node.Steady known events bound) (silent : ∀ e ∈ t.effects, e.messages = [])
    (hv : incoming.Drawn known events) : (t.absorb sender incoming).node.Steady known events bound ∧
      Relay bound incoming t.node (t.absorb sender incoming).node
        ((t.absorb sender incoming).effects.flatMap Effect.rumors) := by
  let heard := t.attend sender incoming
  let learned := heard.1.learn incoming
  have attentive : heard.1.node.Steady known events bound := steady_attend h
  have steady : learned.1.node.Steady known events bound := steady_learn attentive hv
  have quiet : ∀ e ∈ heard.1.effects, e.messages = [] := by
    cases sender <;> exact silent
  have speaks : Speaks _ learned.1 (t.absorb sender incoming) := speaks_conclude steady.own
  have told r (hr : r ∈ (t.absorb sender incoming).effects.flatMap Effect.rumors) :
      learned.2 ∧ r.view = learned.1.node.view := rumors_conclude steady.own (silent_learn quiet) hr
  have changed (hr : (t.absorb sender incoming).effects.flatMap Effect.rumors ≠ []) : learned.2 :=
    have ⟨r, hr⟩ := List.exists_mem_of_ne_nil _ hr
    (told r hr).1
  have level : heard.1.node.view.level = t.node.view.level := akin_attend.level_eq
  constructor
  case left => exact steady_speaks speaks steady
  case right =>
    constructor
    case views => exact fun r hr => speaks.view ▸ (told r hr).2
    case tidy =>
      intro hr
      rw [speaks.view]
      exact ⟨steady.staying, trimmed_learn (changed hr) attentive.bound⟩
    case level => exact fun tidy => speaks.view ▸ level ▸ (level_learn attentive.bound tidy).1
    case behind =>
      intro tidy hr same
      rw [speaks.view] at same ⊢
      exact (level_learn attentive.bound tidy).2 (changed hr) (same.trans level.symm)

end Turn

namespace Node

variable {known : Set Member} {events : Set (String × ℕ)} {bound : ℕ} {n : Node} {incoming : View}

theorem Steady.relay (h : n.Steady known events bound) (hv : incoming.Drawn known events) (host : Host)
    (sender : Option Endpoint) (expectsReply : Bool) :
    let turn := n.step host (.envelope ⟨sender, .gossip incoming, expectsReply⟩)
    turn.1.Steady known events bound ∧ Relay bound incoming n turn.1 (turn.2.flatMap Effect.rumors) := by
  let t : Turn := ⟨host, n, []⟩
  let e : Envelope := ⟨sender, .gossip incoming, expectsReply⟩
  have up : n.isUp := by simp [isUp, h.phase]
  have unmoved : Relay bound incoming n n [] := ⟨nofun, nofun, fun _ => le_rfl, fun _ => nofun⟩
  change (t.receiveGossip e incoming).node.Steady known events bound ∧
    Relay bound incoming n (t.receiveGossip e incoming).node ((t.receiveGossip e incoming).effects.flatMap Effect.rumors)
  rw [Turn.receiveGossip]
  split
  case h_1 =>
    split
    case isTrue => exact ⟨h, unmoved⟩
    case isFalse => exact ⟨h, unmoved⟩
  case h_2 =>
    rw [if_pos up]
    exact Turn.relay_absorb (t := t) h nofun hv

end Node

end GossipCluster
