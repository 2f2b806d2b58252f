import GossipCluster.Proofs.Node.Recognition

namespace GossipCluster

-- What of a node a turn may change on purpose, and its id.
@[ext]
structure Badge where
  id     : String
  clock  : ℕ
  status : Status
  phase  : Phase

def Node.badge (n : Node) : Badge := ⟨n.self.id, n.self.clock.toNat, n.self.status, n.phase⟩

def Node.members (n : Node) : List Member := n.self :: n.view.members.rows

namespace Turn

def said (t : Turn) : List Message := t.effects.flatMap Effect.messages

def members (t : Turn) : List Member := t.node.members ++ t.said.flatMap Message.members

theorem members_of_no_effects {host : Host} {n : Node} : (Turn.mk host n []).members = n.members :=
  List.append_nil n.members

-- The imprints that exist by a moment of a turn.
def ledger (known : Set Member) (t : Turn) : Set Member := known ∪ Member.imprints t.members

structure Custody (known : Set Member) (b : Badge) (t : Turn) : Prop where
  badge    : t.node.badge = b
  coherent : t.node.Coherent
  foreign  : ∀ p ∈ Member.imprints t.members, p ∈ known ∨ p.id = b.id
  lead     : ∀ p ∈ ledger known t, p.id = b.id → p.clock ≤ t.node.self.clock ∧ p.stamp ≤ t.node.self.stamp
  single   : ∀ p ∈ ledger known t, ∀ q ∈ ledger known t, p.id = b.id → q.id = b.id → p.clock = q.clock → p = q

variable {known : Set Member} {b : Badge} {phase : Phase} {status : Status} {t u : Turn}
  {said : Set Message} {v w incoming : View} {m : Member}

theorem imprints_members : Member.imprints t.members =
    insert t.node.self.imprint (t.node.view.imprints ∪ Member.imprints (t.said.flatMap Message.members)) := by
  rw [members, Node.members, List.cons_append, Member.imprints_cons, Member.imprints_append]
  rfl

theorem self_mem_ledger : t.node.self.imprint ∈ ledger known t := by
  rw [ledger, imprints_members]
  exact .inr <| .inl rfl

theorem view_subset_ledger : t.node.view.imprints ⊆ ledger known t := by
  rw [ledger, imprints_members]
  exact fun p hp => .inr <| .inr <| .inl hp

theorem said_subset_ledger (h : u.effects = t.effects) :
    Member.imprints (u.said.flatMap Message.members) ⊆ ledger known t := by
  rw [ledger, imprints_members, Turn.said, h]
  exact fun p hp => .inr <| .inr <| .inr hp

theorem imprints_members_speaks (h : Speaks said t u)
    (hs : ∀ m ∈ said, Member.imprints m.members ⊆ ledger known t) :
    Member.imprints u.members ⊆ ledger known t := by
  rw [imprints_members, h.self, h.view]
  rintro p (e | hp | ⟨m, hm, e⟩)
  · exact e ▸ self_mem_ledger
  · exact view_subset_ledger hp
  · have ⟨x, hx, hm⟩ := List.mem_flatMap.mp hm
    have ⟨a, ha, hx⟩ := List.mem_flatMap.mp hx
    cases h.effects a ha
    case inr all => exact hs x (all x hx) ⟨m, hm, e⟩
    case inl old =>
      have : m ∈ t.said.flatMap Message.members :=
        List.mem_flatMap.mpr ⟨x, List.mem_flatMap.mpr ⟨a, old, hx⟩, hm⟩
      exact said_subset_ledger rfl ⟨m, this, e⟩

namespace Custody

theorem id (h : Custody known b t) : t.node.self.id = b.id := congrArg Badge.id h.badge

-- Nothing is lost when no imprints come in.
theorem mono (h : Custody known b t) (hs : ∃ seen, u.node.self = { t.node.self with lastSeen := seen })
    (coherent : u.node.Coherent) (hl : Member.imprints u.members ⊆ ledger known t) :
    Custody known { b with phase := u.node.phase } u := by
  have ⟨seen, hs⟩ := hs
  constructor
  case badge => rw [← h.badge, Node.badge, hs]; rfl
  case coherent => exact coherent
  case foreign => exact fun p hp => (hl hp).elim .inl (h.foreign p)
  case lead => rw [hs]; exact fun p hp => h.lead p (hp.elim .inl (hl ·))
  case single => exact fun p hp q hq => h.single p (hp.elim .inl (hl ·)) q (hq.elim .inl (hl ·))

theorem mono_of_phase (h : Custody known b t) (hp : u.node.phase = t.node.phase)
    (hs : ∃ seen, u.node.self = { t.node.self with lastSeen := seen })
    (coherent : u.node.Coherent) (hl : Member.imprints u.members ⊆ ledger known t) : Custody known b u := by
  have : { b with phase := u.node.phase } = b := by rw [hp, ← h.badge]; rfl
  exact this ▸ h.mono hs coherent hl

theorem speak (h : Custody known b t) (hs : Speaks said t u)
    (hm : ∀ m ∈ said, Member.imprints m.members ⊆ ledger known t) : Custody known b u :=
  h.mono_of_phase hs.phase ⟨_, hs.self⟩ (coherent_speaks hs h.coherent) (imprints_members_speaks hs hm)

theorem speakNothing (h : Custody known b t) (hs : Speaks ∅ t u) : Custody known b u :=
  h.speak hs nofun

theorem setView (h : Custody known b t) (coherent : (t.setView w).node.Coherent)
    (hw : w.imprints ⊆ ledger known t) : Custody known b (t.setView w) := by
  refine h.mono_of_phase rfl ⟨_, rfl⟩ coherent ?_
  rw [imprints_members]
  rintro p (e | hp | hp)
  · exact e ▸ self_mem_ledger
  · exact hw hp
  · exact said_subset_ledger rfl hp

-- The node's own entry stays as it is.
theorem exchangeView (h : Custody known b t) (same : w.member? b.id = t.node.view.member? b.id)
    (hb : w.vectorBound = t.node.view.vectorBound) (hw : w.imprints ⊆ ledger known t) :
    Custody known b (t.setView w) := by
  have ⟨seen, own⟩ := h.coherent.own
  rw [← h.id] at same
  exact h.setView ⟨⟨seen, same.trans own⟩, hb.trans h.coherent.bound⟩ hw

theorem setPhase (h : Custody known b t) : Custody known { b with phase := phase } (t.setPhase phase) :=
  h.mono (u := t.setPhase phase) ⟨_, rfl⟩ ⟨h.coherent.own, h.coherent.bound⟩ fun _ => .inr

theorem announce (h : Custody known b t) : Custody known b (t.announce v) :=
  h.speakNothing speaks_announce

theorem sendGossip (h : Custody known b t) {addresses : List String} :
    Custody known b (t.sendGossip addresses) :=
  h.speak speaks_sendGossip fun _ e => e ▸ view_subset_ledger

theorem broadcast (h : Custody known b t) {skip : Option String} : Custody known b (t.broadcast skip) :=
  h.sendGossip

theorem reply (h : Custody known b t) {m : Message} (hm : m.members = []) :
    Custody known b (t.emit (.reply m)) := by
  refine h.speak (.emit fun m hm => hm) fun m' hm' => ?_
  rw [List.mem_singleton.mp hm', hm]
  exact fun _ ⟨_, hp, _⟩ => nomatch hp

theorem respond (h : Custody known b t) {e : Envelope} {m : Message}
    (hm : Member.imprints m.members ⊆ ledger known t) : Custody known b (t.respond e m) :=
  h.speak (.respond (Set.mem_singleton m)) fun _ e => e ▸ hm

theorem heartbeat (h : Custody known b t) : Custody known b t.heartbeat := by
  have ⟨seen, own⟩ := h.coherent.own
  refine h.mono_of_phase rfl ⟨_, rfl⟩ ⟨⟨max seen t.now, ?_⟩, h.coherent.bound⟩ ?_
  · exact (View.member?_touch (v := t.node.view)).trans <| by rw [Turn.heartbeat, own, Option.map_some, if_pos rfl]
  · rw [imprints_members]
    rintro p (e | hp | hp)
    · exact e ▸ self_mem_ledger
    · exact view_subset_ledger <| View.imprints_touch.subset hp
    · exact said_subset_ledger rfl hp

theorem recordChange (h : Custody known b t) : Custody known b t.recordChange := by
  rw [Turn.recordChange]
  split
  case h_1 w hw =>
    refine h.exchangeView (View.member?_recordChange hw) (View.vectorBound_recordChange hw) ?_
    exact (View.imprints_recordChange hw).trans_subset view_subset_ledger
  case h_2 => exact h

theorem attend (h : Custody known b t) (hs : b.status ≠ .suspect) {sender : Option Endpoint} :
    Custody known b (t.attend sender incoming).1 := by
  have trusted : t.node.self.status ≠ .suspect := (congrArg Badge.status h.badge).trans_ne hs
  cases sender with
  | none => exact h
  | some sender =>
    have coherent : (t.attend (some sender) incoming).1.node.Coherent := coherent_attend h.coherent trusted
    refine speakNothing (h.setView ⟨coherent.own, coherent.bound⟩ ?_) (.books rfl rfl rfl rfl)
    exact View.imprints_revive.trans_subset view_subset_ledger

theorem forget (h : Custody known b t) : Custody known b (t.forget incoming) := by
  have coherent : (t.forget incoming).node.Coherent := coherent_forget h.coherent
  rw [node_forget] at coherent
  refine speakNothing (h.setView coherent ?_) .measure
  rw [View.without_eq]
  exact View.imprints_removeAll_subset.trans view_subset_ledger

-- What others know of the node does not outdo what it knows itself.
theorem not_newer (h : Custody known b t) (hm : m.imprint ∈ ledger known t) (e : m.id = b.id) :
    ¬m.Newer t.node.self := by
  rw [Member.not_newer_iff (e.trans h.id.symm)]
  exact (h.lead m.imprint hm e).2

theorem learn (h : Custody known b t) (hv : incoming.imprints ⊆ known) :
    Custody known b (t.learn incoming).1 := by
  have remaining : (without incoming (departing t.node incoming)).imprints ⊆ incoming.imprints := by
    rw [View.without_eq]
    exact View.imprints_removeAll_subset
  have coherent : (t.learn incoming).1.node.Coherent := coherent_learn h.coherent fun theirs ht =>
    h.not_newer (.inl <| hv <| View.imprint_mem_imprints ht) ((View.member?_id ht).trans h.id)
  rw [learn_fst] at coherent ⊢
  apply h.forget.setView coherent
  refine View.imprints_merge_subset.trans <| Set.union_subset view_subset_ledger ?_
  exact (remaining.trans hv).trans fun _ => .inl

theorem learnAll (h : Custody known b t) {views : List View} (hv : ∀ v ∈ views, v.imprints ⊆ known) :
    Custody known b (t.learnAll views).1 := by
  rw [Turn.learnAll]
  generalize false = changed
  induction views generalizing t changed with
  | nil => exact h
  | cons v views ih =>
    exact ih (h.learn <| hv v List.mem_cons_self) (fun w hw => hv w <| List.mem_cons_of_mem v hw) _

theorem conclude (h : Custody known b t) {changed revived : Bool} :
    Custody known b (t.conclude v changed revived) := by
  have told : Custody known b (if changed then t.broadcast else t) := by
    split
    case isTrue => exact h.broadcast
    case isFalse => exact h
  rw [Turn.conclude, reassert_eq h.coherent.own]
  split
  case isTrue => exact told.announce
  case isFalse => exact told

-- A change brings in one imprint.
theorem ledger_setStatus_subset : ledger known ((t.become m).setStatus status) ⊆
    insert (m.advance t.now).imprint (ledger known t) := by
  rintro p (hp | hp)
  · exact .inr (.inl hp)
  rw [imprints_members] at hp
  rcases hp with e | hp | hp
  · exact .inl e
  · exact (View.imprints_add_subset hp).elim (.inr <| view_subset_ledger ·) .inl
  · exact .inr (said_subset_ledger rfl hp)

-- A change that is counted takes the node past all that is known of it.
theorem renew (h : Custody known b t) (hid : m.id = b.id) (hc : t.node.self.clock ≤ m.clock)
    (hs : t.node.self.stamp ≤ m.stamp) (hl : m.clock.toNat < 2 ^ 64 - 1) :
    Custody known { b with clock := m.clock.toNat + 1, status := status }
      ((t.become m).setStatus status) := by
  let new : Member := { m.advance t.now with status := status, lastSeen := t.now }
  have clock : new.clock.toNat = m.clock.toNat + 1 := Member.clock_advance t.now hl
  have stamp : m.stamp < new.stamp := Member.stamp_lt_of_clock rfl (clock ▸ Nat.lt_succ_self _)
  have later {p} (hp : p ∈ ledger known t) (e : p.id = b.id) : p.clock < new.clock ∧ p.stamp < new.stamp := by
    have ⟨pc, ps⟩ := h.lead p hp e
    refine ⟨UInt64.lt_of_le_of_lt (UInt64.le_trans pc hc) ?_, (ps.trans hs).trans_lt stamp⟩
    exact UInt64.lt_iff_toNat_lt.mpr (clock ▸ Nat.lt_succ_self _)
  have grown : ledger known ((t.become m).setStatus status) ⊆ insert new.imprint (ledger known t) :=
    ledger_setStatus_subset
  constructor
  case badge =>
    have : t.node.phase = b.phase := congrArg Badge.phase h.badge
    exact Badge.ext hid clock rfl this
  case coherent =>
    have same : m.id = t.node.self.id := hid.trans h.id.symm
    refine ⟨findsItself_setSelf (t := t.become m) ?_, View.vectorBound_add.trans h.coherent.bound⟩
    calc t.node.view.stampOf m.id
      _ = t.node.self.stamp := same ▸ stampOf_self h.coherent.own
      _ < new.stamp := WithBot.coe_lt_coe.mpr (hs.trans_lt stamp)
  case foreign =>
    intro p hp
    rcases grown (.inr hp) with e | hp | hp
    · exact .inr (e ▸ hid)
    · exact .inl hp
    · exact h.foreign p hp
  case lead =>
    intro p hp e
    rcases grown hp with eq | hp
    · exact eq ▸ ⟨UInt64.le_refl _, le_rfl⟩
    · exact ⟨UInt64.le_of_lt (later hp e).1, (later hp e).2.le⟩
  case single =>
    intro p hp q hq ep eq same
    rcases grown hp with pn | hp <;> rcases grown hq with qn | hq
    · exact pn.trans qn.symm
    · exact absurd (later hq eq).1 (by rw [← same, pn]; exact UInt64.lt_irrefl _)
    · exact absurd (later hp ep).1 (by rw [same, qn]; exact UInt64.lt_irrefl _)
    · exact h.single p hp q hq ep eq same

end Custody

end Turn

end GossipCluster
