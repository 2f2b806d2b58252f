import GossipCluster.Proofs.Ensemble.Basic

namespace GossipCluster

namespace Turn

variable {known known' : Set Member} {b : Badge} {t u : Turn} {v : View} {input : Input}

-- The moment of a turn at which a node that has learned from others looks for itself in its view.
def reassertion? (t : Turn) : Input → Option Turn
  | .recovered views =>
    if !t.node.isUp || views.isEmpty then none
    else some (learnAll { t with node := { t.node with recovering := false } } views).1
  | .envelope ⟨sender, .gossip incoming, _⟩ => match checkProtocol t.node incoming with
    | .ok _ => if t.node.isUp then some ((t.attend sender incoming).1.learn incoming).1 else none
    | .error _ => none
  | _ => none

-- Others know an incarnation of the node that it has to move past.
def Overtaken (t : Turn) : Prop :=
  ∃ seen, t.node.view.member? t.node.self.id = some seen ∧ seen.Newer t.node.self

theorem reassertion?_recovered {views : List View} (h : t.reassertion? (.recovered views) = some u) :
    t.node.isUp ∧ views ≠ [] ∧
      u = (learnAll { t with node := { t.node with recovering := false } } views).1 := by
  rw [reassertion?] at h
  split at h
  case isTrue => exact nomatch h
  case isFalse idle =>
    simp only [Bool.or_eq_true, Bool.not_eq_true', not_or, Bool.not_eq_false, List.isEmpty_iff] at idle
    exact ⟨idle.1, idle.2, (Option.some_inj.mp h).symm⟩

theorem reassertion?_envelope {e : Envelope} (h : t.reassertion? (.envelope e) = some u) :
    ∃ incoming, e.message = .gossip incoming ∧ checkProtocol t.node incoming = .ok () ∧ t.node.isUp ∧
      u = ((t.attend e.sender incoming).1.learn incoming).1 := by
  obtain ⟨sender, message, expectsReply⟩ := e
  cases message with
  | gossip incoming =>
    simp only [reassertion?] at h
    split at h
    case h_2 => exact nomatch h
    case h_1 _ ok =>
      split at h
      case isFalse => exact nomatch h
      case isTrue up => exact ⟨incoming, rfl, ok, up, (Option.some_inj.mp h).symm⟩
  | _ => exact nomatch h

theorem run_of_reassertion? (h : t.reassertion? input = some u) :
    ∃ before changed revived, t.run input = u.conclude before changed revived := by
  cases input with
  | tick | joinOutcome => exact nomatch h
  | recovered views =>
    have ⟨up, nonempty, e⟩ := reassertion?_recovered h
    have idle : ¬(!t.node.isUp || views.isEmpty) := by simp [up, nonempty]
    subst e
    exact ⟨_, _, _, if_neg idle⟩
  | envelope e =>
    have ⟨incoming, gossip, ok, up, eq⟩ := reassertion?_envelope h
    have absorbed : t.run (.envelope e) = t.absorb e.sender incoming := by
      rw [run, receive, gossip]
      change t.receiveGossip e incoming = _
      rw [receiveGossip, ok]
      exact if_pos up
    subst eq
    exact ⟨_, _, _, absorbed⟩

theorem Custody.rebase (h : Custody known b t) (hn : Member.imprints t.node.members ⊆ known')
    (hk : ∀ p ∈ known', p.id = b.id → p ∈ ledger known t) (host : Host) :
    Custody known' b ⟨host, t.node, []⟩ := by
  have members : Member.imprints (Turn.members ⟨host, t.node, []⟩) ⊆ known' :=
    members_of_no_effects ▸ hn
  have ledger : ∀ p ∈ ledger known' ⟨host, t.node, []⟩, p.id = b.id → p ∈ ledger known t :=
    fun p hp => hk p (hp.elim (·) (members ·))
  constructor
  case badge => exact h.badge
  case coherent => exact h.coherent
  case foreign => exact fun p hp => .inl (members hp)
  case lead => exact fun p hp e => h.lead p (ledger p hp e) e
  case single => exact fun p hp q hq ep eq => h.single p (ledger p hp ep) q (ledger q hq eq) ep eq

theorem Custody.not_overtaken (h : Custody known b t) : ¬t.Overtaken := by
  intro ⟨seen, found, newer⟩
  have ⟨_, own⟩ := h.coherent.own
  rw [own] at found
  rw [← Option.some_inj.mp found] at newer
  exact (Member.not_newer_iff rfl).mpr le_rfl newer

theorem Custody.reassertion? (h : Custody known b t) (hr : b.Regular)
    (hi : Member.imprints input.members ⊆ known) (hu : t.reassertion? input = some u) : Custody known b u := by
  cases input with
  | tick | joinOutcome => exact nomatch hu
  | recovered views =>
    have ⟨_, _, e⟩ := reassertion?_recovered hu
    subst e
    have idle : Custody known b { t with node := { t.node with recovering := false } } :=
      h.speakNothing (.books rfl rfl rfl rfl)
    refine idle.learnAll fun v hv p ⟨m, hm, e⟩ => hi ⟨m, ?_, e⟩
    exact List.mem_flatMap.mpr ⟨v, hv, hm⟩
  | envelope e =>
    have ⟨incoming, gossip, _, up, e⟩ := reassertion?_envelope hu
    subst e
    refine (h.attend <| h.status_ne hr up).learn fun p hp => hi ?_
    rw [Input.members, gossip]
    exact hp

end Turn

namespace Effect

variable {e : Effect}

theorem message_of_letter {l : Letter} (h : l ∈ e.letters) : l.message ∈ e.messages := by
  cases e with
  | send targets m =>
    have ⟨_, _, eq⟩ := List.mem_map.mp h
    exact eq ▸ List.mem_cons_self
  | _ => exact nomatch h

theorem message_of_answer {m : Message} (h : m ∈ e.answers) : m ∈ e.messages := by
  cases e with
  | reply => exact h
  | _ => exact nomatch h

theorem message_of_attempt {a : JoinAttempt} {seeds : List String} (h : a ∈ e.attempts seeds) :
    a.request ∈ e.messages := by
  cases e with
  | join => exact List.mem_singleton.mp h ▸ List.mem_cons_self
  | _ => exact nomatch h

end Effect

namespace Ensemble

variable {ι : Type} {σ σ₀ σ' : Ensemble ι} {i : ι} {t : Turn} {changes : ℕ} {seeds : List String}
  {input : Input} {m : Member}

-- The imprints of all copies.
def known (σ : Ensemble ι) : Set Member := {p | ∃ m ∈ σ.members, m.imprint = p}

structure Sound (σ : Ensemble ι) : Prop where
  distinct : Function.Injective fun i => (σ.node i).self.id
  custody  : ∀ i host, Turn.Custody σ.known (σ.node i).badge ⟨host, σ.node i, []⟩
  regular  : ∀ i, (σ.node i).badge.Regular
  clock    : ∀ i, (σ.node i).self.clock.toNat = 1 + σ.changes i
  single   : ∀ p ∈ σ.known, ∀ q ∈ σ.known, p.id = q.id → p.clock = q.clock → p = q

theorem imprints_node_subset_known : Member.imprints (σ.node i).members ⊆ σ.known :=
  fun _ ⟨m, hm, e⟩ => ⟨m, .inl ⟨i, hm⟩, e⟩

theorem mem_members_of_outcome {answer : Except Error Message} {attempt : ℕ} {seed : String}
    (ha : σ.Answered answer) (h : m ∈ (Input.joinOutcome attempt (JoinAttempt.outcome seed answer)).members) :
    m ∈ σ.members := by
  cases answer with
  | error => exact nomatch h
  | ok response =>
    cases response with
    | joinResponse v => exact .inr <| .inr <| .inl ⟨_, ha _ rfl, h⟩
    | _ => exact nomatch h

theorem mem_members_of_search {answers : List (Except Error Message)} (ha : ∀ a ∈ answers, σ.Answered a)
    (h : m ∈ (Input.recovered (answers.filterMap Message.view?)).members) : m ∈ σ.members := by
  have ⟨v, hv, hm⟩ := List.mem_flatMap.mp h
  have ⟨answer, mem, hv⟩ := List.mem_filterMap.mp hv
  cases answer with
  | error => exact nomatch hv
  | ok response =>
    cases response with
    | viewResponse w =>
      have eq : w = v := Option.some_inj.mp hv
      subst eq
      exact .inr <| .inr <| .inl ⟨_, ha _ mem _ rfl, hm⟩
    | _ => exact nomatch hv

theorem Available.mem_members (h : σ.Available i input) (hm : m ∈ input.members) : m ∈ σ.members := by
  cases h with
  | tick => exact nomatch hm
  | letter _ _ sent => exact .inr <| .inl ⟨_, sent, hm⟩
  | joinRequest _ asked => exact .inr <| .inr <| .inr <| .inl ⟨_, asked, hm⟩
  | request e none =>
    have hm : m ∈ e.message.members := hm
    rw [none] at hm
    exact nomatch hm
  | pending posted => exact .inr <| .inr <| .inr <| .inr ⟨_, posted, hm⟩

theorem Sound.post (h : σ.Sound) (hi : ∀ m ∈ input.members, m ∈ σ.members) : (σ.post i input).Sound := by
  have members : (σ.post i input).members = σ.members := by
    ext m
    constructor
    case mp =>
      rintro (hm | hm | hm | hm | ⟨x, hx, hm⟩)
      · exact .inl hm
      · exact .inr <| .inl hm
      · exact .inr <| .inr <| .inl hm
      · exact .inr <| .inr <| .inr <| .inl hm
      · cases List.mem_append.mp hx
        case inl old => exact .inr <| .inr <| .inr <| .inr ⟨x, old, hm⟩
        case inr new =>
          have e := List.mem_singleton.mp new
          subst e
          exact hi m hm
    case mpr =>
      rintro (hm | hm | hm | hm | ⟨x, hx, hm⟩)
      · exact .inl hm
      · exact .inr <| .inl hm
      · exact .inr <| .inr <| .inl hm
      · exact .inr <| .inr <| .inr <| .inl hm
      · exact .inr <| .inr <| .inr <| .inr ⟨x, List.mem_append_left _ hx, hm⟩
  have known : (σ.post i input).known = σ.known := by rw [Ensemble.known, members, Ensemble.known]
  exact ⟨h.distinct, known ▸ h.custody, h.regular, h.clock, known ▸ h.single⟩

theorem Initial.fresh (h : σ₀.Initial) (i : ι) : (σ₀.node i).Fresh :=
  have ⟨_, _, _, hc⟩ := h.created i
  Node.fresh_of_create hc

-- The only copy of a node is the node itself.
theorem Initial.eq_self (h : σ₀.Initial) (hm : m ∈ σ₀.members) : ∃ i, m = (σ₀.node i).self := by
  rcases hm with ⟨i, hm⟩ | ⟨_, hl, _⟩ | ⟨_, ha, _⟩ | ⟨_, hx, _⟩ | ⟨_, hx, _⟩
  · have hm : m ∈ (σ₀.node i).self :: (σ₀.node i).view.members.rows := hm
    rw [(h.fresh i).members] at hm
    exact ⟨i, by simpa using hm⟩
  · exact nomatch h.letters ▸ hl
  · exact nomatch h.answers ▸ ha
  · exact nomatch h.attempts ▸ hx
  · exact nomatch h.pending ▸ hx

theorem Initial.imprint_unique (h : σ₀.Initial) {p q : Member} (hp : p ∈ σ₀.known) (hq : q ∈ σ₀.known)
    (same : p.id = q.id) : p = q := by
  have ⟨a, ha, ea⟩ := hp
  have ⟨b, hb, eb⟩ := hq
  have ⟨i, hi⟩ := h.eq_self ha
  have ⟨j, hj⟩ := h.eq_self hb
  subst ea eb hi hj
  exact congrArg (fun i => (σ₀.node i).self.imprint) (h.distinct same)

theorem Initial.sound (h : σ₀.Initial) : σ₀.Sound := by
  constructor
  case distinct => exact h.distinct
  case custody =>
    intro i host
    let t : Turn := ⟨host, σ₀.node i, []⟩
    have members : Member.imprints t.members ⊆ σ₀.known :=
      Turn.members_of_no_effects ▸ imprints_node_subset_known
    have self : (σ₀.node i).self.imprint ∈ σ₀.known := members <| Member.imprint_mem List.mem_cons_self
    have ledger : Turn.ledger σ₀.known t ⊆ σ₀.known := Set.union_subset subset_rfl members
    constructor
    case badge => rfl
    case coherent => exact ⟨(h.fresh i).findsItself, (h.fresh i).bound⟩
    case foreign => exact fun p hp => .inl (members hp)
    case lead =>
      intro p hp e
      exact h.imprint_unique (ledger hp) self e ▸ ⟨UInt64.le_refl _, le_rfl⟩
    case single => exact fun p hp q hq ep eq _ => h.imprint_unique (ledger hp) (ledger hq) (ep.trans eq.symm)
  case regular =>
    intro i up
    exact nomatch (h.fresh i).phase.symm.trans up
  case clock =>
    intro i
    rw [(h.fresh i).clock, h.changes]
    rfl
  case single => exact fun p hp q hq same _ => h.imprint_unique hp hq same

variable [DecidableEq ι]

theorem members_take (h : m ∈ (σ.take i changes seeds (t.node, t.effects)).members) :
    m ∈ σ.members ∨ m ∈ t.members := by
  have said {e : Effect} {x : Message} (he : e ∈ t.effects) (hx : x ∈ e.messages) (hm : m ∈ x.members) :
      m ∈ t.members := by
    have : x ∈ t.said := List.mem_flatMap.mpr ⟨e, he, hx⟩
    exact List.mem_append_right _ <| List.mem_flatMap.mpr ⟨x, this, hm⟩
  rcases h with ⟨j, hm⟩ | ⟨l, hl, hm⟩ | ⟨a, ha, hm⟩ | ⟨x, hx, hm⟩ | ⟨x, hx, hm⟩
  · by_cases e : j = i
    · subst e
      rw [node_take_self] at hm
      exact .inr <| List.mem_append_left _ hm
    · rw [node_take_of_ne e] at hm
      exact .inl <| .inl ⟨j, hm⟩
  · cases List.mem_append.mp hl
    case inl old => exact .inl <| .inr <| .inl ⟨l, old, hm⟩
    case inr new =>
      have ⟨e, he, hl⟩ := List.mem_flatMap.mp new
      exact .inr <| said he (Effect.message_of_letter hl) hm
  · cases List.mem_append.mp ha
    case inl old => exact .inl <| .inr <| .inr <| .inl ⟨a, old, hm⟩
    case inr new =>
      have ⟨e, he, ha⟩ := List.mem_flatMap.mp new
      exact .inr <| said he (Effect.message_of_answer ha) hm
  · cases List.mem_append.mp hx
    case inl old => exact .inl <| .inr <| .inr <| .inr <| .inl ⟨x, old, hm⟩
    case inr new =>
      have ⟨a, ha, eq⟩ := List.mem_map.mp new
      have ⟨e, he, ha⟩ := List.mem_flatMap.mp ha
      subst eq
      exact .inr <| said he (Effect.message_of_attempt ha) hm
  · exact .inl <| .inr <| .inr <| .inr <| .inr ⟨x, hx, hm⟩

theorem known_take_subset :
    (σ.take i changes seeds (t.node, t.effects)).known ⊆ Turn.ledger σ.known t := by
  intro p ⟨m, hm, e⟩
  exact (members_take hm).imp (⟨m, ·, e⟩) (⟨m, ·, e⟩)

theorem Sound.take (h : σ.Sound) (ht : Turn.Tenure σ.known (σ.node i).badge changes t) :
    (σ.take i changes seeds (t.node, t.effects)).Sound := by
  have ⟨c, custody, id, clock, regular⟩ := ht
  have ids j : ((σ.take i changes seeds (t.node, t.effects)).node j).self.id = (σ.node j).self.id := by
    by_cases e : j = i
    · rw [e, node_take_self]
      exact custody.id.trans id
    · rw [node_take_of_ne e]
  -- The imprints of other nodes are those that there were before the turn.
  have foreign {p} (hp : p ∈ (σ.take i changes seeds (t.node, t.effects)).known)
      (ne : p.id ≠ (σ.node i).self.id) : p ∈ σ.known :=
    (known_take_subset hp).elim (·) fun hp =>
      (custody.foreign p hp).resolve_right fun e => ne <| e.trans id
  constructor
  case distinct => simpa only [ids] using h.distinct
  case custody =>
    intro j host
    have hn := imprints_node_subset_known (σ := σ.take i changes seeds (t.node, t.effects)) (i := j)
    by_cases e : j = i
    · subst e
      rw [node_take_self, custody.badge] at *
      exact custody.rebase hn (fun p hp _ => known_take_subset hp) host
    · rw [node_take_of_ne e] at *
      refine (h.custody j host).rebase hn (fun p hp eq => .inl <| foreign hp fun same => e ?_) host
      exact h.distinct <| eq.symm.trans same
  case regular =>
    intro j
    by_cases e : j = i
    · subst e
      rw [node_take_self, custody.badge]
      exact regular
    · rw [node_take_of_ne e]
      exact h.regular j
  case clock =>
    intro j
    by_cases e : j = i
    · subst e
      rw [node_take_self, custody.clock_eq, clock, changes_take_self, ← Nat.add_assoc]
      exact congrArg (· + changes) (h.clock j)
    · rw [node_take_of_ne e, h.clock, changes_take_of_ne e]
  case single =>
    intro p hp q hq same clock
    by_cases e : p.id = (σ.node i).self.id
    · have e : p.id = c.id := e.trans id.symm
      exact custody.single p (known_take_subset hp) q (known_take_subset hq) e (same ▸ e) clock
    · exact h.single p (foreign hp e) q (foreign hq (same ▸ e)) same clock

theorem changes_le_of_step (h : Step σ σ') : σ.changes i ≤ σ'.changes i := by
  have taken {j n seeds turn} : σ.changes i ≤ (σ.take j n seeds turn).changes i := by
    by_cases e : i = j
    · subst e
      rw [changes_take_self]
      exact Nat.le_add_right ..
    · rw [changes_take_of_ne e]
  cases h with
  | start | turn => exact taken
  | joined | searched => exact Nat.le_refl _

theorem Sound.step (h : σ.Sound) (hs : Step σ σ') (hc : ∀ i, σ'.changes i < 2 ^ 64 - 1) : σ'.Sound := by
  have room {j n seeds turn} (hc : (σ.take j n seeds turn).changes j < 2 ^ 64 - 1) :
      (σ.node j).badge.clock + n < 2 ^ 64 := by
    rw [changes_take_self] at hc
    have : (σ.node j).badge.clock = 1 + σ.changes j := h.clock j
    omega
  cases hs with
  | @start i host seeds _ =>
    have := (h.custody i host).start (room (hc i))
    exact h.take this
  | @turn i input host seeds _ available =>
    have known : Member.imprints input.members ⊆ σ.known := fun p ⟨m, hm, e⟩ =>
      ⟨m, available.mem_members hm, e⟩
    exact h.take <| (h.custody i host).run (h.regular i) known (room (hc i))
  | joined _ _ answered => exact h.post fun m => mem_members_of_outcome answered
  | searched i answered => exact h.post fun m => mem_members_of_search answered

theorem Sound.reachable (h₀ : σ₀.Sound) (h : Reachable σ₀ σ) (hc : ∀ i, σ.changes i < 2 ^ 64 - 1) :
    σ.Sound := by
  induction h with
  | refl => exact h₀
  | tail _ step ih => exact (ih fun i => (changes_le_of_step step).trans_lt (hc i)).step step hc

theorem owner_newest (h₀ : σ₀.Initial) (h : Reachable σ₀ σ) (hc : ∀ i, σ.changes i < 2 ^ 64 - 1) :
    (∀ i, (σ.node i).self.clock.toNat = 1 + σ.changes i) ∧
    (∀ i, ∀ m ∈ σ.members, m.id = (σ.node i).self.id → ¬m.Newer (σ.node i).self) ∧
    (∀ a ∈ σ.members, ∀ b ∈ σ.members, a.id = b.id → a.stamp = b.stamp → a.profile = b.profile) ∧
    (∀ i, (σ.node i).view.stampOf (σ.node i).self.id = (σ.node i).self.stamp) ∧
    ∀ i host input u, σ.Available i input → Turn.reassertion? ⟨host, σ.node i, []⟩ input = some u →
      ¬u.Overtaken := by
  have sound := h₀.sound.reachable h hc
  have custody i := sound.custody i ⟨0, 0, ⟨[], []⟩, fun _ _ => [], []⟩
  refine ⟨sound.clock, ?newest, ?agree, ?own, ?overtaken⟩
  case newest => exact fun i m hm => (custody i).not_newer (.inl ⟨m, hm, rfl⟩)
  case agree =>
    intro a ha b hb id stamp
    have clock := (Member.stamp_eq_iff.mp stamp).2.1
    have imprint := sound.single _ ⟨a, ha, rfl⟩ _ ⟨b, hb, rfl⟩ id clock
    exact (Member.imprint_eq_iff.mp imprint).2.2
  case own =>
    intro i
    have ⟨_, own⟩ := (custody i).coherent.own
    exact (View.stampOf_of_member? own :)
  case overtaken =>
    intro i host input u available hu
    refine ((sound.custody i host).reassertion? (sound.regular i) ?_ hu).not_overtaken
    exact fun p ⟨m, hm, e⟩ => ⟨m, available.mem_members hm, e⟩

-- Of two nodes one has started a cluster, and the other has yet to begin.
theorem owner_newest_of_two : ∃ σ₀ σ : Ensemble Bool, σ₀.Initial ∧ Reachable σ₀ σ ∧
    σ.changes true = 1 ∧ σ.changes false = 0 ∧
    ∀ i, ∀ m ∈ σ.members, m.id = (σ.node i).self.id → ¬m.Newer (σ.node i).self := by
  let config (id : String) : Config :=
    { node := { id := id, address := id ++ ":1" }, failure := { crossTimeout := some (.ofMillis 200) } }
  have create (id : String) (ne : ¬id = "") :
      ∃ n, Node.create (config id) 0 0 = .ok (some n) ∧ n.self.id = id := by
    refine ⟨_, (if_neg ne).trans rfl, rfl⟩
  have ⟨a, ha, ida⟩ := create "a" (by decide)
  have ⟨b, hb, idb⟩ := create "b" (by decide)
  let σ₀ : Ensemble Bool := ⟨(if · then a else b), fun _ => false, fun _ => 0, [], [], [], []⟩
  let host : Host := ⟨0, 0, ⟨[], []⟩, fun _ targets => targets, []⟩
  have initial : σ₀.Initial := by
    refine ⟨fun i => ?_, fun i j e => ?_, rfl, rfl, rfl, rfl, rfl, rfl⟩
    · cases i
      · exact ⟨_, _, _, hb⟩
      · exact ⟨_, _, _, ha⟩
    · cases i <;> cases j <;> simp_all [σ₀]
  let σ := σ₀.take true (Turn.startChanges ⟨host, a, []⟩) [] (a.start host)
  have reachable : Reachable σ₀ σ := .single (.start host [] rfl)
  have one : σ.changes true = 1 := rfl
  have zero : σ.changes false = 0 := rfl
  have few (i : Bool) : σ.changes i < 2 ^ 64 - 1 := by
    cases i
    · rw [zero]; decide
    · rw [one]; decide
  exact ⟨σ₀, σ, initial, reachable, one, zero, (owner_newest initial reachable few).2.1⟩

end Ensemble

end GossipCluster
