import GossipCluster.Proofs.Node.Counting
import GossipCluster.Proofs.Node.Joining

namespace GossipCluster

namespace Node

-- What may become of a node while it waits to be let in. It counts its changes, but is no other incarnation for
-- that, hears of nobody else, and its view does not get ahead of it.
structure Lingers (n m : Node) : Prop where
  id         : m.self.id = n.self.id
  generation : m.self.generation = n.self.generation
  clock      : n.self.clock ≤ m.self.clock
  strangers  : ∀ id, id ≠ n.self.id → n.view.member? id = none → m.view.member? id = none
  own        : n.view.stampOf n.self.id ≤ n.self.stamp → m.view.stampOf n.self.id ≤ m.self.stamp

-- A node that has not been in a cluster yet.
structure Outside (n : Node) : Prop where
  lasting   : n.self.generation ≠ Counter.last
  strangers : ∀ id, id ≠ n.self.id → n.view.member? id = none
  own       : n.view.stampOf n.self.id ≤ n.self.stamp

-- After an attempt that has failed nothing has changed but that the next one is due.
def Retries (n : Node) (host : Host) (attempt : ℕ) (result : Node × List Effect) : Prop :=
  ∃ delay, (n.config.join.backoff.delay? attempt host.words).1 = some delay ∧
    result = ({ n with
      phase  := .joining (Phase.nextAttempt attempt) false
      timers := { n.timers with joinRetry := some delay } }, [])

-- The node has been let in with a view, and is `m` then.
structure Enters (n : Node) (view : View) (m : Node) : Prop where
  phase    : m.phase = .up
  status   : m.self.status = .up
  id       : m.self.id = n.self.id
  newer    : m.self.Newer n.self
  prior    : ∀ prior, view.member? n.self.id = some prior → m.self.Newer prior
  own      : m.view.member? n.self.id = some m.self
  staying  : ∀ theirs ∈ view.members.rows, theirs.id ≠ n.self.id → ¬theirs.isDeparting →
    ∃ ours, m.view.member? theirs.id = some ours ∧ ¬theirs.Newer ours
  departed : ∀ theirs ∈ view.members.rows, theirs.id ≠ n.self.id → theirs.isDeparting →
    ¬m.view.contains theirs.id

namespace Lingers

variable {n m k : Node}

theorem of_self (self : m.self = n.self) (own : m.view.member? n.self.id = n.view.member? n.self.id)
    (strangers : ∀ id, id ≠ n.self.id → n.view.member? id = none → m.view.member? id = none) : n.Lingers m where
  id         := congrArg Member.id self
  generation := congrArg Member.generation self
  clock      := self ▸ UInt64.le_refl _
  strangers  := strangers
  own        := fun le => by rwa [self, View.stampOf_of_member?_eq own]

theorem of_same (self : m.self = n.self) (view : m.view = n.view) : n.Lingers m :=
  of_self self (by rw [view]) fun _ _ unknown => by rwa [view]

theorem trans (a : n.Lingers m) (b : m.Lingers k) : n.Lingers k where
  id         := b.id.trans a.id
  generation := b.generation.trans a.generation
  clock      := UInt64.le_trans a.clock b.clock
  strangers  := fun id ne unknown => b.strangers id (a.id ▸ ne) (a.strangers id ne unknown)
  own        := fun le => a.id ▸ b.own (a.id ▸ a.own le)

theorem outside (h : n.Lingers m) (outside : n.Outside) : m.Outside where
  lasting   := h.generation ▸ outside.lasting
  strangers := fun id ne => h.strangers id (h.id ▸ ne) (outside.strangers id (h.id ▸ ne))
  own       := h.id ▸ h.own outside.own

end Lingers

end Node

namespace Turn

variable {t u : Turn} {i : Input} {attempt number : ℕ} {inFlight waiting : Bool} {m : Member} {view : View}

theorem lingers_recordChange : t.node.Lingers t.recordChange.node :=
  .of_self self_recordChange member?_recordChange fun _ _ unknown => member?_recordChange.trans unknown

theorem lingers_remove {id : String} (ne : id ≠ t.node.self.id) :
    t.node.Lingers (t.setView (t.node.view.remove id)).node := by
  refine .of_self rfl (View.member?_remove.trans (if_neg ne.symm)) fun other _ unknown => ?_
  refine View.member?_remove.trans ?_
  rw [unknown, ite_self]

theorem lingers_setStatus {status : Status} : t.node.Lingers (t.setStatus status).node where
  id         := rfl
  generation := rfl
  clock      := Counter.le_next t.node.self.clock
  strangers  := fun id ne unknown => View.member?_add.trans <| (if_neg fun h => ne h.1.symm).trans unknown
  own        := fun le => by
    have counted : t.node.self.stamp ≤ (t.setStatus status).node.self.stamp := Member.stamp_le_advance
    exact View.stampOf_add_le.trans <| max_le (le.trans <| WithBot.coe_le_coe.mpr counted) le_rfl

theorem Deed.lingers (deed : Deed t i u) (joining : t.node.phase = .joining attempt inFlight)
    (waits : u.node.phase = .joining number waiting) : t.node.Lingers u.node := by
  have down : t.node.isUp = false := by simp [Node.isUp, joining]
  cases deed with
  | nothing => exact .of_same rfl rfl
  | beat _ up | discard up | absorb _ _ up | recover up => cases down.symm.trans up
  | @enroll _ joiner token _ admitted =>
    obtain ⟨_, refused⟩ := not_admitted_of_not_up joiner token down
    cases refused.symm.trans admitted
  | expel _ allowed => exact (lingers_remove (ne_of_checkForceDown allowed)).trans lingers_recordChange
  | @rewrite _ state =>
    have rewritten : t.node.Lingers (t.become { t.node.self with state := state }).node :=
      ⟨rfl, rfl, UInt64.le_refl _, fun _ _ unknown => unknown, fun le => le⟩
    exact rewritten.trans <| lingers_setStatus.trans lingers_recordChange
  | retry | fail => exact .of_same rfl rfl
  | enter => cases waits
  | depart => cases waits

theorem lingers_run (joining : t.node.phase = .joining attempt inFlight)
    (waits : (t.run i).node.phase = .joining number waiting) : t.node.Lingers (t.run i).node := by
  obtain ⟨done, deed, quiet⟩ : Does t i (t.run i) := .run
  exact (deed.lingers joining (quiet.phase.symm.trans waits)).trans (.of_same quiet.self quiet.view)

theorem lingers_start (waits : t.start.node.phase = .joining number waiting) : t.node.Lingers t.start.node := by
  have opened : t.node.Lingers t.opening.node := by
    have phase : t.opening.node.phase = .joining number waiting := quiet_start.phase.symm.trans waits
    rw [opening] at phase ⊢
    split at phase
    case isTrue => cases phase
    case isFalse joins => exact .of_same (by rw [if_neg joins]; rfl) (by rw [if_neg joins]; rfl)
  exact opened.trans (.of_same quiet_start.self quiet_start.view)

theorem le_stampOf_learn {id : String} (ne : id ≠ t.node.self.id)
    (stays : ¬∃ d, view.member? id = some d ∧ d.isDeparting) :
    view.stampOf id ≤ (t.learn view).1.node.view.stampOf id := by
  have ⟨options, now, merged, _⟩ := learn_eq t view
  have kept : (removeAll view ((departing t.node view).map Member.id)).member? id = view.member? id :=
    View.member?_removeAll.trans <| if_neg (mt (mem_departing_iff ne).mp stays)
  rw [merged, View.stampOf_merge, View.stampOf_of_member?_eq kept]
  exact le_max_right ..

-- The node as it is once it has been let in.
def arrived (self : Member) (now : Timestamp) : Member :=
  { self.advance now with status := .up, lastSeen := now }

theorem stamp_lt_arrived (now : Timestamp) (entered : entrant t.node.self view t.now = .ok m)
    (room : t.node.self.clock ≠ Counter.last) :
    t.node.self.stamp < (arrived m now).stamp ∧ view.stampOf t.node.self.id < (arrived m now).stamp := by
  have advanced : m.stamp ≤ (arrived m now).stamp := Member.stamp_le_advance (a := m)
  rcases entrant_cases entered with same | ⟨twin, known, superseded⟩
  · have few : m.clock.toNat < 2 ^ 64 - 1 := by
      have ne : m.clock.toNat ≠ 2 ^ 64 - 1 := fun e => room <| same ▸ UInt64.toNat_inj.mp e
      have := m.clock.toNat_lt
      omega
    have counted : m.stamp < (arrived m now).stamp :=
      Member.stamp_lt_of_clock rfl (Member.clock_advance now few ▸ Nat.lt_succ_self _)
    exact ⟨same ▸ counted, (stampOf_le_entrant entered).trans_lt (WithBot.coe_lt_coe.mpr counted)⟩
  · have ⟨older, prior⟩ := Member.stamp_lt_supersede superseded
    rw [View.stampOf_of_member? known, WithBot.coe_lt_coe]
    exact ⟨older.trans_le advanced, prior.trans_le advanced⟩

theorem self_arrive : (t.setStatus .up).node.self = arrived t.node.self t.now := rfl

theorem view_arrive : (t.setStatus .up).node.view = t.node.view.add (arrived t.node.self t.now) := rfl

theorem self_enterUp : t.enterUp.node.self = t.node.self := rfl

theorem view_enterUp : t.enterUp.node.view = t.node.view := rfl

theorem completeJoin_eq (t : Turn) (m : Member) (view : View) : ∃ now,
    (t.completeJoin m view).node.self = arrived m now ∧
    ∀ id, (t.completeJoin m view).node.view.member? id =
      (((t.become m).learn view).1.node.view.add (arrived m now)).member? id := by
  have self : ((t.become m).learn view).1.node.self = m := self_learn
  refine ⟨((t.become m).learn view).1.now, ?_, fun id => ?_⟩
  · rw [quiet_completeJoin.self, self_enterUp, self_recordChange, self_arrive, self]
  · rw [quiet_completeJoin.view, view_enterUp, member?_recordChange, view_arrive, self]

theorem enters_of_entrant (outside : t.node.Outside) (room : t.node.self.clock ≠ Counter.last)
    (admits : i.Admits view t.node.phase) (entered : entrant t.node.self view t.now = .ok m) :
    t.node.Enters view (t.run i).node := by
  obtain ⟨now, self, held⟩ := t.completeJoin_eq m view
  have ⟨same, _⟩ := entrant_stamp_le entered
  have ⟨newer, past⟩ := stamp_lt_arrived now entered room
  have arrived_id : (arrived m now).id = t.node.self.id := same
  have other {id} (ne : id ≠ t.node.self.id) : (t.completeJoin m view).node.view.member? id =
      ((t.become m).learn view).1.node.view.member? id :=
    (held id).trans <| View.member?_add.trans <| if_neg fun h => ne (h.1.symm.trans arrived_id)
  rw [run_of_admits admits entered]
  constructor
  case phase => exact phase_completeJoin
  case status => rw [self, arrived]
  case id => rw [self, arrived_id]
  case newer =>
    rw [self]
    exact (Member.newer_iff arrived_id).mpr newer
  case prior =>
    intro prior known
    rw [View.stampOf_of_member? known, WithBot.coe_lt_coe] at past
    rw [self]
    exact (Member.newer_iff (arrived_id.trans (View.member?_id known).symm)).mpr past
  case own =>
    have learned : ((t.become m).learn view).1.node.view.stampOf t.node.self.id =
        max (t.node.view.stampOf t.node.self.id) (view.stampOf t.node.self.id) := same ▸ stampOf_learn
    have ahead : ((t.become m).learn view).1.node.view.stampOf t.node.self.id < (arrived m now).stamp := by
      rw [learned]
      exact max_lt (outside.own.trans_lt (WithBot.coe_lt_coe.mpr newer)) past
    rw [held, self]
    exact View.member?_add_of_lt arrived_id ahead
  case staying =>
    intro theirs mem ne stays
    have known : view.member? theirs.id = some theirs := View.member?_eq_some_iff.mpr ⟨mem, rfl⟩
    have learned : view.stampOf theirs.id ≤ ((t.become m).learn view).1.node.view.stampOf theirs.id := by
      refine le_stampOf_learn (t := t.become m) (same ▸ ne) ?_
      rintro ⟨d, hd, departs⟩
      exact stays (Option.some_inj.mp (known.symm.trans hd) ▸ departs)
    rw [other ne]
    rw [View.stampOf_of_member? known] at learned
    cases found : ((t.become m).learn view).1.node.view.member? theirs.id with
    | none =>
      rw [View.stampOf_eq_bot_iff.mpr found] at learned
      exact absurd learned (WithBot.not_coe_le_bot _)
    | some ours =>
      rw [View.stampOf_of_member? found, WithBot.coe_le_coe] at learned
      exact ⟨ours, rfl, (Member.not_newer_iff (View.member?_id found).symm).mpr learned⟩
  case departed =>
    intro theirs mem ne departs
    have known : view.member? theirs.id = some theirs := View.member?_eq_some_iff.mpr ⟨mem, rfl⟩
    rw [View.contains_iff, other ne, ← View.contains_iff, contains_learn_iff (same ▸ ne)]
    rintro (⟨met, _⟩ | ⟨d, hd, stays⟩)
    · obtain ⟨ours, met⟩ := View.contains_iff.mp met
      exact Option.some_ne_none ours (met.symm.trans (outside.strangers _ ne))
    · exact stays (Option.some_inj.mp (known.symm.trans hd) ▸ departs)

end Turn

namespace Node

variable {n : Node} {hs : List Happening} {x : Happening} {attempt number : ℕ} {inFlight waiting : Bool}

-- Who waits now has waited before.
theorem lingers_meet (waits : (n.meet x).phase = .joining number waiting) :
    (∃ attempt inFlight, n.phase = .joining attempt inFlight) ∧ n.Lingers (n.meet x) := by
  cases x with
  | fired => exact ⟨⟨_, _, waits⟩, .of_same rfl rfl⟩
  | input host i =>
    have does : Turn.Does ⟨host, n, []⟩ i (Turn.run ⟨host, n, []⟩ i) := .run
    obtain ⟨attempt, inFlight, joining⟩ := does.joining waits
    exact ⟨⟨attempt, inFlight, joining⟩, Turn.lingers_run (t := ⟨host, n, []⟩) joining waits⟩

theorem lingers_live (waits : (n.live hs).phase = .joining number waiting) :
    (∃ attempt inFlight, n.phase = .joining attempt inFlight) ∧ n.Lingers (n.live hs) := by
  induction hs using List.reverseRecOn generalizing number waiting with
  | nil => exact ⟨⟨_, _, waits⟩, .of_same rfl rfl⟩
  | append_singleton hs x ih =>
    rw [live_concat] at waits ⊢
    have ⟨⟨_, _, joining⟩, lingers⟩ := lingers_meet waits
    have ⟨first, lingered⟩ := ih joining
    exact ⟨first, lingered.trans lingers⟩

theorem lingers_of_start {host : Host}
    (waits : ((n.start host).1.live hs).phase = .joining number waiting) : n.Lingers ((n.start host).1.live hs) := by
  have ⟨⟨_, _, started⟩, later⟩ := lingers_live waits
  rw [start_eq] at started
  have first : n.Lingers (n.start host).1 := start_eq ▸ Turn.lingers_start (t := ⟨host, n, []⟩) started
  exact first.trans later

theorem generation_of_create {config : Config} {now : Timestamp} {instant : Instant}
    (h : Node.create config now instant = .ok (some n)) : n.self.generation = 1 := by
  simp only [create, bind, Except.bind] at h
  repeat' split at h
  all_goals cases h
  all_goals rfl

theorem outside_of_create {config : Config} {now : Timestamp} {instant : Instant}
    (created : Node.create config now instant = .ok (some n)) : n.Outside where
  lasting   := generation_of_create created ▸ by decide
  strangers := by
    intro id ne
    by_contra known
    obtain ⟨m, known⟩ := Option.ne_none_iff_exists'.mp known
    have ⟨mem, same⟩ := View.member?_eq_some_iff.mp known
    rw [(fresh_of_create created).members, List.mem_singleton] at mem
    exact ne (mem ▸ same.symm)
  own       := (Turn.stampOf_self (fresh_of_create created).findsItself).le

-- It makes no difference that a node may have changed since it has sent something of itself.
theorem barred_iff {sender : Node} (sent : sender.Lingers n) (outside : n.Outside)
    (room : n.self.clock ≠ Counter.last) (view : View) : n.Barred sender.self view ↔ n.Barred n.self view := by
  have differs {a prior : Member} (lasting : ¬a.Spent) (spent : prior.Spent) : prior.stamp ≠ a.stamp := by
    intro same
    obtain ⟨generation, clock, _⟩ := Member.stamp_eq_iff.mp same
    rw [Member.Spent, generation, clock] at spent
    exact lasting spent
  have now_lasting : ¬n.self.Spent := not_or.mpr ⟨outside.lasting, room⟩
  have then_lasting : ¬sender.self.Spent := by
    refine not_or.mpr ⟨sent.generation ▸ outside.lasting, fun full => room ?_⟩
    exact UInt64.le_antisymm (Counter.le_last n.self.clock) (full ▸ sent.clock)
  refine exists_congr fun prior => and_congr_right fun _ => ?_
  simp only [Counter.max_eq_last_iff, outside.lasting, room, false_or]
  constructor
  case mp => exact fun ⟨_, recent, spent⟩ => ⟨differs now_lasting spent, recent, spent⟩
  case mpr => exact fun ⟨_, recent, spent⟩ => ⟨differs then_lasting spent, recent, spent⟩

theorem retries_of_fails {host : Host} {i : Input} (joining : n.phase = .joining attempt inFlight)
    (fails : n.Fails attempt i) (told : ¬n.config.join.backoff.Overdrawn attempt (host.words.headD 0)) :
    n.Retries host attempt (n.step host i) := by
  obtain ⟨delay, known, later⟩ := Turn.failJoin_of_not_overdrawn (t := ⟨host, n, []⟩) told
  refine ⟨delay, known, ?_⟩
  simp only [step, Turn.run_of_fails (t := ⟨host, n, []⟩) joining fails, later]
  rfl

-- What a node has sent with its attempt is what it was at some time before. Where it is barred it tries again, but for
-- a delay that is no span of time: then it halts.
theorem enters_unless_barred {config : Config} {now : Timestamp} {instant : Instant} (host : Host)
    (created : Node.create config now instant = .ok (some n)) (before later : List Happening) :
    let sender := (n.start host).1.live before
    let m := sender.live later
    ∀ {i : Input} {view : View} (host' : Host), m.phase = .joining attempt inFlight → m.self.clock ≠ Counter.last →
      i.Admits view m.phase →
      (¬m.Barred sender.self view → m.Enters view (m.step host' i).1) ∧
      (m.Barred sender.self view →
        ¬m.config.join.backoff.Overdrawn attempt (host'.words.headD 0) → m.Retries host' attempt (m.step host' i)) ∧
      (m.Barred sender.self view →
        m.config.join.backoff.Overdrawn attempt (host'.words.headD 0) → m.step host' i = (m, [.halt])) := by
  intro sender m i view host' joining room admits
  have sent : sender.Lingers m := (lingers_live joining).2
  have whole : m = (n.start host).1.live (before ++ later) := (List.foldl_append ..).symm
  have waited : n.Lingers m := whole ▸ lingers_of_start (whole ▸ joining)
  have outside : m.Outside := waited.outside (outside_of_create created)
  have barred := barred_iff sent outside room view
  refine ⟨fun free => ?_, fun blocked told => ?_, fun blocked overdrawn => ?_⟩
  · cases entered : Turn.entrant m.self view host'.now with
    | error e =>
      have blocked := (Turn.entrant_eq_error_iff_barred (t := ⟨host', m, []⟩)).mp ⟨e, entered⟩
      exact absurd (barred.mpr blocked) free
    | ok self => exact Turn.enters_of_entrant (t := ⟨host', m, []⟩) outside room admits entered
  · exact retries_of_fails joining (.barred admits (barred.mp blocked)) told
  · exact step_of_overdrawn joining (.barred admits (barred.mp blocked)) overdrawn

-- The node has changed since it has sent something of itself. One seed knows the last incarnation of it that there
-- can be, the other one the incarnation that has been sent, and that somebody leaves.
theorem enters_unless_barred_changed : ∃ (n : Node) (host : Host) (x : Happening) (sender m : Node) (last first : View),
    (n.start host).1.live [] = sender ∧ sender.live [x] = m ∧ m.config.validate = .ok () ∧
      m.self.clock ≠ sender.self.clock ∧ m.Barred sender.self last ∧ ¬m.Barred sender.self first ∧
      m.step host (.joinOutcome 0 (.ok last)) = ({ m with
        phase  := .joining 1 false
        timers := { m.timers with joinRetry := some (.ofMillis 400) } }, []) ∧
      m.Enters first (m.step host (.joinOutcome 0 (.ok first))).1 ∧ first.contains "b" ∧
      ¬(m.step host (.joinOutcome 0 (.ok first))).1.view.contains "b" := by
  let config : Config :=
    { node := { id := "a", address := "a:1" }, failure := { crossTimeout := some (.ofMillis 200) } }
  let host : Host := ⟨0, 0, ⟨[⟨"s:1", none⟩], []⟩, fun _ targets => targets, []⟩
  let x : Happening := .input host (.envelope ⟨some (.node "a:1"), .updateState ∅, false⟩)
  let twin : Member := Member.starting "a" "meshwork" "a:1" 0
  let leaver : Member := { Member.starting "b" "meshwork" "b:1" 0 with status := .leaving }
  let last := (View.new "" 0 0).add { twin with generation := Counter.last }
  let first := ((View.new "" 0 0).add twin).add leaver
  have told : leaver ∈ first.members.rows ∧ leaver.isDeparting ∧ leaver.id = "b" ∧ first.contains "b" := by
    decide +kernel
  have ⟨n, created, joining, valid, changed, room, barred, free, delay, other⟩ : ∃ n,
      Node.create config 0 0 = .ok (some n) ∧
      let sender := (n.start host).1.live []
      let m := sender.live [x]
      m.phase = .joining 0 true ∧ m.config.validate = .ok () ∧
      m.self.clock ≠ sender.self.clock ∧ m.self.clock ≠ Counter.last ∧
      m.Barred sender.self last ∧ ¬m.Barred sender.self first ∧
      (m.config.join.backoff.delay? 0 host.words).1 = some (.ofMillis 400) ∧ leaver.id ≠ m.self.id :=
    ⟨_, rfl, by decide +kernel⟩
  clear_value config host x leaver last first
  have admits (view : View) :
      (Input.joinOutcome 0 (.ok view)).Admits view (((n.start host).1.live []).live [x]).phase := by
    rw [joining]
    exact .outcome 0 true
  have attempt (view : View) := enters_unless_barred host created [] [x] host joining room (admits view)
  generalize hm : ((n.start host).1.live []).live [x] = m at *
  generalize hs : (n.start host).1.live [] = sender at *
  have representable : ¬m.config.join.backoff.Overdrawn 0 (host.words.headD 0) := fun overdrawn => by
    rw [Backoff.delay?_eq_none_iff.mpr overdrawn] at delay
    exact nomatch delay
  have retries : m.step host (.joinOutcome 0 (.ok last)) = ({ m with
      phase  := .joining 1 false
      timers := { m.timers with joinRetry := some (.ofMillis 400) } }, []) := by
    obtain ⟨_, known, result⟩ := (attempt last).2.1 barred representable
    obtain rfl := Option.some_inj.mp (known.symm.trans delay)
    exact result
  have enters := (attempt first).1 free
  have gone := enters.departed leaver told.1 other told.2.1
  rw [told.2.2.1] at gone
  exact ⟨n, host, x, sender, m, last, first, hs, hm, valid, changed, barred, free, retries, enters, told.2.2.2, gone⟩

-- The longest delay does not bear to be spread. A node that a seed has barred halts there: it is still in the attempt that
-- has failed, and no other one is due.
theorem halts_at_longest : ∃ (config : Config) (n : Node) (host : Host) (last : View),
    config.validate = .ok () ∧ config.join.retryInitial = .ofSeconds (2 ^ 64 - 1) ∧ config.join.retryJitter ∧
      Node.create config 0 0 = .ok (some n) ∧
      let m := (n.start host).1.live []
      m.phase = .joining 0 true ∧ m.timers.joinRetry = none ∧ m.self.clock ≠ Counter.last ∧ m.Barred m.self last ∧
      m.step host (.joinOutcome 0 (.ok last)) = (m, [.halt]) ∧
      ¬m.Retries host 0 (m.step host (.joinOutcome 0 (.ok last))) := by
  let config : Config := {
    node := { id := "a", address := "a:1" }
    failure := { crossTimeout := some (.ofMillis 200) }
    join := { retryInitial := .ofSeconds (2 ^ 64 - 1), retryMax := .ofSeconds (2 ^ 64 - 1) } }
  let host : Host := ⟨0, 0, ⟨[⟨"s:1", none⟩], []⟩, fun _ targets => targets, [2 ^ 64 - 1]⟩
  let last := (View.new "" 0 0).add { Member.starting "a" "meshwork" "a:1" 0 with generation := Counter.last }
  have valid : config.validate = .ok () := by decide +kernel
  have ⟨n, created, joining, idle, room, barred, overflow⟩ : ∃ n, Node.create config 0 0 = .ok (some n) ∧
      let m := (n.start host).1.live []
      m.phase = .joining 0 true ∧ m.timers.joinRetry = none ∧ m.self.clock ≠ Counter.last ∧ m.Barred m.self last ∧
      (m.config.join.backoff.delay? 0 host.words).1 = none := ⟨_, rfl, by decide +kernel⟩
  have admits : (Input.joinOutcome 0 (.ok last)).Admits last ((n.start host).1.live []).phase := by
    rw [joining]
    exact .outcome 0 true
  have halts := step_of_overdrawn joining (.barred admits barred) (Backoff.delay?_eq_none_iff.mp overflow)
  refine ⟨config, n, host, last, valid, rfl, rfl, created, joining, idle, room, barred, halts, ?_⟩
  rintro ⟨delay, known, _⟩
  exact nomatch known.symm.trans overflow

end Node

end GossipCluster
