import GossipCluster.Proofs.Node.Recognition
import GossipCluster.Proofs.Node.Refusal

namespace GossipCluster

-- An input that lets a node into a cluster, with the attempt that it is good for.
inductive Input.Admits (view : View) : Phase → Input → Prop
  | outcome (attempt inFlight) : Admits view (.joining attempt inFlight) (.joinOutcome attempt (.ok view))
  | response {attempt inFlight e} : e.message = .joinResponse view →
      Admits view (.joining attempt inFlight) (.envelope e)

theorem Input.Admits.eq {view : View} {phase : Phase} {i : Input} (h : i.Admits view phase) :
    (∃ attempt, i = .joinOutcome attempt (.ok view)) ∨ ∃ e, i = .envelope e ∧ e.message = .joinResponse view := by
  cases h with
  | outcome attempt => exact .inl ⟨attempt, rfl⟩
  | response welcome => exact .inr ⟨_, rfl, welcome⟩

theorem Input.Admits.joining {view : View} {phase : Phase} {i : Input} (h : i.Admits view phase) :
    ∃ attempt inFlight, phase = .joining attempt inFlight := by
  cases h <;> exact ⟨_, _, rfl⟩

namespace Turn

-- Between two moments of a turn the node only says something and keeps its books.
structure Quiet (t u : Turn) : Prop extends Speaks Set.univ t u where
  timers : u.node.timers = t.node.timers

-- The way out of the cluster. Who is not in it has nobody to tell.
def depart (t : Turn) : Turn :=
  let t := t.setTimers .none
  ((if t.node.isUp then (t.setStatus .leaving).recordChange else t).setStatus .exiting).setPhase .exited

-- Members that have been silent for too long are suspected or forgotten.
def discard (t : Turn) (d : Detection) : Turn :=
  (t.setView (removeAll (suspectAll t.node.view d.suspect) d.remove)).recordChange

-- Who is let in is up from then on.
def enroll (t : Turn) (joiner : Member) : Turn :=
  (t.setView (t.node.view.add { joiner with status := .up, lastSeen := t.now })).recordChange

inductive Deed (t : Turn) : Input → Turn → Prop
  | nothing (i) : Deed t i t
  | beat (i) : t.node.isUp → Deed t i t.heartbeat
  | discard {d} : t.node.isUp →
      t.node.detector.detect? t.heartbeat.node.view t.node.self.id t.node.self.datacenter t.now = some d →
      Deed t (.tick .failureDetection) (t.heartbeat.discard d)
  | absorb {e incoming} : e.message = .gossip incoming → checkProtocol t.node incoming = .ok () → t.node.isUp →
      Deed t (.envelope e) ((t.attend e.sender incoming).1.learn incoming).1.reassert
  | recover {views} : t.node.isUp → Deed t (.recovered views)
      (({ t with node := { t.node with recovering := false } } : Turn).learnAll views).1.reassert
  | enroll {e joiner token} : e.message = .joinRequest joiner token →
      (t.checkAdmission joiner token).2 = .ok () → Deed t (.envelope e) (t.enroll joiner)
  | expel {e id token} : e.message = .forceDown id token → checkForceDown t.node id token = .ok () →
      Deed t (.envelope e) (t.setView (t.node.view.remove id)).recordChange
  | rewrite {e state} : e.message = .updateState state → checkUpdate t.node e.sender = .ok () →
      Deed t (.envelope e)
        ((t.become { t.node.self with state := state }).setStatus t.node.self.status).recordChange
  | retry {attempt} : t.node.phase = .joining attempt false →
      Deed t (.tick .joinRetry) (t.setPhase (.joining attempt true))
  | fail {i attempt inFlight delay} : t.node.phase = .joining attempt inFlight →
      Deed t i ((t.setPhase (.joining (Phase.nextAttempt attempt) false)).setTimers
        { t.node.timers with joinRetry := some delay })
  | enter {i view self} : i.Admits view t.node.phase → entrant t.node.self view t.now = .ok self →
      Deed t i ((((t.become self).learn view).1.setStatus .up).recordChange.enterUp)
  | depart {e} : e.message = .leaveRequest → t.node.phase ≠ .exited → Deed t (.envelope e) t.depart

variable {said : Set Message} {t u w : Turn} {e : Envelope} {m : Message} {v incoming : View}

section

variable {R : Turn → Turn → Prop} [IsPreorder Turn R]

theorem learnAll_of {views : List View} (learn : ∀ u, ∀ v ∈ views, R u (u.learn v).1) : R t (t.learnAll views).1 := by
  rw [learnAll]
  generalize false = changed
  induction views generalizing t changed with
  | nil => exact refl_of R t
  | cons v views ih =>
    have later u w (h : w ∈ views) : R u (u.learn w).1 := learn u w (List.mem_cons_of_mem v h)
    exact trans_of R (learn t v List.mem_cons_self) (ih later _)

theorem depart_of (idle : ∀ u, R u (u.setTimers .none)) (status : ∀ u s, R u (u.setStatus s))
    (change : ∀ u, R u u.recordChange) (exit : ∀ u, R u (u.setPhase .exited)) : R t t.depart := by
  have told : R (t.setTimers .none) (if (t.setTimers .none).node.isUp then
      ((t.setTimers .none).setStatus .leaving).recordChange else t.setTimers .none) := by
    split
    case isTrue => exact trans_of R (status _ .leaving) (change _)
    case isFalse => exact refl_of R _
  exact trans_of R (idle t) <| trans_of R told <| trans_of R (status _ .exiting) (exit _)

end

theorem timers_announceStatus : t.announceStatus.node.timers = t.node.timers := by
  simp only [announceStatus, announceQuorum, announceLeader, announceDatacenters, report]
  rw [node_foldl fun _ _ => node_emit, node_foldl fun _ _ => node_publish]
  simp

theorem timers_announce {before : View} : (t.announce before).node.timers = t.node.timers := by
  simp only [announce, timers_announceStatus]
  split <;> simp

theorem timers_grant {p : Turn × List Endpoint} {address : String} :
    (grant p address).1.node.timers = p.1.node.timers := by
  rw [grant]
  dsimp only
  split
  case isTrue => rfl
  case isFalse => simp

theorem timers_sendGossip {addresses : List String} : (t.sendGossip addresses).node.timers = t.node.timers := by
  have granted (p : Turn × List Endpoint) : (addresses.foldl grant p).1.node.timers = p.1.node.timers := by
    induction addresses generalizing p with
    | nil => rfl
    | cons a l ih => exact (ih _).trans timers_grant
  simp only [sendGossip, node_measure, node_send]
  exact granted (t, [])

namespace Quiet

theorem of_speaks (h : Speaks said t u) (timers : u.node.timers = t.node.timers) : Quiet t u :=
  ⟨{ h with effects := fun _ _ => .inr fun _ _ => trivial }, timers⟩

theorem refl (t : Turn) : Quiet t t := ⟨.refl .univ t, rfl⟩

theorem trans (a : Quiet t u) (b : Quiet u w) : Quiet t w := ⟨a.toSpeaks.trans b.toSpeaks, b.timers.trans a.timers⟩

theorem after (b : Quiet u w) (a : Quiet t u) : Quiet t w := a.trans b

theorem now (h : Quiet t u) : u.now = t.now := congrArg Host.now h.host

theorem books {n : Node} (config : n.config = t.node.config) (self : n.self = t.node.self)
    (view : n.view = t.node.view) (phase : n.phase = t.node.phase) (timers : n.timers = t.node.timers) :
    Quiet t { t with node := n } := ⟨.books config self view phase, timers⟩

theorem emit {x : Effect} : Quiet t (t.emit x) := ⟨.emit fun _ _ => trivial, rfl⟩

theorem publish {x : Option Event} : Quiet t (t.publish x) :=
  ⟨.publish, congrArg Node.timers node_publish⟩

theorem measure {s : Series} {count : ℕ} : Quiet t (t.measure s count) :=
  ⟨.measure, congrArg Node.timers node_measure⟩

theorem respond : Quiet t (t.respond e m) := ⟨.respond trivial, congrArg Node.timers node_respond⟩

theorem announce {before : View} : Quiet t (t.announce before) := ⟨speaks_announce, timers_announce⟩

theorem sendGossip {addresses : List String} : Quiet t (t.sendGossip addresses) :=
  of_speaks speaks_sendGossip timers_sendGossip

theorem broadcast {skip : Option String} : Quiet t (t.broadcast skip) := sendGossip

theorem setView (h : Quiet t u) : Quiet (t.setView v) (u.setView v) :=
  ⟨⟨h.host, h.config, h.self, rfl, h.phase, fun _ _ => .inr fun _ _ => trivial⟩, h.timers⟩

theorem setPhase (h : Quiet t u) {phase : Phase} : Quiet (t.setPhase phase) (u.setPhase phase) :=
  ⟨⟨h.host, h.config, h.self, h.view, rfl, fun _ _ => .inr fun _ _ => trivial⟩, h.timers⟩

theorem become (h : Quiet t u) {self : Member} : Quiet (t.become self) (u.become self) :=
  ⟨⟨h.host, h.config, rfl, h.view, h.phase, fun _ _ => .inr fun _ _ => trivial⟩, h.timers⟩

theorem setStatus (h : Quiet t u) {status : Status} : Quiet (t.setStatus status) (u.setStatus status) := by
  simp only [Turn.setStatus, Turn.setSelf, h.self, h.view, h.now]
  exact h.become.setView

theorem recordChange (h : Quiet t u) : Quiet t.recordChange u.recordChange := by
  simp only [Turn.recordChange, h.self, h.view, h.now]
  split
  case h_1 => exact h.setView
  case h_2 => exact h

theorem enterUp (h : Quiet t u) : Quiet t.enterUp u.enterUp :=
  ⟨⟨h.host, h.config, h.self, h.view, rfl, fun _ _ => .inr fun _ _ => trivial⟩, by
    have config : (u.setPhase .up).node.config = (t.setPhase .up).node.config := h.config
    rw [Turn.enterUp, Turn.enterUp, schedulePeriodic, schedulePeriodic, config]
    rfl⟩

end Quiet

theorem quiet_startRecovery : Quiet t t.startRecovery := by
  rw [Turn.startRecovery]
  dsimp only
  split
  case isTrue => exact .refl t
  case isFalse => exact .after .emit (.books rfl rfl rfl rfl rfl)

theorem quiet_conclude {changed revived : Bool} : Quiet t.reassert (t.conclude v changed revived) := by
  have told : Quiet t.reassert (if changed then t.reassert.broadcast else t.reassert) := by
    split
    case isTrue => exact .broadcast
    case isFalse => exact .refl _
  rw [Turn.conclude]
  split
  case isTrue => exact told.trans .announce
  case isFalse => exact told

theorem quiet_checkAdmission {joiner : Member} {token : String} : Quiet t (t.checkAdmission joiner token).1 := by
  rw [checkAdmission]
  split
  case h_1 => exact .refl t
  case h_2 =>
    dsimp only
    split <;> exact .books rfl rfl rfl rfl rfl

theorem quiet_enroll {joiner : Member} {token : String} (admitted : (t.checkAdmission joiner token).2 = .ok ()) :
    Quiet (t.enroll joiner) (t.receiveJoin e joiner token) := by
  have checked : Quiet t (t.checkAdmission joiner token).1 := quiet_checkAdmission
  rw [Turn.receiveJoin]
  split
  case h_1 hc => cases (congrArg Prod.snd hc).symm.trans admitted
  case h_2 hc =>
    rw [hc] at checked
    rw [welcome, checked.view, checked.now]
    exact checked.setView.recordChange.trans <| .trans .respond <| .trans .broadcast .announce

theorem quiet_applyDetection {d : Detection} (some : ¬d.isEmpty) : Quiet (t.discard d) (t.applyDetection d) := by
  rw [applyDetection, if_neg some]
  exact .trans (Quiet.recordChange .measure) <| .trans .broadcast .announce

theorem quiet_completeJoin {self : Member} :
    Quiet (((t.become self).learn v).1.setStatus .up).recordChange.enterUp (t.completeJoin self v) := by
  rw [completeJoin]
  exact .trans .broadcast .announce

theorem quiet_updateState {state : Dict String} :
    Quiet ((t.become { t.node.self with state := state }).setStatus t.node.self.status).recordChange
      (t.updateState state) := by
  rw [updateState]
  dsimp only
  split
  case isTrue => exact .trans .broadcast .announce
  case isFalse => exact .announce

theorem quiet_leave (present : t.node.phase ≠ .exited) : Quiet t.depart t.leave := by
  rw [leave, if_neg present]
  refine .trans ?_ <| .trans .announce .publish
  refine Quiet.setPhase <| Quiet.setStatus ?_
  rw [announceLeave]
  split
  case isTrue => exact .broadcast
  case isFalse => exact .refl _

variable (t) in
theorem forceDown_cases (id : String) : t.node.view.member? id = none ∧ t.forceDown id = t ∨
    Quiet (t.setView (t.node.view.remove id)).recordChange (t.forceDown id) := by
  rw [forceDown]
  split
  case h_1 unknown => exact .inl ⟨Option.map_eq_none_iff.mp unknown, rfl⟩
  case h_2 view hv =>
    have removed : view = t.node.view.remove id := by rw [View.remove, hv]; rfl
    subst removed
    exact .inr <| .trans (Quiet.recordChange .measure) <| .trans .broadcast .announce

-- Whoever is known is put out of the view, whatever phase the node is in.
theorem quiet_expel {id token : String} (h : e.message = .forceDown id token)
    (ok : checkForceDown t.node id token = .ok ()) (known : t.node.view.contains id) :
    Quiet (t.setView (t.node.view.remove id)).recordChange (t.run (.envelope e)) := by
  have told : Quiet (t.forceDown id) (t.run (.envelope e)) := by
    simp only [run, receive, h, ok, whenAllowed]
    exact .respond
  rcases t.forceDown_cases id with ⟨unknown, _⟩ | removed
  · obtain ⟨m, hm⟩ := View.contains_iff.mp known
    exact absurd (hm.symm.trans unknown) (Option.some_ne_none m)
  · exact removed.trans told

-- What a turn comes to: one deed, what is said about it and what is put down in the books.
def Does (t : Turn) (i : Input) (u : Turn) : Prop := ∃ done, Deed t i done ∧ Quiet done u

variable {i : Input}

namespace Does

theorem quiet (h : Does t i u) (q : Quiet u w) : Does t i w :=
  have ⟨done, deed, quiet⟩ := h
  ⟨done, deed, quiet.trans q⟩

theorem nothing (q : Quiet t u) : Does t i u := ⟨t, .nothing i, q⟩

theorem gossipRound (up : t.node.isUp) : Does t i t.gossipRound := by
  have kept : Quiet t.heartbeat t.heartbeat.retainPeers := .books rfl rfl rfl rfl rfl
  refine ⟨_, .beat i up, kept.trans ?_⟩
  rw [Turn.gossipRound]
  split
  case h_1 => exact .sendGossip
  case h_2 => exact .emit

theorem crossRound (up : t.node.isUp) : Does t i t.crossRound := ⟨_, .beat i up, .sendGossip⟩

theorem detectFailures (up : t.node.isUp) : Does t (.tick .failureDetection) t.detectFailures := by
  have beat : Does t (.tick .failureDetection) t.heartbeat := ⟨_, .beat _ up, .refl _⟩
  rw [Turn.detectFailures]
  dsimp only
  split
  case h_1 => exact beat.quiet .emit
  case h_2 d hd =>
    have applied : Does t (.tick .failureDetection) (t.heartbeat.applyDetection d) := by
      by_cases empty : d.isEmpty
      · rw [Turn.applyDetection, if_pos empty]
        exact beat
      · exact ⟨_, .discard up hd, quiet_applyDetection empty⟩
    split
    case isTrue => exact applied
    case isFalse => exact applied.quiet quiet_startRecovery

theorem retryJoin : Does t (.tick .joinRetry) t.retryJoin := by
  rw [Turn.retryJoin]
  split
  case h_1 joining => exact ⟨_, .retry joining, .emit⟩
  case h_2 => exact .nothing (.refl t)

theorem tick (k : Tick) : Does t (.tick k) (t.tick k) := by
  have whenUp {f : Turn → Turn} (does : t.node.isUp → Does t (.tick k) (f t)) :
      Does t (.tick k) (if t.node.isUp then f t else t) := by
    split
    case isTrue up => exact does up
    case isFalse => exact .nothing (.refl t)
  cases k with
  | gossip => exact whenUp .gossipRound
  | crossGossip => exact whenUp .crossRound
  | failureDetection => exact whenUp .detectFailures
  | joinRetry => exact .retryJoin

theorem receiveGossip (h : e.message = .gossip incoming) : Does t (.envelope e) (t.receiveGossip e incoming) := by
  rw [Turn.receiveGossip]
  split
  case h_1 =>
    split
    case isTrue => exact .nothing .emit
    case isFalse => exact .nothing (.refl t)
  case h_2 compatible =>
    split
    case isTrue up => exact ⟨_, .absorb h compatible up, quiet_conclude⟩
    case isFalse => exact .nothing (.refl t)

theorem receiveRecovered {views : List View} : Does t (.recovered views) (t.receiveRecovered views) := by
  rw [Turn.receiveRecovered]
  dsimp only
  split
  case isTrue => exact .nothing (.books rfl rfl rfl rfl rfl)
  case isFalse some =>
    have up : t.node.isUp := by simp_all [Node.isUp]
    exact ⟨_, .recover up, quiet_conclude⟩

theorem failJoin {attempt : ℕ} {inFlight : Bool} (joining : t.node.phase = .joining attempt inFlight) :
    Does t i (t.failJoin attempt) := by
  rw [Turn.failJoin]
  split
  case h_1 => exact .nothing .emit
  case h_2 => exact ⟨_, .fail joining, .refl _⟩

theorem settleJoin {attempt : ℕ} {inFlight : Bool} (joining : t.node.phase = .joining attempt inFlight)
    {result : Except Error View} (admits : ∀ view, result = .ok view → i.Admits view t.node.phase) :
    Does t i (t.settleJoin attempt result) := by
  cases result with
  | error => exact failJoin joining
  | ok view =>
    rw [Turn.settleJoin]
    split
    case h_1 => exact failJoin joining
    case h_2 self he => exact ⟨_, .enter (admits view rfl) he, quiet_completeJoin⟩

theorem receiveOutcome {attempt : ℕ} {result : Except Error View} :
    Does t (.joinOutcome attempt result) (t.receiveOutcome attempt result) := by
  rw [Turn.receiveOutcome]
  split
  case h_1 current inFlight joining =>
    split
    case isTrue same =>
      subst same
      refine settleJoin joining fun view ok => ?_
      rw [ok, joining]
      exact .outcome attempt inFlight
    case isFalse => exact .nothing (.refl t)
  case h_2 => exact .nothing (.refl t)

theorem receiveResponse (h : e.message = .joinResponse v) : Does t (.envelope e) (t.receiveResponse v) := by
  rw [Turn.receiveResponse]
  split
  case h_1 joining =>
    refine settleJoin joining fun view ok => ?_
    rw [joining, ← Except.ok.inj ok]
    exact .response h
  case h_2 => exact .nothing (.refl t)

theorem receiveJoin {joiner : Member} {token : String} (h : e.message = .joinRequest joiner token) :
    Does t (.envelope e) (t.receiveJoin e joiner token) := by
  cases admitted : (t.checkAdmission joiner token).2 with
  | ok => exact ⟨_, .enroll h admitted, quiet_enroll admitted⟩
  | error error =>
    rw [receiveJoin_of_refused admitted]
    exact .nothing <| quiet_checkAdmission.trans <| .trans .measure .respond

theorem leave (h : e.message = .leaveRequest) : Does t (.envelope e) t.leave := by
  by_cases exited : t.node.phase = .exited
  · rw [Turn.leave, if_pos exited]
    exact .nothing (.refl t)
  · exact ⟨_, .depart h exited, quiet_leave exited⟩

theorem whenAllowed {check : Except Error Unit} {f : Turn → Turn}
    (ok : check = .ok () → Does t (.envelope e) (f t)) : Does t (.envelope e) (t.whenAllowed e check f) := by
  cases check with
  | ok => exact (ok rfl).quiet .respond
  | error => exact .nothing .respond

theorem forceDown {id token : String} (h : e.message = .forceDown id token)
    (ok : checkForceDown t.node id token = .ok ()) : Does t (.envelope e) (t.forceDown id) := by
  rcases t.forceDown_cases id with ⟨_, same⟩ | expelled
  · rw [same]
    exact .nothing (.refl t)
  · exact ⟨_, .expel h ok, expelled⟩

theorem updateState {state : Dict String} (h : e.message = .updateState state)
    (ok : checkUpdate t.node e.sender = .ok ()) : Does t (.envelope e) (t.updateState state) :=
  ⟨_, .rewrite h ok, quiet_updateState⟩

theorem triggerBroadcast : Does t i t.triggerBroadcast := by
  rw [Turn.triggerBroadcast]
  split
  case isTrue up => exact ⟨_, .beat i up, .broadcast⟩
  case isFalse => exact .nothing (.refl t)

theorem receive : Does t (.envelope e) (t.receive e) := by
  obtain ⟨sender, message, expectsReply⟩ := e
  cases message with
  | joinRequest => exact .receiveJoin rfl
  | joinResponse => exact .receiveResponse rfl
  | gossip => exact .receiveGossip rfl
  | viewRequest => exact .nothing .respond
  | leaveRequest => exact (Does.leave rfl).quiet .respond
  | forceDown => exact whenAllowed (f := (·.forceDown _)) (.forceDown rfl)
  | triggerBroadcast => exact whenAllowed (f := (·.triggerBroadcast)) fun _ => .triggerBroadcast
  | updateState => exact whenAllowed (f := (·.updateState _)) (.updateState rfl)
  | viewResponse | leaveAck | adminAck | rejected | user => exact .nothing (.refl t)

theorem run : Does t i (t.run i) := by
  cases i with
  | tick k => exact .tick k
  | joinOutcome attempt result => exact .receiveOutcome
  | recovered views => exact .receiveRecovered
  | envelope e => exact .receive

end Does

-- A node starts by founding a cluster, if it is to do so, or else with its first attempt to join one.
def opening (t : Turn) : Turn :=
  if t.host.seeds.isBootstrap t.node.address then (t.setStatus .up).recordChange.enterUp
  else t.setPhase (.joining 0 true)

theorem quiet_start : Quiet t.opening t.start := by
  have same : Quiet t t.announceStatus := ⟨speaks_announceStatus, timers_announceStatus⟩
  have address : t.announceStatus.node.address = t.node.address := congrArg Member.address same.self
  rw [opening, start, same.host, address]
  split
  case isTrue =>
    rw [bootstrap]
    exact same.setStatus.recordChange.enterUp.trans .announce
  case isFalse => exact same.setPhase.trans .emit

end Turn

end GossipCluster
