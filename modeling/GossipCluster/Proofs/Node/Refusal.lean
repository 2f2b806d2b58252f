import GossipCluster.Proofs.Node.Speech

namespace GossipCluster

-- Whom a node may let in, as far as the joiner itself goes.
structure Node.Accredits (n : Node) (joiner : Member) (token : String) : Prop where
  cluster    : joiner.cluster = n.config.clusterName
  status     : joiner.status = .joining
  named      : joiner.id ≠ ""
  located    : joiner.address ≠ ""
  short      : joiner.address.utf8ByteSize ≤ Member.maxAddressBytes
  token      : Token.acceptsJoin (n.config.security.joinSecret.getD "") n.config.clusterName
                 joiner.id joiner.address token
  address    : n.allowedAddresses.allows joiner.address
  datacenter : (DatacenterAllowlist.new n.config.security.allowedDatacenters).allows joiner.datacenter

namespace Envelope

-- An answer goes to who waits for it, or else to the sender.
def answers (e : Envelope) (m : Message) : List Effect :=
  match e.expectsReply, e.sender with
  | true, _ => [.reply m]
  | false, some sender => [.send [sender] m]
  | false, none => []

-- All that a node does about a request that it refuses.
def refusal (e : Envelope) (error : Error) : List Effect :=
  match e.message with
  | .joinRequest .. => .measure ⟨.joinRejected (Turn.rejectReason error), 1⟩ :: e.answers (.ofError error)
  | .gossip _ => if e.expectsReply then [.reply (.ofError error)] else []
  | _ => e.answers (.ofError error)

variable {e : Envelope} {m : Message} {x : Effect} {error : Error}

theorem mem_answers (h : x ∈ e.answers m) : x = .reply m ∨ ∃ sender, x = .send [sender] m := by
  rw [answers] at h
  split at h
  case h_1 => exact .inl (List.mem_singleton.mp h)
  case h_2 sender _ _ => exact .inr ⟨sender, List.mem_singleton.mp h⟩
  case h_3 => exact nomatch h

theorem mem_refusal (h : x ∈ e.refusal error) :
    (∃ c, x = .measure c) ∨ x = .reply (.ofError error) ∨ ∃ sender, x = .send [sender] (.ofError error) := by
  rw [refusal] at h
  split at h
  case h_1 =>
    cases h
    case head => exact .inl ⟨_, rfl⟩
    case tail h => exact .inr (mem_answers h)
  case h_2 =>
    split at h
    case isTrue => exact .inr <| .inl (List.mem_singleton.mp h)
    case isFalse => exact nomatch h
  case h_3 => exact .inr (mem_answers h)

end Envelope

namespace Turn

-- How the handling of an envelope ends. What is no request is never refused.
def verdict (t : Turn) (e : Envelope) : Except Error Unit :=
  match e.message with
  | .joinRequest joiner token => (t.checkAdmission joiner token).2
  | .gossip incoming => checkProtocol t.node incoming
  | .forceDown id token => checkForceDown t.node id token
  | .triggerBroadcast token => checkAdmin t.node "trigger_view_broadcast" token
  | .updateState _ => checkUpdate t.node e.sender
  | _ => .ok ()

def setLimiter (t : Turn) (limiter : JoinLimiter Float) : Turn :=
  { t with node := { t.node with joinLimiter := limiter } }

variable {t : Turn} {e : Envelope} {error : Error} {joiner : Member} {token : String}

theorem respond_eq {m : Message} : t.respond e m = { t with effects := t.effects ++ e.answers m } := by
  obtain ⟨sender, _, expectsReply⟩ := e
  cases expectsReply with
  | true => rfl
  | false => cases sender <;> simp [respond, Envelope.answers, send, emit]

theorem whenAllowed_error {f : Turn → Turn} : t.whenAllowed e (.error error) f =
    { t with effects := t.effects ++ e.answers (.ofError error) } := respond_eq

-- A check that comes before others.
theorem ite_error_eq_ok_iff {c : Prop} [Decidable c] {rest : Except Error Unit} :
    (if c then .error error else rest) = .ok () ↔ ¬c ∧ rest = .ok () := by
  split <;> simp_all

theorem checkIdentity_eq_ok_iff {n : Node} : checkIdentity n joiner token = .ok () ↔ n.Accredits joiner token := by
  simp only [checkIdentity, ite_error_eq_ok_iff]
  constructor
  case mp =>
    intro ⟨cluster, status, formed, proven, address, datacenter, _⟩
    simp only [isMalformed, Bool.or_eq_true, decide_eq_true_eq, not_or] at formed
    constructor <;> simp_all
  case mpr =>
    intro ⟨cluster, status, named, located, short, proven, address, datacenter⟩
    simp_all [isMalformed]

-- The limits on joins are asked once a joiner has proved who it is, and not before.
theorem checkAdmission_fst (t : Turn) (joiner : Member) (token : String) : ∃ limiter,
    (t.checkAdmission joiner token).1 = t.setLimiter limiter ∧
    (limiter ≠ t.node.joinLimiter → t.node.Accredits joiner token) := by
  rw [checkAdmission]
  cases h : checkIdentity t.node joiner token with
  | error => exact ⟨t.node.joinLimiter, rfl, fun ne => absurd rfl ne⟩
  | ok =>
    refine ⟨(t.node.joinLimiter.allow joiner.address t.host.instant).2, ?_, fun _ => checkIdentity_eq_ok_iff.mp h⟩
    dsimp only
    split <;> rfl

theorem accredits_of_admitted (admitted : (t.checkAdmission joiner token).2 = .ok ()) :
    t.node.Accredits joiner token := by
  rw [checkAdmission] at admitted
  cases h : checkIdentity t.node joiner token with
  | error => exact nomatch h ▸ admitted
  | ok => exact checkIdentity_eq_ok_iff.mp h

-- Whatever the limits say, a node that is not up lets nobody in.
theorem not_admitted_of_not_up (joiner : Member) (token : String) (h : t.node.isUp = false) :
    ∃ error, (t.checkAdmission joiner token).2 = .error error := by
  rw [checkAdmission]
  cases checkIdentity t.node joiner token with
  | error error => exact ⟨error, rfl⟩
  | ok =>
    dsimp only
    split
    case isFalse => exact ⟨_, rfl⟩
    case isTrue =>
      have alone (n : Node) (h : n.isUp = false) : ∃ error, checkQuorum n = .error error := by
        simp [checkQuorum, Node.inQuorum, h]
      exact alone _ h

theorem receiveJoin_of_refused (h : (t.checkAdmission joiner token).2 = .error error) :
    t.receiveJoin e joiner token =
      (((t.checkAdmission joiner token).1.measure (.joinRejected (rejectReason error)) 1).respond e
        (.ofError error)) := by
  rw [receiveJoin]
  split
  case h_1 u refused hc =>
    rw [hc] at h
    cases h
    rw [hc]
  case h_2 hc =>
    rw [hc] at h
    exact nomatch h

theorem receive_of_refused (refused : t.verdict e = .error error) : ∃ limiter,
    t.receive e = { t.setLimiter limiter with effects := t.effects ++ e.refusal error } ∧
    (limiter ≠ t.node.joinLimiter →
      ∃ joiner token, e.message = .joinRequest joiner token ∧ t.node.Accredits joiner token) := by
  obtain ⟨sender, message, expectsReply⟩ := e
  have unspent {answers : List Effect} {u : Turn} (h : u = { t with effects := t.effects ++ answers }) :
      u = { t.setLimiter t.node.joinLimiter with effects := t.effects ++ answers } := h
  cases message with
  | joinRequest joiner token =>
    obtain ⟨limiter, spent, accredited⟩ := checkAdmission_fst t joiner token
    refine ⟨limiter, ?_, fun ne => ⟨joiner, token, rfl, accredited ne⟩⟩
    change t.receiveJoin _ joiner token = _
    rw [receiveJoin_of_refused refused, spent, respond_eq]
    simp [measure, emit, setLimiter, Envelope.refusal]
  | gossip incoming =>
    refine ⟨t.node.joinLimiter, unspent ?_, fun ne => absurd rfl ne⟩
    have refused : checkProtocol t.node incoming = .error error := refused
    simp only [receive, receiveGossip, refused, Envelope.refusal]
    cases expectsReply <;> simp [emit]
  | forceDown | triggerBroadcast | updateState =>
    refine ⟨t.node.joinLimiter, unspent ?_, fun ne => absurd rfl ne⟩
    simp only [verdict] at refused
    simp only [receive, refused]
    exact whenAllowed_error
  | _ => cases refused

-- Nobody has been turned down in the turn so far.
def Obliging (t : Turn) : Prop := ∀ x ∈ t.effects, ∀ r, .rejected r ∉ x.messages

namespace Obliging

variable {said : Set Message} {u : Turn} {m : Message} {v incoming : View} {id : String}

theorem speaks (h : t.Obliging) (s : Speaks said t u) (kind : ∀ r, .rejected r ∉ said) : u.Obliging := by
  intro x hx r hr
  rcases s.effects x hx with old | new
  · exact h x old r hr
  · exact kind r (new _ hr)

theorem silent (h : t.Obliging) (s : Speaks ∅ t u) : u.Obliging := h.speaks s fun _ => nofun

theorem respond (h : t.Obliging) (kind : ∀ r, .rejected r ≠ m) : (t.respond e m).Obliging :=
  have s : Speaks {m} t (t.respond e m) := .respond rfl
  h.speaks s kind

theorem broadcast (h : t.Obliging) {skip : Option String} : (t.broadcast skip).Obliging :=
  h.speaks speaks_broadcast nofun

theorem announce (h : t.Obliging) : (t.announce v).Obliging := h.silent speaks_announce

theorem recordChange (h : t.Obliging) : t.recordChange.Obliging := by
  rw [Turn.recordChange]
  split <;> exact h

theorem learn (h : t.Obliging) : (t.learn incoming).1.Obliging := by
  have gone : (t.setView (without t.node.view (departed t.node incoming))).Obliging := h
  have forgotten : (t.forget incoming).Obliging := gone.silent .measure
  exact forgotten

theorem conclude (h : t.Obliging) {changed revived : Bool} : (t.conclude v changed revived).Obliging := by
  have put : t.reassert.Obliging := by
    rw [Turn.reassert]
    split
    case h_1 => exact h
    case h_2 =>
      split
      case isFalse => exact h
      case isTrue =>
        split
        case h_1 self _ => exact recordChange (t := t.setSelf self) h
        case h_2 => exact h
  have told : (if changed then t.reassert.broadcast else t.reassert).Obliging := by
    split
    case isTrue => exact put.broadcast
    case isFalse => exact put
  rw [Turn.conclude]
  split
  case isTrue => exact told.announce
  case isFalse => exact told

theorem receiveGossip (h : t.Obliging) (ok : checkProtocol t.node incoming = .ok ()) :
    (t.receiveGossip e incoming).Obliging := by
  rw [Turn.receiveGossip, ok]
  dsimp only
  split
  case isFalse => exact h
  case isTrue =>
    have attentive : (t.attend e.sender incoming).1.Obliging := by
      cases e.sender <;> exact h
    exact attentive.learn.conclude

theorem receiveResponse (h : t.Obliging) : (t.receiveResponse v).Obliging := by
  have failed (attempt : ℕ) : (t.failJoin attempt).Obliging := by
    rw [Turn.failJoin]
    split
    case h_1 => exact h.silent (.emitNothing rfl)
    case h_2 => exact h
  rw [Turn.receiveResponse]
  split
  case h_2 => exact h
  case h_1 =>
    rw [Turn.settleJoin]
    split
    case h_1 => exact failed _
    case h_2 self _ =>
      have learned : ((t.become self).learn v).1.Obliging := learn (t := t.become self) h
      have entered {u : Turn} (h : u.Obliging) : (u.setStatus .up).recordChange.enterUp.Obliging :=
        recordChange (t := u.setStatus .up) h
      rw [completeJoin]
      exact (entered learned).broadcast.announce

theorem receiveJoin (h : t.Obliging) (ok : (t.checkAdmission joiner token).2 = .ok ()) :
    (t.receiveJoin e joiner token).Obliging := by
  have ⟨limiter, checked, _⟩ := checkAdmission_fst t joiner token
  rw [Turn.receiveJoin]
  split
  case h_1 hc => exact nomatch (congrArg Prod.snd hc).symm.trans ok
  case h_2 u _ hc =>
    have same : u = t.setLimiter limiter := (congrArg Prod.fst hc).symm.trans checked
    subst same
    have enrolled : ((t.setLimiter limiter).setView (t.node.view.add
        { joiner with status := .up, lastSeen := t.now })).recordChange.Obliging :=
      recordChange (t := (t.setLimiter limiter).setView _) h
    rw [welcome]
    exact (enrolled.respond (by nofun)).broadcast.announce

theorem leave (h : t.Obliging) : t.leave.Obliging := by
  rw [Turn.leave]
  split
  case isTrue => exact h
  case isFalse =>
    have told : (t.setTimers .none).announceLeave.Obliging := by
      rw [announceLeave]
      split
      case isFalse => exact h
      case isTrue => exact (recordChange (t := (t.setTimers .none).setStatus .leaving) h).broadcast
    have exiting {u : Turn} (h : u.Obliging) : ((u.setStatus .exiting).setPhase .exited).Obliging := h
    exact silent (announce (exiting told)) .publish

theorem whenAllowed {f : Turn → Turn} (done : (f t).Obliging) :
    (t.whenAllowed e (.ok ()) f).Obliging := done.respond fun _ => nofun

theorem forceDown (h : t.Obliging) : (t.forceDown id).Obliging := by
  rw [Turn.forceDown]
  split
  case h_1 => exact h
  case h_2 view _ =>
    have removed : (t.setView view).Obliging := h
    exact (removed.silent .measure).recordChange.broadcast.announce

theorem updateState (h : t.Obliging) {state : Dict String} : (t.updateState state).Obliging := by
  rw [Turn.updateState]
  dsimp only
  have rewritten : ((t.become { t.node.self with state := state }).setStatus t.node.self.status).recordChange.Obliging :=
    recordChange (t := (t.become _).setStatus _) h
  split
  case isTrue => exact rewritten.broadcast.announce
  case isFalse => exact rewritten.announce

theorem triggerBroadcast (h : t.Obliging) : t.triggerBroadcast.Obliging := by
  rw [Turn.triggerBroadcast]
  split
  case isTrue =>
    have beat : t.heartbeat.Obliging := h
    exact beat.broadcast
  case isFalse => exact h

theorem receive (h : t.Obliging) (ok : t.verdict e = .ok ()) : (t.receive e).Obliging := by
  obtain ⟨sender, message, expectsReply⟩ := e
  cases message with
  | joinRequest => exact h.receiveJoin ok
  | joinResponse => exact h.receiveResponse
  | gossip => exact h.receiveGossip ok
  | viewRequest => exact h.respond fun _ => nofun
  | leaveRequest => exact h.leave.respond fun _ => nofun
  | forceDown =>
    simp only [verdict] at ok
    simp only [Turn.receive, ok]
    exact whenAllowed h.forceDown
  | triggerBroadcast =>
    simp only [verdict] at ok
    simp only [Turn.receive, ok]
    exact whenAllowed h.triggerBroadcast
  | updateState =>
    simp only [verdict] at ok
    simp only [Turn.receive, ok]
    exact whenAllowed h.updateState
  | viewResponse | leaveAck | adminAck | rejected | user => exact h

end Obliging

end Turn

-- A rejection is the answer to a request that is refused, and to nothing else.
theorem Node.refused_of_rejects {n : Node} {host : Host} {e : Envelope} {x : Effect} {r : Rejection}
    (h : x ∈ (n.step host (.envelope e)).2) (rejects : .rejected r ∈ x.messages) :
    ∃ error, Turn.verdict ⟨host, n, []⟩ e = .error error := by
  cases ok : Turn.verdict ⟨host, n, []⟩ e with
  | error error => exact ⟨error, rfl⟩
  | ok =>
    have obliging : (Turn.receive ⟨host, n, []⟩ e).Obliging := Turn.Obliging.receive nofun ok
    exact absurd rejects (obliging x h r)

theorem Node.refused_unharmed {n : Node} {host : Host} {e : Envelope} {error : Error}
    (refused : Turn.verdict ⟨host, n, []⟩ e = .error error) :
    ∃ limiter, n.step host (.envelope e) = ({ n with joinLimiter := limiter }, e.refusal error) ∧
      (limiter ≠ n.joinLimiter →
        ∃ joiner token, e.message = .joinRequest joiner token ∧ n.Accredits joiner token) ∧
      (∀ event, .publish event ∉ e.refusal error) ∧
      ∀ targets v, .send targets (.gossip v) ∉ e.refusal error := by
  have ⟨limiter, left, spent⟩ := Turn.receive_of_refused refused
  refine ⟨limiter, ?step, spent, ?silent, ?still⟩
  case step =>
    change ((Turn.receive ⟨host, n, []⟩ e).node, (Turn.receive ⟨host, n, []⟩ e).effects) = _
    rw [left]
    rfl
  case silent =>
    intro event h
    rcases Envelope.mem_refusal h with ⟨_, e⟩ | e | ⟨_, e⟩ <;> exact nomatch e
  case still =>
    intro targets v h
    rcases Envelope.mem_refusal h with ⟨_, e⟩ | e | ⟨_, e⟩ <;> exact nomatch e

-- A joiner that fulfils all conditions comes to a node that has not joined yet.
theorem Node.refused_unharmed_joining : ∃ (n : Node) (joiner : Member) (limiter : JoinLimiter Float) (error : Error),
    n.phase = .joining 0 false ∧ n.Accredits joiner "" ∧
      n.step ⟨0, 0, ⟨[], []⟩, fun _ _ => [], []⟩ (.envelope ⟨none, .joinRequest joiner "", true⟩) =
        ({ n with joinLimiter := limiter },
          [.measure ⟨.joinRejected (Turn.rejectReason error), 1⟩, .reply (.ofError error)]) := by
  let config : Config :=
    { node := { id := "a", address := "a:1" }, failure := { crossTimeout := some (.ofMillis 200) } }
  let joiner : Member := .starting "b" "meshwork" "b:1" 0
  have ⟨n, _, phase, configured, unlisted⟩ : ∃ n, Node.create config 0 0 = .ok (some n) ∧
      n.phase = .joining 0 false ∧ n.config = config ∧ n.allowedAddresses = ⟨[]⟩ := ⟨_, rfl, rfl, rfl, rfl⟩
  have down : n.isUp = false := by simp [Node.isUp, phase]
  obtain ⟨error, refused⟩ : ∃ error, Turn.verdict ⟨⟨0, 0, ⟨[], []⟩, fun _ _ => [], []⟩, n, []⟩
      ⟨none, .joinRequest joiner "", true⟩ = .error error := Turn.not_admitted_of_not_up joiner "" down
  have ⟨limiter, step, _⟩ := Node.refused_unharmed refused
  refine ⟨n, joiner, limiter, error, phase, ?_, step⟩
  constructor
  case cluster => rw [configured]; rfl
  case token => rw [configured]; rfl
  case address => rw [unlisted]; rfl
  case datacenter => rw [configured]; rfl
  all_goals decide

end GossipCluster
