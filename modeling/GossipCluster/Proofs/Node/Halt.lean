import GossipCluster.Proofs.Duration.Seconds
import GossipCluster.Proofs.Node.Life
import GossipCluster.Proofs.Node.SelfImage

namespace GossipCluster

namespace Backoff

-- The delay is spread to what is no span of time.
def Overdrawn (b : Backoff) (attempt : ℕ) (word : UInt64) : Prop :=
  b.jitter ∧ b.baseDelay attempt ≠ .zero ∧ ¬Duration.Spans ((1 + spread word) * (b.baseDelay attempt).toSeconds)

theorem delay?_eq_none_iff {b : Backoff} {attempt : ℕ} {words : List UInt64} :
    (b.delay? attempt words).1 = none ↔ b.Overdrawn attempt (words.headD 0) := by
  have zero : (b.baseDelay attempt).isZero ↔ b.baseDelay attempt = .zero := by
    rw [Duration.isZero, decide_eq_true_eq, Duration.mk.injEq]
    rfl
  have spread : (b.baseDelay attempt).scale? (1 + spread (words.headD 0)) = none ↔
      ¬Duration.Spans ((1 + Backoff.spread (words.headD 0)) * (b.baseDelay attempt).toSeconds) := by
    rw [← Duration.fromSeconds?_isSome_iff, Option.not_isSome_iff_eq_none, Duration.scale?]
  rw [delay?, Overdrawn, ← spread]
  split
  case isTrue still =>
    refine iff_of_false nofun fun ⟨jitter, nonzero, _⟩ => ?_
    simp [jitter, zero, nonzero] at still
  case isFalse spreads =>
    have ⟨jitter, nonzero⟩ : b.jitter ∧ b.baseDelay attempt ≠ .zero := by simpa [zero] using spreads
    exact ⟨fun none => ⟨jitter, nonzero, none⟩, fun h => h.2.2⟩

end Backoff

namespace Node

-- The view has an entry of the node that is not the one which the node has sent, nor older than the node, and
-- after which there is no other incarnation.
def Barred (n : Node) (sent : Member) (view : View) : Prop :=
  ∃ prior, view.member? n.self.id = some prior ∧ prior.stamp ≠ sent.stamp ∧ ¬prior.generation < n.self.generation ∧
    (max n.self.generation prior.generation = Counter.last ∨ max n.self.clock prior.clock = Counter.last)

instance (n : Node) (sent : Member) : DecidablePred (n.Barred sent) := fun view =>
  decidable_of_iff ((view.member? n.self.id).any fun prior =>
    prior.stamp ≠ sent.stamp ∧ ¬prior.generation < n.self.generation ∧
      (max n.self.generation prior.generation = Counter.last ∨ max n.self.clock prior.clock = Counter.last)) <| by
    rw [Barred]
    cases view.member? n.self.id <;> simp

-- What puts an end to the attempt that a node waits for, without letting the node in.
inductive Fails (n : Node) (attempt : ℕ) : Input → Prop
  | refused (e : Error) : n.Fails attempt (.joinOutcome attempt (.error e))
  | barred {i : Input} {view : View} : i.Admits view n.phase → n.Barred n.self view → n.Fails attempt i

end Node

namespace Turn

variable {t u w : Turn} {i : Input} {e : Envelope} {m : Message} {v : View} {attempt : ℕ} {inFlight : Bool}

theorem entrant_eq_error_iff {self : Member} {now : Timestamp} : (∃ e, entrant self v now = .error e) ↔
    ∃ prior, v.member? self.id = some prior ∧ isStaleTwin self prior ∧
      (max self.generation prior.generation = Counter.last ∨ max self.clock prior.clock = Counter.last) := by
  rw [entrant]
  cases v.member? self.id with
  | none => simp
  | some prior =>
    by_cases stale : isStaleTwin self prior
    case pos => simp [stale, Member.supersede_eq_error_iff]
    case neg => simp [stale]

theorem entrant_eq_error_iff_barred : (∃ e, entrant t.node.self v t.now = .error e) ↔ t.node.Barred t.node.self v := by
  rw [entrant_eq_error_iff, Node.Barred]
  refine exists_congr fun prior => and_congr_right fun _ => ?_
  rw [isStaleTwin_iff]
  tauto

-- Between two moments of a turn the node does not come to a halt.
def Lasts (t u : Turn) : Prop := .halt ∈ u.effects → .halt ∈ t.effects

instance : IsPreorder Turn Lasts where
  refl _         := id
  trans _ _ _ a b := a ∘ b

namespace Lasts

theorem refl (t : Turn) : Lasts t t := id

theorem trans (a : Lasts t u) (b : Lasts u w) : Lasts t w := a ∘ b

theorem after (b : Lasts u w) (a : Lasts t u) : Lasts t w := a ∘ b

theorem foldl {α σ : Type} {f : σ → α → σ} (turn : σ → Turn) (h : ∀ s a, Lasts (turn s) (turn (f s a))) (s : σ)
    (l : List α) : Lasts (turn s) (turn (l.foldl f s)) := by
  induction l generalizing s with
  | nil => exact refl (turn s)
  | cons a l ih => exact (h s a).trans (ih _)

theorem emit {x : Effect} (h : x ≠ .halt) : Lasts t (t.emit x) := fun halts =>
  (List.mem_append.mp halts).resolve_right fun same => h (List.mem_singleton.mp same).symm

theorem publish {x : Option Event} : Lasts t (t.publish x) := by
  cases x with
  | none => exact refl t
  | some => exact emit (by simp)

theorem measure {s : Series} {count : ℕ} : Lasts t (t.measure s count) := by
  rw [Turn.measure]
  split
  case isTrue => exact refl t
  case isFalse => exact emit (by simp)

theorem send {targets : List Endpoint} : Lasts t (t.send targets m) := by
  rw [Turn.send]
  split
  case isTrue => exact refl t
  case isFalse => exact emit (by simp)

theorem respond : Lasts t (t.respond e m) := by
  rw [Turn.respond]
  split
  case h_1 => exact emit (by simp)
  case h_2 => exact send
  case h_3 => exact refl t

theorem recordChange : Lasts t t.recordChange := by
  rw [Turn.recordChange]
  split <;> exact refl t

theorem announceStatus : Lasts t t.announceStatus := by
  have quorum : Lasts t t.announceQuorum.1 := publish (t := { t with node := _ })
  have leader (u : Turn) (changed : Bool) : Lasts u (u.announceLeader changed) := publish (t := { u with node := _ })
  have datacenters (u : Turn) : Lasts u u.announceDatacenters :=
    foldl id (fun _ _ => publish) { u with node := _ } _
  have report (u : Turn) : Lasts u u.report := foldl id (fun _ c => emit (x := .measure c) (by simp)) { u with node := _ } _
  exact quorum.trans <| (leader _ _).trans <| (datacenters _).trans (report _)

theorem announce {before : View} : Lasts t (t.announce before) := by
  have changed (u : Turn) : Lasts u (if before = u.node.view then u else u.publish (some (.viewChanged u.node.view))) := by
    split
    case isTrue => exact refl u
    case isFalse => exact publish
  exact publish.trans <| (changed _).trans announceStatus

theorem grant {p : Turn × List Endpoint} {address : String} : Lasts p.1 (Turn.grant p address).1 := by
  rw [Turn.grant]
  dsimp only
  split
  case isTrue => exact refl p.1
  case isFalse => exact measure (t := { p.1 with node := _ })

theorem broadcast {skip : Option String} : Lasts t (t.broadcast skip) := by
  rw [Turn.broadcast, sendGossip]
  have granted (addresses : List String) : Lasts t (addresses.foldl Turn.grant (t, [])).1 :=
    foldl Prod.fst (fun _ _ => grant) (t, []) addresses
  have sent (u : Turn) (n : Node) (targets : List Endpoint) (m : Message) :
      Lasts u (Turn.send { u with node := n } targets m) := send
  exact .after measure <| .after (sent _ _ _ _) (granted _)

theorem checkAdmission {joiner : Member} {token : String} : Lasts t (t.checkAdmission joiner token).1 := by
  rw [Turn.checkAdmission]
  split
  case h_1 => exact refl t
  case h_2 =>
    dsimp only
    split <;> exact refl t

theorem beginJoin : Lasts t (t.beginJoin attempt) := by
  have begun : Lasts (t.setPhase (.joining attempt true)) (t.beginJoin attempt) := emit (by simp)
  exact begun

theorem completeJoin {self : Member} : Lasts t (t.completeJoin self v) := by
  have learned : Lasts t ((t.become self).learn v).1 := measure (t := (t.become self).setView _)
  have entered (u : Turn) : Lasts u (u.setStatus .up).recordChange.enterUp := recordChange (t := u.setStatus .up)
  rw [Turn.completeJoin]
  exact learned.trans <| (entered _).trans <| broadcast.trans announce

theorem leave (waits : t.node.isUp = false) : Lasts t t.leave := by
  rw [Turn.leave]
  split
  case isTrue => exact refl t
  case isFalse =>
    have down : (t.setTimers .none).node.isUp = false := waits
    have alone : (t.setTimers .none).announceLeave = t.setTimers .none := if_neg (by simp [down])
    rw [alone]
    exact .after publish <| announce (t := ((t.setTimers .none).setStatus .exiting).setPhase .exited)

theorem forceDown {id : String} : Lasts t (t.forceDown id) := by
  rw [Turn.forceDown]
  split
  case h_1 => exact refl t
  case h_2 view _ => exact (measure (t := t.setView view)).trans <| recordChange.trans <| broadcast.trans announce

theorem updateState {state : Dict String} : Lasts t (t.updateState state) := by
  have rewritten : Lasts t ((t.become { t.node.self with state := state }).setStatus t.node.self.status).recordChange :=
    recordChange (t := (t.become _).setStatus _)
  rw [Turn.updateState]
  dsimp only
  split
  case isTrue => exact rewritten.trans <| broadcast.trans announce
  case isFalse => exact rewritten.trans announce

theorem whenAllowed {check : Except Error Unit} {f : Turn → Turn} (lasts : Lasts t (f t)) :
    Lasts t (t.whenAllowed e check f) := by
  cases check with
  | ok => exact lasts.trans respond
  | error => exact respond

end Lasts

theorem run_of_fails (joining : t.node.phase = .joining attempt inFlight) (fails : t.node.Fails attempt i) :
    t.run i = t.failJoin attempt := by
  cases fails with
  | refused => simp only [run, receiveOutcome, joining, if_true, settleJoin]
  | barred admits barred =>
    obtain ⟨e, failed⟩ := entrant_eq_error_iff_barred.mpr barred
    rw [joining] at admits
    cases admits with
    | outcome => simp only [run, receiveOutcome, joining, if_true, settleJoin, failed]
    | response response => simp only [run, receive, response, receiveResponse, joining, settleJoin, failed]

theorem failJoin_of_overdrawn (overdrawn : t.node.config.join.backoff.Overdrawn attempt (t.host.words.headD 0)) :
    t.failJoin attempt = t.emit .halt := by
  rw [failJoin, Backoff.delay?_eq_none_iff.mpr overdrawn]

-- An attempt that has failed is followed by another one if the delay until then can be told.
theorem failJoin_of_not_overdrawn
    (h : ¬t.node.config.join.backoff.Overdrawn attempt (t.host.words.headD 0)) : ∃ delay,
    (t.node.config.join.backoff.delay? attempt t.host.words).1 = some delay ∧
    t.failJoin attempt = (t.setPhase (.joining (Phase.nextAttempt attempt) false)).setTimers
      { t.node.timers with joinRetry := some delay } := by
  obtain ⟨delay, known⟩ := Option.ne_none_iff_exists'.mp (mt Backoff.delay?_eq_none_iff.mp h)
  exact ⟨delay, known, by rw [failJoin, known]⟩

-- An outcome of any other attempt than the present one counts for nothing.
theorem receiveOutcome_of_stale (stale : ∀ inFlight, t.node.phase ≠ .joining attempt inFlight)
    (result : Except Error View) : t.receiveOutcome attempt result = t := by
  rw [receiveOutcome]
  split
  case h_1 current inFlight joining =>
    refine if_neg ?_
    rintro rfl
    exact stale inFlight joining
  case h_2 => rfl

-- An attempt that does not fail lets the node in.
theorem settleJoin_of_not_fails {result : Except Error View}
    (admits : ∀ view, result = .ok view → i.Admits view t.node.phase)
    (refused : ∀ e, result = .error e → t.node.Fails attempt i) (h : ¬t.node.Fails attempt i) :
    ∃ self view, t.settleJoin attempt result = t.completeJoin self view := by
  cases result with
  | error e => exact absurd (refused e rfl) h
  | ok view =>
    rw [settleJoin]
    split
    case h_1 e failed => exact absurd (.barred (admits view rfl) (entrant_eq_error_iff_barred.mp ⟨e, failed⟩)) h
    case h_2 self _ => exact ⟨self, view, rfl⟩

theorem receiveOutcome_of_not_fails {result : Except Error View} (joining : t.node.phase = .joining attempt inFlight)
    (h : ¬t.node.Fails attempt (.joinOutcome attempt result)) :
    ∃ self view, t.receiveOutcome attempt result = t.completeJoin self view := by
  have settles : t.receiveOutcome attempt result = t.settleJoin attempt result := by simp [receiveOutcome, joining]
  rw [settles]
  refine settleJoin_of_not_fails (i := .joinOutcome attempt result) (fun view ok => ?_) (fun e failed => ?_) h
  · rw [ok, joining]
    exact .outcome attempt inFlight
  · rw [failed]
    exact .refused e

namespace Lasts

-- Nothing else that comes in while the node waits brings it to a halt.
theorem run (joining : t.node.phase = .joining attempt inFlight) (h : ¬t.node.Fails attempt i) : Lasts t (t.run i) := by
  have down : t.node.isUp = false := by simp [Node.isUp, joining]
  cases i with
  | tick k =>
    cases k with
    | joinRetry =>
      rw [Turn.run, tick, retryJoin]
      split
      case h_1 => exact beginJoin
      case h_2 => exact refl t
    | gossip | crossGossip | failureDetection => simp only [Turn.run, tick, down]; exact refl t
  | joinOutcome number result =>
    rw [Turn.run]
    by_cases same : attempt = number
    case pos =>
      obtain rfl := same
      obtain ⟨self, view, entered⟩ := receiveOutcome_of_not_fails joining h
      exact entered ▸ completeJoin
    case neg =>
      rw [receiveOutcome_of_stale (by simp [joining, same])]
      exact refl t
  | recovered views =>
    have idle : Turn.receiveRecovered t views = { t with node := { t.node with recovering := false } } :=
      if_pos (by simp [Node.isUp, joining])
    rw [Turn.run, idle]
    exact refl t
  | envelope e =>
    obtain ⟨sender, message, expectsReply⟩ := e
    rw [Turn.run, receive]
    cases message with
    | joinRequest joiner token =>
      obtain ⟨error, refused⟩ := not_admitted_of_not_up joiner token down
      simp only [receiveJoin_of_refused refused]
      exact checkAdmission.trans <| measure.trans respond
    | joinResponse view =>
      simp only [receiveResponse, joining]
      obtain ⟨self, joined, entered⟩ : ∃ self joined, t.settleJoin attempt (.ok view) = t.completeJoin self joined := by
        refine settleJoin_of_not_fails (i := .envelope ⟨sender, .joinResponse view, expectsReply⟩) (fun v ok => ?_)
          (by simp) h
        rw [joining, ← Except.ok.inj ok]
        exact .response rfl
      exact entered ▸ completeJoin
    | gossip incoming =>
      simp only [receiveGossip, down]
      split
      case h_1 =>
        split
        case isTrue => exact emit (by simp)
        case isFalse => exact refl t
      case h_2 => exact refl t
    | viewRequest => exact respond
    | leaveRequest => exact (leave down).trans respond
    | forceDown => exact whenAllowed (f := (·.forceDown _)) forceDown
    | triggerBroadcast =>
      refine whenAllowed (f := (·.triggerBroadcast)) ?_
      simp only [triggerBroadcast, down]
      exact refl t
    | updateState => exact whenAllowed (f := (·.updateState _)) updateState
    | viewResponse | leaveAck | adminAck | rejected | user => exact refl t

end Lasts

end Turn

namespace Node

variable {n : Node} {host : Host} {i : Input} {attempt : ℕ} {inFlight : Bool}

theorem step_of_overdrawn (joining : n.phase = .joining attempt inFlight) (fails : n.Fails attempt i)
    (overdrawn : n.config.join.backoff.Overdrawn attempt (host.words.headD 0)) : n.step host i = (n, [.halt]) := by
  have halts : Turn.run ⟨host, n, []⟩ i = Turn.emit ⟨host, n, []⟩ .halt :=
    (Turn.run_of_fails joining fails).trans (Turn.failJoin_of_overdrawn overdrawn)
  simp only [step, halts]
  rfl

-- While it waits a node halts in one case only: its attempt has failed, and the next one can't be put off as far.
theorem halt_mem_step_iff (joining : n.phase = .joining attempt inFlight) : .halt ∈ (n.step host i).2 ↔
    n.Fails attempt i ∧ n.config.join.backoff.Overdrawn attempt (host.words.headD 0) := by
  constructor
  case mp =>
    intro halts
    have halts : .halt ∈ (Turn.run ⟨host, n, []⟩ i).effects := halts
    by_contra lives
    by_cases fails : n.Fails attempt i
    case neg => exact nomatch Turn.Lasts.run (t := ⟨host, n, []⟩) joining fails halts
    case pos =>
      obtain ⟨delay, _, fails_later⟩ :=
        Turn.failJoin_of_not_overdrawn (t := ⟨host, n, []⟩) fun overdrawn => lives ⟨fails, overdrawn⟩
      rw [Turn.run_of_fails (t := ⟨host, n, []⟩) joining fails, fails_later] at halts
      exact nomatch halts
  case mpr =>
    intro ⟨fails, overdrawn⟩
    rw [step_of_overdrawn joining fails overdrawn]
    exact List.mem_singleton_self _

end Node

end GossipCluster
