import GossipCluster.Proofs.Node.Custody

namespace GossipCluster

-- A node that is up says so of itself.
def Badge.Regular (b : Badge) : Prop := b.phase = .up → b.status = .up

-- Nobody suspects or removes itself.
theorem Detector.not_mem_of_detect? {d : Detector} {v : View} {self dc : String} {now : Timestamp}
    {r : Detection} (h : d.detect? v self dc now = some r) : self ∉ r.suspect ∧ self ∉ r.remove := by
  have others {l : List Member} {verdicts : List (String × Detection.Verdict)}
      (hv : l.mapM (fun m => return (m.id, ← d.verdict? dc now m)) = some verdicts) :
      ∀ x ∈ verdicts, ∃ m ∈ l, m.id = x.1 := by
    induction l generalizing verdicts with
    | nil => simp_all
    | cons m l ih =>
      simp only [List.mapM_cons, Option.bind_eq_bind, Option.bind_eq_some_iff, Option.pure_def,
        Option.some_inj] at hv
      obtain ⟨_, ⟨x, _, rfl⟩, rest, hrest, rfl⟩ := hv
      have := ih hrest
      grind
  simp only [detect?, Option.bind_eq_bind, Option.bind_eq_some_iff, Option.pure_def,
    Option.some_inj] at h
  obtain ⟨verdicts, hv, rfl⟩ := h
  have absent (k : Detection.Verdict) : self ∉ (verdicts.filter (·.2 = k)).map Prod.fst := by
    intro hk
    have ⟨x, hx, e⟩ := List.mem_map.mp hk
    have ⟨m, hm, id⟩ := others hv x (List.mem_filter.mp hx).1
    have := (List.mem_filter.mp hm).2
    simp_all
  exact ⟨absent _, absent _⟩

namespace Input

def members : Input → List Member
  | .joinOutcome _ (.ok v) => v.members.rows
  | .recovered views => views.flatMap (·.members.rows)
  | .envelope e => e.message.members
  | _ => []

end Input

namespace Turn

-- A node that enters a cluster may have to move past a twin of it first.
def entryChanges (t : Turn) (view : View) : ℕ :=
  match entrant t.node.self view t.now with
  | .error _ => 0
  | .ok self => if self = t.node.self then 1 else 2

-- A node that is up leaves in two steps.
def leaveChanges (t : Turn) : ℕ :=
  match t.node.phase with
  | .joining .. => 1
  | .up => 2
  | .exited => 0

-- How often the node changes itself in a turn. A node that had to move past an incarnation of it that others
-- know while it is up would do so once more.
def changes (t : Turn) : Input → ℕ
  | .joinOutcome attempt (.ok view) => match t.node.phase with
    | .joining current _ => if attempt = current then t.entryChanges view else 0
    | _ => 0
  | .envelope e => match e.message with
    | .joinResponse view => match t.node.phase with
      | .joining .. => t.entryChanges view
      | _ => 0
    | .leaveRequest => t.leaveChanges
    | .updateState _ => match checkUpdate t.node e.sender with
      | .ok _ => 1
      | .error _ => 0
    | _ => 0
  | _ => 0

def startChanges (t : Turn) : ℕ := if t.host.seeds.isBootstrap t.node.address then 1 else 0

-- After so many changes since `b` the node is still in custody.
def Tenure (known : Set Member) (b : Badge) (changes : ℕ) (t : Turn) : Prop :=
  ∃ c : Badge, Custody known c t ∧ c.id = b.id ∧ c.clock = b.clock + changes ∧ c.Regular

variable {known : Set Member} {b : Badge} {changes : ℕ} {status : Status} {phase : Phase} {t u : Turn}
  {said : Set Message} {v incoming : View} {m : Member} {e : Envelope}

namespace Custody

theorem tenure (h : Custody known b t) (hr : b.Regular) : Tenure known b 0 t := ⟨b, h, rfl, rfl, hr⟩

theorem phase_eq (h : Custody known b t) : t.node.phase = b.phase := congrArg Badge.phase h.badge

theorem clock_eq (h : Custody known b t) : t.node.self.clock.toNat = b.clock := congrArg Badge.clock h.badge

theorem status_ne (h : Custody known b t) (hr : b.Regular) (up : t.node.isUp) : b.status ≠ .suspect := by
  have up : t.node.phase = .up := of_decide_eq_true up
  rw [hr <| h.phase_eq.symm.trans up]
  nofun

theorem setStatus (h : Custody known b t) (hl : b.clock < 2 ^ 64 - 1) :
    Custody known { b with clock := b.clock + 1, status := status } (t.setStatus status) := by
  rw [← h.clock_eq]
  exact h.renew h.id (UInt64.le_refl _) le_rfl (h.clock_eq ▸ hl)

theorem enterUp (h : Custody known b t) : Custody known { b with phase := .up } t.enterUp :=
  h.setPhase.speakNothing (.books rfl rfl rfl rfl)

theorem beginJoin (h : Custody known b t) {attempt : ℕ} :
    Custody known { b with phase := .joining attempt true } (t.beginJoin attempt) := by
  refine h.setPhase.speak (.emit fun m hm => hm) fun m hm => ?_
  have hm := List.mem_singleton.mp hm
  subst hm
  intro p ⟨m, hm, e⟩
  have hm := List.mem_singleton.mp hm
  subst hm
  exact e ▸ self_mem_ledger

theorem gossipRound (h : Custody known b t) : Custody known b t.gossipRound := by
  have beat : Custody known b t.heartbeat.retainPeers :=
    h.heartbeat.speakNothing (.books rfl rfl rfl rfl)
  rw [Turn.gossipRound]
  split
  case h_1 => exact beat.sendGossip
  case h_2 => exact beat.speakNothing (.emitNothing rfl)

theorem crossRound (h : Custody known b t) : Custody known b t.crossRound := h.heartbeat.sendGossip

theorem applyDetection (h : Custody known b t) {d : Detection} (hs : b.id ∉ d.suspect) (hr : b.id ∉ d.remove) :
    Custody known b (t.applyDetection d) := by
  rw [Turn.applyDetection]
  split
  case isTrue => exact h
  case isFalse =>
    have applied := h.exchangeView (w := removeAll (suspectAll t.node.view d.suspect) d.remove) ?same ?bound ?sub
    case same => rw [View.member?_removeAll, if_neg hr, View.member?_suspectAll hs]
    case bound => exact View.vectorBound_removeAll.trans View.vectorBound_suspectAll
    case sub =>
      refine View.imprints_removeAll_subset.trans ?_
      exact View.imprints_suspectAll.trans_subset view_subset_ledger
    exact (applied.speakNothing .measure).recordChange.broadcast.announce

theorem startRecovery (h : Custody known b t) : Custody known b t.startRecovery := by
  rw [Turn.startRecovery]
  dsimp only
  split
  case isTrue => exact h
  case isFalse => exact h.speakNothing <| .after (.emitNothing rfl) (.books rfl rfl rfl rfl)

theorem detectFailures (h : Custody known b t) : Custody known b t.detectFailures := by
  have beat := h.heartbeat
  rw [Turn.detectFailures]
  dsimp only
  split
  case h_1 => exact beat.speakNothing (.emitNothing rfl)
  case h_2 d hd =>
    have ⟨suspect, remove⟩ := beat.id ▸ Detector.not_mem_of_detect? hd
    have applied := beat.applyDetection suspect remove
    split
    case isTrue => exact applied
    case isFalse => exact applied.startRecovery

theorem tick (h : Custody known b t) (hr : b.Regular) (k : Tick) : Tenure known b 0 (t.tick k) := by
  have whenUp {f : Turn → Turn} (hf : Custody known b (f t)) :
      Tenure known b 0 (if t.node.isUp then f t else t) := by
    split
    case isTrue => exact hf.tenure hr
    case isFalse => exact h.tenure hr
  cases k with
  | gossip => exact whenUp h.gossipRound
  | crossGossip => exact whenUp h.crossRound
  | failureDetection => exact whenUp h.detectFailures
  | joinRetry =>
    change Tenure known b 0 t.retryJoin
    rw [retryJoin]
    split
    case h_1 => exact ⟨_, h.beginJoin, rfl, rfl, nofun⟩
    case h_2 => exact h.tenure hr

theorem absorb (h : Custody known b t) (hs : b.status ≠ .suspect) (hv : incoming.imprints ⊆ known)
    {sender : Option Endpoint} : Custody known b (t.absorb sender incoming) :=
  ((h.attend hs).learn hv).conclude

theorem receiveGossip (h : Custody known b t) (hr : b.Regular) (hv : incoming.imprints ⊆ known) :
    Custody known b (t.receiveGossip e incoming) := by
  rw [Turn.receiveGossip]
  split
  case h_1 =>
    split
    case isTrue => exact h.reply rfl
    case isFalse => exact h
  case h_2 =>
    split
    case isTrue up => exact h.absorb (h.status_ne hr up) hv
    case isFalse => exact h

theorem receiveRecovered (h : Custody known b t) {views : List View} (hv : ∀ v ∈ views, v.imprints ⊆ known) :
    Custody known b (t.receiveRecovered views) := by
  have idle : Custody known b { t with node := { t.node with recovering := false } } :=
    h.speakNothing (.books rfl rfl rfl rfl)
  rw [Turn.receiveRecovered]
  dsimp only
  split
  case isTrue => exact idle
  case isFalse => exact (idle.learnAll hv).conclude

theorem failJoin (h : Custody known b t) (hr : b.Regular) {attempt : ℕ} :
    Tenure known b 0 (t.failJoin attempt) := by
  rw [Turn.failJoin]
  split
  case h_1 => exact (h.speakNothing (.emitNothing rfl)).tenure hr
  case h_2 =>
    have failed : Custody known _ (t.setPhase (.joining (Phase.nextAttempt attempt) false)) := h.setPhase
    exact ⟨_, failed.speakNothing (.books rfl rfl rfl rfl), rfl, rfl, nofun⟩

end Custody

theorem measure_become {s : Series} {count : ℕ} :
    (t.become m).measure s count = (t.measure s count).become m := by
  rw [measure, measure]
  split <;> rfl

-- What a node learns does not depend on what it knows of itself besides its id.
theorem learn_become (hid : m.id = t.node.self.id) :
    ((t.become m).learn v).1 = (t.learn v).1.become m := by
  have departing : departing (t.become m).node v = departing t.node v := by
    simp only [departing, become, hid]
  have departed : departed (t.become m).node v = departed t.node v := by
    rw [Turn.departed, departing]
    rfl
  have forgot : (t.become m).forget v = (t.forget v).become m := by
    rw [forget, forget, departed]
    exact measure_become (t := t.setView (without t.node.view (Turn.departed t.node v)))
  rw [learn_fst, learn_fst, forgot, departing]
  rfl

theorem entrant_cases {prior : View} (h : entrant t.node.self prior t.now = .ok m) : m = t.node.self ∨
    ∃ twin, prior.member? t.node.self.id = some twin ∧ t.node.self.supersede twin t.now = .ok m := by
  rw [entrant] at h
  split at h
  case h_2 => exact .inl (Except.ok.inj h).symm
  case h_1 twin ht =>
    split at h
    case isTrue => exact .inr ⟨twin, ht, h⟩
    case isFalse => exact .inl (Except.ok.inj h).symm

namespace Custody

theorem completeJoin (h : Custody known b t) (hid : m.id = b.id) (hc : t.node.self.clock ≤ m.clock)
    (hs : t.node.self.stamp ≤ m.stamp) (hl : m.clock.toNat < 2 ^ 64 - 1) (hv : v.imprints ⊆ known) :
    Custody known ⟨b.id, m.clock.toNat + 1, .up, .up⟩ (t.completeJoin m v) := by
  have renewed : Custody known { b with clock := m.clock.toNat + 1, status := .up }
      (((t.learn v).1.become m).setStatus .up) := by
    have self : (t.learn v).1.node.self = t.node.self := self_learn
    rw [← self] at hc hs
    exact (h.learn hv).renew hid hc hs hl
  rw [Turn.completeJoin]
  dsimp only
  rw [learn_become (hid.trans h.id.symm)]
  exact renewed.recordChange.enterUp.broadcast.announce

theorem settleJoin (h : Custody known b t) (hr : b.Regular) (hv : v.imprints ⊆ known) {attempt : ℕ}
    (hl : b.clock + t.entryChanges v < 2 ^ 64) : Tenure known b (t.entryChanges v) (t.settleJoin attempt (.ok v)) := by
  rw [Turn.settleJoin]
  cases he : entrant t.node.self v t.now with
  | error =>
    simp only [entryChanges, he]
    exact h.failJoin hr
  | ok m =>
    simp only [entryChanges, he] at hl ⊢
    rcases entrant_cases he with e | ⟨twin, ht, supersedes⟩
    · rw [if_pos e] at hl ⊢
      have clock : m.clock.toNat = b.clock := e ▸ h.clock_eq
      refine ⟨_, h.completeJoin (e ▸ h.id) (e ▸ UInt64.le_refl _) (e ▸ le_rfl) ?_ hv, rfl, ?_, fun _ => rfl⟩
      · omega
      · exact congrArg (· + 1) clock
    · have ⟨id, _, generation, clock⟩ := Member.supersede_eq supersedes
      have older := (h.lead twin.imprint (.inl <| hv <| View.imprint_mem_imprints ht)
        ((View.member?_id ht).trans h.id)).1
      have older : twin.clock.toNat ≤ t.node.self.clock.toNat := older
      have self := h.clock_eq
      have clock : m.clock.toNat = b.clock + 1 := by omega
      have ne : m ≠ t.node.self := fun e => by rw [e] at clock; omega
      rw [if_neg ne] at hl ⊢
      refine ⟨_, h.completeJoin (id.trans h.id) ?_ ?_ ?_ hv, rfl, ?_, fun _ => rfl⟩
      · exact UInt64.le_iff_toNat_le.mpr (by omega)
      · refine le_of_lt <| Member.stamp_lt_iff.mpr <| .inl <| UInt64.lt_iff_toNat_lt.mpr (by omega)
      · omega
      · exact congrArg (· + 1) clock

theorem leave (h : Custody known b t) (hl : b.clock + t.leaveChanges < 2 ^ 64) :
    Tenure known b t.leaveChanges t.leave := by
  have quiet : Custody known b (t.setTimers .none) := h.speakNothing (.books rfl rfl rfl rfl)
  have exit {c : Badge} {u : Turn} (hu : Custody known c u) (hc : c.clock < 2 ^ 64 - 1) :
      Custody known ⟨c.id, c.clock + 1, .exiting, .exited⟩
        ((((u.setStatus .exiting).setPhase .exited).announce t.node.view).publish
          (some (.leaveCompleted u.node.self.id))) :=
    ((hu.setStatus hc).setPhase.announce).speakNothing .publish
  rw [Turn.leave]
  rw [leaveChanges] at hl ⊢
  cases hp : t.node.phase with
  | exited =>
    simp only [hp, if_true] at hl ⊢
    exact ⟨b, h, rfl, rfl, fun up => nomatch hp.symm.trans (h.phase_eq.trans up)⟩
  | joining =>
    simp only [hp] at hl
    have alone : (t.setTimers .none).announceLeave = t.setTimers .none :=
      if_neg (by simp [Node.isUp, Turn.setTimers, hp])
    rw [if_neg nofun, alone]
    exact ⟨_, exit quiet (by omega), rfl, rfl, nofun⟩
  | up =>
    simp only [hp] at hl
    have told : (t.setTimers .none).announceLeave =
        ((t.setTimers .none).setStatus .leaving).recordChange.broadcast :=
      if_pos (by simp [Node.isUp, Turn.setTimers, hp])
    have leaving : Custody known { b with clock := b.clock + 1, status := .leaving }
        ((t.setTimers .none).setStatus .leaving).recordChange.broadcast :=
      (quiet.setStatus (by omega)).recordChange.broadcast
    have left := exit leaving (show b.clock + 1 < 2 ^ 64 - 1 by omega)
    rw [if_neg nofun, told]
    exact ⟨_, left, rfl, rfl, nofun⟩

theorem forceDown (h : Custody known b t) {id : String} (ne : id ≠ b.id) :
    Custody known b (t.forceDown id) := by
  rw [Turn.forceDown]
  split
  case h_1 => exact h
  case h_2 w hw =>
    have removed : w = t.node.view.remove id := by rw [View.remove, hw]; rfl
    have := h.exchangeView (w := w) ?same ?bound ?sub
    case same => rw [removed, View.member?_remove, if_neg ne.symm]
    case bound => rw [removed, View.vectorBound_remove]
    case sub => exact removed ▸ View.imprints_remove_subset.trans view_subset_ledger
    exact (this.speakNothing .measure).recordChange.broadcast.announce

theorem triggerBroadcast (h : Custody known b t) : Custody known b t.triggerBroadcast := by
  rw [Turn.triggerBroadcast]
  split
  case isTrue => exact h.heartbeat.broadcast
  case isFalse => exact h

theorem updateState (h : Custody known b t) (hl : b.clock < 2 ^ 64 - 1) {state : Dict String} :
    Custody known { b with clock := b.clock + 1 } (t.updateState state) := by
  have status : t.node.self.status = b.status := congrArg Badge.status h.badge
  have renewed : Custody known { b with clock := b.clock + 1 }
      (((t.become { t.node.self with state := state }).setStatus t.node.self.status).recordChange) := by
    rw [status, ← h.clock_eq]
    refine recordChange (h.renew (m := { t.node.self with state := state }) ?_ ?_ ?_ ?_)
    · exact h.id
    · exact UInt64.le_refl _
    · exact le_rfl
    · exact h.clock_eq ▸ hl
  rw [Turn.updateState]
  dsimp only
  split
  case isTrue => exact renewed.broadcast.announce
  case isFalse => exact renewed.announce

theorem enroll (h : Custody known b t) (hm : m.imprint ∈ known) :
    Custody known b (t.setView (t.node.view.add m)) := by
  refine h.exchangeView ?_ View.vectorBound_add ?_
  · refine View.member?_add.trans <| if_neg fun newer => ?_
    have ⟨seen, own⟩ := h.coherent.own
    rw [h.id] at own
    rw [own] at newer
    exact h.not_newer (.inl hm) newer.1 (of_decide_eq_true newer.2)
  · refine View.imprints_add_subset.trans <| Set.union_subset view_subset_ledger ?_
    exact Set.singleton_subset_iff.mpr (.inl hm)

theorem welcome (h : Custody known b t) (hm : m.imprint ∈ known) : Custody known b (t.welcome e m) := by
  have enrolled := (h.enroll (m := { m with status := .up, lastSeen := t.now }) hm).recordChange
  rw [Turn.welcome]
  exact (enrolled.respond (by exact view_subset_ledger)).broadcast.announce

theorem receiveJoin (h : Custody known b t) (hm : m.imprint ∈ known) {token : String} :
    Custody known b (t.receiveJoin e m token) := by
  have checked : Custody known b (t.checkAdmission m token).1 := by
    rw [checkAdmission]
    split
    case h_1 => exact h
    case h_2 =>
      dsimp only
      split <;> exact h.speakNothing (.books rfl rfl rfl rfl)
  rw [Turn.receiveJoin]
  split
  case h_1 u error hc =>
    rw [hc] at checked
    exact (checked.speakNothing .measure).respond fun _ ⟨_, hp, _⟩ => nomatch hp
  case h_2 u _ hc =>
    rw [hc] at checked
    exact checked.welcome hm

end Custody

-- A node is not brought down by way of itself.
theorem ne_of_checkForceDown {n : Node} {id token : String} (ok : checkForceDown n id token = .ok ()) :
    id ≠ n.self.id := by
  intro e
  rw [checkForceDown, e] at ok
  cases hc : checkAdmin n "force_member_down" token <;> rw [hc] at ok
  · exact nomatch ok
  · simp [bind, Except.bind] at ok

theorem Tenure.respond (h : Tenure known b changes t) {answer : Message} (hm : answer.members = []) :
    Tenure known b changes (t.respond e answer) := by
  have ⟨c, custody, id, clock, hr⟩ := h
  refine ⟨c, custody.respond ?_, id, clock, hr⟩
  rw [hm]
  exact fun _ ⟨_, hp, _⟩ => nomatch hp

namespace Custody

theorem whenAllowed (h : Custody known b t) (hr : b.Regular) {check : Except Error Unit} {f : Turn → Turn}
    (ok : check = .ok () → Tenure known b changes (f t)) (refused : ∀ error, check = .error error → changes = 0) :
    Tenure known b changes (t.whenAllowed e check f) := by
  cases check with
  | ok => exact (ok rfl).respond rfl
  | error error => exact refused error rfl ▸ Tenure.respond (h.tenure hr) rfl

theorem receive (h : Custody known b t) (hr : b.Regular) (hi : Member.imprints e.message.members ⊆ known)
    (hl : b.clock + t.changes (.envelope e) < 2 ^ 64) :
    Tenure known b (t.changes (.envelope e)) (t.receive e) := by
  obtain ⟨sender, message, expectsReply⟩ := e
  cases message with
  | joinRequest joiner token =>
    have known : joiner.imprint ∈ known := hi <| Member.imprint_mem List.mem_cons_self
    exact (h.receiveJoin known).tenure hr
  | joinResponse v =>
    simp only [Turn.receive, receiveResponse, Turn.changes] at hl ⊢
    cases hp : t.node.phase with
    | joining => rw [hp] at hl; exact h.settleJoin hr hi hl
    | up => exact h.tenure hr
    | exited => exact h.tenure hr
  | gossip v => exact (h.receiveGossip hr hi).tenure hr
  | viewRequest => exact (h.respond (by exact view_subset_ledger)).tenure hr
  | leaveRequest => exact Tenure.respond (h.leave hl) rfl
  | forceDown id token =>
    change Tenure known b 0 (t.whenAllowed _ (checkForceDown t.node id token) (·.forceDown id))
    exact h.whenAllowed hr (fun ok => (h.forceDown <| h.id ▸ ne_of_checkForceDown ok).tenure hr) fun _ _ => rfl
  | triggerBroadcast token =>
    change Tenure known b 0 (t.whenAllowed _ (checkAdmin ..) (·.triggerBroadcast))
    exact h.whenAllowed hr (fun _ => h.triggerBroadcast.tenure hr) fun _ _ => rfl
  | updateState state =>
    change Tenure known b _ (t.whenAllowed _ (checkUpdate t.node sender) (·.updateState state))
    refine h.whenAllowed hr (fun ok => ?_) fun error refused => ?_
    · simp only [Turn.changes, ok] at hl ⊢
      exact ⟨_, h.updateState (by omega), rfl, rfl, hr⟩
    · simp only [Turn.changes, refused]
  | viewResponse | leaveAck | adminAck | rejected | user => exact h.tenure hr

theorem receiveOutcome (h : Custody known b t) (hr : b.Regular) {attempt : ℕ} {result : Except Error View}
    (hi : Member.imprints (Input.joinOutcome attempt result).members ⊆ known)
    (hl : b.clock + t.changes (.joinOutcome attempt result) < 2 ^ 64) :
    Tenure known b (t.changes (.joinOutcome attempt result)) (t.receiveOutcome attempt result) := by
  cases result with
  | error error =>
    change Tenure known b 0 _
    rw [Turn.receiveOutcome]
    split
    case h_1 =>
      split
      case isTrue => exact h.failJoin hr
      case isFalse => exact h.tenure hr
    case h_2 => exact h.tenure hr
  | ok v =>
    simp only [Turn.receiveOutcome, Turn.changes] at hl ⊢
    cases hp : t.node.phase with
    | up => exact h.tenure hr
    | exited => exact h.tenure hr
    | joining current =>
      simp only [hp] at hl ⊢
      split
      case isTrue same => rw [if_pos same] at hl; exact h.settleJoin hr hi hl
      case isFalse => exact h.tenure hr

theorem run (h : Custody known b t) (hr : b.Regular) {i : Input} (hi : Member.imprints i.members ⊆ known)
    (hl : b.clock + t.changes i < 2 ^ 64) : Tenure known b (t.changes i) (t.run i) := by
  cases i with
  | tick k => exact h.tick hr k
  | joinOutcome attempt result => exact h.receiveOutcome hr hi hl
  | recovered views =>
    refine (h.receiveRecovered fun v hv p ⟨m, hm, e⟩ => hi ⟨m, ?_, e⟩).tenure hr
    exact List.mem_flatMap.mpr ⟨v, hv, hm⟩
  | envelope e => exact h.receive hr hi hl

theorem bootstrap (h : Custody known b t) (hl : b.clock < 2 ^ 64 - 1) :
    Custody known ⟨b.id, b.clock + 1, .up, .up⟩ t.bootstrap := by
  have renewed : Custody known { b with clock := b.clock + 1, status := .up } (t.setStatus .up) :=
    h.setStatus hl
  rw [Turn.bootstrap]
  exact renewed.recordChange.enterUp.announce

theorem start (h : Custody known b t) (hl : b.clock + t.startChanges < 2 ^ 64) :
    Tenure known b t.startChanges t.start := by
  have same : Speaks ∅ t t.announceStatus := speaks_announceStatus
  have announced := h.speakNothing same
  have address : t.announceStatus.node.address = t.node.address := congrArg Member.address same.self
  rw [startChanges] at hl ⊢
  rw [Turn.start, same.host, address]
  split
  case isTrue seed =>
    rw [if_pos seed] at hl
    exact ⟨_, announced.bootstrap (by omega), rfl, rfl, fun _ => rfl⟩
  case isFalse => exact ⟨_, announced.beginJoin, rfl, rfl, nofun⟩

end Custody

end Turn

end GossipCluster
