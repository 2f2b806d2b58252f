import GossipCluster.Proofs.Gossip.Selection
import GossipCluster.Proofs.Node.Life

namespace GossipCluster

-- The name of a node's cluster, where the node is, and where nobody is of another name.
structure Realm where
  name      : String
  seat      : String
  addresses : Set String
  seated    : seat ∈ addresses

def Realm.natives (r : Realm) : Set Member := {m | m.cluster = r.name ∧ m.address ∈ r.addresses}

-- Where a member belongs.
def Member.site (m : Member) : String × String := (m.cluster, m.address)

structure Node.Resides (r : Realm) (n : Node) : Prop where
  name : n.config.clusterName = r.name
  self : n.self.site = (r.name, r.seat)
  view : n.view.imprints ⊆ r.natives

-- Nothing is said of others than natives, and gossip goes to natives only. A view is an answer to everyone who asks
-- for it, but those who are let in are `friends`.
def Effect.Discreet (r : Realm) (friends : Prop) : Effect → Prop
  | .send targets (.gossip v) => v.imprints ⊆ r.natives ∧ ∀ x ∈ targets, x.address ∈ r.addresses
  | .send _ (.joinRequest ..) | .send _ (.joinResponse _) => False
  | .reply (.joinResponse v) => v.imprints ⊆ r.natives ∧ friends
  | .reply (.viewResponse v ..) => v.imprints ⊆ r.natives
  | .join _ self _ => self ∈ r.natives
  | _ => True

-- Nobody but natives comes in. Of those who want to join this is asked only if they have the right name, and of what
-- a search has found only if the node is up.
def Input.Harmless (r : Realm) (friends : Prop) (n : Node) : Input → Prop
  | .joinOutcome _ (.ok v) => v.imprints ⊆ r.natives
  | .recovered views => n.isUp → ∀ v ∈ views, v.imprints ⊆ r.natives
  | .envelope e => match e.message with
    | .gossip v | .joinResponse v => v.imprints ⊆ r.natives
    | .joinRequest joiner _ => joiner.cluster = r.name → joiner ∈ r.natives ∧ friends ∧ e.expectsReply
    | _ => True
  | _ => True

namespace Turn

structure Secluded (r : Realm) (friends : Prop) (t : Turn) : Prop where
  resides : t.node.Resides r
  said    : ∀ e ∈ t.effects, e.Discreet r friends

variable {r : Realm} {friends : Prop} {t u : Turn} {e : Envelope} {m : Member} {v incoming : View} {i : Input}
  {status : Status} {sender : Option Endpoint}

theorem mem_natives_of_site (h : m.site = (r.name, r.seat)) : m ∈ r.natives := by
  obtain ⟨cluster, address⟩ := Prod.mk.inj h
  exact ⟨cluster, address ▸ r.seated⟩

theorem address_of_granted {addresses : List String} {p : Turn × List Endpoint} {x : Endpoint}
    (h : x ∈ (addresses.foldl grant p).2) : x ∈ p.2 ∨ x.address ∈ addresses := by
  induction addresses generalizing p with
  | nil => exact .inl h
  | cons a addresses ih =>
    rcases ih h with granted | later
    · rw [grant] at granted
      dsimp only at granted
      split at granted
      case isTrue =>
        refine (List.mem_append.mp granted).imp_right fun last => ?_
        exact List.mem_singleton.mp last ▸ List.mem_cons_self
      case isFalse => exact .inl granted
    · exact .inr (List.mem_cons_of_mem a later)

-- A new incarnation is where the old one has been.
theorem site_of_supersede {prior n : Member} {now : Timestamp} (h : m.supersede prior now = .ok n) :
    n.site = m.site := by
  have profile : n.profile = m.profile := (Member.supersede_eq h).2.1
  exact congrArg (fun p => (p.1, p.2.1)) profile

theorem Supersedes.site (h : t.Supersedes m) : m.site = t.node.self.site :=
  have ⟨_, _, _, superseded⟩ := h
  site_of_supersede superseded

theorem site_of_entrant (h : entrant t.node.self v t.now = .ok m) : m.site = t.node.self.site := by
  rcases entrant_cases h with same | ⟨_, _, superseded⟩
  · rw [same]
  · exact site_of_supersede superseded

namespace Secluded

theorem self (h : Secluded r friends t) : t.node.self ∈ r.natives := mem_natives_of_site h.resides.self

theorem emit (h : Secluded r friends t) {x : Effect} (discreet : x.Discreet r friends) :
    Secluded r friends (t.emit x) := by
  refine ⟨h.resides, fun y hy => ?_⟩
  rcases List.mem_append.mp hy with old | new
  · exact h.said y old
  · exact List.mem_singleton.mp new ▸ discreet

-- What carries no message concerns nobody else.
theorem silent (h : Secluded r friends t) (s : Speaks ∅ t u) : Secluded r friends u := by
  obtain ⟨name, self, view⟩ := h.resides
  refine ⟨⟨s.config ▸ name, s.self ▸ self, s.view ▸ view⟩, fun x hx => ?_⟩
  rcases s.effects x hx with old | new
  · exact h.said x old
  · cases x with
    | send | reply | join => exact absurd (new _ List.mem_cons_self) (Set.notMem_empty _)
    | _ => trivial

theorem announce (h : Secluded r friends t) {before : View} : Secluded r friends (t.announce before) :=
  h.silent speaks_announce

theorem send (h : Secluded r friends t) {targets : List Endpoint} {x : Message}
    (discreet : (Effect.send targets x).Discreet r friends) : Secluded r friends (t.send targets x) := by
  rw [Turn.send]
  split
  case isTrue => exact h
  case isFalse => exact h.emit discreet

theorem respond (h : Secluded r friends t) {x : Message} (answer : (Effect.reply x).Discreet r friends)
    (told : e.expectsReply = false → ∀ sender, (Effect.send [sender] x).Discreet r friends) :
    Secluded r friends (t.respond e x) := by
  rw [Turn.respond]
  split
  case h_1 => exact h.emit answer
  case h_2 sender unawaited _ => exact h.send (told unawaited sender)
  case h_3 => exact h

theorem sendGossip (h : Secluded r friends t) {addresses : List String} (near : ∀ a ∈ addresses, a ∈ r.addresses) :
    Secluded r friends (t.sendGossip addresses) := by
  let granted := addresses.foldl grant (t, [])
  have kept : Secluded r friends granted.1 :=
    h.silent (.foldl Prod.fst (fun _ _ => speaks_grant) (t, []) addresses)
  have discreet : (Effect.send granted.2 (.gossip granted.1.node.view)).Discreet r friends :=
    ⟨kept.resides.view, fun x hx => near _ <| (address_of_granted hx).resolve_left nofun⟩
  refine silent (send ?_ discreet) .measure
  exact kept.silent (.books rfl rfl rfl rfl)

theorem address_of_member (h : Secluded r friends t) (known : m ∈ t.node.view.members.rows) :
    m.address ∈ r.addresses := (h.resides.view (Member.imprint_mem known)).2

theorem broadcast (h : Secluded r friends t) {skip : Option String} : Secluded r friends (t.broadcast skip) := by
  refine h.sendGossip fun a ha => ?_
  obtain ⟨m, told, rfl⟩ := List.mem_map.mp ha
  exact h.address_of_member (List.mem_filter.mp told).1

theorem setView (h : Secluded r friends t) (hv : v.imprints ⊆ r.natives) : Secluded r friends (t.setView v) :=
  ⟨⟨h.resides.name, h.resides.self, hv⟩, h.said⟩

theorem setPhase (h : Secluded r friends t) {phase : Phase} : Secluded r friends (t.setPhase phase) :=
  ⟨⟨h.resides.name, h.resides.self, h.resides.view⟩, h.said⟩

theorem become (h : Secluded r friends t) (same : m.site = t.node.self.site) : Secluded r friends (t.become m) :=
  ⟨⟨h.resides.name, same.trans h.resides.self, h.resides.view⟩, h.said⟩

theorem add (h : Secluded r friends t) (native : m ∈ r.natives) : (t.node.view.add m).imprints ⊆ r.natives := by
  refine View.imprints_add_subset.trans <| Set.union_subset h.resides.view ?_
  exact Set.singleton_subset_iff.mpr native

theorem setSelf (h : Secluded r friends t) (same : m.site = t.node.self.site) : Secluded r friends (t.setSelf m) :=
  (h.become (m := { m with lastSeen := t.now }) same).setView <|
    h.add (m := { m with lastSeen := t.now }) (mem_natives_of_site (same.trans h.resides.self))

theorem setStatus (h : Secluded r friends t) : Secluded r friends (t.setStatus status) := h.setSelf rfl

theorem recordChange (h : Secluded r friends t) : Secluded r friends t.recordChange := by
  rw [Turn.recordChange]
  split
  case h_1 counted => exact h.setView ((View.imprints_recordChange counted).trans_subset h.resides.view)
  case h_2 => exact h

theorem enterUp (h : Secluded r friends t) : Secluded r friends t.enterUp :=
  h.setPhase.silent (.books rfl rfl rfl rfl)

theorem heartbeat (h : Secluded r friends t) : Secluded r friends t.heartbeat :=
  ⟨⟨h.resides.name, h.resides.self, View.imprints_touch.trans_subset h.resides.view⟩, h.said⟩

theorem reassert (h : Secluded r friends t) : Secluded r friends t.reassert := by
  rcases t.reassert_cases with same | present | ⟨self, supersedes, eq⟩
  · rwa [same]
  · rw [present]
    exact h.setSelf rfl
  · rw [eq]
    exact (h.setSelf supersedes.site).recordChange

theorem attend (h : Secluded r friends t) : Secluded r friends (t.attend sender incoming).1 := by
  cases sender with
  | none => exact h
  | some => exact (h.setView (View.imprints_revive.trans_subset h.resides.view)).silent (.books rfl rfl rfl rfl)

theorem forget (h : Secluded r friends t) : Secluded r friends (t.forget incoming) := by
  refine silent (h.setView ?_) .measure
  rw [View.without_eq]
  exact View.imprints_removeAll_subset.trans h.resides.view

theorem learn (h : Secluded r friends t) (hv : incoming.imprints ⊆ r.natives) :
    Secluded r friends (t.learn incoming).1 := by
  rw [learn_fst]
  refine h.forget.setView <| View.imprints_merge_subset.trans <| Set.union_subset h.forget.resides.view ?_
  rw [View.without_eq]
  exact View.imprints_removeAll_subset.trans hv

theorem learnAll (h : Secluded r friends t) {views : List View} (hv : ∀ v ∈ views, v.imprints ⊆ r.natives) :
    Secluded r friends (t.learnAll views).1 := by
  rw [Turn.learnAll]
  generalize false = changed
  induction views generalizing t changed with
  | nil => exact h
  | cons v views ih =>
    exact ih (h.learn <| hv v List.mem_cons_self) (fun w hw => hv w <| List.mem_cons_of_mem v hw) _

theorem conclude (h : Secluded r friends t) {changed revived : Bool} :
    Secluded r friends (t.conclude v changed revived) := by
  have told : Secluded r friends (if changed then t.reassert.broadcast else t.reassert) := by
    split
    case isTrue => exact h.reassert.broadcast
    case isFalse => exact h.reassert
  rw [Turn.conclude]
  split
  case isTrue => exact told.announce
  case isFalse => exact told

theorem receiveGossip (h : Secluded r friends t) (hv : incoming.imprints ⊆ r.natives) :
    Secluded r friends (t.receiveGossip e incoming) := by
  rw [Turn.receiveGossip]
  split
  case h_1 =>
    split
    case isTrue => exact h.emit trivial
    case isFalse => exact h
  case h_2 =>
    split
    case isTrue => exact (h.attend.learn hv).conclude
    case isFalse => exact h

theorem receiveRecovered (h : Secluded r friends t) {views : List View}
    (hv : t.node.isUp → ∀ v ∈ views, v.imprints ⊆ r.natives) : Secluded r friends (t.receiveRecovered views) := by
  have idle : Secluded r friends { t with node := { t.node with recovering := false } } :=
    h.silent (.books rfl rfl rfl rfl)
  rw [Turn.receiveRecovered]
  dsimp only
  split
  case isTrue => exact idle
  case isFalse some =>
    have up : t.node.isUp := by simp_all [Node.isUp]
    exact (idle.learnAll (hv up)).conclude

-- Only here does a node speak to those whom it knows by their address alone.
theorem gossipRound (h : Secluded r friends t) (near : ∀ a ∈ t.host.seeds.addresses, a ∈ r.addresses) :
    Secluded r friends t.gossipRound := by
  have beat : Secluded r friends t.heartbeat.retainPeers := h.heartbeat.silent (.books rfl rfl rfl rfl)
  rw [Turn.gossipRound]
  split
  case h_2 => exact beat.silent (.emitNothing rfl)
  case h_1 addresses chosen =>
    refine beat.sendGossip fun a ha => ?_
    obtain ⟨targets, selected, rfl⟩ := Option.map_eq_some_iff.mp chosen
    obtain ⟨target, mem, rfl⟩ := List.mem_map.mp (List.mem_filter.mp ha).1
    rcases Selector.near_of_mem_select selected mem with ⟨m, known, same⟩ | ⟨seed, configured, same⟩
    · exact same ▸ beat.address_of_member known
    · exact same ▸ near _ (List.mem_map.mpr ⟨seed, configured, rfl⟩)

theorem crossRound (h : Secluded r friends t) : Secluded r friends t.crossRound := by
  refine h.heartbeat.sendGossip fun a ha => ?_
  obtain ⟨target, mem, rfl⟩ := List.mem_map.mp ha
  rcases Selector.near_of_mem_selectRemote mem with ⟨m, known, same⟩ | ⟨_, none, _⟩
  · exact same ▸ h.heartbeat.address_of_member known
  · exact nomatch none

theorem applyDetection (h : Secluded r friends t) {d : Detection} : Secluded r friends (t.applyDetection d) := by
  rw [Turn.applyDetection]
  split
  case isTrue => exact h
  case isFalse =>
    have applied : Secluded r friends (t.setView (removeAll (suspectAll t.node.view d.suspect) d.remove)) :=
      h.setView <| View.imprints_removeAll_subset.trans <| View.imprints_suspectAll.trans_subset h.resides.view
    exact (applied.silent .measure).recordChange.broadcast.announce

theorem startRecovery (h : Secluded r friends t) : Secluded r friends t.startRecovery := by
  rw [Turn.startRecovery]
  dsimp only
  split
  case isTrue => exact h
  case isFalse => exact h.silent <| .after (.emitNothing rfl) (.books rfl rfl rfl rfl)

theorem detectFailures (h : Secluded r friends t) : Secluded r friends t.detectFailures := by
  rw [Turn.detectFailures]
  dsimp only
  split
  case h_1 => exact h.heartbeat.silent (.emitNothing rfl)
  case h_2 d _ =>
    split
    case isTrue => exact h.heartbeat.applyDetection
    case isFalse => exact h.heartbeat.applyDetection.startRecovery

theorem beginJoin (h : Secluded r friends t) {attempt : ℕ} : Secluded r friends (t.beginJoin attempt) :=
  h.setPhase.emit h.self

theorem tick (h : Secluded r friends t) (near : t.node.isUp → ∀ a ∈ t.host.seeds.addresses, a ∈ r.addresses)
    (k : Tick) : Secluded r friends (t.tick k) := by
  have whenUp {f : Turn → Turn} (hf : t.node.isUp → Secluded r friends (f t)) :
      Secluded r friends (if t.node.isUp then f t else t) := by
    split
    case isTrue up => exact hf up
    case isFalse => exact h
  cases k with
  | gossip => exact whenUp fun up => h.gossipRound (near up)
  | crossGossip => exact whenUp fun _ => h.crossRound
  | failureDetection => exact whenUp fun _ => h.detectFailures
  | joinRetry =>
    change Secluded r friends t.retryJoin
    rw [retryJoin]
    split
    case h_1 => exact h.beginJoin
    case h_2 => exact h

theorem failJoin (h : Secluded r friends t) {attempt : ℕ} : Secluded r friends (t.failJoin attempt) := by
  rw [Turn.failJoin]
  split
  case h_1 => exact h.silent (.emitNothing rfl)
  case h_2 =>
    have failed : Secluded r friends (t.setPhase (.joining (Phase.nextAttempt attempt) false)) := h.setPhase
    exact failed.silent (.books rfl rfl rfl rfl)

theorem settleJoin (h : Secluded r friends t) (hv : v.imprints ⊆ r.natives) {attempt : ℕ} :
    Secluded r friends (t.settleJoin attempt (.ok v)) := by
  rw [Turn.settleJoin]
  split
  case h_1 => exact h.failJoin
  case h_2 self entered =>
    rw [completeJoin]
    exact ((h.become (site_of_entrant entered)).learn hv).setStatus.recordChange.enterUp.broadcast.announce

theorem receiveOutcome (h : Secluded r friends t) {attempt : ℕ} {result : Except Error View}
    (hv : ∀ v, result = .ok v → v.imprints ⊆ r.natives) : Secluded r friends (t.receiveOutcome attempt result) := by
  rw [Turn.receiveOutcome]
  split
  case h_2 => exact h
  case h_1 =>
    split
    case isFalse => exact h
    case isTrue =>
      cases result with
      | error => exact h.failJoin
      | ok v => exact h.settleJoin (hv v rfl)

theorem receiveResponse (h : Secluded r friends t) (hv : v.imprints ⊆ r.natives) :
    Secluded r friends (t.receiveResponse v) := by
  rw [Turn.receiveResponse]
  split
  case h_1 => exact h.settleJoin hv
  case h_2 => exact h

theorem welcome (h : Secluded r friends t) (native : m ∈ r.natives) (friend : friends) (awaited : e.expectsReply) :
    Secluded r friends (t.welcome e m) := by
  have enrolled : Secluded r friends
      (t.setView (t.node.view.add { m with status := .up, lastSeen := t.now })).recordChange :=
    (h.setView (h.add (m := { m with status := .up, lastSeen := t.now }) native)).recordChange
  have answer {w : View} (hw : w.imprints ⊆ r.natives) : (Effect.reply (.joinResponse w)).Discreet r friends :=
    ⟨hw, friend⟩
  rw [Turn.welcome]
  refine (enrolled.respond (answer enrolled.resides.view) fun unawaited => ?_).broadcast.announce
  simp [unawaited] at awaited

-- The one place where the name is checked.
theorem receiveJoin (h : Secluded r friends t) {token : String}
    (harmless : m.cluster = r.name → m ∈ r.natives ∧ friends ∧ e.expectsReply) :
    Secluded r friends (t.receiveJoin e m token) := by
  have checked : Secluded r friends (t.checkAdmission m token).1 := by
    obtain ⟨limiter, eq, _⟩ := checkAdmission_fst t m token
    rw [eq]
    exact h.silent (.books rfl rfl rfl rfl)
  cases admitted : (t.checkAdmission m token).2 with
  | error =>
    rw [receiveJoin_of_refused admitted]
    exact respond (checked.silent .measure) trivial fun _ _ => trivial
  | ok =>
    obtain ⟨native, friend, awaited⟩ := harmless <| (accredits_of_admitted admitted).cluster.trans h.resides.name
    rw [Turn.receiveJoin]
    split
    case h_1 hc => cases (congrArg Prod.snd hc).symm.trans admitted
    case h_2 hc =>
      rw [hc] at checked
      exact checked.welcome native friend awaited

theorem leave (h : Secluded r friends t) : Secluded r friends t.leave := by
  have idle : Secluded r friends (t.setTimers .none) := h.silent (.books rfl rfl rfl rfl)
  have told : Secluded r friends (t.setTimers .none).announceLeave := by
    rw [announceLeave]
    split
    case isTrue => exact idle.setStatus.recordChange.broadcast
    case isFalse => exact idle
  rw [Turn.leave]
  split
  case isTrue => exact h
  case isFalse => exact told.setStatus.setPhase.announce.silent .publish

theorem forceDown (h : Secluded r friends t) {id : String} : Secluded r friends (t.forceDown id) := by
  rw [Turn.forceDown]
  split
  case h_1 => exact h
  case h_2 w removed =>
    have eq : w = t.node.view.remove id := by rw [View.remove, removed]; rfl
    have without := h.setView (eq ▸ View.imprints_remove_subset.trans h.resides.view)
    exact (without.silent .measure).recordChange.broadcast.announce

theorem triggerBroadcast (h : Secluded r friends t) : Secluded r friends t.triggerBroadcast := by
  rw [Turn.triggerBroadcast]
  split
  case isTrue => exact h.heartbeat.broadcast
  case isFalse => exact h

theorem updateState (h : Secluded r friends t) {state : Dict String} : Secluded r friends (t.updateState state) := by
  have rewritten : Secluded r friends (t.become { t.node.self with state := state }) := h.become rfl
  rw [Turn.updateState]
  dsimp only
  split
  case isTrue => exact rewritten.setStatus.recordChange.broadcast.announce
  case isFalse => exact rewritten.setStatus.recordChange.announce

theorem whenAllowed (h : Secluded r friends t) {check : Except Error Unit} {f : Turn → Turn}
    (done : Secluded r friends (f t)) : Secluded r friends (t.whenAllowed e check f) := by
  cases check with
  | ok => exact done.respond trivial fun _ _ => trivial
  | error => exact h.respond trivial fun _ _ => trivial

theorem receive (h : Secluded r friends t) (harmless : (Input.envelope e).Harmless r friends t.node) :
    Secluded r friends (t.receive e) := by
  obtain ⟨sender, message, expectsReply⟩ := e
  cases message with
  | joinRequest => exact h.receiveJoin harmless
  | joinResponse => exact h.receiveResponse harmless
  | gossip => exact h.receiveGossip harmless
  | viewRequest => exact h.respond h.resides.view fun _ _ => trivial
  | leaveRequest => exact h.leave.respond trivial fun _ _ => trivial
  | forceDown => exact h.whenAllowed (f := (·.forceDown _)) h.forceDown
  | triggerBroadcast => exact h.whenAllowed (f := (·.triggerBroadcast)) h.triggerBroadcast
  | updateState => exact h.whenAllowed (f := (·.updateState _)) h.updateState
  | viewResponse | leaveAck | adminAck | rejected | user => exact h

theorem run (h : Secluded r friends t) (near : t.node.isUp → ∀ a ∈ t.host.seeds.addresses, a ∈ r.addresses)
    (harmless : i.Harmless r friends t.node) : Secluded r friends (t.run i) := by
  cases i with
  | tick k => exact h.tick near k
  | joinOutcome attempt result =>
    refine h.receiveOutcome fun v ok => ?_
    subst ok
    exact harmless
  | recovered views => exact h.receiveRecovered harmless
  | envelope e => exact h.receive harmless

theorem start (h : Secluded r friends t) : Secluded r friends t.start := by
  rw [Turn.start]
  have announced : Secluded r friends t.announceStatus := h.silent speaks_announceStatus
  split
  case isTrue =>
    rw [bootstrap]
    exact announced.setStatus.recordChange.enterUp.announce
  case isFalse => exact announced.beginJoin

end Secluded

end Turn

end GossipCluster
