import GossipCluster.Proofs.Node.Departure

namespace GossipCluster

-- An administrator has a member put out of the view.
def Node.Expels (n : Node) (i : Input) : Prop :=
  ∃ e id token, i = .envelope e ∧ e.message = .forceDown id token ∧
    Turn.checkForceDown n id token = .ok () ∧ n.view.contains id

namespace Turn

variable {t : Turn} {e : Envelope} {i : Input}

-- Whatever is said but gossip.
def talk : Set Message := {m | ∀ v, m ≠ .gossip v}

theorem viewResponse_mem_talk {n : Node} : n.viewResponse ∈ talk := nofun

theorem leaveAck_mem_talk : .leaveAck ∈ talk := nofun

theorem speaks_whenAllowed {check : Except Error Unit} {f : Turn → Turn}
    (done : check = .ok () → Speaks talk t (f t)) : Speaks talk t (t.whenAllowed e check f) := by
  cases check with
  | ok => exact (done rfl).trans (.respond nofun)
  | error => exact .respond nofun

section

variable (exited : t.node.phase = .exited)
include exited

theorem not_up_of_exited : t.node.isUp = false := by simp [Node.isUp, exited]

theorem tick_of_exited (k : Tick) : t.tick k = t := by
  have down := not_up_of_exited exited
  cases k with
  | gossip | crossGossip | failureDetection => exact if_neg (by simp [down])
  | joinRetry => simp [tick, retryJoin, exited]

theorem speaks_receiveJoin_of_exited {joiner : Member} {token : String} :
    Speaks talk t (t.receiveJoin e joiner token) := by
  obtain ⟨error, refused⟩ := not_admitted_of_not_up joiner token (not_up_of_exited exited)
  obtain ⟨limiter, checked, _⟩ := checkAdmission_fst t joiner token
  rw [receiveJoin_of_refused refused, checked]
  have books : Speaks talk t (t.setLimiter limiter) := .books rfl rfl rfl rfl
  exact books.trans <| .trans .measure <| .respond nofun

theorem speaks_receiveGossip_of_exited {v : View} : Speaks talk t (t.receiveGossip e v) := by
  rw [receiveGossip]
  split
  case h_1 =>
    split
    case isTrue => exact .emit (by simp [Effect.messages, talk, Message.ofError])
    case isFalse => exact .refl _ t
  case h_2 =>
    rw [if_neg (by simp [not_up_of_exited exited])]
    exact .refl _ t

theorem speaks_receive_of_exited (spared : ¬t.node.Expels (.envelope e)) : Speaks talk t (t.receive e) := by
  obtain ⟨sender, message, expectsReply⟩ := e
  cases message with
  | joinRequest => exact speaks_receiveJoin_of_exited exited
  | joinResponse v =>
    have same : t.receiveResponse v = t := by simp [receiveResponse, exited]
    exact (congrArg (Speaks talk t) same).mpr (.refl _ t)
  | gossip => exact speaks_receiveGossip_of_exited exited
  | viewRequest => exact .respond viewResponse_mem_talk
  | leaveRequest =>
    have same : t.leave = t := if_pos exited
    simp only [receive, same]
    exact .respond leaveAck_mem_talk
  | forceDown id token =>
    refine speaks_whenAllowed (f := (·.forceDown id)) fun ok => ?_
    have unknown : t.node.view.member? id = none := by
      by_contra known
      exact spared ⟨_, id, token, rfl, rfl, ok, View.contains_iff.mpr (Option.ne_none_iff_exists'.mp known)⟩
    have same : t.forceDown id = t := by simp [forceDown, View.remove?, unknown]
    exact (congrArg (Speaks talk t) same).mpr (.refl _ t)
  | triggerBroadcast =>
    refine speaks_whenAllowed (f := (·.triggerBroadcast)) fun _ => ?_
    have same : t.triggerBroadcast = t := if_neg (by simp [not_up_of_exited exited])
    exact (congrArg (Speaks talk t) same).mpr (.refl _ t)
  | updateState state =>
    refine speaks_whenAllowed (f := (·.updateState state)) fun ok => ?_
    simp [checkUpdate, exited, ite_error_eq_ok_iff] at ok
  | viewResponse | leaveAck | adminAck | rejected | user => exact .refl _ t

theorem speaks_run_of_exited (spared : ¬t.node.Expels i) : Speaks talk t (t.run i) := by
  cases i with
  | tick k =>
    rw [run, tick_of_exited exited]
    exact .refl _ t
  | joinOutcome attempt result =>
    have same : t.receiveOutcome attempt result = t := by simp [receiveOutcome, exited]
    rw [run, same]
    exact .refl _ t
  | recovered views =>
    rw [run, receiveRecovered, if_pos (by simp [Node.isUp, exited])]
    exact .books rfl rfl rfl rfl
  | envelope e => exact speaks_receive_of_exited exited spared

end

-- Whoever is put out of the view is out of it when the turn is over, whether or not the node has left.
theorem not_contains_run_of_expels {id token : String} (h : e.message = .forceDown id token)
    (ok : checkForceDown t.node id token = .ok ()) (known : t.node.view.contains id) :
    ¬(t.run (.envelope e)).node.view.contains id := by
  rw [(quiet_expel h ok known).view, View.contains_iff, member?_recordChange]
  rintro ⟨m, hm⟩
  rw [setView, View.member?_remove, if_pos rfl] at hm
  cases hm

end Turn

namespace Node

variable {n : Node} {host : Host} {i : Input}

theorem members_step_ne_of_expels (h : n.Expels i) : (n.step host i).1.view.members ≠ n.view.members := by
  obtain ⟨e, id, token, rfl, message, ok, known⟩ := h
  intro same
  have gone : ¬(n.step host (.envelope e)).1.view.contains id :=
    Turn.not_contains_run_of_expels (t := ⟨host, n, []⟩) message ok known
  rw [View.contains, same] at gone
  exact gone known

theorem silent_once_left {config : Config} {now : Timestamp} {instant : Instant} (host : Host)
    (created : Node.create config now instant = .ok (some n)) (before : List Happening) (host' : Host)
    {e : Envelope} (leave : e.message = .leaveRequest) (later : List Happening) :
    let m := (((n.start host).1.live before).meet (.input host' (.envelope e))).live later
    m.phase = .exited ∧ ∀ host'' i,
      ((m.step host'' i).1.view.members ≠ m.view.members ↔ m.Expels i) ∧
      (¬m.Expels i → (m.step host'' i).1.view = m.view ∧
        ∀ targets v, .send targets (.gossip v) ∉ (m.step host'' i).2) := by
  intro m
  have exited : m.phase = .exited := by
    have orderly := ((fresh_of_create created).start host).2.live before
    refine (orderly.meet _).2.exited ?_ later
    have left := Turn.phase_leave (t := ⟨host', (n.start host).1.live before, []⟩)
    simpa [Node.meet, Node.step, Turn.run, Turn.receive, leave] using left
  refine ⟨exited, fun host'' i => ?_⟩
  have speaks (spared : ¬m.Expels i) := Turn.speaks_run_of_exited (t := ⟨host'', m, []⟩) exited spared
  refine ⟨⟨fun changed => ?_, members_step_ne_of_expels⟩, fun spared => ⟨(speaks spared).view, ?_⟩⟩
  case refine_1 =>
    by_contra spared
    exact changed (congrArg View.members (speaks spared).view)
  case refine_2 =>
    intro targets v sent
    rcases (speaks spared).effects _ sent with before | talks
    · cases before
    · exact talks _ (List.mem_singleton.mpr rfl) v rfl

-- A node leaves after it has founded a cluster. Gossip of a new member comes late.
theorem silent_once_left_news : ∃ (n : Node) (host : Host) (e : Envelope) (news : View),
    let left := (n.start host).1.meet (.input host (.envelope ⟨none, .leaveRequest, true⟩))
    e.message = .gossip news ∧ news.contains "z" ∧ (n.start host).1.phase = .up ∧ left.phase = .exited ∧
      (left.step host (.envelope e)).1.view = left.view ∧
      ∀ targets v, .send targets (.gossip v) ∉ (left.step host (.envelope e)).2 := by
  let config : Config :=
    { node := { id := "a", address := "a:1" }, failure := { crossTimeout := some (.ofMillis 200) } }
  let host : Host := ⟨0, 0, ⟨[], []⟩, fun _ targets => targets, []⟩
  let news : View := (View.new "" 0 0).add { Member.starting "z" "meshwork" "z:1" 0 with status := .up }
  have ⟨n, created⟩ : ∃ n, Node.create config 0 0 = .ok (some n) := ⟨_, rfl⟩
  have up : (n.start host).1.phase = .up := by
    simp only [Node.start]
    exact Turn.phase_start rfl
  have known : news.contains "z" := by decide +kernel
  have left := silent_once_left host created [] host (e := ⟨none, .leaveRequest, true⟩) rfl []
  simp only [live, List.foldl_nil] at left
  obtain ⟨exited, silent⟩ := left
  refine ⟨n, host, ⟨none, .gossip news, false⟩, news, rfl, known, up, exited, ?_⟩
  refine (silent host (.envelope ⟨none, .gossip news, false⟩)).2 ?_
  rintro ⟨e, id, token, he, message, _⟩
  cases he
  cases message

-- An administrator puts a member out of the view of a node that has left, and the node tells the other one.
theorem gossips_once_left : ∃ (n : Node) (host : Host) (news : View) (e : Envelope),
    let m := ((n.start host).1.meet (.input host (.envelope ⟨none, .gossip news, false⟩))).meet
      (.input host (.envelope ⟨none, .leaveRequest, true⟩))
    let after := m.step host (.envelope e)
    n.config.validate = .ok () ∧ m.phase = .exited ∧ m.view.memberIds = ["a", "y", "z"] ∧ after.1.view.memberIds = ["a", "y"] ∧
      .send [.node "y:1"] (.gossip after.1.view) ∈ after.2 := by
  let config : Config :=
    { node := { id := "a", address := "a:1" }, failure := { crossTimeout := some (.ofMillis 200) } }
  let host : Host := ⟨0, 0, ⟨[], []⟩, fun _ targets => targets, []⟩
  let other (id : String) : Member := { Member.starting id "meshwork" (id ++ ":1") 0 with status := .up }
  let news : View := ((View.new "" 0 0).add (other "y")).add (other "z")
  let e : Envelope := ⟨none, .forceDown "z" "", true⟩
  have ⟨n, _, facts⟩ : ∃ n, Node.create config 0 0 = .ok (some n) ∧
      let m := ((n.start host).1.meet (.input host (.envelope ⟨none, .gossip news, false⟩))).meet
        (.input host (.envelope ⟨none, .leaveRequest, true⟩))
      let after := m.step host (.envelope e)
      n.config.validate = .ok () ∧ m.phase = .exited ∧ m.view.memberIds = ["a", "y", "z"] ∧ after.1.view.memberIds = ["a", "y"] ∧
        .send [.node "y:1"] (.gossip after.1.view) ∈ after.2 :=
    ⟨_, rfl, by decide +kernel⟩
  exact ⟨n, host, news, e, facts⟩

end Node

end GossipCluster
