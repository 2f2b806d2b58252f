import GossipCluster.Proofs.Node.Halt

namespace GossipCluster

-- The number of the attempt that the host of a node begins for it.
def Effect.attempt? : Effect → Option ℕ
  | .join attempt .. => some attempt
  | _ => none

-- What moves a node on while it is joining.
inductive Input.Awaited : Phase → Input → Prop
  | outcome {attempt inFlight result} : Awaited (.joining attempt inFlight) (.joinOutcome attempt result)
  | retry {attempt} : Awaited (.joining attempt false) (.tick .joinRetry)

namespace Turn

variable {t u w : Turn} {e : Envelope} {i : Input} {attempt : ℕ} {result : Except Error View}

-- What a turn makes of the efforts to join. What has been awaited is never without consequence.
inductive Strives (t : Turn) (i : Input) (u : Turn) : Prop
  | same : ¬i.Awaited t.node.phase → u.node.phase = t.node.phase →
      u.node.timers.joinRetry = t.node.timers.joinRetry → Strives t i u
  | begins (number : ℕ) : u.node.phase = .joining number true → number ∈ u.effects.filterMap Effect.attempt? →
      Strives t i u
  | waits (number : ℕ) : u.node.phase = .joining number false → u.node.timers.joinRetry.isSome → Strives t i u
  | ends : (∀ number inFlight, u.node.phase ≠ .joining number inFlight) → Strives t i u

theorem begun_beginJoin : attempt ∈ (t.beginJoin attempt).effects.filterMap Effect.attempt? := by
  simp [beginJoin, emit, Effect.attempt?]

theorem phase_completeJoin {m : Member} {v : View} : (t.completeJoin m v).node.phase = .up := by
  rw [quiet_completeJoin.phase, enterUp]
  rfl

namespace Strives

theorem failJoin (told : ¬t.node.config.join.backoff.Overdrawn attempt (t.host.words.headD 0)) :
    Strives t i (t.failJoin attempt) := by
  obtain ⟨delay, _, later⟩ := failJoin_of_not_overdrawn told
  rw [later]
  exact .waits _ rfl rfl

theorem receiveOutcome (succeeds : ∀ inFlight, t.node.phase = .joining attempt inFlight →
    ¬t.node.Fails attempt (.joinOutcome attempt result)) :
    Strives t (.joinOutcome attempt result) (t.receiveOutcome attempt result) := by
  by_cases stale : ∀ inFlight, t.node.phase ≠ .joining attempt inFlight
  case pos =>
    rw [receiveOutcome_of_stale stale]
    refine .same (fun awaited => ?_) rfl rfl
    generalize t.node.phase = phase at stale awaited
    obtain @⟨_, inFlight⟩ := awaited
    exact stale inFlight rfl
  case neg =>
    push Not at stale
    obtain ⟨inFlight, joining⟩ := stale
    obtain ⟨self, view, entered⟩ := receiveOutcome_of_not_fails joining (succeeds inFlight joining)
    rw [entered]
    exact .ends (by simp [phase_completeJoin])

theorem retryJoin : Strives t (.tick .joinRetry) t.retryJoin := by
  rw [Turn.retryJoin]
  split
  case h_1 attempt _ => exact .begins attempt rfl begun_beginJoin
  case h_2 idle =>
    refine .same (fun awaited => ?_) rfl rfl
    generalize t.node.phase = phase at idle awaited
    cases awaited
    exact idle _ rfl

-- Nothing else has been awaited, but it may still bring the node into the cluster or out of it.
theorem of_does (does : Does t i u) (unawaited : ∀ phase, ¬i.Awaited phase) : Strives t i u := by
  have ⟨done, deed, quiet⟩ := does
  have timer : u.node.timers.joinRetry = done.node.timers.joinRetry := congrArg Timers.joinRetry quiet.timers
  refine deed.byLife (P := fun done => Quiet done u → Strives t i u) ?keeps ?retry ?fail ?enter ?depart quiet
  case keeps =>
    intro w keeps quiet
    have keeps : Keeps t u := keeps.trans (.of_quiet quiet)
    exact .same (unawaited _) keeps.phase (congrArg Timers.joinRetry keeps.timers)
  case retry =>
    rintro number rfl _
    exact absurd .retry (unawaited (.joining number false))
  case fail =>
    intro number inFlight delay _ quiet
    exact .waits (Phase.nextAttempt number) quiet.phase (by rw [quiet.timers]; rfl)
  case enter =>
    intro _ m w _ _ _ _ quiet
    have up : u.node.phase = .up := quiet.phase
    exact .ends (by simp [up])
  case depart =>
    intro quiet
    have exited : u.node.phase = .exited := quiet.phase
    exact .ends (by simp [exited])

-- Only an attempt that fails may be without consequence.
theorem run (told : ∀ attempt inFlight, t.node.phase = .joining attempt inFlight → t.node.Fails attempt i →
    ¬t.node.config.join.backoff.Overdrawn attempt (t.host.words.headD 0)) : Strives t i (t.run i) := by
  by_cases fails : ∃ attempt inFlight, t.node.phase = .joining attempt inFlight ∧ t.node.Fails attempt i
  case pos =>
    obtain ⟨attempt, inFlight, joining, fails⟩ := fails
    rw [run_of_fails joining fails]
    exact failJoin (told attempt inFlight joining fails)
  case neg =>
    push Not at fails
    cases i with
    | tick k =>
      cases k with
      | joinRetry => exact .retryJoin
      | gossip | crossGossip | failureDetection => exact of_does .run nofun
    | joinOutcome => exact .receiveOutcome (fails _)
    | recovered | envelope => exact of_does .run nofun

end Strives

-- Who waits after a turn has waited before.
theorem Does.joining {number : ℕ} {waiting : Bool} (does : Does t i u) (waits : u.node.phase = .joining number waiting) :
    ∃ attempt inFlight, t.node.phase = .joining attempt inFlight := by
  have ⟨done, deed, quiet⟩ := does
  refine deed.byLife (P := fun done => done.node.phase = .joining number waiting → _) ?keeps ?retry ?fail ?enter ?depart
    (quiet.phase.symm.trans waits)
  case keeps => exact fun keeps waits => ⟨_, _, keeps.phase.symm.trans waits⟩
  case retry => exact fun _ joining _ => ⟨_, _, joining⟩
  case fail => exact fun joining _ => ⟨_, _, joining⟩
  case enter => exact fun _ _ _ _ up => nomatch up
  case depart => exact fun exited => nomatch exited

theorem start_of_not_founds (joins : ¬t.host.seeds.isBootstrap t.node.address) :
    t.start = t.announceStatus.beginJoin 0 := by
  have same : Speaks ∅ t t.announceStatus := speaks_announceStatus
  have address : t.announceStatus.node.address = t.node.address := congrArg Member.address same.self
  rw [start, same.host, address, if_neg joins]

end Turn

-- A node and what goes on beside it: the attempts that are under way, and the inputs that wait for it. A node that has
-- halted takes no further part.
structure Station where
  node     : Node
  attempts : List ℕ
  waiting  : List Input
  halted   : Bool

namespace Station

def after (s : Station) (turn : Node × List Effect) : Station :=
  { s with node := turn.1, attempts := s.attempts ++ turn.2.filterMap Effect.attempt?, halted := .halt ∈ turn.2 }

def start (n : Node) (host : Host) : Station := after ⟨n, [], [], false⟩ (n.start host)

-- Whatever may come next. An attempt ends with its outcome, a schedule fires once it is set, and the node takes up
-- something that waits or that comes from elsewhere.
inductive Step : Station → Station → Prop
  | finish {n attempt waiting halted} (before after : List ℕ) (result : Except Error View) :
      Step ⟨n, before ++ attempt :: after, waiting, halted⟩
        ⟨n, before ++ after, waiting ++ [.joinOutcome attempt result], halted⟩
  | fire {n : Node} {attempts waiting halted} {k : Tick} : (n.timers.get k).isSome →
      Step ⟨n, attempts, waiting, halted⟩ ⟨n.meet (.fired k), attempts, waiting ++ [.tick k], halted⟩
  | take {n attempts i} (before after : List Input) (host : Host) :
      Step ⟨n, attempts, before ++ i :: after, false⟩
        (Station.after ⟨n, attempts, before ++ after, false⟩ (n.step host i))
  | receive {n attempts waiting} (host : Host) (i : Input) :
      Step ⟨n, attempts, waiting, false⟩ (Station.after ⟨n, attempts, waiting, false⟩ (n.step host i))

-- While the node is joining, there is something to come that moves it on, and it lives to see that.
structure Hopeful (s : Station) : Prop where
  living (attempt inFlight) : s.node.phase = .joining attempt inFlight → s.halted = false
  inFlight (attempt) : s.node.phase = .joining attempt true →
    attempt ∈ s.attempts ∨ ∃ result, .joinOutcome attempt result ∈ s.waiting
  idle (attempt) : s.node.phase = .joining attempt false →
    s.node.timers.joinRetry.isSome ∨ .tick .joinRetry ∈ s.waiting

-- The node has halted at an attempt that has failed, since the delay until the next one is no span of time.
structure Stuck (s : Station) : Prop where
  halted    : s.halted
  overdrawn : ∃ attempt inFlight word, s.node.phase = .joining attempt inFlight ∧
    s.node.config.join.backoff.Overdrawn attempt word

variable {s s' : Station} {n : Node} {host : Host} {i : Input} {attempt : ℕ} {inFlight : Bool}

namespace Stuck

theorem after_iff (joining : s.node.phase = .joining attempt inFlight) : (s.after (s.node.step host i)).Stuck ↔
    s.node.Fails attempt i ∧ s.node.config.join.backoff.Overdrawn attempt (host.words.headD 0) := by
  constructor
  case mp =>
    intro stuck
    exact (Node.halt_mem_step_iff joining).mp (of_decide_eq_true stuck.halted)
  case mpr =>
    intro ⟨fails, overdrawn⟩
    rw [Node.step_of_overdrawn joining fails overdrawn]
    exact ⟨rfl, attempt, inFlight, _, joining, overdrawn⟩

theorem step (h : s.Stuck) (step : Step s s') : s'.Stuck ∧ s'.node.phase = s.node.phase := by
  obtain ⟨halted, overdrawn⟩ := h
  cases step with
  | finish => exact ⟨⟨halted, overdrawn⟩, rfl⟩
  | fire => exact ⟨⟨halted, overdrawn⟩, rfl⟩
  | take | receive => cases halted

theorem of_reachable (h : s.Stuck) (reached : Relation.ReflTransGen Step s s') :
    s'.Stuck ∧ s'.node.phase = s.node.phase := by
  induction reached with
  | refl => exact ⟨h, rfl⟩
  | tail _ step ih =>
    have ⟨stuck, same⟩ := ih.1.step step
    exact ⟨stuck, same.trans ih.2⟩

end Stuck

namespace Hopeful

theorem not_stuck (h : s.Hopeful) : ¬s.Stuck := by
  rintro ⟨halted, attempt, inFlight, _, joining, _⟩
  cases (h.living attempt inFlight joining).symm.trans halted

theorem of_not_joining (joined : ∀ number inFlight, s.node.phase ≠ .joining number inFlight) : s.Hopeful where
  living _ _ joining := absurd joining (joined _ _)
  inFlight _ joining := absurd joining (joined _ _)
  idle _ joining     := absurd joining (joined _ _)

-- A turn, whatever is left waiting. Only what the node has taken up may be missing there.
theorem turned (h : s.Hopeful) (waiting : List Input) (rest : ∀ x ∈ s.waiting, x = i ∨ x ∈ waiting)
    (told : ∀ attempt inFlight, s.node.phase = .joining attempt inFlight → s.node.Fails attempt i →
      ¬s.node.config.join.backoff.Overdrawn attempt (host.words.headD 0)) :
    (after { s with waiting := waiting } (s.node.step host i)).Hopeful := by
  have does : Turn.Does ⟨host, s.node, []⟩ i (Turn.run ⟨host, s.node, []⟩ i) := .run
  have strives : Turn.Strives ⟨host, s.node, []⟩ i (Turn.run ⟨host, s.node, []⟩ i) := .run told
  have living number waits (joining : (s.node.step host i).1.phase = .joining number waits) :
      decide (.halt ∈ (s.node.step host i).2) = false := by
    obtain ⟨attempt, inFlight, before⟩ := does.joining joining
    refine decide_eq_false fun halts => ?_
    have ⟨fails, overdrawn⟩ := (Node.halt_mem_step_iff before).mp halts
    exact told attempt inFlight before fails overdrawn
  cases strives with
  | same unawaited phase joinRetry =>
    constructor
    case living => exact living
    case inFlight =>
      intro attempt joining
      have before : s.node.phase = .joining attempt true := phase.symm.trans joining
      rcases h.inFlight attempt before with running | ⟨result, waits⟩
      · exact .inl (List.mem_append_left _ running)
      · refine .inr ⟨result, (rest _ waits).resolve_left ?_⟩
        rintro rfl
        exact unawaited (before ▸ .outcome)
    case idle =>
      intro attempt joining
      have before : s.node.phase = .joining attempt false := phase.symm.trans joining
      rcases h.idle attempt before with scheduled | waits
      · exact .inl (joinRetry ▸ scheduled)
      · refine .inr ((rest _ waits).resolve_left ?_)
        rintro rfl
        exact unawaited (before ▸ .retry)
  | begins number phase begun =>
    constructor
    case living => exact living
    case inFlight =>
      intro attempt joining
      obtain ⟨rfl, _⟩ := Phase.joining.inj (phase.symm.trans joining)
      exact .inl (List.mem_append_right _ begun)
    case idle =>
      intro attempt joining
      cases phase.symm.trans joining
  | waits number phase scheduled =>
    constructor
    case living => exact living
    case inFlight =>
      intro attempt joining
      cases phase.symm.trans joining
    case idle => exact fun _ _ => .inl scheduled
  | ends joined => exact of_not_joining joined

-- Either the attempt that has failed is one of those that leave the node stuck, or the turn moves it on.
theorem turned_or_stuck (h : s.Hopeful) (waiting : List Input) (rest : ∀ x ∈ s.waiting, x = i ∨ x ∈ waiting) :
    (after { s with waiting := waiting } (s.node.step host i)).Hopeful ∨
      (after { s with waiting := waiting } (s.node.step host i)).Stuck := by
  by_cases told : ∀ attempt inFlight, s.node.phase = .joining attempt inFlight → s.node.Fails attempt i →
      ¬s.node.config.join.backoff.Overdrawn attempt (host.words.headD 0)
  case pos => exact .inl (h.turned waiting rest told)
  case neg =>
    push Not at told
    obtain ⟨attempt, inFlight, joining, stuck⟩ := told
    exact .inr ((Stuck.after_iff (s := { s with waiting := waiting }) joining).mpr stuck)

theorem step (h : s.Hopeful) (step : Step s s') : s'.Hopeful ∨ s'.Stuck := by
  cases step with
  | @finish n attempt waiting halted before after result =>
    refine .inl ⟨h.living, fun number joining => ?_, fun number joining => ?_⟩
    case refine_1 =>
      rcases h.inFlight number joining with running | ⟨result', waits⟩
      · by_cases this : number = attempt
        · exact .inr ⟨result, List.mem_append_right _ (this ▸ List.mem_singleton_self _)⟩
        · exact .inl (by simp_all)
      · exact .inr ⟨result', List.mem_append_left _ waits⟩
    case refine_2 => exact (h.idle number joining).imp_right (List.mem_append_left _)
  | @fire n attempts waiting halted k set =>
    refine .inl ⟨h.living, fun number joining => ?_, fun number joining => ?_⟩
    case refine_1 =>
      refine (h.inFlight number joining).imp_right ?_
      exact fun ⟨result, waits⟩ => ⟨result, List.mem_append_left _ waits⟩
    case refine_2 =>
      cases k with
      | joinRetry => exact .inr (by simp)
      | gossip | crossGossip | failureDetection =>
        exact (h.idle number joining).imp_right (List.mem_append_left _)
  | take before after => exact h.turned_or_stuck _ (by simp; tauto)
  | @receive n attempts waiting => exact h.turned_or_stuck waiting fun _ => .inr

theorem start : (Station.start n host).Hopeful := by
  rw [Station.start, Node.start, after]
  by_cases founds : host.seeds.isBootstrap n.address
  case pos =>
    have up : (Turn.start ⟨host, n, []⟩).node.phase = .up := Turn.phase_start founds
    exact of_not_joining (by simp [up])
  case neg =>
    have begun : Turn.start ⟨host, n, []⟩ = (Turn.announceStatus ⟨host, n, []⟩).beginJoin 0 :=
      Turn.start_of_not_founds founds
    have lasts : Turn.Lasts ⟨host, n, []⟩ ((Turn.announceStatus ⟨host, n, []⟩).beginJoin 0) :=
      Turn.Lasts.announceStatus.trans .beginJoin
    rw [begun]
    constructor
    case living => exact fun _ _ _ => decide_eq_false fun halts => List.not_mem_nil (lasts halts)
    case inFlight =>
      intro attempt joining
      obtain ⟨rfl, _⟩ := Phase.joining.inj joining
      exact .inl (List.mem_append_right _ Turn.begun_beginJoin)
    case idle =>
      intro attempt joining
      cases joining

theorem of_reachable (reached : Relation.ReflTransGen Step (Station.start n host) s) : s.Hopeful ∨ s.Stuck := by
  induction reached with
  | refl => exact .inl start
  | tail _ step ih =>
    rcases ih with hopeful | stuck
    · exact hopeful.step step
    · exact .inr (stuck.step step).1

end Hopeful

theorem start_eq {attempts : List ℕ} {halted : Bool} (begun : (start n host).attempts = attempts)
    (halts : (start n host).halted = halted) : start n host = ⟨(n.start host).1, attempts, [], halted⟩ := by
  obtain rfl := begun
  obtain rfl := halts
  rw [start, after]

theorem hopeful_iff_not_stuck (n : Node) (host : Host) (reached : Relation.ReflTransGen Step (start n host) s) :
    (s.Hopeful ↔ ¬s.Stuck) ∧
    (∀ host' i attempt inFlight, s.node.phase = .joining attempt inFlight →
      ((s.after (s.node.step host' i)).Stuck ↔
        s.node.Fails attempt i ∧ s.node.config.join.backoff.Overdrawn attempt (host'.words.headD 0))) ∧
    (s.Stuck → ∀ s', Relation.ReflTransGen Step s s' → s'.Stuck ∧ s'.node.phase = s.node.phase) ∧
    ∀ host' attempt result, (∀ inFlight, s.node.phase ≠ .joining attempt inFlight) →
      s.node.step host' (.joinOutcome attempt result) = (s.node, []) := by
  refine ⟨⟨Hopeful.not_stuck, (Hopeful.of_reachable reached).resolve_right⟩, fun _ _ _ _ => Stuck.after_iff,
    fun stuck _ => stuck.of_reachable, fun host' attempt result stale => ?_⟩
  have same := Turn.receiveOutcome_of_stale (t := ⟨host', s.node, []⟩) stale result
  simp only [Node.step, Turn.run, same]

-- A node does not get past what a seed says of it, and the attempt that it has given up ends only after that.
theorem hopeful_iff_not_stuck_late : ∃ (config : Config) (n : Node) (host : Host) (s : Station),
    config.validate = .ok () ∧ Node.create config 0 0 = .ok (some n) ∧
      Relation.ReflTransGen Step (start n host) s ∧
      s.node.phase = .joining 1 false ∧ s.node.timers.joinRetry = some (.ofMillis 400) ∧
      s.waiting = [.joinOutcome 0 (.ok n.view)] ∧ s.Hopeful ∧
      s.node.step host (.joinOutcome 0 (.ok n.view)) = (s.node, []) := by
  let config : Config :=
    { node := { id := "a", address := "a:1" }, failure := { crossTimeout := some (.ofMillis 200) } }
  let host : Host := ⟨0, 0, ⟨[⟨"s:1", none⟩], []⟩, fun _ targets => targets, []⟩
  let twin : Member := { Member.starting "a" "meshwork" "a:1" 0 with generation := Counter.last }
  let response : Input := .envelope ⟨none, .joinResponse ((View.new "" 0 0).add twin), false⟩
  have valid : config.validate = .ok () := by decide +kernel
  have ⟨n, started, turn, created, start, refuse, lives, begun, phase, retry⟩ : ∃ n started turn,
      Node.create config 0 0 = .ok (some n) ∧ Station.start n host = ⟨started, [0], [], false⟩ ∧
      started.step host response = turn ∧ .halt ∉ turn.2 ∧ turn.2.filterMap Effect.attempt? = [] ∧
      turn.1.phase = .joining 1 false ∧ turn.1.timers.joinRetry = some (.ofMillis 400) := by
    have ⟨n, created, begun, alive, facts⟩ : ∃ n, Node.create config 0 0 = .ok (some n) ∧
        (Station.start n host).attempts = [0] ∧ (Station.start n host).halted = false ∧
        let turn := (n.start host).1.step host response
        .halt ∉ turn.2 ∧ turn.2.filterMap Effect.attempt? = [] ∧ turn.1.phase = .joining 1 false ∧
          turn.1.timers.joinRetry = some (.ofMillis 400) :=
      ⟨_, rfl, by decide +kernel⟩
    exact ⟨n, (n.start host).1, (n.start host).1.step host response, created, start_eq begun alive, rfl, facts⟩
  let s : Station := ⟨turn.1, [], [.joinOutcome 0 (.ok n.view)], false⟩
  have reached : Relation.ReflTransGen Step (Station.start n host) s := by
    have refused : Step ⟨started, [0], [], false⟩ ⟨turn.1, [0], [], false⟩ := by
      have step : Step ⟨started, [0], [], false⟩ (after ⟨started, [0], [], false⟩ (started.step host response)) :=
        .receive host response
      rwa [refuse, after, begun, decide_eq_false lives] at step
    have finished : Step ⟨turn.1, [0], [], false⟩ s := .finish [] [] (.ok n.view)
    rw [start]
    exact .tail (.single refused) finished
  have ⟨hopeful, _, _, stale⟩ := hopeful_iff_not_stuck n host reached
  have living : ¬s.Stuck := fun stuck => nomatch stuck.halted
  exact ⟨config, n, host, s, valid, created, reached, phase, retry, rfl, hopeful.mpr living,
    stale host 0 _ (by simp [s, phase])⟩

-- The longest delay does not bear to be spread. When the first attempt fails nothing is left for the node to wait for.
theorem hopeless_of_longest : ∃ (config : Config) (n : Node) (host : Host) (s : Station),
    config.validate = .ok () ∧ config.join.retryInitial = .ofSeconds (2 ^ 64 - 1) ∧ config.join.retryJitter ∧
      Node.create config 0 0 = .ok (some n) ∧ Relation.ReflTransGen Step (start n host) s ∧
      s.node.phase = .joining 0 true ∧ s.node.timers = .none ∧ s.attempts = [] ∧ s.waiting = [] ∧
      ∀ s', Relation.ReflTransGen Step s s' → ¬s'.Hopeful := by
  let config : Config := {
    node := { id := "a", address := "a:1" }
    failure := { crossTimeout := some (.ofMillis 200) }
    join := { retryInitial := .ofSeconds (2 ^ 64 - 1), retryMax := .ofSeconds (2 ^ 64 - 1) } }
  let host : Host := ⟨0, 0, ⟨[⟨"s:1", none⟩], []⟩, fun _ targets => targets, [2 ^ 64 - 1]⟩
  have valid : config.validate = .ok () := by decide +kernel
  let outcome : Input := .joinOutcome 0 (.error (.transport "s:1" "connection refused"))
  have ⟨n, started, created, start, joining, timers, overflow⟩ : ∃ n started,
      Node.create config 0 0 = .ok (some n) ∧ Station.start n host = ⟨started, [0], [], false⟩ ∧
      started.phase = .joining 0 true ∧ started.timers = .none ∧
      (started.config.join.backoff.delay? 0 host.words).1 = none := by
    have ⟨n, created, begun, alive, facts⟩ : ∃ n, Node.create config 0 0 = .ok (some n) ∧
        (Station.start n host).attempts = [0] ∧ (Station.start n host).halted = false ∧
        let started := (n.start host).1
        started.phase = .joining 0 true ∧ started.timers = .none ∧
          (started.config.join.backoff.delay? 0 host.words).1 = none := ⟨_, rfl, by decide +kernel⟩
    exact ⟨n, _, created, start_eq begun alive, facts⟩
  have fails : started.Fails 0 outcome := .refused _
  have overdrawn := Backoff.delay?_eq_none_iff.mp overflow
  have halts : after ⟨started, [], [], false⟩ (started.step host outcome) = ⟨started, [], [], true⟩ := by
    rw [Node.step_of_overdrawn joining fails overdrawn]
    simp [after, Effect.attempt?]
  have reached : Relation.ReflTransGen Step (Station.start n host) ⟨started, [], [], true⟩ := by
    have finished : Step ⟨started, [0], [], false⟩ ⟨started, [], [outcome], false⟩ := .finish [] [] _
    have taken : Step ⟨started, [], [outcome], false⟩ (after ⟨started, [], [], false⟩ (started.step host outcome)) :=
      .take [] [] host
    rw [start]
    exact .tail (.single finished) (halts ▸ taken)
  have stuck : Stuck ⟨started, [], [], true⟩ := ⟨rfl, 0, true, _, joining, overdrawn⟩
  exact ⟨config, n, host, _, valid, rfl, rfl, created, reached, joining, timers, rfl, rfl,
    fun _ later hopeful => hopeful.not_stuck (stuck.of_reachable later).1⟩

end Station

end GossipCluster
