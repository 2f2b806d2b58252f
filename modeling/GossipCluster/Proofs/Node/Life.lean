import GossipCluster.Proofs.Node.Deed
import GossipCluster.Proofs.Node.Tenure

namespace GossipCluster

namespace Phase

def status : Phase → Status
  | joining .. => .joining
  | up => .up
  | exited => .exiting

-- Which phase comes after which. Attempts to join are numbered upwards.
inductive Leads : Phase → Phase → Prop
  | stay (p) : Leads p p
  | retry {a b f g} : a ≤ b → Leads (joining a f) (joining b g)
  | join {a f} : Leads (joining a f) up
  | leave (p) : Leads p exited

theorem Leads.exited {p : Phase} (h : Phase.exited.Leads p) : p = .exited := by
  cases h <;> rfl

end Phase

-- What may happen to a node once it has been started: there is something to deal with, expected or not, or
-- a schedule has fired.
inductive Happening
  | input (host : Host) (i : Input)
  | fired (k : Tick)

namespace Node

def meet (n : Node) : Happening → Node
  | .input host i => (n.step host i).1
  | .fired k => { n with timers := n.timers.fire k }

-- The node after all that has happened to it.
def live (n : Node) (hs : List Happening) : Node := hs.foldl meet n

-- How a node is in each phase.
structure Orderly (n : Node) : Prop where
  status           : n.self.status = n.phase.status
  present          : n.view.contains n.self.id
  gossip           : n.timers.gossip.isSome ↔ n.phase = .up
  failureDetection : n.timers.failureDetection.isSome ↔ n.phase = .up
  crossGossip      : n.timers.crossGossip.isSome ↔ n.phase = .up ∧ 0 < n.config.discovery.maxCrossTargets
  joinRetry        : n.timers.joinRetry.isSome → ∃ attempt inFlight, n.phase = .joining attempt inFlight
  idle             : n.phase = .exited → n.timers = .none
  attempt          : ∀ attempt inFlight, n.phase = .joining attempt inFlight → attempt < 2 ^ 32

-- What may become of a node from one moment to a later one.
structure Becomes (n m : Node) : Prop where
  config : m.config = n.config
  id     : m.self.id = n.self.id
  phase  : n.phase.Leads m.phase
  older  : ¬n.self.Newer m.self

theorem Becomes.of_stamp {n m : Node} (config : m.config = n.config) (id : m.self.id = n.self.id)
    (phase : n.phase.Leads m.phase) (stamp : n.self.stamp ≤ m.self.stamp) : n.Becomes m :=
  ⟨config, id, phase, (Member.not_newer_iff id.symm).mpr stamp⟩

section

variable {n : Node} {attempt : ℕ} {inFlight : Bool}

theorem orderly_joining_iff (joining : n.phase = .joining attempt inFlight) : n.Orderly ↔
    n.self.status = .joining ∧ n.view.contains n.self.id ∧ n.timers.gossip = none ∧
      n.timers.failureDetection = none ∧ n.timers.crossGossip = none ∧ attempt < 2 ^ 32 := by
  constructor
  case mp =>
    intro orderly
    obtain ⟨status, present, gossip, failureDetection, crossGossip, joinRetry, idle, few⟩ := orderly
    simp_all [Phase.status]
  case mpr =>
    intro ⟨status, present, gossip, failureDetection, crossGossip, few⟩
    constructor <;> simp_all [Phase.status]

theorem orderly_up_iff (up : n.phase = .up) : n.Orderly ↔
    n.self.status = .up ∧ n.view.contains n.self.id ∧ n.timers.gossip.isSome ∧ n.timers.failureDetection.isSome ∧
      (n.timers.crossGossip.isSome ↔ 0 < n.config.discovery.maxCrossTargets) ∧ n.timers.joinRetry = none := by
  constructor
  case mp =>
    intro orderly
    obtain ⟨status, present, gossip, failureDetection, crossGossip, joinRetry, idle, few⟩ := orderly
    simp_all [Phase.status]
  case mpr =>
    intro ⟨status, present, gossip, failureDetection, crossGossip, joinRetry⟩
    constructor <;> simp_all [Phase.status]

theorem orderly_exited_iff (exited : n.phase = .exited) : n.Orderly ↔
    n.self.status = .exiting ∧ n.view.contains n.self.id ∧ n.timers = .none := by
  constructor
  case mp =>
    intro orderly
    have status : n.self.status = n.phase.status := orderly.status
    exact ⟨by rw [status, exited]; rfl, orderly.present, orderly.idle exited⟩
  case mpr =>
    intro ⟨status, present, timers⟩
    constructor <;> simp_all [Phase.status, Timers.none]

end

end Node

namespace Turn

-- Between two moments of a turn the node goes no step further in its life. It does not get older, and neither
-- does what its view knows of it.
structure Keeps (t u : Turn) : Prop where
  config : u.node.config = t.node.config
  phase  : u.node.phase = t.node.phase
  timers : u.node.timers = t.node.timers
  id     : u.node.self.id = t.node.self.id
  status : u.node.self.status = t.node.self.status
  stamp  : t.node.self.stamp ≤ u.node.self.stamp
  own    : t.node.view.stampOf t.node.self.id ≤ u.node.view.stampOf t.node.self.id

-- The node says of itself that it is in another status, and does not count that as a change yet.
def declare (t : Turn) (s : Status) : Turn := t.become { t.node.self with status := s }

-- Others know of a newer incarnation of the node, and it moves past that.
def Supersedes (t : Turn) (self : Member) : Prop := ∃ seen, t.node.view.member? t.node.self.id = some seen ∧
  seen.Newer t.node.self ∧ t.node.self.supersede seen t.now = .ok self

variable {t u w : Turn} {m : Member} {status : Status} {v incoming : View} {sender : Option Endpoint} {i : Input}

theorem Supersedes.eq (h : t.Supersedes m) :
    m.id = t.node.self.id ∧ m.status = t.node.self.status ∧ t.node.self.stamp < m.stamp := by
  obtain ⟨_, _, _, superseded⟩ := h
  have ⟨id, _⟩ := Member.supersede_eq superseded
  exact ⟨id, Member.status_supersede superseded, (Member.stamp_lt_supersede superseded).1⟩

theorem Supersedes.reassert (h : t.Supersedes m) : t.reassert = (t.setSelf m).recordChange := by
  obtain ⟨seen, known, newer, superseded⟩ := h
  simp only [Turn.reassert, known, if_pos newer, superseded]

variable (t) in
theorem reassert_cases : t.reassert = t ∨ t.reassert = t.setSelf t.node.self ∨
    ∃ self, t.Supersedes self ∧ t.reassert = (t.setSelf self).recordChange := by
  cases known : t.node.view.member? t.node.self.id with
  | none => exact .inr <| .inl <| by simp only [reassert, known]
  | some seen =>
    by_cases newer : seen.Newer t.node.self
    case neg => exact .inl <| by simp only [reassert, known, if_neg newer]
    case pos =>
      cases superseded : t.node.self.supersede seen t.now with
      | error => exact .inl <| by simp only [reassert, known, if_pos newer, superseded]
      | ok self =>
        have supersedes : t.Supersedes self := ⟨seen, known, newer, superseded⟩
        exact .inr <| .inr ⟨self, supersedes, supersedes.reassert⟩

theorem reassert_of {R : Turn → Turn → Prop} [IsPreorder Turn R] (present : R t (t.setSelf t.node.self))
    (supersede : ∀ self, t.Supersedes self → R t (t.setSelf self)) (change : ∀ u, R u u.recordChange) :
    R t t.reassert := by
  rcases t.reassert_cases with same | put | ⟨self, supersedes, eq⟩
  · rw [same]
    exact refl_of R t
  · rw [put]
    exact present
  · rw [eq]
    exact trans_of R (supersede self supersedes) (change _)

namespace Keeps

theorem refl (t : Turn) : Keeps t t := ⟨rfl, rfl, rfl, rfl, rfl, le_rfl, le_rfl⟩

theorem trans (a : Keeps t u) (b : Keeps u w) : Keeps t w where
  config := b.config.trans a.config
  phase  := b.phase.trans a.phase
  timers := b.timers.trans a.timers
  id     := b.id.trans a.id
  status := b.status.trans a.status
  stamp  := a.stamp.trans b.stamp
  own    := a.own.trans (a.id ▸ b.own)

instance : IsPreorder Turn Keeps where
  refl  := refl
  trans _ _ _ := trans

theorem of_quiet (h : Quiet t u) : Keeps t u where
  config := h.config
  phase  := h.phase
  timers := h.timers
  id     := congrArg Member.id h.self
  status := congrArg Member.status h.self
  stamp  := h.self ▸ le_rfl
  own    := h.view ▸ le_rfl

theorem declare (h : Keeps t u) : Keeps (t.declare status) (u.declare status) :=
  ⟨h.config, h.phase, h.timers, h.id, rfl, h.stamp, h.own⟩

theorem setView (h : t.node.view.stampOf t.node.self.id ≤ v.stampOf t.node.self.id) : Keeps t (t.setView v) :=
  ⟨rfl, rfl, rfl, rfl, rfl, le_rfl, h⟩

theorem setSelf (id : m.id = t.node.self.id) (status : m.status = t.node.self.status)
    (stamp : t.node.self.stamp ≤ m.stamp) : Keeps t (t.setSelf m) :=
  ⟨rfl, rfl, rfl, id, status, stamp, View.stampOf_le_add⟩

theorem setStatus : Keeps (t.declare status) (t.setStatus status) := by
  refine ⟨rfl, rfl, rfl, rfl, rfl, ?_, View.stampOf_le_add⟩
  exact Member.stamp_le_advance (a := t.node.self)

theorem recordChange : Keeps t t.recordChange := by
  rw [Turn.recordChange]
  split
  case h_1 counted => exact setView (View.stampOf_of_member?_eq <| View.member?_recordChange counted).ge
  case h_2 => exact refl t

theorem heartbeat : Keeps t t.heartbeat :=
  ⟨rfl, rfl, rfl, rfl, rfl, le_rfl, (View.stampOf_congr View.imprint?_touch).ge⟩

theorem attend : Keeps t (t.attend sender incoming).1 := by
  cases sender with
  | none => exact refl t
  | some => exact ⟨rfl, rfl, rfl, rfl, rfl, le_rfl, (View.stampOf_congr View.imprint?_revive).ge⟩

end Keeps

theorem node_learn : (t.learn incoming).1.node = { t.node with view := (t.learn incoming).1.node.view } := by
  simp only [learn_fst, setView, node_forget]

-- Others may know more of the node than its own view does.
theorem stampOf_learn : (t.learn incoming).1.node.view.stampOf t.node.self.id =
    max (t.node.view.stampOf t.node.self.id) (incoming.stampOf t.node.self.id) := by
  simp only [learn_fst, setView, node_forget, View.stampOf_merge, View.without_eq]
  congr 1 <;> refine View.stampOf_of_member?_eq <| View.member?_removeAll.trans <| if_neg ?_
  · exact not_mem_departed
  · exact not_mem_departing

namespace Keeps

theorem learn : Keeps t (t.learn incoming).1 := by
  constructor
  case own => exact stampOf_learn ▸ le_max_left ..
  all_goals rw [node_learn]

theorem learnAll {views : List View} : Keeps t (t.learnAll views).1 := learnAll_of fun _ _ _ => learn

theorem reassert : Keeps t t.reassert := by
  refine reassert_of (setSelf rfl rfl le_rfl) (fun self supersedes => ?_) fun _ => recordChange
  have ⟨id, status, stamp⟩ := supersedes.eq
  exact setSelf id status stamp.le

end Keeps

-- What a node in order becomes by a moment of its turn, and that it is in order again.
structure Passes (t u : Turn) : Prop where
  becomes : t.node.Becomes u.node
  orderly : u.node.Orderly

theorem Keeps.present (h : Keeps t u) (present : t.node.view.contains t.node.self.id) :
    u.node.view.contains u.node.self.id := by
  rw [View.contains_iff_stampOf] at *
  exact ne_bot_of_le_ne_bot present (h.id ▸ h.own)

theorem Keeps.passes (h : Keeps t u) (orderly : t.node.Orderly) : Passes t u where
  becomes := .of_stamp h.config h.id (h.phase ▸ .stay _) h.stamp
  orderly := by
    obtain ⟨status, present, gossip, failureDetection, crossGossip, joinRetry, idle, attempt⟩ := orderly
    constructor
    case present => exact h.present present
    all_goals simp_all [h.phase, h.timers, h.config, h.status]

theorem passes_retry {attempt : ℕ} {inFlight : Bool} (orderly : t.node.Orderly)
    (joining : t.node.phase = .joining attempt inFlight) : Passes t (t.setPhase (.joining attempt true)) where
  becomes := .of_stamp rfl rfl (joining ▸ .retry le_rfl) le_rfl
  orderly := (Node.orderly_joining_iff rfl).mpr ((Node.orderly_joining_iff joining).mp orderly)

theorem passes_fail {attempt : ℕ} {inFlight : Bool} {delay : Duration} (orderly : t.node.Orderly)
    (joining : t.node.phase = .joining attempt inFlight) :
    Passes t ((t.setPhase (.joining (Phase.nextAttempt attempt) false)).setTimers
      { t.node.timers with joinRetry := some delay }) := by
  have ⟨status, present, gossip, failureDetection, crossGossip, few⟩ := (Node.orderly_joining_iff joining).mp orderly
  have next : attempt ≤ Phase.nextAttempt attempt ∧ Phase.nextAttempt attempt < 2 ^ 32 := by
    rw [Phase.nextAttempt]
    omega
  constructor
  case becomes => exact .of_stamp rfl rfl (joining ▸ .retry next.1) le_rfl
  case orderly =>
    exact (Node.orderly_joining_iff rfl).mpr ⟨status, present, gossip, failureDetection, crossGossip, next.2⟩

-- However a node comes to be up, it has all its schedules then.
theorem passes_enterUp {attempt : ℕ} {inFlight : Bool} (orderly : t.node.Orderly)
    (joining : t.node.phase = .joining attempt inFlight) (id : m.id = t.node.self.id)
    (stamp : t.node.self.stamp ≤ m.stamp) (h : Keeps ((t.become m).declare .up) u) : Passes t u.enterUp where
  becomes := .of_stamp h.config (h.id.trans id) (joining ▸ .join) (stamp.trans h.stamp)
  orderly := by
    have present : u.node.view.contains u.node.self.id :=
      h.present (by simpa [declare, become, id] using orderly.present)
    refine (Node.orderly_up_iff rfl).mpr ⟨h.status, present, rfl, rfl, ?_, rfl⟩
    simp only [enterUp, schedulePeriodic, setTimers, setPhase]
    by_cases near : u.node.config.discovery.maxCrossTargets = 0 <;> simp [near, Nat.pos_iff_ne_zero]

-- Whether or not it has anybody to tell, a node is on its way out at last.
theorem keeps_depart : ∃ u, Keeps ((t.setTimers .none).declare .exiting) u ∧ t.depart = u.setPhase .exited := by
  let told := if (t.setTimers .none).node.isUp then ((t.setTimers .none).setStatus .leaving).recordChange
    else t.setTimers .none
  have ⟨status, left⟩ : ∃ status, Keeps ((t.setTimers .none).declare status) told := by
    dsimp only [told]
    split
    case isTrue => exact ⟨.leaving, Keeps.setStatus.trans .recordChange⟩
    case isFalse => exact ⟨t.node.self.status, .refl _⟩
  exact ⟨told.setStatus .exiting, left.declare.trans .setStatus, rfl⟩

theorem passes_depart (orderly : t.node.Orderly) : Passes t t.depart := by
  have ⟨u, left, e⟩ := t.keeps_depart
  rw [e]
  constructor
  case becomes => exact .of_stamp left.config left.id (.leave _) left.stamp
  case orderly =>
    have timers : u.node.timers = .none := left.timers
    exact (Node.orderly_exited_iff rfl).mpr ⟨left.status, left.present orderly.present, timers⟩

theorem entrant_stamp_le (h : entrant t.node.self v t.now = .ok m) :
    m.id = t.node.self.id ∧ t.node.self.stamp ≤ m.stamp := by
  rcases entrant_cases h with same | ⟨twin, _, superseded⟩
  · exact same ▸ ⟨rfl, le_rfl⟩
  · exact ⟨(Member.supersede_eq superseded).1, (Member.stamp_lt_supersede superseded).1.le⟩

theorem Keeps.discard {d : Detection} (hs : t.node.self.id ∉ d.suspect) (hr : t.node.self.id ∉ d.remove) :
    Keeps t (t.discard d) := by
  refine .trans (.setView ?_) .recordChange
  refine (View.stampOf_of_member?_eq ?_).ge
  rw [View.member?_removeAll, if_neg hr, View.member?_suspectAll hs]

theorem Keeps.expel {id : String} (ne : id ≠ t.node.self.id) :
    Keeps t (t.setView (t.node.view.remove id)).recordChange := by
  refine .trans (.setView ?_) .recordChange
  exact (View.stampOf_of_member?_eq <| View.member?_remove.trans <| if_neg ne.symm).ge

-- A deed takes the node a step further in its life, or else does not concern its life.
theorem Deed.byLife {P : Turn → Prop} (deed : Deed t i u) (keeps : ∀ {w}, Keeps t w → P w)
    (retry : ∀ {attempt}, i = .tick .joinRetry → t.node.phase = .joining attempt false →
      P (t.setPhase (.joining attempt true)))
    (fail : ∀ {attempt inFlight delay}, t.node.phase = .joining attempt inFlight →
      P ((t.setPhase (.joining (Phase.nextAttempt attempt) false)).setTimers
        { t.node.timers with joinRetry := some delay }))
    (enter : ∀ {view m w}, i.Admits view t.node.phase → m.id = t.node.self.id →
      t.node.self.stamp ≤ m.stamp → Keeps ((t.become m).declare .up) w → P w.enterUp)
    (depart : P t.depart) : P u := by
  cases deed with
  | nothing => exact keeps (.refl t)
  | beat => exact keeps .heartbeat
  | discard _ detected =>
    have ⟨suspect, remove⟩ := Detector.not_mem_of_detect? detected
    exact keeps <| Keeps.heartbeat.trans (.discard suspect remove)
  | absorb => exact keeps <| Keeps.attend.trans <| Keeps.learn.trans .reassert
  | recover =>
    have idle : Keeps t { t with node := { t.node with recovering := false } } :=
      .of_quiet (.books rfl rfl rfl rfl rfl)
    exact keeps <| idle.trans <| Keeps.learnAll.trans .reassert
  | enroll => exact keeps <| .trans (.setView View.stampOf_le_add) .recordChange
  | expel _ allowed => exact keeps <| .expel (ne_of_checkForceDown allowed)
  | @rewrite _ state =>
    have rewritten : Keeps t ((t.become { t.node.self with state := state }).declare t.node.self.status) :=
      ⟨rfl, rfl, rfl, rfl, rfl, le_rfl, le_rfl⟩
    exact keeps <| rewritten.trans <| Keeps.setStatus.trans .recordChange
  | retry joining => exact retry rfl joining
  | fail joining => exact fail joining
  | enter admits entered =>
    have ⟨id, stamp⟩ := entrant_stamp_le entered
    exact enter admits id stamp <| Keeps.learn.declare.trans <| Keeps.setStatus.trans .recordChange
  | depart => exact depart

theorem Deed.passes (deed : Deed t i u) (orderly : t.node.Orderly) : Passes t u := by
  refine deed.byLife (·.passes orderly) (fun _ => passes_retry orderly) (passes_fail orderly) (fun admits => ?_)
    (passes_depart orderly)
  have ⟨_, _, joining⟩ := admits.joining
  exact passes_enterUp orderly joining

-- Nobody is up who has not been up before and has not been let in.
theorem Does.up (does : Does t i u) (up : u.node.phase = .up) :
    t.node.phase = .up ∨ ∃ view, i.Admits view t.node.phase := by
  have ⟨done, deed, quiet⟩ := does
  refine deed.byLife (P := fun done => done.node.phase = .up → _) ?keeps ?retry ?fail ?enter ?depart
    (quiet.phase.symm.trans up)
  case keeps => exact fun keeps up => .inl (keeps.phase.symm.trans up)
  case retry => exact fun _ _ up => nomatch up
  case fail => exact fun _ up => nomatch up
  case enter => exact fun admits _ _ _ _ => .inr ⟨_, admits⟩
  case depart => exact fun up => nomatch up

theorem Passes.quiet (h : Passes t u) (q : Quiet u w) : Passes t w where
  becomes := by
    obtain ⟨config, id, phase, older⟩ := h.becomes
    exact ⟨q.config.trans config, q.self ▸ id, q.phase ▸ phase, q.self ▸ older⟩
  orderly := ((Keeps.of_quiet q).passes h.orderly).orderly

theorem passes_run (orderly : t.node.Orderly) : Passes t (t.run i) :=
  have ⟨_, deed, quiet⟩ := Does.run (t := t) (i := i)
  (deed.passes orderly).quiet quiet

theorem passes_start (orderly : t.node.Orderly) (fresh : t.node.phase = .joining 0 false) : Passes t t.start := by
  refine Passes.quiet ?_ quiet_start
  rw [opening]
  split
  case isTrue => exact passes_enterUp orderly fresh rfl le_rfl (Keeps.setStatus.trans .recordChange)
  case isFalse => exact passes_retry orderly fresh

theorem phase_start_iff : t.start.node.phase = .up ↔ t.host.seeds.isBootstrap t.node.address := by
  rw [quiet_start.phase, opening]
  split
  case isTrue founds => exact iff_of_true rfl founds
  case isFalse joins => exact iff_of_false (fun up => by cases up) joins

theorem phase_start (founds : t.host.seeds.isBootstrap t.node.address) : t.start.node.phase = .up :=
  phase_start_iff.mpr founds

theorem phase_leave : t.leave.node.phase = .exited := by
  rw [leave]
  split
  case isTrue exited => exact exited
  case isFalse => exact (Quiet.announce.trans .publish).phase

end Turn

namespace Node

variable {n : Node}

theorem FindsItself.present (h : n.FindsItself) : n.view.contains n.self.id :=
  have ⟨_, own⟩ := h
  View.contains_iff.mpr ⟨_, own⟩

theorem Fresh.orderly (h : n.Fresh) : n.Orderly := by
  have timers := h.timers
  refine (orderly_joining_iff h.phase).mpr ⟨h.status, h.findsItself.present, ?_⟩
  simp [timers, Timers.none]

theorem Fresh.start (h : n.Fresh) (host : Host) : n.Becomes (n.start host).1 ∧ (n.start host).1.Orderly := by
  have started : Turn.Passes ⟨host, n, []⟩ (Turn.start ⟨host, n, []⟩) := Turn.passes_start h.orderly h.phase
  simp only [Node.start]
  exact ⟨started.becomes, started.orderly⟩

-- What happens to a node, expected or not, leaves it in order.
theorem Orderly.meet (h : n.Orderly) (x : Happening) : n.Becomes (n.meet x) ∧ (n.meet x).Orderly := by
  cases x with
  | input host i =>
    have passes : Turn.Passes ⟨host, n, []⟩ (Turn.run ⟨host, n, []⟩ i) := Turn.passes_run h
    exact ⟨passes.becomes, passes.orderly⟩
  | fired k =>
    refine ⟨.of_stamp rfl rfl (.stay _) le_rfl, ?_⟩
    obtain ⟨status, present, gossip, failureDetection, crossGossip, joinRetry, idle, attempt⟩ := h
    constructor
    case present => exact present
    all_goals cases k <;> simp_all [Node.meet, Timers.fire, Tick.repeats, Timers.none]

theorem Orderly.live (h : n.Orderly) (hs : List Happening) : (n.live hs).Orderly := by
  induction hs generalizing n with
  | nil => exact h
  | cons x hs ih => exact ih (h.meet x).2

-- A node that has left the cluster stays out of it.
theorem Orderly.exited (h : n.Orderly) (exited : n.phase = .exited) (hs : List Happening) :
    (n.live hs).phase = .exited := by
  induction hs generalizing n with
  | nil => exact exited
  | cons x hs ih =>
    have ⟨becomes, orderly⟩ := h.meet x
    refine ih orderly ?_
    exact Phase.Leads.exited (exited ▸ becomes.phase)

theorem orderly_throughout {config : Config} {now : Timestamp} {instant : Instant} (host : Host)
    (created : Node.create config now instant = .ok (some n)) :
    n.Becomes (n.start host).1 ∧
      ∀ hs, ((n.start host).1.live hs).Orderly ∧
        ∀ x, ((n.start host).1.live hs).Becomes (((n.start host).1.live hs).meet x) := by
  have ⟨becomes, orderly⟩ := (fresh_of_create created).start host
  refine ⟨becomes, fun hs => ?_⟩
  have orderly := orderly.live hs
  exact ⟨orderly, fun x => (orderly.meet x).1⟩

-- A node that has left its cluster is let into it by an outcome that comes in late.
theorem orderly_throughout_late : ∃ (n : Node) (host : Host),
    let left := (n.start host).1.live [.input host (.envelope ⟨none, .leaveRequest, true⟩)]
    let late := left.meet (.input host (.joinOutcome 0 (.ok n.view)))
    n.phase = .joining 0 false ∧ (n.start host).1.phase = .up ∧ left.phase = .exited ∧ left.Orderly ∧
      left.Becomes late ∧ late.phase = .exited := by
  let config : Config :=
    { node := { id := "a", address := "a:1" }, failure := { crossTimeout := some (.ofMillis 200) } }
  let host : Host := ⟨0, 0, ⟨[], []⟩, fun _ _ => [], []⟩
  have ⟨n, created⟩ : ∃ n, Node.create config 0 0 = .ok (some n) := ⟨_, rfl⟩
  have ⟨_, runs⟩ := orderly_throughout host created
  have ⟨orderly, becomes⟩ := runs [.input host (.envelope ⟨none, .leaveRequest, true⟩)]
  have up : (n.start host).1.phase = .up := by
    simp only [Node.start]
    exact Turn.phase_start rfl
  have left : ((n.start host).1.live [.input host (.envelope ⟨none, .leaveRequest, true⟩)]).phase = .exited := by
    have : (Turn.leave ⟨host, (n.start host).1, []⟩).node.phase = .exited := Turn.phase_leave
    simpa [Node.live, Node.meet, Node.step, Turn.run, Turn.receive] using this
  have late := becomes (.input host (.joinOutcome 0 (.ok n.view)))
  have exited := late.phase
  rw [left] at exited
  exact ⟨n, host, (fresh_of_create created).phase, up, left, orderly, late, exited.exited⟩

end Node

end GossipCluster
