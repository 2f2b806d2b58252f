import GossipCluster.Proofs.Message.Contents
import GossipCluster.Proofs.Node.Departure
import GossipCluster.Proofs.View.Tally

namespace GossipCluster

def Input.views : Input → List View
  | .tick _ => []
  | .joinOutcome _ result => result.toOption.toList
  | .recovered views => views
  | .envelope e => e.message.views

namespace Node

def tally (n : Node) : ℕ := n.view.tally n.self.id

-- The members of which a node may know when it has dealt with an input.
def heard (n : Node) (i : Input) : Set String := {id | ∃ v ∈ n.view :: i.views, v.contains id}

instance (n : Node) (i : Input) : DecidablePred (· ∈ n.heard i) := fun id =>
  inferInstanceAs (Decidable (∃ v ∈ n.view :: i.views, v.contains id))

-- The ids before that of the node which are counted in its vector or, if they are those of members, in a vector
-- that comes with an input.
def rivals (n : Node) (i : Input) : Finset String :=
  let news := (i.views.flatMap (·.versions.entries)).filter (·.1 ∈ n.heard i)
  (((n.view.versions.entries ++ news).map Prod.fst).filter (· < n.self.id)).toFinset

-- There may be no room left for the entry of the node.
def Crowded (n : Node) : Happening → Prop
  | .input _ i =>
    n.config.membership.maxVectorEntries ≠ 0 ∧ n.config.membership.maxVectorEntries ≤ (n.rivals i).card
  | .fired _ => False

instance (n : Node) : DecidablePred n.Crowded := fun x => by cases x <;> unfold Crowded <;> infer_instance

end Node

namespace Turn

-- Nothing that the view of the node has counted of the node itself is lost between two moments of a turn.
structure Onward (rivals : Finset String) (t u : Turn) : Prop where
  id   : u.node.self.id = t.node.self.id
  view : View.Onward rivals t.node.self.id t.node.view u.node.view

-- Another view, of known members only, and with entries of rivals only before that of the node.
structure Brings (known : Set String) (rivals : Finset String) (id : String) (v : View) : Prop where
  members : ∀ i, v.contains i → i ∈ known
  before  : ∀ e ∈ v.versions.entries, e.1 ∈ known → e.1 < id → e.1 ∈ rivals

-- The changes that a node makes and counts as its own, with the turn as it is before each is counted. There is at
-- most one of them in a turn.
inductive Prepares (t : Turn) : Input → Turn → Prop
  | discard {d} : t.node.isUp →
      t.node.detector.detect? t.heartbeat.node.view t.node.self.id t.node.self.datacenter t.now = some d →
      ¬d.isEmpty → Prepares t (.tick .failureDetection)
        (t.heartbeat.setView (removeAll (suspectAll t.heartbeat.node.view d.suspect) d.remove))
  | absorb {e incoming self} : e.message = .gossip incoming → checkProtocol t.node incoming = .ok () →
      t.node.isUp → ((t.attend e.sender incoming).1.learn incoming).1.Supersedes self →
      Prepares t (.envelope e) (((t.attend e.sender incoming).1.learn incoming).1.setSelf self)
  | recover {views self} : t.node.isUp → views ≠ [] →
      (({ t with node := { t.node with recovering := false } } : Turn).learnAll views).1.Supersedes self →
      Prepares t (.recovered views)
        ((({ t with node := { t.node with recovering := false } } : Turn).learnAll views).1.setSelf self)
  | enroll {e joiner token} : e.message = .joinRequest joiner token →
      (t.checkAdmission joiner token).2 = .ok () →
      Prepares t (.envelope e) (t.setView (t.node.view.add { joiner with status := .up, lastSeen := t.now }))
  | expel {e id token} : e.message = .forceDown id token → checkForceDown t.node id token = .ok () →
      t.node.view.contains id → Prepares t (.envelope e) (t.setView (t.node.view.remove id))
  | rewrite {e state} : e.message = .updateState state → checkUpdate t.node e.sender = .ok () →
      Prepares t (.envelope e) ((t.become { t.node.self with state := state }).setStatus t.node.self.status)
  | enter {i view self} : i.Admits view t.node.phase → entrant t.node.self view t.now = .ok self →
      Prepares t i (((t.become self).learn view).1.setStatus .up)
  | depart {e} : e.message = .leaveRequest → t.node.isUp →
      Prepares t (.envelope e) ((t.setTimers .none).setStatus .leaving)

-- The node counts a change, and its counter is `c` then.
def Counts (t : Turn) (c : ℕ) : Prop :=
  ∃ v, t.node.view.recordChange t.node.self.id t.now = .ok v ∧ v.tally t.node.self.id = c

instance (t : Turn) (c : ℕ) : Decidable (t.Counts c) :=
  match counted : t.node.view.recordChange t.node.self.id t.now with
  | .ok v => decidable_of_iff (v.tally t.node.self.id = c)
      ⟨fun h => ⟨v, counted, h⟩, fun ⟨_, hw, h⟩ => Except.ok.inj (counted.symm.trans hw) ▸ h⟩
  | .error _ => isFalse fun ⟨_, hw, _⟩ => nomatch counted.symm.trans hw

variable {known : Set String} {rivals : Finset String} {t u w : Turn} {m : Member} {status : Status}
  {v incoming : View} {sender : Option Endpoint} {i : Input} {e : Envelope} {id : String}

namespace Onward

theorem idle (id : u.node.self.id = t.node.self.id) (view : u.node.view = t.node.view) : Onward rivals t u :=
  ⟨id, view ▸ .refl _⟩

theorem refl (t : Turn) : Onward rivals t t := idle rfl rfl

theorem trans (a : Onward rivals t u) (b : Onward rivals u w) : Onward rivals t w :=
  ⟨b.id.trans a.id, a.view.trans (a.id ▸ b.view)⟩

instance : IsPreorder Turn (Onward rivals) where
  refl  := refl
  trans _ _ _ := trans

theorem of_quiet (h : Quiet t u) : Onward rivals t u := idle (congrArg Member.id h.self) h.view

theorem setView (h : View.Onward rivals t.node.self.id t.node.view v) : Onward rivals t (t.setView v) := ⟨rfl, h⟩

theorem become (same : m.id = t.node.self.id) : Onward rivals t (t.become m) := idle same rfl

theorem setPhase {phase : Phase} : Onward rivals t (t.setPhase phase) := idle rfl rfl

theorem setSelf (same : m.id = t.node.self.id) : Onward rivals t (t.setSelf m) := ⟨same, .add⟩

theorem setStatus : Onward rivals t (t.setStatus status) := setSelf rfl

theorem recordChange : Onward rivals t t.recordChange := by
  rw [Turn.recordChange]
  split
  case h_1 counted => exact setView (.recordChange counted)
  case h_2 => exact refl t

theorem enterUp : Onward rivals t t.enterUp := idle rfl rfl

theorem heartbeat : Onward rivals t t.heartbeat := ⟨rfl, .of_akin .touch⟩

theorem attend : Onward rivals t (t.attend sender incoming).1 := by
  refine ⟨?_, .of_akin akin_attend⟩
  cases sender <;> rfl

end Onward

theorem mem_entries_of_removeAll {ids : List String} {e : String × ℕ}
    (h : e ∈ (removeAll v ids).versions.entries) : e ∈ v.versions.entries := by
  have drawn : v.Drawn v.imprints {e | e ∈ v.versions.entries} := ⟨subset_rfl, fun _ he => he⟩
  exact drawn.removeAll.entries e h

theorem contains_of_learn (h : (t.learn incoming).1.node.view.contains id) :
    t.node.view.contains id ∨ incoming.contains id := by
  have ⟨options, now, view, _⟩ := learn_eq t incoming
  rw [view, View.mem_memberIds_iff, View.mem_memberIds_merge, ← View.mem_memberIds_iff, ← View.mem_memberIds_iff,
    contains_removeAll_iff, contains_removeAll_iff] at h
  exact h.imp And.right And.right

namespace Onward

theorem learn (hk : ∀ id, t.node.view.contains id → id ∈ known)
    (brings : Brings known rivals t.node.self.id incoming) : Onward rivals t (t.learn incoming).1 := by
  refine ⟨congrArg Member.id self_learn, ?_⟩
  have ⟨options, now, view, _⟩ := learn_eq t incoming
  rw [view]
  refine .trans (.removeAll not_mem_departed) (.merge fun e he member lt => ?_)
  rw [contains_removeAll_iff, contains_removeAll_iff] at member
  have member : e.1 ∈ known := member.elim (fun h => hk _ h.2) (fun h => brings.members _ h.2)
  exact brings.before e (mem_entries_of_removeAll he) member lt

theorem learnAll {views : List View} (hk : ∀ id, t.node.view.contains id → id ∈ known)
    (brings : ∀ v ∈ views, Brings known rivals t.node.self.id v) : Onward rivals t (t.learnAll views).1 := by
  rw [Turn.learnAll]
  generalize false = changed
  induction views generalizing t changed with
  | nil => exact refl t
  | cons v views ih =>
    have first : Onward rivals t (t.learn v).1 := learn hk (brings v List.mem_cons_self)
    refine first.trans <| ih (fun id h => ?_) (fun w hw => first.id ▸ brings w (List.mem_cons_of_mem v hw)) _
    exact (contains_of_learn h).elim (hk id) ((brings v List.mem_cons_self).members id)

theorem reassert : Onward rivals t t.reassert :=
  reassert_of (setSelf rfl) (fun _ supersedes => setSelf supersedes.eq.1) fun _ => recordChange

theorem depart : Onward rivals t t.depart :=
  depart_of (fun _ => idle rfl rfl) (fun _ _ => setStatus) (fun _ => recordChange) fun _ => setPhase

end Onward

theorem brings_of_mem_views (h : v ∈ i.views) : Brings (t.node.heard i) (t.node.rivals i) t.node.self.id v where
  members id hv := ⟨v, List.mem_cons_of_mem _ h, hv⟩
  before e he heard lt := by
    simp only [Node.rivals, List.mem_toFinset, List.mem_filter, List.mem_map, List.mem_append, decide_eq_true_eq]
    exact ⟨⟨e, .inr ⟨List.mem_flatMap.mpr ⟨v, h, he⟩, heard⟩, rfl⟩, lt⟩

theorem mem_heard_of_contains (h : t.node.view.contains id) : id ∈ t.node.heard i :=
  ⟨t.node.view, List.mem_cons_self, h⟩

theorem onward_discard {d : Detection} (remains : t.node.self.id ∉ d.remove) :
    Onward rivals t (t.setView (removeAll (suspectAll t.node.view d.suspect) d.remove)) :=
  .setView <| .trans .suspectAll (.removeAll remains)

theorem onward_absorb (h : e.message = .gossip incoming) :
    Onward (t.node.rivals (.envelope e)) t ((t.attend e.sender incoming).1.learn incoming).1 := by
  have attentive : Onward (t.node.rivals (.envelope e)) t (t.attend e.sender incoming).1 := .attend
  have akin : View.Akin t.node.view (t.attend e.sender incoming).1.node.view := akin_attend
  have heard id (h : (t.attend e.sender incoming).1.node.view.contains id) : id ∈ t.node.heard (.envelope e) := by
    rw [View.mem_memberIds_iff, akin.mem_memberIds_iff, ← View.mem_memberIds_iff] at h
    exact mem_heard_of_contains h
  have mem : incoming ∈ (Input.envelope e).views := by simp [Input.views, h, Message.views]
  exact attentive.trans <| .learn heard (attentive.id ▸ brings_of_mem_views mem)

theorem onward_recover {views : List View} : Onward (t.node.rivals (.recovered views)) t
    (({ t with node := { t.node with recovering := false } } : Turn).learnAll views).1 := by
  have idle : Onward (t.node.rivals (.recovered views)) t { t with node := { t.node with recovering := false } } :=
    .idle rfl rfl
  exact idle.trans <| .learnAll (fun _ => mem_heard_of_contains (i := .recovered views)) fun v hv =>
    brings_of_mem_views (t := t) (i := .recovered views) hv

theorem onward_rewrite {state : Dict String} : Onward rivals t
    ((t.become { t.node.self with state := state }).setStatus t.node.self.status) := by
  have rewritten : Onward rivals t (t.become { t.node.self with state := state }) := .become rfl
  exact rewritten.trans .setStatus

theorem onward_enter {self : Member} (admits : i.Admits v t.node.phase) (id : self.id = t.node.self.id) :
    Onward (t.node.rivals i) t (((t.become self).learn v).1.setStatus .up) := by
  have mem : v ∈ i.views := by
    generalize t.node.phase = phase at admits
    cases admits with
    | outcome => exact List.mem_singleton_self v
    | response h => simp [Input.views, h, Message.views]
  have became : Onward (t.node.rivals i) t (t.become self) := .become id
  refine became.trans <| .trans (.learn (fun _ => mem_heard_of_contains (t := t) (i := i)) ?_) .setStatus
  exact became.id ▸ brings_of_mem_views mem

theorem Deed.onward (deed : Deed t i u) : Onward (t.node.rivals i) t u := by
  cases deed with
  | nothing => exact .refl t
  | beat => exact .heartbeat
  | discard _ detected =>
    have remains : t.heartbeat.node.self.id ∉ _ := (Detector.not_mem_of_detect? detected).2
    exact Onward.heartbeat.trans <| (onward_discard remains).trans .recordChange
  | absorb h => exact (onward_absorb h).trans .reassert
  | recover => exact onward_recover.trans .reassert
  | enroll => exact .trans (.setView .add) .recordChange
  | expel _ allowed => exact .trans (.setView <| .remove (ne_of_checkForceDown allowed).symm) .recordChange
  | rewrite => exact onward_rewrite.trans .recordChange
  | retry => exact .idle rfl rfl
  | fail => exact .idle rfl rfl
  | enter admits entered =>
    have ⟨id, _⟩ := entrant_stamp_le entered
    exact (onward_enter admits id).trans <| .trans .recordChange .enterUp
  | depart => exact .depart

theorem Counts.eq {c : ℕ} (h : t.Counts c) : c = t.node.tally + 1 ∧ t.recordChange.node.tally = c := by
  obtain ⟨v, counted, rfl⟩ := h
  refine ⟨View.tally_recordChange counted, ?_⟩
  rw [Node.tally, Turn.recordChange, counted]
  rfl

theorem run_of_admits (admits : i.Admits v t.node.phase) (entered : entrant t.node.self v t.now = .ok m) :
    t.run i = t.completeJoin m v := by
  generalize joining : t.node.phase = phase at admits
  cases admits with
  | outcome => simp only [run, receiveOutcome, joining, if_true, settleJoin, entered]
  | response response => simp only [run, receive, response, receiveResponse, joining, settleJoin, entered]

namespace Prepares

theorem onward (h : Prepares t i u) : Onward (t.node.rivals i) t u := by
  cases h with
  | discard _ detected =>
    have remains : t.heartbeat.node.self.id ∉ _ := (Detector.not_mem_of_detect? detected).2
    exact Onward.heartbeat.trans (onward_discard remains)
  | absorb gossip _ _ supersedes => exact (onward_absorb gossip).trans <| .setSelf supersedes.eq.1
  | recover _ _ supersedes => exact onward_recover.trans <| .setSelf supersedes.eq.1
  | enroll => exact .setView .add
  | expel _ allowed => exact .setView <| .remove (ne_of_checkForceDown allowed).symm
  | rewrite => exact onward_rewrite
  | enter admits entered => exact onward_enter admits (entrant_stamp_le entered).1
  | depart => exact .trans (u := t.setTimers .none) (.idle rfl rfl) .setStatus

-- What has been counted stays so to the end of the turn.
theorem run (h : Prepares t i u) : Onward rivals u.recordChange (t.run i) := by
  cases h with
  | @discard d up detected some =>
    have applied : Quiet (t.heartbeat.discard d) (t.heartbeat.applyDetection d) := quiet_applyDetection some
    have told : Quiet (t.heartbeat.discard d) (t.run (.tick .failureDetection)) := by
      rw [Turn.run, Turn.tick, if_pos up, detectFailures]
      dsimp only
      split
      case h_1 failed => cases failed.symm.trans detected
      case h_2 d' hd =>
        obtain rfl : d' = d := Option.some_inj.mp (hd.symm.trans detected)
        split
        case isTrue => exact applied
        case isFalse => exact applied.trans quiet_startRecovery
    exact .of_quiet told
  | @absorb e incoming self gossip compatible up supersedes =>
    rw [run_gossip gossip compatible up, ← supersedes.reassert]
    exact .of_quiet quiet_conclude
  | @recover views self up some supersedes =>
    have up : ({ t with node := { t.node with recovering := false } } : Turn).node.isUp := up
    rw [← supersedes.reassert, Turn.run, receiveRecovered]
    dsimp only
    rw [if_neg (by simp [up, some])]
    exact .of_quiet quiet_conclude
  | @enroll e joiner token request admitted =>
    have told : Quiet (t.enroll joiner) (t.run (.envelope e)) := by
      simp only [Turn.run, Turn.receive, request]
      exact quiet_enroll admitted
    exact .of_quiet told
  | expel request allowed known => exact .of_quiet (quiet_expel request allowed known)
  | @rewrite e state request allowed =>
    have told : Quiet (t.updateState state) (t.run (.envelope e)) := by
      simp only [Turn.run, Turn.receive, request, allowed, whenAllowed]
      exact .respond
    exact .of_quiet (quiet_updateState.trans told)
  | @enter i view self admits entered =>
    let counted := (((t.become self).learn view).1.setStatus .up).recordChange
    have entering : Onward rivals counted counted.enterUp := .enterUp
    rw [run_of_admits admits entered]
    exact entering.trans (.of_quiet quiet_completeJoin)
  | @depart e request up =>
    let counted := ((t.setTimers .none).setStatus .leaving).recordChange
    have left : t.depart = (counted.setStatus .exiting).setPhase .exited := by
      rw [Turn.depart, if_pos (show (t.setTimers .none).node.isUp from up)]
    have exiting : Onward rivals counted (counted.setStatus .exiting) := .setStatus
    have exited : Onward rivals (counted.setStatus .exiting) t.depart := left ▸ .setPhase
    have told : Quiet t.depart (t.run (.envelope e)) := by
      have present : t.node.phase ≠ .exited := by
        have up : t.node.phase = .up := of_decide_eq_true up
        simp [up]
      simp only [Turn.run, Turn.receive, request]
      exact (quiet_leave present).trans .respond
    exact exiting.trans <| exited.trans <| .of_quiet told

end Prepares

theorem onward_run : Onward (t.node.rivals i) t (t.run i) :=
  have ⟨_, deed, quiet⟩ := Does.run (t := t) (i := i)
  deed.onward.trans (.of_quiet quiet)

theorem onward_start : Onward rivals t t.start := by
  refine .trans ?_ (.of_quiet quiet_start)
  rw [opening]
  split
  case isTrue => exact Onward.setStatus.trans <| Onward.recordChange.trans .enterUp
  case isFalse => exact .idle rfl rfl

namespace Onward

theorem roomy (h : Onward rivals t u) (room : t.node.view.Roomy rivals t.node.self.id) :
    u.node.view.Roomy rivals u.node.self.id :=
  h.id ▸ h.view.roomy room

theorem tally_le (h : Onward rivals t u) (room : t.node.view.Roomy rivals t.node.self.id) :
    t.node.tally ≤ u.node.tally := by
  rw [Node.tally, Node.tally, h.id]
  exact h.view.tally room

end Onward

theorem tally_start {c : ℕ} (founds : t.host.seeds.isBootstrap t.node.address) (h : (t.setStatus .up).Counts c) :
    t.start.node.tally = c := by
  have told : Quiet t.opening t.start := quiet_start
  rw [Node.tally, told.self, told.view, opening, if_pos founds]
  exact h.eq.2

end Turn

namespace Node

-- A node in order, with a view that keeps as many entries as are configured.
structure Sound (n : Node) : Prop where
  orderly : n.Orderly
  bound   : n.view.vectorBound = n.config.membership.maxVectorEntries

-- Right after the node has counted the change that it makes in a turn its counter is `c`.
def Counts (n : Node) : Happening → ℕ → Prop
  | .input host i, c => ∃ u, Turn.Prepares ⟨host, n, []⟩ i u ∧ u.Counts c
  | .fired _, _ => False

-- A node that founds a cluster counts that as well.
def CountsFirst (n : Node) (host : Host) (c : ℕ) : Prop :=
  host.seeds.isBootstrap n.address ∧ (Turn.setStatus ⟨host, n, []⟩ .up).Counts c

def Uncrowded (n : Node) : List Happening → Prop
  | [] => True
  | x :: hs => ¬n.Crowded x ∧ (n.meet x).Uncrowded hs

variable {n : Node} {host : Host} {i : Input} {x : Happening} {hs : List Happening} {c : ℕ}

theorem start_eq : (n.start host).1 = (Turn.start ⟨host, n, []⟩).node := by simp only [start]

theorem meet_eq : n.meet (.input host i) = (Turn.run ⟨host, n, []⟩ i).node := by simp only [meet, step]

namespace Sound

theorem start (h : n.Fresh) (host : Host) : (n.start host).1.Sound := by
  have ⟨becomes, orderly⟩ := h.start host
  have onward : Turn.Onward ∅ ⟨host, n, []⟩ (Turn.start ⟨host, n, []⟩) := Turn.onward_start
  refine ⟨orderly, ?_⟩
  rw [becomes.config, start_eq]
  exact onward.view.bound.trans h.bound

theorem meet (h : n.Sound) (x : Happening) : (n.meet x).Sound := by
  have ⟨becomes, orderly⟩ := h.orderly.meet x
  refine ⟨orderly, ?_⟩
  rw [becomes.config]
  cases x with
  | input host i =>
    have onward := Turn.onward_run (t := ⟨host, n, []⟩) (i := i)
    rw [meet_eq]
    exact onward.view.bound.trans h.bound
  | fired => exact h.bound

theorem live (h : n.Sound) (hs : List Happening) : (n.live hs).Sound := by
  induction hs generalizing n with
  | nil => exact h
  | cons x hs ih => exact ih (h.meet x)

theorem roomy (h : n.Sound) (room : ¬n.Crowded (.input host i)) : n.view.Roomy (n.rivals i) n.self.id := by
  refine ⟨h.orderly.present, fun hb => ?_, fun _ e he lt => ?_⟩
  case refine_1 =>
    rw [h.bound] at hb ⊢
    exact not_le.mp fun many => room ⟨hb, many⟩
  case refine_2 =>
    simp only [rivals, List.mem_toFinset, List.mem_filter, List.mem_map, List.mem_append, decide_eq_true_eq]
    exact ⟨⟨e, .inl he, rfl⟩, lt⟩

theorem tally_le (h : n.Sound) (room : ¬n.Crowded x) : n.tally ≤ (n.meet x).tally := by
  cases x with
  | input host i =>
    have onward := Turn.onward_run (t := ⟨host, n, []⟩) (i := i)
    rw [meet_eq]
    exact onward.tally_le (h.roomy room)
  | fired => exact le_rfl

theorem tally_live_le (h : n.Sound) (room : n.Uncrowded hs) : n.tally ≤ (n.live hs).tally := by
  induction hs generalizing n with
  | nil => exact le_rfl
  | cons x hs ih => exact (h.tally_le room.1).trans (ih (h.meet x) room.2)

theorem tally_lt_counts (h : n.Sound) (room : ¬n.Crowded x) (counts : n.Counts x c) :
    n.tally < c ∧ c ≤ (n.meet x).tally := by
  cases x with
  | fired => exact counts.elim
  | input host i =>
    obtain ⟨u, prepares, counts⟩ := counts
    obtain ⟨counted, records⟩ := counts.eq
    have room : n.view.Roomy (n.rivals i) n.self.id := h.roomy room
    have before : Turn.Onward (n.rivals i) ⟨host, n, []⟩ u := prepares.onward
    have later : Turn.Onward (n.rivals i) u.recordChange (Turn.run ⟨host, n, []⟩ i) := prepares.run
    rw [meet_eq]
    refine ⟨counted ▸ Nat.lt_succ_of_le (before.tally_le room), records ▸ later.tally_le ?_⟩
    exact Turn.Onward.recordChange.roomy (before.roomy room)

end Sound

theorem uncrowded_append {later : List Happening} :
    n.Uncrowded (hs ++ later) ↔ n.Uncrowded hs ∧ (n.live hs).Uncrowded later := by
  induction hs generalizing n with
  | nil => simp [Uncrowded, live]
  | cons x hs ih => simp [Uncrowded, live, ih, and_assoc]

theorem tally_forward {config : Config} {now : Timestamp} {instant : Instant} (host : Host)
    (created : Node.create config now instant = .ok (some n)) (hs : List Happening) :
    let m := (n.start host).1.live hs
    (∀ x, ¬m.Crowded x → m.tally ≤ (m.meet x).tally) ∧
    (∀ x c c', (n.start host).1.Uncrowded (hs ++ [x]) → n.CountsFirst host c → m.Counts x c' → c < c') ∧
    ∀ x later y c c', m.Uncrowded (x :: later ++ [y]) → m.Counts x c →
      ((m.meet x).live later).Counts y c' → c < c' := by
  intro m
  have started : (n.start host).1.Sound := .start (fresh_of_create created) host
  have sound : m.Sound := started.live hs
  refine ⟨fun x => sound.tally_le, ?first, ?later⟩
  case first =>
    intro x c c' room first counts
    obtain ⟨before, room, _⟩ := uncrowded_append.mp room
    have first : (n.start host).1.tally = c := start_eq ▸ Turn.tally_start (t := ⟨host, n, []⟩) first.1 first.2
    calc c = (n.start host).1.tally := first.symm
      _ ≤ m.tally := started.tally_live_le before
      _ < c' := (sound.tally_lt_counts room counts).1
  case later =>
    intro x later y c c' room counts counts'
    obtain ⟨now, room⟩ := room
    obtain ⟨between, room, _⟩ := uncrowded_append.mp room
    calc c ≤ (m.meet x).tally := (sound.tally_lt_counts now counts).2
      _ ≤ ((m.meet x).live later).tally := (sound.meet x).tally_live_le between
      _ < c' := (((sound.meet x).live later).tally_lt_counts room counts').1

-- A node founds a cluster, gets a new state from its owner and leaves. There is room for one entry in its vector.
theorem tally_forward_leave : ∃ (n : Node) (host : Host) (x y : Happening),
    let m := (n.start host).1
    n.CountsFirst host 1 ∧ m.Counts x 2 ∧ (m.meet x).Counts y 3 ∧ m.Uncrowded [x, y] ∧
      m.tally ≤ (m.meet x).tally ∧ 1 < 2 ∧ 2 < 3 := by
  let config : Config :=
    { node := { id := "a", address := "a:1" }, membership := { maxVectorEntries := 1 },
      failure := { crossTimeout := some (.ofMillis 200) } }
  let host : Host := ⟨0, 0, ⟨[], []⟩, fun _ targets => targets, []⟩
  let update : Envelope := ⟨some (.node "a:1"), .updateState ∅, true⟩
  let leave : Envelope := ⟨none, .leaveRequest, true⟩
  let x : Happening := .input host (.envelope update)
  let y : Happening := .input host (.envelope leave)
  have ⟨n, m, m', created, start, meet, founds, first, allowed, second, up, third, roomy, stays⟩ : ∃ n m m',
      Node.create config 0 0 = .ok (some n) ∧ (n.start host).1 = m ∧ m.meet x = m' ∧
      host.seeds.isBootstrap n.address ∧ (Turn.setStatus ⟨host, n, []⟩ .up).Counts 1 ∧
      Turn.checkUpdate m update.sender = .ok () ∧
      (Turn.setStatus ⟨host, { m with self := { m.self with state := ∅ } }, []⟩ m.self.status).Counts 2 ∧
      m'.isUp ∧ (Turn.setStatus ⟨host, { m' with timers := .none }, []⟩ .leaving).Counts 3 ∧
      ¬m.Crowded x ∧ ¬m'.Crowded y := ⟨_, _, _, rfl, rfl, rfl, by decide +kernel⟩
  have updated : m.Counts x 2 := ⟨_, .rewrite (e := update) rfl allowed, second⟩
  have left : m'.Counts y 3 := ⟨_, .depart (e := leave) rfl up, third⟩
  have room : m.Uncrowded [x, y] := ⟨roomy, meet ▸ stays, trivial⟩
  have ⟨onward, fromFirst, fromLater⟩ := tally_forward host created []
  simp only [live, List.foldl_nil, start, List.nil_append] at onward fromFirst fromLater
  refine ⟨n, host, x, y, ⟨founds, first⟩, ?_⟩
  rw [start, meet]
  exact ⟨updated, left, room, meet ▸ onward x roomy, fromFirst x 1 2 ⟨roomy, trivial⟩ ⟨founds, first⟩ updated,
    fromLater x [] y 2 3 room updated (meet.symm ▸ left)⟩

-- There is no room for the entry of a node any more when it hears of a member before it.
theorem tally_forward_crowded : ∃ (config : Config) (n : Node) (host : Host) (x : Happening),
    config.validate = .ok () ∧ Node.create config 0 0 = .ok (some n) ∧
      (n.start host).1.tally = 1 ∧ ((n.start host).1.meet x).tally = 0 := by
  let config : Config :=
    { node := { id := "b", address := "b:1" }, membership := { maxVectorEntries := 1 },
      failure := { crossTimeout := some (.ofMillis 200) } }
  let host : Host := ⟨0, 0, ⟨[], []⟩, fun _ targets => targets, []⟩
  let member : Member := { Member.starting "a" "meshwork" "a:1" 0 with status := .up }
  let news : View := { (View.new "" 0 1).add member with versions := ⟨⟨[("a", 1)], by decide⟩⟩ }
  have valid : config.validate = .ok () := by decide +kernel
  have ⟨n, created, facts⟩ : ∃ n, Node.create config 0 0 = .ok (some n) ∧ (n.start host).1.tally = 1 ∧
      ((n.start host).1.meet (.input host (.envelope ⟨none, .gossip news, false⟩))).tally = 0 :=
    ⟨_, rfl, by decide +kernel⟩
  exact ⟨config, n, host, _, valid, created, facts⟩

end Node

end GossipCluster
