import GossipCluster.Proofs.Node.Life

namespace GossipCluster

namespace Member

-- A member that cannot count on.
def Spent (m : Member) : Prop := m.generation = Counter.last ∨ m.clock = Counter.last

instance : DecidablePred Spent := fun m => by unfold Spent; infer_instance

variable {a b : Member} {now : Timestamp} {error : Error}

theorem spent_of_supersede (h : a.supersede b now = .error error) : a.Spent ∨ b.Spent := by
  have full := supersede_eq_error_iff.mp ⟨_, h⟩
  rw [Counter.max_eq_last_iff, Counter.max_eq_last_iff] at full
  exact or_or_or_comm.mp full

end Member

namespace Node

-- The node, or what its view knows of it, cannot count on.
def Spent (n : Node) : Prop := n.self.Spent ∨ ∃ m, n.view.member? n.self.id = some m ∧ m.Spent

instance : DecidablePred Spent := fun n =>
  decidable_of_iff (n.self.Spent ∨ (n.view.member? n.self.id).any (decide ·.Spent)) <| by
    rw [Node.Spent]
    cases n.view.member? n.self.id <;> simp

instance : DecidablePred FindsItself := fun n =>
  decidable_of_iff ((n.view.member? n.self.id).any fun m => m = { n.self with lastSeen := m.lastSeen }) <| by
    rw [FindsItself]
    cases n.view.member? n.self.id with
    | none => simp
    | some m =>
      simp only [Option.any_some, decide_eq_true_eq, Option.some_inj]
      exact ⟨(⟨m.lastSeen, ·⟩), fun ⟨_, own⟩ => own ▸ rfl⟩

-- The view knows of a newer incarnation of the node.
def Outdone (n : Node) : Prop := n.self.stamp < n.view.stampOf n.self.id

def Aware (n : Node) : Prop := n.FindsItself ∨ n.Outdone

-- The node finds itself, or it has not been able to count its last change.
def Recorded (n : Node) : Prop := n.FindsItself ∨ n.self.clock = Counter.last

end Node

namespace Turn

variable {t u w : Turn} {m : Member} {status : Status} {v incoming : View} {sender : Option Endpoint} {i : Input}

theorem self_recordChange : t.recordChange.node.self = t.node.self := by
  rw [recordChange]
  split <;> rfl

theorem member?_recordChange {id : String} : t.recordChange.node.view.member? id = t.node.view.member? id := by
  rw [recordChange]
  split
  case h_1 counted => exact View.member?_recordChange counted
  case h_2 => rfl

theorem findsItself_recordChange (h : t.node.FindsItself) : t.recordChange.node.FindsItself := by
  rw [Node.FindsItself, self_recordChange, member?_recordChange]
  exact h

theorem recorded_recordChange (h : t.node.Recorded) : t.recordChange.node.Recorded :=
  h.imp findsItself_recordChange ((congrArg Member.clock self_recordChange).trans ·)

theorem recorded_setStatus (h : t.node.view.stampOf t.node.self.id ≤ t.node.self.stamp) :
    (t.setStatus status).node.Recorded := by
  by_cases last : t.node.self.clock = Counter.last
  case pos =>
    have stays : Counter.next t.node.self.clock = Counter.last := by rw [last]; rfl
    exact .inr stays
  case neg =>
    have room : t.node.self.clock.toNat < 2 ^ 64 - 1 := by
      have ne : t.node.self.clock.toNat ≠ 2 ^ 64 - 1 := fun e => last <| UInt64.toNat_inj.mp e
      have := t.node.self.clock.toNat_lt
      omega
    have counted : t.node.self.stamp < (t.node.self.advance t.now).stamp :=
      Member.stamp_lt_of_clock rfl (Member.clock_advance t.now room ▸ Nat.lt_succ_self _)
    exact .inl <| findsItself_setSelf <| h.trans_lt (WithBot.coe_lt_coe.mpr counted)

-- Once changes cannot be counted any more they stay so.
theorem recorded_setStatus_again (h : t.node.Recorded) : (t.setStatus status).node.Recorded := by
  cases h with
  | inl own => exact recorded_setStatus (stampOf_self own).le
  | inr last =>
    have stays : Counter.next t.node.self.clock = Counter.last := by rw [last]; rfl
    exact .inr stays

theorem recorded_depart (h : t.node.FindsItself) : t.depart.node.Recorded := by
  have told : (if (t.setTimers .none).node.isUp then ((t.setTimers .none).setStatus .leaving).recordChange
      else t.setTimers .none).node.Recorded := by
    split
    case isTrue => exact recorded_recordChange <| recorded_setStatus_again (.inl h)
    case isFalse => exact .inl h
  exact recorded_setStatus_again told

theorem aware_learn (h : t.node.Aware) : (t.learn incoming).1.node.Aware := by
  cases h with
  | inr outdone =>
    right
    rw [Node.Outdone, self_learn, stampOf_learn]
    exact lt_max_of_lt_left outdone
  | inl own =>
    by_cases news : ∃ theirs, incoming.member? t.node.self.id = some theirs ∧ theirs.Newer t.node.self
    case neg =>
      exact .inl <| findsItself_learn own fun theirs ht newer => news ⟨theirs, ht, newer⟩
    case pos =>
      have ⟨theirs, ht, newer⟩ := news
      have later := (Member.newer_iff (View.member?_id ht)).mp newer
      right
      rw [Node.Outdone, self_learn, stampOf_learn, View.stampOf_of_member? ht]
      exact lt_max_of_lt_right (WithBot.coe_lt_coe.mpr later)

theorem aware_learnAll (h : t.node.Aware) {views : List View} : (t.learnAll views).1.node.Aware := by
  rw [Turn.learnAll]
  generalize false = changed
  induction views generalizing t changed with
  | nil => exact h
  | cons v views ih => exact ih (aware_learn h) _

theorem aware_attend (h : t.node.Aware) (trusted : t.node.self.status ≠ .suspect) :
    (t.attend sender incoming).1.node.Aware := by
  cases h with
  | inl own => exact .inl (findsItself_attend own trusted)
  | inr outdone =>
    have kept : Keeps t (t.attend sender incoming).1 := .attend
    right
    cases sender <;> exact outdone.trans_le kept.own

-- A node puts itself right in its view, unless there is nothing to count its incarnations with.
theorem findsItself_reassert (h : t.node.Aware) : t.reassert.node.FindsItself ∨ t.reassert.node.Spent := by
  cases h with
  | inl own => exact .inl ((reassert_eq own).symm ▸ own)
  | inr outdone =>
    rw [Turn.reassert]
    cases known : t.node.view.member? t.node.self.id with
    | none =>
      rw [Node.Outdone, View.stampOf_eq_bot_iff.mpr known] at outdone
      exact absurd outdone not_lt_bot
    | some seen =>
      rw [Node.Outdone, View.stampOf_of_member? known] at outdone
      have newer : seen.Newer t.node.self := (Member.newer_iff (View.member?_id known)).mpr (WithBot.coe_lt_coe.mp outdone)
      dsimp only
      rw [if_pos newer]
      split
      case h_1 self superseded =>
        have id : self.id = t.node.self.id := (Member.supersede_eq superseded).1
        have stamp : seen.stamp < self.stamp := (Member.stamp_lt_supersede superseded).2
        refine .inl <| findsItself_recordChange <| findsItself_setSelf ?_
        rw [id, View.stampOf_of_member? known]
        exact WithBot.coe_lt_coe.mpr stamp
      case h_2 spent => exact .inr <| (Member.spent_of_supersede spent).imp_right (⟨seen, known, ·⟩)

theorem isStaleTwin_iff {self prior : Member} : isStaleTwin self prior ↔
    ¬prior.generation < self.generation ∧ prior.stamp ≠ self.stamp := by
  simp only [isStaleTwin, Ne, Member.stamp_eq_iff, Bool.or_eq_true, Bool.and_eq_true, Bool.not_eq_true',
    Bool.and_eq_false_iff, decide_eq_true_eq, decide_eq_false_iff_not, UInt64.lt_iff_toNat_lt, ← UInt64.toNat_inj]
  grind

theorem stamp_le_of_not_isStaleTwin {self prior : Member} (h : ¬isStaleTwin self prior) :
    prior.stamp ≤ self.stamp := by
  by_cases older : prior.generation < self.generation
  case pos => exact (Member.stamp_lt_iff.mpr (.inl older)).le
  case neg => exact (not_not.mp fun differs => h <| isStaleTwin_iff.mpr ⟨older, differs⟩).le

-- A node enters past what the cluster knows of it.
theorem stampOf_le_entrant (h : entrant t.node.self v t.now = .ok m) : v.stampOf t.node.self.id ≤ m.stamp := by
  rw [entrant] at h
  cases known : v.member? t.node.self.id with
  | none => exact View.stampOf_eq_bot_iff.mpr known ▸ bot_le
  | some prior =>
    rw [View.stampOf_of_member? known, WithBot.coe_le_coe]
    simp only [known] at h
    split at h
    case isTrue => exact (Member.stamp_lt_supersede h).2.le
    case isFalse genuine =>
      have h := Except.ok.inj h
      subst h
      exact stamp_le_of_not_isStaleTwin genuine

theorem recorded_enterUp (h : t.node.Recorded) : t.enterUp.node.Recorded := h

theorem recorded_enter (h : t.node.FindsItself) (entered : entrant t.node.self v t.now = .ok m) :
    ((((t.become m).learn v).1.setStatus .up).recordChange.enterUp).node.Recorded := by
  have ⟨id, stamp⟩ := entrant_stamp_le entered
  have self : ((t.become m).learn v).1.node.self = m := self_learn
  have learned : ((t.become m).learn v).1.node.view.stampOf m.id =
      max (t.node.view.stampOf m.id) (v.stampOf m.id) := stampOf_learn
  refine recorded_enterUp <| recorded_recordChange <| recorded_setStatus ?_
  rw [self, learned, id, stampOf_self h]
  exact max_le (WithBot.coe_le_coe.mpr stamp) (stampOf_le_entrant entered)

-- Somebody is let in under the id of the node, as a newer incarnation of it.
def Impersonated (t : Turn) (i : Input) : Prop :=
  ∃ e joiner token, i = .envelope e ∧ e.message = .joinRequest joiner token ∧
    (t.checkAdmission joiner token).2 = .ok () ∧ joiner.id = t.node.self.id ∧ joiner.Newer t.node.self

theorem findsItself_setView (h : t.node.FindsItself)
    (same : v.member? t.node.self.id = t.node.view.member? t.node.self.id) : (t.setView v).node.FindsItself :=
  have ⟨seen, own⟩ := h
  ⟨seen, same.trans own⟩

theorem findsItself_heartbeat (h : t.node.FindsItself) : t.heartbeat.node.FindsItself := by
  have ⟨seen, own⟩ := h
  refine ⟨max seen t.now, View.member?_touch.trans ?_⟩
  exact own ▸ congrArg some (if_pos rfl)

theorem findsItself_enroll_iff {joiner : Member} (h : t.node.FindsItself) : (t.enroll joiner).node.FindsItself ↔
    ¬(joiner.id = t.node.self.id ∧ joiner.Newer t.node.self) := by
  have ⟨seen, own⟩ := h
  let member := { joiner with status := .up, lastSeen := t.now }
  constructor
  case mp =>
    intro found ⟨same, newer⟩
    have unknown : (t.node.view.member? t.node.self.id).all (member.Newer ·) := own ▸ decide_eq_true newer
    have added : (t.node.view.add member).member? t.node.self.id = some member :=
      View.member?_add.trans (if_pos ⟨same, unknown⟩)
    have enrolled : (t.enroll joiner).node.view.member? t.node.self.id = some member :=
      member?_recordChange.trans added
    have self : (t.enroll joiner).node.self = t.node.self := self_recordChange
    have stamp := stampOf_self found
    rw [self, View.stampOf_of_member? enrolled, WithBot.coe_inj] at stamp
    exact ((Member.newer_iff same).mp newer).ne' stamp
  case mpr =>
    intro older
    refine findsItself_recordChange <| findsItself_setView h <| View.member?_add.trans <| if_neg ?_
    rintro ⟨same, newer⟩
    rw [own] at newer
    exact older ⟨same, of_decide_eq_true newer⟩

theorem Deed.findsItself (deed : Deed t i u) (own : t.node.FindsItself) (orderly : t.node.Orderly)
    (genuine : ¬t.Impersonated i) : u.node.FindsItself ∨ u.node.Spent := by
  have recorded (h : u.node.Recorded) : u.node.FindsItself ∨ u.node.Spent := h.imp_right (.inl <| .inr ·)
  cases deed with
  | nothing => exact .inl own
  | beat => exact .inl (findsItself_heartbeat own)
  | @discard d _ detected =>
    have ⟨suspect, remove⟩ := Detector.not_mem_of_detect? detected
    refine .inl <| findsItself_recordChange <| findsItself_setView (findsItself_heartbeat own) ?_
    exact View.member?_removeAll.trans <| (if_neg remove).trans <| View.member?_suspectAll suspect
  | absorb _ _ up =>
    have trusted : t.node.self.status ≠ .suspect := by
      have up : t.node.phase = .up := of_decide_eq_true up
      rw [orderly.status, up]
      nofun
    exact findsItself_reassert <| aware_learn <| aware_attend (.inl own) trusted
  | recover =>
    have idle : ({ t with node := { t.node with recovering := false } } : Turn).node.Aware := .inl own
    exact findsItself_reassert (aware_learnAll idle)
  | enroll h admitted =>
    refine .inl <| (findsItself_enroll_iff own).mpr fun ⟨same, newer⟩ => genuine ?_
    exact ⟨_, _, _, rfl, h, admitted, same, newer⟩
  | expel _ allowed =>
    refine .inl <| findsItself_recordChange <| findsItself_setView own ?_
    exact View.member?_remove.trans <| if_neg (ne_of_checkForceDown allowed).symm
  | rewrite => exact recorded <| recorded_recordChange <| recorded_setStatus (stampOf_self own).le
  | retry => exact .inl own
  | fail => exact .inl own
  | enter _ entered => exact recorded (recorded_enter own entered)
  | depart => exact recorded (recorded_depart own)

theorem findsItself_start (own : t.node.FindsItself) : t.start.node.FindsItself ∨ t.start.node.Spent := by
  have opened : t.opening.node.Recorded := by
    rw [opening]
    split
    case isTrue => exact recorded_enterUp <| recorded_recordChange <| recorded_setStatus (stampOf_self own).le
    case isFalse => exact .inl own
  rw [Node.Spent, quiet_start.self]
  exact opened.imp (findsItself_speaks quiet_start.toSpeaks) (.inl <| .inr ·)

theorem findsItself_run_iff (own : t.node.FindsItself) (orderly : t.node.Orderly)
    (lasting : ¬(t.run i).node.Spent) : (t.run i).node.FindsItself ↔ ¬t.Impersonated i := by
  constructor
  case mp =>
    rintro found ⟨e, joiner, token, rfl, h, admitted, impersonation⟩
    have quiet : Quiet (t.enroll joiner) (t.run (.envelope e)) := by
      simp only [run, receive, h]
      exact quiet_enroll admitted
    rw [Node.FindsItself, quiet.self, quiet.view] at found
    exact (findsItself_enroll_iff own).mp found impersonation
  case mpr =>
    intro genuine
    obtain ⟨done, deed, quiet⟩ : Does t i (t.run i) := .run
    rw [Node.Spent, quiet.self, quiet.view] at lasting
    exact findsItself_speaks quiet.toSpeaks <| (deed.findsItself own orderly genuine).resolve_right lasting

end Turn

namespace Node

variable {n : Node}

-- Somebody is let in under the id of the node, as a newer incarnation of it.
def Impersonated (n : Node) : Happening → Prop
  | .input host i => Turn.Impersonated ⟨host, n, []⟩ i
  | .fired _ => False

theorem Orderly.findsItself_meet_iff (h : n.Orderly) (own : n.FindsItself) {x : Happening}
    (lasting : ¬(n.meet x).Spent) : (n.meet x).FindsItself ↔ ¬n.Impersonated x := by
  cases x with
  | input => exact Turn.findsItself_run_iff own h lasting
  | fired => exact ⟨fun _ => id, fun _ => own⟩

theorem live_concat {hs : List Happening} {x : Happening} : n.live (hs ++ [x]) = (n.live hs).meet x :=
  List.foldl_concat ..

-- It comes down to each happening by itself.
theorem Orderly.findsItself_iff (h : n.Orderly) (own : n.FindsItself) {hs : List Happening}
    (lasting : ∀ p, p <+: hs → ¬(n.live p).Spent) : (∀ p, p <+: hs → (n.live p).FindsItself) ↔
      ∀ p x, p ++ [x] <+: hs → ¬(n.live p).Impersonated x := by
  have next {p x} (le : p ++ [x] <+: hs) (own : (n.live p).FindsItself) :
      (n.live (p ++ [x])).FindsItself ↔ ¬(n.live p).Impersonated x := by
    have lasting := lasting _ le
    rw [live_concat] at *
    exact (h.live p).findsItself_meet_iff own lasting
  constructor
  case mp =>
    intro found p x le
    exact (next le <| found p <| (List.prefix_append p [x]).trans le).mp (found _ le)
  case mpr =>
    intro genuine p le
    induction p using List.reverseRecOn with
    | nil => exact own
    | append_singleton p x ih =>
      exact (next le <| ih <| (List.prefix_append p [x]).trans le).mpr (genuine p x le)

theorem Fresh.findsItself_start (h : n.Fresh) (host : Host) (lasting : ¬(n.start host).1.Spent) :
    (n.start host).1.FindsItself := by
  simp only [Node.start] at *
  exact (Turn.findsItself_start h.findsItself).resolve_right lasting

theorem findsItself_throughout_iff {config : Config} {now : Timestamp} {instant : Instant} (host : Host)
    (created : Node.create config now instant = .ok (some n)) (hs : List Happening)
    (lasting : ∀ p, p <+: hs → ¬((n.start host).1.live p).Spent) :
    (∀ p, p <+: hs → ((n.start host).1.live p).FindsItself) ↔
      ∀ p x, p ++ [x] <+: hs → ¬((n.start host).1.live p).Impersonated x := by
  have fresh := fresh_of_create created
  have started := fresh.findsItself_start host (lasting [] hs.nil_prefix)
  exact (fresh.start host).2.findsItself_iff started lasting

-- Others know of a later run of a node that has just founded its cluster.
theorem findsItself_throughout_iff_outdone : ∃ (n : Node) (host : Host) (x : Happening),
    ((n.start host).1.live [x]).self.generation = 6 ∧
      ∀ p, p <+: [x] → ((n.start host).1.live p).FindsItself := by
  let config : Config :=
    { node := { id := "a", address := "a:1" }, failure := { crossTimeout := some (.ofMillis 200) } }
  let host : Host := ⟨0, 0, ⟨[], []⟩, fun _ _ => [], []⟩
  let twin : Member := { Member.starting "a" "meshwork" "b:1" 0 with generation := 5 }
  let x : Happening := .input host (.envelope ⟨none, .gossip ((View.new "" 0 0).add twin), false⟩)
  have ⟨n, created, later, started, told⟩ : ∃ n, Node.create config 0 0 = .ok (some n) ∧
      ((n.start host).1.live [x]).self.generation = 6 ∧
      ¬(n.start host).1.Spent ∧ ¬((n.start host).1.live [x]).Spent := ⟨_, rfl, by decide +kernel⟩
  refine ⟨n, host, x, later, (findsItself_throughout_iff host created [x] fun p le => ?_).mpr fun p y le => ?_⟩
  · rcases List.prefix_cons_iff.mp le with rfl | ⟨q, rfl, hq⟩
    · exact started
    · exact List.prefix_nil.mp hq ▸ told
  · have same : y = x := by simpa using le.subset (List.mem_append_right p List.mem_cons_self)
    subst same
    rintro ⟨e, joiner, token, he, hm, _⟩
    cases he
    exact nomatch hm

-- Somebody joins from elsewhere under the id of a node that has just founded its cluster.
theorem not_findsItself_of_impersonated : ∃ (n : Node) (host : Host) (x : Happening),
    ¬(n.start host).1.Spent ∧ (n.start host).1.FindsItself ∧
      ¬((n.start host).1.meet x).Spent ∧ ¬((n.start host).1.meet x).FindsItself := by
  let config : Config :=
    { node := { id := "a", address := "a:1" }, failure := { crossTimeout := some (.ofMillis 200) } }
  let host : Host := ⟨0, 0, ⟨[], []⟩, fun _ _ => [], []⟩
  let twin : Member := { Member.starting "a" "meshwork" "b:1" 0 with generation := 2 }
  let x : Happening := .input host (.envelope ⟨none, .joinRequest twin "", true⟩)
  have ⟨n, _, run⟩ : ∃ n, Node.create config 0 0 = .ok (some n) ∧ ¬(n.start host).1.Spent ∧
      (n.start host).1.FindsItself ∧ ¬((n.start host).1.meet x).Spent ∧ ¬((n.start host).1.meet x).FindsItself :=
    ⟨_, rfl, by decide +kernel⟩
  exact ⟨n, host, x, run⟩

end Node

end GossipCluster
