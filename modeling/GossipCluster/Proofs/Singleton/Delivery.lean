import Mathlib.Data.Nat.Notation
import Mathlib.Logic.Relation
import GossipCluster.Singleton.Proxy

namespace GossipCluster.Proxy

def Effect.forwarded? : Effect → Option Parcel
  | .forward _ parcel => some parcel
  | _ => none

def Input.told? : Input → Option Parcel
  | .tell parcel => some parcel
  | _ => none

variable {p : Proxy} {link : Link} {i : Input}

theorem passOn_append (delivers : List Parcel → Parcel → Bool) (sent buffer : List Parcel) :
    (passOn delivers sent buffer).1 ++ (passOn delivers sent buffer).2 = sent ++ buffer := by
  induction buffer generalizing sent with
  | nil => rfl
  | cons parcel rest ih =>
    rw [passOn]
    split
    case isTrue => rw [ih, List.append_assoc, List.singleton_append]
    case isFalse => rfl

theorem buffer_armRetry : p.armRetry.1.buffer = p.buffer := by
  rw [armRetry]
  split <;> rfl

theorem forwarded_armRetry : p.armRetry.2.filterMap Effect.forwarded? = [] := by
  rw [armRetry]
  split <;> rfl

theorem forwarded_flush :
    (p.flush link).2.filterMap Effect.forwarded? ++ (p.flush link).1.buffer = p.buffer := by
  have forwarded (target : Endpoint) (sent : List Parcel) :
      (sent.map (Effect.forward target)).filterMap Effect.forwarded? = sent := by
    simp [List.filterMap_map, Function.comp_def, Effect.forwarded?]
  rw [flush]
  split
  case h_1 => rfl
  case h_2 target _ =>
    have conserved := passOn_append (link target) [] p.buffer
    dsimp only
    split
    case isTrue => simpa [forwarded] using conserved
    case isFalse => simpa [forwarded, forwarded_armRetry, buffer_armRetry] using conserved

theorem forwarded_step :
    (p.step link i).2.filterMap Effect.forwarded? ++ (p.step link i).1.buffer = p.buffer ++ i.told?.toList := by
  cases i with
  | leader address => exact forwarded_flush.trans (List.append_nil _).symm
  | tell parcel =>
    simp only [step, tell]
    split
    case isTrue => rfl
    case isFalse => exact forwarded_flush
  | ask parcel =>
    rw [step]
    split <;> exact (List.append_nil _).symm
  | retry => exact forwarded_flush.trans (List.append_nil _).symm

-- One input after the other, whatever gets through meanwhile: the proxy in the end, and all that it has done.
def play (p : Proxy) : List (Link × Input) → Proxy × List Effect
  | [] => (p, [])
  | (link, i) :: rest =>
    let (p, effects) := p.step link i
    let (p, later) := p.play rest
    (p, effects ++ later)

theorem forwarded_play (rounds : List (Link × Input)) :
    (p.play rounds).2.filterMap Effect.forwarded? ++ (p.play rounds).1.buffer =
      p.buffer ++ rounds.filterMap (·.2.told?) := by
  induction rounds generalizing p with
  | nil => exact (List.append_nil _).symm
  | cons round rest ih =>
    obtain ⟨link, i⟩ := round
    have told : ((link, i) :: rest).filterMap (·.2.told?) = i.told?.toList ++ rest.filterMap (·.2.told?) := by
      cases h : i.told? <;> simp [h]
    rw [play, told, List.filterMap_append, List.append_assoc, ih, ← List.append_assoc, forwarded_step,
      List.append_assoc]

theorem forwarded_append_waiting (name : String) (rounds : List (Link × Input)) :
    (({ name } : Proxy).play rounds).2.filterMap Effect.forwarded? ++ (({ name } : Proxy).play rounds).1.buffer =
      rounds.filterMap (·.2.told?) :=
  forwarded_play rounds

-- What waits although the singleton has a place waits for a timer.
def Tries (p : Proxy) : Prop := p.location.isSome → p.buffer ≠ [] → p.retryArmed

theorem count_arm_armRetry : p.armRetry.2.count .arm + p.retryArmed.toNat = 1 := by
  rw [armRetry]
  split
  case isTrue armed => simp [armed]
  case isFalse idle => simp [idle]

theorem retryArmed_armRetry : p.armRetry.1.retryArmed := by
  rw [armRetry]
  split
  case isTrue armed => exact armed
  case isFalse => rfl

theorem count_arm_flush :
    (p.flush link).2.count .arm + p.retryArmed.toNat = (p.flush link).1.retryArmed.toNat := by
  have unarmed (target : Endpoint) (sent : List Parcel) : (sent.map (Effect.forward target)).count .arm = 0 := by
    simp [List.count_eq_zero]
  rw [flush]
  split
  case h_1 => simp
  case h_2 =>
    dsimp only
    split
    case isTrue => simp [unarmed]
    case isFalse =>
      rw [List.count_append, unarmed, Nat.zero_add, retryArmed_armRetry]
      exact count_arm_armRetry

theorem tries_flush : (p.flush link).1.Tries := by
  rw [flush]
  split
  case h_1 lost => simp [Tries, lost]
  case h_2 =>
    dsimp only
    split
    case isTrue done => exact fun _ waits => absurd (List.isEmpty_iff.mp done) waits
    case isFalse => exact fun _ _ => retryArmed_armRetry

theorem count_arm_step (h : i ≠ .retry) :
    (p.step link i).2.count .arm + p.retryArmed.toNat = (p.step link i).1.retryArmed.toNat := by
  cases i with
  | leader address => exact count_arm_flush
  | tell parcel =>
    simp only [step, tell]
    split
    case isTrue => simp
    case isFalse => exact count_arm_flush
  | ask parcel =>
    rw [step]
    split <;> simp
  | retry => exact absurd rfl h

theorem Tries.step (h : p.Tries) : (p.step link i).1.Tries := by
  cases i with
  | leader | retry => exact tries_flush
  | tell parcel =>
    simp only [Proxy.step, tell]
    split
    case isTrue armed => exact fun _ _ => armed
    case isFalse => exact tries_flush
  | ask parcel =>
    rw [Proxy.step]
    split <;> exact h

end Proxy

-- A proxy with the timers it has started: those that run, and those that have run out and are yet to be handled.
structure Timekeeping where
  proxy   : Proxy
  running : ℕ := 0
  due     : ℕ := 0

namespace Timekeeping

def after (s : Timekeeping) (turn : Proxy × List Proxy.Effect) : Timekeeping :=
  { s with proxy := turn.1, running := s.running + turn.2.count .arm }

-- The proxy takes something in, and a timer runs out or is handled, in any order.
inductive Step : Timekeeping → Timekeeping → Prop
  | take {s : Timekeeping} {i : Proxy.Input} (link : Proxy.Link) : i ≠ .retry → Step s (s.after (s.proxy.step link i))
  | runOut {p running due} : Step ⟨p, running + 1, due⟩ ⟨p, running, due + 1⟩
  | handle {p running due} (link : Proxy.Link) :
      Step ⟨p, running, due + 1⟩ (after ⟨p, running, due⟩ (p.step link .retry))

-- At most one timer is under way, and the proxy knows of it.
structure Sound (s : Timekeeping) : Prop where
  timers : s.running + s.due = s.proxy.retryArmed.toNat
  tries  : s.proxy.Tries

variable {s s' : Timekeeping}

theorem Sound.step (h : s.Sound) (step : Step s s') : s'.Sound := by
  cases step with
  | @take s i link other =>
    refine ⟨?_, h.tries.step⟩
    have counted : (s.proxy.step link i).2.count .arm + s.proxy.retryArmed.toNat =
        (s.proxy.step link i).1.retryArmed.toNat := Proxy.count_arm_step other
    have timers := h.timers
    simp only [after]
    omega
  | runOut =>
    refine ⟨?_, h.tries⟩
    have timers := h.timers
    dsimp only at timers ⊢
    omega
  | @handle p running due link =>
    refine ⟨?_, h.tries.step⟩
    -- The timer that is handled was the only one.
    have counted : (p.step link .retry).2.count .arm = (p.step link .retry).1.retryArmed.toNat :=
      Proxy.count_arm_flush (p := { p with retryArmed := false })
    have single : running + (due + 1) ≤ 1 := Nat.le_trans (Nat.le_of_eq h.timers) (Bool.toNat_le _)
    simp only [after]
    omega

theorem sound_of_reachable {name : String} (reached : Relation.ReflTransGen Step { proxy := { name } } s) :
    s.Sound := by
  induction reached with
  | refl => exact ⟨rfl, nofun⟩
  | tail _ step ih => exact ih.step step

theorem pending_while_waiting {name : String} (reached : Relation.ReflTransGen Step { proxy := { name } } s) :
    (s.proxy.location.isSome → s.proxy.buffer ≠ [] → 0 < s.running + s.due) ∧
      s.running + s.due = if s.proxy.retryArmed then 1 else 0 := by
  have ⟨timers, tries⟩ := sound_of_reachable reached
  constructor
  case left =>
    intro known waits
    have armed : s.proxy.retryArmed := tries known waits
    simp [timers, armed]
  case right =>
    rw [timers]
    cases s.proxy.retryArmed <;> rfl

-- A message does not get through, and the timer that has been started for it has run out.
theorem pending_while_waiting_unreachable : ∃ (p : Proxy) (parcel : Parcel),
    Relation.ReflTransGen Step { proxy := { name := "x" } } ⟨p, 0, 1⟩ ∧ p.location.isSome ∧ p.buffer = [parcel] ∧
      0 < 0 + 1 ∧ 0 + 1 = if p.retryArmed then 1 else 0 := by
  let parcel : Parcel := ⟨none, .leaveAck⟩
  let silent : Proxy.Link := fun _ _ _ => false
  let p : Proxy := ⟨"x", some ⟨"a", Singleton.path "x"⟩, [parcel], true⟩
  have found : Step { proxy := { name := "x" } } { proxy := ⟨"x", p.location, [], false⟩ } :=
    .take (i := .leader "a") silent nofun
  have told : Step { proxy := ⟨"x", p.location, [], false⟩ } ⟨p, 1, 0⟩ :=
    .take (i := .tell parcel) silent nofun
  have reached : Relation.ReflTransGen Step { proxy := { name := "x" } } ⟨p, 0, 1⟩ :=
    ((Relation.ReflTransGen.single found).tail told).tail .runOut
  have ⟨pending, timers⟩ := pending_while_waiting reached
  exact ⟨p, parcel, reached, rfl, rfl, pending rfl (List.cons_ne_nil _ _), timers⟩

end Timekeeping

end GossipCluster
