import GossipCluster.Proofs.Ensemble.Basic

namespace GossipCluster

-- Moves that can be made one after the other, each of them a step, make a run.
theorem reflTransGen_of_foldlM {α β : Type} {r : α → α → Prop} {move? : α → β → Option α}
    (step : ∀ {a b m}, move? a m = some b → r a b) {a b : α} {ms : List β} (h : ms.foldlM move? a = some b) :
    Relation.ReflTransGen r a b := by
  induction ms generalizing a with
  | nil => exact Option.some_inj.mp h ▸ .refl
  | cons m ms ih =>
    obtain ⟨_, first, rest⟩ := Option.bind_eq_some_iff.mp h
    exact .head (step first) (ih rest)

namespace Ensemble

inductive Move (ι : Type)
  | start (i : ι) (host : Host) (seeds : List String)
  | request (i : ι) (host : Host) (m : Message)
  | letter (i : ι) (host : Host) (place : ℕ)
  | joinRequest (i : ι) (host : Host) (place : ℕ)
  | joined (place : ℕ) (seed : String) (answer : ℕ)
  | settle (host : Host) (place : ℕ)

variable {ι : Type} [DecidableEq ι] {σ σ' : Ensemble ι} {m : Move ι} {ms : List (Move ι)}

def turn (σ : Ensemble ι) (i : ι) (host : Host) (input : Input) : Ensemble ι :=
  σ.take i (Turn.changes ⟨host, σ.node i, []⟩ input) [] ((σ.node i).step host input)

def move? (σ : Ensemble ι) : Move ι → Option (Ensemble ι)
  | .start i host seeds =>
    if σ.started i then none
    else some <| σ.take i (Turn.startChanges ⟨host, σ.node i, []⟩) seeds ((σ.node i).start host)
  | .request i host m =>
    if σ.started i ∧ m.members = [] then some <| σ.turn i host (.envelope ⟨none, m, true⟩) else none
  | .letter i host place => do
    let l ← σ.letters[place]?
    if σ.started i ∧ l.target = (σ.node i).endpoint then
      some <| σ.turn i host (.envelope ⟨none, l.message, false⟩)
    else none
  | .joinRequest i host place => do
    let (_, a) ← σ.attempts[place]?
    if σ.started i ∧ (σ.node i).address ∈ a.seeds then
      some <| σ.turn i host (.envelope ⟨none, a.request, true⟩)
    else none
  | .joined place seed answer => do
    let (i, a) ← σ.attempts[place]?
    let m ← σ.answers[answer]?
    return σ.post i (.joinOutcome a.number (JoinAttempt.outcome seed (.ok m)))
  | .settle host place => do
    let (i, input) ← σ.pending[place]?
    if σ.started i then some <| σ.turn i host input else none

def play? (σ : Ensemble ι) (ms : List (Move ι)) : Option (Ensemble ι) := ms.foldlM move? σ

theorem step_turn {i : ι} {host : Host} {input : Input} (started : σ.started i) (available : σ.Available i input) :
    Step σ (σ.turn i host input) := .turn host [] started available

theorem step_of_move? (h : σ.move? m = some σ') : Step σ σ' := by
  cases m with
  | start i host seeds =>
    rw [move?] at h
    split at h
    case isTrue => exact nomatch h
    case isFalse idle => exact Option.some_inj.mp h ▸ .start host seeds (Bool.not_eq_true _ ▸ idle)
  | request i host m =>
    rw [move?] at h
    split at h
    case isTrue ok => exact Option.some_inj.mp h ▸ step_turn ok.1 (.request _ ok.2)
    case isFalse => exact nomatch h
  | letter i host place =>
    obtain ⟨l, hl, h⟩ := Option.bind_eq_some_iff.mp h
    split at h
    case isTrue ok =>
      exact Option.some_inj.mp h ▸ step_turn ok.1 (.letter none false (List.mem_of_getElem? hl) ok.2)
    case isFalse => exact nomatch h
  | joinRequest i host place =>
    obtain ⟨⟨j, a⟩, ha, h⟩ := Option.bind_eq_some_iff.mp h
    dsimp only at h
    split at h
    case isTrue ok =>
      exact Option.some_inj.mp h ▸ step_turn ok.1 (.joinRequest none (List.mem_of_getElem? ha) ok.2)
    case isFalse => exact nomatch h
  | joined place seed answer =>
    obtain ⟨⟨i, a⟩, ha, h⟩ := Option.bind_eq_some_iff.mp h
    obtain ⟨m, hm, h⟩ := Option.bind_eq_some_iff.mp h
    have given : σ.Answered (.ok m) := fun m' e => Except.ok.inj e ▸ List.mem_of_getElem? hm
    exact Option.some_inj.mp h ▸ .joined seed (List.mem_of_getElem? ha) given
  | settle host place =>
    obtain ⟨⟨i, input⟩, hi, h⟩ := Option.bind_eq_some_iff.mp h
    dsimp only at h
    split at h
    case isTrue started => exact Option.some_inj.mp h ▸ step_turn started (.pending (List.mem_of_getElem? hi))
    case isFalse => exact nomatch h

theorem reachable_of_play? (h : σ.play? ms = some σ') : Reachable σ σ' := reflTransGen_of_foldlM step_of_move? h

end Ensemble

end GossipCluster
