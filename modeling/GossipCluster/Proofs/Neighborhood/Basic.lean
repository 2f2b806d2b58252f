import GossipCluster.Node.Attempt
import GossipCluster.Proofs.Ensemble.Replay

namespace GossipCluster

-- What a node has done, and who had asked for it.
structure Saying (ι : Type) where
  author : ι
  asker  : Option ι
  effect : Effect

structure Neighborhood (ι : Type) where
  node    : ι → Node
  started : ι → Bool
  said    : List (Saying ι)

namespace Neighborhood

variable {ι : Type}

def name (σ : Neighborhood ι) (i : ι) : String := (σ.node i).config.clusterName

def address (σ : Neighborhood ι) (i : ι) : String := (σ.node i).address

-- No node has been started, and nothing has been done.
structure Initial (σ : Neighborhood ι) : Prop where
  created : ∀ i, ∃ config now instant, Node.create config now instant = .ok (some (σ.node i))
  started : σ.started = fun _ => false
  said    : σ.said = []

-- Where a node may look for others, whatever it finds around it.
def lookout (hosts : ι → Set Host) (i : ι) : Set String := {a | ∃ host ∈ hosts i, a ∈ host.seeds.addresses}

-- What comes of a request: the answer of a node that may have been asked, or a failure.
def Answered (hosts : ι → Set Host) (σ : Neighborhood ι) (i : ι) (answer : Except Error Message) : Prop :=
  ∀ m, answer = .ok m → ∃ j, σ.address j ∈ lookout hosts i ∧ ⟨j, some i, .reply m⟩ ∈ σ.said

-- What a node may have to deal with next, and who asks for it: besides what other nodes say and its own affairs, any
-- request that carries neither members nor a view.
inductive Available (hosts : ι → Set Host) (σ : Neighborhood ι) (i : ι) : Option ι → Input → Prop
  | tick (k : Tick) : Available hosts σ i none (.tick k)
  | letter {j asker targets m} (sender expectsReply) : ⟨j, asker, .send targets m⟩ ∈ σ.said →
      (σ.node i).endpoint ∈ targets → Available hosts σ i none (.envelope ⟨sender, m, expectsReply⟩)
  | joinRequest {j asker number self token} (sender) : ⟨j, asker, .join number self token⟩ ∈ σ.said →
      σ.address i ∈ lookout hosts j → Available hosts σ i (some j) (.envelope ⟨sender, .joinRequest self token, true⟩)
  | search {j} (sender) : σ.address i ∈ lookout hosts j →
      Available hosts σ i (some j) (.envelope ⟨sender, .viewRequest, true⟩)
  | request (e : Envelope) : e.message.views = [] → e.message.members = [] → Available hosts σ i none (.envelope e)
  | joined {asker number self token answer} (seed) : ⟨i, asker, .join number self token⟩ ∈ σ.said →
      σ.Answered hosts i answer → Available hosts σ i none (.joinOutcome number (JoinAttempt.outcome seed answer))
  | searched {answers : List (Except Error Message)} : (∀ a ∈ answers, σ.Answered hosts i a) →
      Available hosts σ i none (.recovered (answers.filterMap Message.view?))

variable [DecidableEq ι]

def take (σ : Neighborhood ι) (i : ι) (asker : Option ι) (turn : Node × List Effect) : Neighborhood ι where
  node    := Function.update σ.node i turn.1
  started := Function.update σ.started i true
  said    := σ.said ++ turn.2.map (⟨i, asker, ·⟩)

-- What holds of all nodes still does, when it holds of the one that has taken its turn.
theorem forall_node_take {P : ι → Node → Prop} {σ : Neighborhood ι} {i : ι} {asker : Option ι}
    {turn : Node × List Effect} (h : ∀ j, P j (σ.node j)) (own : P i turn.1) :
    ∀ j, P j ((σ.take i asker turn).node j) :=
  (Function.forall_update_iff σ.node P).mpr ⟨own, fun j _ => h j⟩

-- A node may take its turn on any of its hosts.
inductive Step (hosts : ι → Set Host) (σ : Neighborhood ι) : Neighborhood ι → Prop
  | start {i host} : host ∈ hosts i → σ.started i = false → Step hosts σ (σ.take i none ((σ.node i).start host))
  | turn {i host asker input} : host ∈ hosts i → σ.started i → σ.Available hosts i asker input →
      Step hosts σ (σ.take i asker ((σ.node i).step host input))

abbrev Reachable (hosts : ι → Set Host) (σ₀ σ : Neighborhood ι) : Prop := Relation.ReflTransGen (Step hosts) σ₀ σ

-- The things that have been done are named by their place among all of them.
inductive Move (ι : Type)
  | start (i : ι)
  | tick (i : ι) (k : Tick)
  | letter (i : ι) (place : ℕ)
  | joinRequest (i : ι) (place : ℕ)
  | joined (i : ι) (place answer : ℕ)

-- What is available to a node in a move.
def offer? (host : ι → Host) (σ : Neighborhood ι) : Move ι → Option (ι × Option ι × Input)
  | .start _ => none
  | .tick i k => some (i, none, .tick k)
  | .letter i place => do
    let ⟨_, _, .send targets m⟩ ← σ.said[place]? | none
    if (σ.node i).endpoint ∈ targets then some (i, none, .envelope ⟨none, m, false⟩) else none
  | .joinRequest i place => do
    let ⟨j, _, .join _ self token⟩ ← σ.said[place]? | none
    if σ.address i ∈ (host j).seeds.addresses then
      some (i, some j, .envelope ⟨none, .joinRequest self token, true⟩)
    else none
  | .joined i place answer => do
    let ⟨k, _, .join number _ _⟩ ← σ.said[place]? | none
    let ⟨j, some asker, .reply m⟩ ← σ.said[answer]? | none
    if k = i ∧ asker = i ∧ σ.address j ∈ (host i).seeds.addresses then
      some (i, none, .joinOutcome number (JoinAttempt.outcome (σ.address j) (.ok m)))
    else none

def move? (host : ι → Host) (σ : Neighborhood ι) : Move ι → Option (Neighborhood ι)
  | .start i => if σ.started i then none else some (σ.take i none ((σ.node i).start (host i)))
  | m => do
    let (i, asker, input) ← σ.offer? host m
    if σ.started i then some (σ.take i asker ((σ.node i).step (host i) input)) else none

def play? (host : ι → Host) (σ : Neighborhood ι) (ms : List (Move ι)) : Option (Neighborhood ι) :=
  ms.foldlM (move? host) σ

variable {host : ι → Host} {σ σ' : Neighborhood ι} {i : ι} {asker : Option ι} {input : Input} {m : Move ι}
  {ms : List (Move ι)}

omit [DecidableEq ι] in
theorem mem_lookout_iff {a : String} : a ∈ lookout (fun i => {host i}) i ↔ a ∈ (host i).seeds.addresses := by
  simp [lookout]

theorem available_of_offer? (h : σ.offer? host m = some (i, asker, input)) :
    σ.Available (fun i => {host i}) i asker input := by
  cases m with
  | start => exact nomatch h
  | tick i k =>
    cases h
    exact .tick k
  | letter i place =>
    obtain ⟨_, done, h⟩ := Option.bind_eq_some_iff.mp h
    split at h
    case h_2 => exact nomatch h
    case h_1 =>
      split at h
      case isFalse => exact nomatch h
      case isTrue target =>
        cases h
        exact .letter none false (List.mem_of_getElem? done) target
  | joinRequest i place =>
    obtain ⟨_, done, h⟩ := Option.bind_eq_some_iff.mp h
    split at h
    case h_2 => exact nomatch h
    case h_1 =>
      split at h
      case isFalse => exact nomatch h
      case isTrue asked =>
        cases h
        exact .joinRequest none (List.mem_of_getElem? done) (mem_lookout_iff.mpr asked)
  | joined i place answer =>
    obtain ⟨_, done, h⟩ := Option.bind_eq_some_iff.mp h
    split at h
    case h_2 => exact nomatch h
    case h_1 =>
      obtain ⟨_, answered, h⟩ := Option.bind_eq_some_iff.mp h
      split at h
      case h_2 => exact nomatch h
      case h_1 j asker m =>
        split at h
        case isFalse => exact nomatch h
        case isTrue ok =>
          obtain ⟨rfl, rfl, asked⟩ := ok
          cases h
          refine .joined _ (List.mem_of_getElem? done) fun m' e => ?_
          exact Except.ok.inj e ▸ ⟨j, mem_lookout_iff.mpr asked, List.mem_of_getElem? answered⟩

theorem step_of_move? (h : σ.move? host m = some σ') : Step (fun i => {host i}) σ σ' := by
  cases m with
  | start i =>
    rw [move?] at h
    split at h
    case isTrue => exact nomatch h
    case isFalse idle => exact Option.some_inj.mp h ▸ .start rfl (Bool.not_eq_true _ ▸ idle)
  | _ =>
    unfold move? at h
    obtain ⟨⟨i, asker, input⟩, offered, h⟩ := Option.bind_eq_some_iff.mp h
    dsimp only at h
    split at h
    case isFalse => exact nomatch h
    case isTrue started => exact Option.some_inj.mp h ▸ .turn rfl started (available_of_offer? offered)

theorem reachable_of_play? (h : σ.play? host ms = some σ') : Reachable (fun i => {host i}) σ σ' :=
  reflTransGen_of_foldlM step_of_move? h

end Neighborhood

end GossipCluster
