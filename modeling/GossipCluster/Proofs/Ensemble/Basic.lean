import GossipCluster.Node.Attempt
import GossipCluster.Proofs.Node.Tenure

namespace GossipCluster

structure Letter where
  target  : Endpoint
  message : Message

-- `changes` counts how often each node has changed itself.
structure Ensemble (ι : Type) where
  node     : ι → Node
  started  : ι → Bool
  changes  : ι → ℕ
  letters  : List Letter
  answers  : List Message
  attempts : List (ι × JoinAttempt)
  pending  : List (ι × Input)

namespace Effect

def letters : Effect → List Letter
  | .send targets m => targets.map (⟨·, m⟩)
  | _ => []

def answers : Effect → List Message
  | .reply m => [m]
  | _ => []

def attempts (seeds : List String) : Effect → List JoinAttempt
  | .join number self token => [.begin number self token seeds]
  | _ => []

end Effect

namespace Ensemble

variable {ι : Type}

-- All copies of members: in nodes and their views, in messages, and in the outcomes that nodes have yet to
-- take in.
def members (σ : Ensemble ι) : Set Member := fun m =>
  (∃ i, m ∈ (σ.node i).members) ∨ (∃ l ∈ σ.letters, m ∈ l.message.members) ∨
    (∃ a ∈ σ.answers, m ∈ a.members) ∨ (∃ x ∈ σ.attempts, m ∈ x.2.request.members) ∨
    ∃ x ∈ σ.pending, m ∈ x.2.members

-- No node has been started, and nothing has been said.
structure Initial (σ : Ensemble ι) : Prop where
  created  : ∀ i, ∃ config now instant, Node.create config now instant = .ok (some (σ.node i))
  distinct : Function.Injective fun i => (σ.node i).self.id
  started  : σ.started = fun _ => false
  changes  : σ.changes = fun _ => 0
  letters  : σ.letters = []
  answers  : σ.answers = []
  attempts : σ.attempts = []
  pending  : σ.pending = []

-- What a node may have to deal with next: besides what other nodes have said to it and its own affairs, any
-- request that names no member.
inductive Available (σ : Ensemble ι) (i : ι) : Input → Prop
  | tick (k : Tick) : Available σ i (.tick k)
  | letter {l} (sender expectsReply) : l ∈ σ.letters → l.target = (σ.node i).endpoint →
      Available σ i (.envelope ⟨sender, l.message, expectsReply⟩)
  | joinRequest {j a} (sender) : (j, a) ∈ σ.attempts → (σ.node i).address ∈ a.seeds →
      Available σ i (.envelope ⟨sender, a.request, true⟩)
  | request (e : Envelope) : e.message.members = [] → Available σ i (.envelope e)
  | pending {input} : (i, input) ∈ σ.pending → Available σ i input

def post (σ : Ensemble ι) (i : ι) (input : Input) : Ensemble ι :=
  { σ with pending := σ.pending ++ [(i, input)] }

-- What comes of a request: an answer that has been given, or a failure.
def Answered (σ : Ensemble ι) (answer : Except Error Message) : Prop := ∀ m, answer = .ok m → m ∈ σ.answers

variable [DecidableEq ι]

-- Node `i` has taken a turn with so many changes of itself.
def take (σ : Ensemble ι) (i : ι) (changes : ℕ) (seeds : List String) (turn : Node × List Effect) :
    Ensemble ι where
  node     := Function.update σ.node i turn.1
  started  := Function.update σ.started i true
  changes  := Function.update σ.changes i (σ.changes i + changes)
  letters  := σ.letters ++ turn.2.flatMap Effect.letters
  answers  := σ.answers ++ turn.2.flatMap Effect.answers
  attempts := σ.attempts ++ (turn.2.flatMap (Effect.attempts seeds)).map (i, ·)
  pending  := σ.pending

section

variable {σ : Ensemble ι} {i j : ι} {changes : ℕ} {seeds : List String} {turn : Node × List Effect}

theorem node_take_self : (σ.take i changes seeds turn).node i = turn.1 := Function.update_self ..

theorem node_take_of_ne (h : j ≠ i) : (σ.take i changes seeds turn).node j = σ.node j :=
  Function.update_of_ne h ..

theorem changes_take_self : (σ.take i changes seeds turn).changes i = σ.changes i + changes :=
  Function.update_self ..

theorem changes_take_of_ne (h : j ≠ i) : (σ.take i changes seeds turn).changes j = σ.changes j :=
  Function.update_of_ne h ..

end

inductive Step (σ : Ensemble ι) : Ensemble ι → Prop
  | start {i} (host seeds) : σ.started i = false →
      Step σ (σ.take i (Turn.startChanges ⟨host, σ.node i, []⟩) seeds ((σ.node i).start host))
  | turn {i input} (host seeds) : σ.started i → σ.Available i input →
      Step σ (σ.take i (Turn.changes ⟨host, σ.node i, []⟩ input) seeds ((σ.node i).step host input))
  | joined {i a answer} (seed) : (i, a) ∈ σ.attempts → σ.Answered answer →
      Step σ (σ.post i (.joinOutcome a.number (JoinAttempt.outcome seed answer)))
  | searched {answers : List (Except Error Message)} (i) : (∀ a ∈ answers, σ.Answered a) →
      Step σ (σ.post i (.recovered (answers.filterMap Message.view?)))

abbrev Reachable (σ₀ σ : Ensemble ι) : Prop := Relation.ReflTransGen Step σ₀ σ

end Ensemble

end GossipCluster
