import GossipCluster.Proofs.Ensemble.Ownership
import GossipCluster.Proofs.Node.Relay

namespace GossipCluster

-- How many elements of a set are still ahead.
noncomputable def headroom {α : Type} [Preorder α] (s : Set α) (a : α) : ℕ := (s ∩ Set.Ioi a).ncard

section

variable {α : Type} [Preorder α] {s : Set α} {a b : α}

theorem headroom_le (hs : s.Finite) (h : a ≤ b) : headroom s b ≤ headroom s a :=
  Set.ncard_le_ncard (Set.inter_subset_inter_right s <| Set.Ioi_subset_Ioi h) (hs.inter_of_left _)

theorem headroom_lt (hs : s.Finite) (hb : b ∈ s) (h : a < b) : headroom s b < headroom s a := by
  refine Set.ncard_lt_ncard ⟨Set.inter_subset_inter_right s <| Set.Ioi_subset_Ioi h.le, fun sub => ?_⟩
    (hs.inter_of_left _)
  exact lt_irrefl b (sub ⟨hb, h⟩).2

end

-- A node that has its place in a cluster.
structure Node.Settled (n : Node) : Prop where
  phase    : n.phase = .up
  status   : n.self.status = .up
  coherent : n.Coherent

-- Wherever an ensemble may come to, its nodes that are up are settled.
theorem Ensemble.settled_of_reachable {ι : Type} [DecidableEq ι] {σ₀ σ : Ensemble ι} {i : ι} (h₀ : σ₀.Initial)
    (h : Reachable σ₀ σ) (hc : ∀ i, σ.changes i < 2 ^ 64 - 1) (up : (σ.node i).phase = .up) :
    (σ.node i).Settled := by
  have sound := h₀.sound.reachable h hc
  have custody := sound.custody i ⟨0, 0, ⟨[], []⟩, fun _ _ => [], []⟩
  exact ⟨up, sound.regular i up, custody.coherent⟩

-- Some nodes, and the gossip that is under way between them.
structure Cascade (ι : Type) where
  node : ι → Node
  mail : Multiset Rumor

namespace Cascade

variable {ι : Type}

-- The views of the nodes, and those that are under way.
def views (σ : Cascade ι) : Set View := Set.range (fun i => (σ.node i).view) ∪ Rumor.view '' {r | r ∈ σ.mail}

-- All that will ever be known is known already.
def known (σ : Cascade ι) : Set Member := ⋃ v ∈ σ.views, v.imprints

def events (σ : Cascade ι) : Set (String × ℕ) := ⋃ v ∈ σ.views, {e | e ∈ v.versions.entries}

def deliver [DecidableEq ι] (σ : Cascade ι) (i : ι) (rest : Multiset Rumor) (turn : Node × List Effect) : Cascade ι where
  node := Function.update σ.node i turn.1
  mail := ↑(turn.2.flatMap Effect.rumors) + rest

-- A rumor arrives or is lost. What the node finds around it, and from whom the rumor seems to be, is left open.
inductive Step [DecidableEq ι] (σ : Cascade ι) : Cascade ι → Prop
  | deliver {i r rest} (host sender expectsReply) : σ.mail = r ::ₘ rest → r.target = (σ.node i).endpoint →
      Step σ (σ.deliver i rest ((σ.node i).step host (.envelope ⟨sender, .gossip r.view, expectsReply⟩)))
  | lose {r rest} : σ.mail = r ::ₘ rest → Step σ { σ with mail := rest }

structure Steady (known : Set Member) (events : Set (String × ℕ)) (bound : ℕ) (σ : Cascade ι) : Prop where
  node : ∀ i, (σ.node i).Steady known events bound
  mail : ∀ r ∈ σ.mail, r.view.Drawn known events

variable {known : Set Member} {events : Set (String × ℕ)} {bound : ℕ} {σ σ' : Cascade ι} {i j : ι} {r : Rumor}
  {rest : Multiset Rumor} {turn : Node × List Effect}

section

variable [Finite ι]

end

-- How far a node is from the highest levels.
noncomputable def ascent (known : Set Member) (events : Set (String × ℕ)) (n : Node) : ℕ :=
  headroom (View.level '' {v | v.Drawn known events}) n.view.level

-- How far a rumor is behind.
noncomputable def lag (events : Set (String × ℕ)) (r : Rumor) : ℕ :=
  headroom (VersionVector.rank '' {v | ∀ e ∈ v.entries, e ∈ events}) r.view.versions.rank

open Classical in
noncomputable def measure [Fintype ι] (known : Set Member) (events : Set (String × ℕ)) (bound : ℕ)
    (σ : Cascade ι) : ℕ × ℕ × Multiset ℕ :=
  (σ.mail.countP (¬·.view.Tidy bound), ∑ i, ascent known events (σ.node i), σ.mail.map (lag events))

abbrev Descent : ℕ × ℕ × Multiset ℕ → ℕ × ℕ × Multiset ℕ → Prop :=
  Prod.Lex (· < ·) <| Prod.Lex (· < ·) <| Relation.CutExpand (· < ·)

theorem wellFounded_descent : WellFounded Descent :=
  .prod_lex wellFounded_lt <| .prod_lex wellFounded_lt wellFounded_lt.cutExpand

section

variable [Fintype ι]

-- One rumor is gone, and others may have come for it. An untidy one is one less of a kind; a tidy one has taken
-- a node further, or else those that have come are less far behind.
theorem descent_of_replaced {new : Multiset Rumor} (hm : σ.mail = r ::ₘ rest) (hm' : σ'.mail = new + rest)
    (tidy : ∀ r' ∈ new, r'.view.Tidy bound)
    (rise : r.view.Tidy bound → ∑ i, ascent known events (σ'.node i) ≤ ∑ i, ascent known events (σ.node i))
    (behind : r.view.Tidy bound →
      ∑ i, ascent known events (σ'.node i) = ∑ i, ascent known events (σ.node i) →
      ∀ r' ∈ new, lag events r' < lag events r) :
    Descent (measure known events bound σ') (measure known events bound σ) := by
  classical
  have none : new.countP (¬·.view.Tidy bound) = 0 :=
    Multiset.countP_eq_zero.mpr fun r' hr' untidy => untidy (tidy r' hr')
  rw [measure, measure, hm, hm', Multiset.countP_add, none, Nat.zero_add]
  by_cases ht : r.view.Tidy bound
  case neg =>
    rw [Multiset.countP_cons_of_pos _ (by exact ht)]
    exact .left _ _ (Nat.lt_succ_self _)
  case pos =>
    rw [Multiset.countP_cons_of_neg _ (by exact not_not.mpr ht)]
    refine .right _ ?_
    rcases (rise ht).lt_or_eq with lt | eq
    · exact .left _ _ lt
    · rw [eq]
      refine .right _ ⟨new.map (lag events), lag events r, fun n hn => ?_, ?_⟩
      · have ⟨r', hr', e⟩ := Multiset.mem_map.mp hn
        exact e ▸ behind ht eq r' hr'
      · rw [Multiset.map_add, Multiset.map_cons, ← Multiset.singleton_add]
        abel

theorem descent_lose (hm : σ.mail = r ::ₘ rest) :
    Descent (measure known events bound { σ with mail := rest }) (measure known events bound σ) := by
  have kept : ({ σ with mail := rest } : Cascade ι).mail = 0 + rest := (zero_add rest).symm
  exact descent_of_replaced hm kept nofun (fun _ => le_rfl) nofun

end

variable [DecidableEq ι]

theorem node_deliver_self : (σ.deliver i rest turn).node i = turn.1 := Function.update_self ..

theorem node_deliver_of_ne (h : j ≠ i) : (σ.deliver i rest turn).node j = σ.node j := Function.update_of_ne h ..

theorem Steady.deliver (h : σ.Steady known events bound) (hm : σ.mail = r ::ₘ rest)
    (hn : turn.1.Steady known events bound)
    (hr : Relay bound r.view (σ.node i) turn.1 (turn.2.flatMap Effect.rumors)) :
    (σ.deliver i rest turn).Steady known events bound := by
  constructor
  case node =>
    intro j
    by_cases e : j = i
    · subst e
      exact node_deliver_self (σ := σ) ▸ hn
    · exact node_deliver_of_ne (σ := σ) e ▸ h.node j
  case mail =>
    intro r' hr'
    cases Multiset.mem_add.mp hr'
    case inl new => exact hr.views r' (Multiset.mem_coe.mp new) ▸ hn.drawn
    case inr old => exact h.mail r' (hm ▸ Multiset.mem_cons_of_mem old)

variable [Fintype ι]

theorem descent_deliver (hk : known.Finite) (he : events.Finite) (hm : σ.mail = r ::ₘ rest)
    (hn : turn.1.Steady known events bound)
    (hr : Relay bound r.view (σ.node i) turn.1 (turn.2.flatMap Effect.rumors)) :
    Descent (measure known events bound (σ.deliver i rest turn)) (measure known events bound σ) := by
  have levels := View.finite_levels hk he
  have ranks := (VersionVector.finite_of_entries he).image VersionVector.rank
  have others j (h : j ≠ i) : (σ.deliver i rest turn).node j = σ.node j := node_deliver_of_ne h
  have self : (σ.deliver i rest turn).node i = turn.1 := node_deliver_self
  have le (ht : r.view.Tidy bound) j :
      ascent known events ((σ.deliver i rest turn).node j) ≤ ascent known events (σ.node j) := by
    by_cases e : j = i
    · rw [e, self]
      exact headroom_le levels (hr.level ht)
    · rw [others j e]
  refine descent_of_replaced hm rfl ?tidy (fun ht => Finset.sum_le_sum fun j _ => le ht j) ?behind
  case tidy =>
    intro r' hr'
    have hr' := Multiset.mem_coe.mp hr'
    exact hr.views r' hr' ▸ hr.tidy (List.ne_nil_of_mem hr')
  case behind =>
    intro ht same r' hr'
    have hr' := Multiset.mem_coe.mp hr'
    have level : turn.1.view.level = (σ.node i).view.level := by
      by_contra ne
      have lt := headroom_lt levels ⟨_, hn.drawn, rfl⟩ (lt_of_le_of_ne (hr.level ht) (Ne.symm ne))
      refine (Finset.sum_lt_sum (fun j _ => le ht j) ⟨i, Finset.mem_univ i, ?_⟩).ne same
      exact self.symm ▸ lt
    have lt := hr.behind ht (List.ne_nil_of_mem hr') level
    rw [lag, hr.views r' hr']
    exact headroom_lt ranks ⟨_, hn.drawn.entries, rfl⟩ lt

theorem Steady.step (h : σ.Steady known events bound) (hk : known.Finite) (he : events.Finite)
    (hs : Step σ σ') : σ'.Steady known events bound ∧
      Descent (measure known events bound σ') (measure known events bound σ) := by
  cases hs with
  | @deliver i r _ host sender expectsReply hm =>
    have drawn := h.mail r (hm ▸ Multiset.mem_cons_self ..)
    have ⟨steady, relay⟩ := (h.node i).relay drawn host sender expectsReply
    exact ⟨h.deliver hm steady relay, descent_deliver hk he hm steady relay⟩
  | lose hm => exact ⟨⟨h.node, fun r hr => h.mail r (hm ▸ Multiset.mem_cons_of_mem hr)⟩, descent_lose hm⟩

omit [Fintype ι] in
theorem Steady.ends [Finite ι] (h : σ.Steady known events bound) (hk : known.Finite) (he : events.Finite) :
    ¬∃ run : ℕ → Cascade ι, run 0 = σ ∧ ∀ n, Step (run n) (run (n + 1)) := by
  intro ⟨run, first, step⟩
  have ⟨_⟩ := nonempty_fintype ι
  have steady n : (run n).Steady known events bound := by
    induction n with
    | zero => exact first ▸ h
    | succ n ih => exact (ih.step hk he (step n)).1
  have descends n := ((steady n).step hk he (step n)).2
  have ⟨n, stops⟩ := WellFounded.not_rel_apply_succ (h := ⟨wellFounded_descent⟩) fun n =>
    measure known events bound (run n)
  exact stops (descends n)

end Cascade

end GossipCluster
