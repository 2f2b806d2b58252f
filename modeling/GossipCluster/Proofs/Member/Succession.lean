import GossipCluster.Proofs.Member.Incarnation

namespace GossipCluster.Member

-- The incarnations of one id in the order of their stamps.
structure Ranked (id : String) : Prop where
  lexicographic : ∀ a b : Member, a.id = id → b.id = id →
    (a.Newer b ↔ toLex (b.generation.toNat, toLex (b.clock.toNat, b.timestamp.toInt)) <
      toLex (a.generation.toNat, toLex (a.clock.toNat, a.timestamp.toInt)))
  irreflexive   : ∀ a : Member, a.id = id → ¬a.Newer a
  transitive    : ∀ a b c : Member, a.id = id → b.id = id → c.id = id → a.Newer b → b.Newer c → a.Newer c
  total         : ∀ a b : Member, a.id = id → b.id = id → a.Newer b ∨ b.Newer a ∨
    (a.generation = b.generation ∧ a.clock = b.clock ∧ a.timestamp = b.timestamp)

-- One of the two has a counter that can go no further.
def Exhausted (self prior : Member) : Prop :=
  max self.generation prior.generation = Counter.last ∨ max self.clock prior.clock = Counter.last

instance (self prior : Member) : Decidable (Exhausted self prior) := inferInstanceAs (Decidable (_ ∨ _))

-- Changes of a member that may be broken off, and then leave it as it has become until there.
abbrev InPlace := ExceptT Error (StateM Member)

def exhaustion (prior : Member) : Error :=
  .internal <| "incarnation of " ++ prior.id ++ " cannot move past generation " ++ toString prior.generation ++
    " clock " ++ toString prior.clock

def count (n : UInt64) (failure : Error) : InPlace UInt64 :=
  match Counter.next? n with
  | some m => pure m
  | none => throw failure

-- Moves past a prior incarnation step by step.
def succeed (prior : Member) (now : Timestamp) : InPlace Unit := do
  let generation ← count (max (← get).generation prior.generation) (exhaustion prior)
  let clock ← count (max (← get).clock prior.clock) (exhaustion prior)
  modify fun m => { m with generation := generation }
  modify fun m => { m with clock := clock }
  modify fun m => { m with timestamp := max now prior.timestamp }

variable {a b c self prior after old : Member} {now : Timestamp} {e : Error} {id : String}

theorem ranked (id : String) : Ranked id where
  lexicographic _ _ ha hb := newer_iff (ha.trans hb.symm)
  irreflexive _ _ := not_newer_self
  transitive _ _ _ ha hb hc ab bc := by
    rw [newer_iff (ha.trans hb.symm)] at ab
    rw [newer_iff (hb.trans hc.symm)] at bc
    exact (newer_iff (ha.trans hc.symm)).mpr (bc.trans ab)
  total a b ha hb := by
    rw [newer_iff (ha.trans hb.symm), newer_iff (hb.trans ha.symm), ← stamp_eq_iff]
    rcases lt_trichotomy a.stamp b.stamp with before | same | behind
    · exact .inr (.inl before)
    · exact .inr (.inr same)
    · exact .inl behind

theorem Newer.generation_le (h : a.Newer b) : b.generation ≤ a.generation := by
  rw [Newer] at h
  split at h
  case isTrue => exact UInt64.le_of_lt h
  case isFalse same => exact UInt64.le_of_eq (Decidable.not_not.mp same).symm

theorem newer_of_generation_lt (h : b.generation < a.generation) : a.Newer b := by
  have ne : a.generation ≠ b.generation := fun same => UInt64.lt_irrefl _ (same ▸ h)
  rw [Newer, if_pos ne]
  exact h

theorem generation_lt_supersede (h : self.supersede prior now = .ok after) :
    self.generation < after.generation ∧ prior.generation < after.generation := by
  have ⟨_, _, generation, _⟩ := supersede_eq h
  constructor <;> exact UInt64.lt_iff_toNat_lt.mpr (by omega)

theorem newer_supersede (h : self.supersede prior now = .ok after) :
    after.Newer prior ∧ after.Newer self ∧ ∀ old, self.Newer old ∨ prior.Newer old → after.Newer old := by
  have ⟨self_lt, prior_lt⟩ := generation_lt_supersede h
  refine ⟨newer_of_generation_lt prior_lt, newer_of_generation_lt self_lt, fun old outranked => ?_⟩
  refine newer_of_generation_lt ?_
  rcases outranked with newer | newer
  · exact UInt64.lt_of_le_of_lt newer.generation_le self_lt
  · exact UInt64.lt_of_le_of_lt newer.generation_le prior_lt

theorem count_of_some {n m : UInt64} (h : Counter.next? n = some m) : count n e = pure m := by
  rw [count, h]

theorem count_of_none {n : UInt64} (h : Counter.next? n = none) : count n e = throw e := by
  rw [count, h]

theorem get_bind (f : Member → InPlace Unit) : (get >>= f) self = f self self := rfl

theorem succeed_eq : succeed prior now self = match self.supersede prior now with
    | .ok after => (.ok (), after)
    | .error failure => (.error failure, self) := by
  rw [succeed, get_bind, supersede]
  cases generation : Counter.next? (max self.generation prior.generation) with
  | none =>
    rw [count_of_none generation]
    rfl
  | some =>
    rw [count_of_some generation, pure_bind, get_bind]
    cases clock : Counter.next? (max self.clock prior.clock) with
    | none =>
      rw [count_of_none clock]
      rfl
    | some =>
      rw [count_of_some clock]
      rfl

theorem supersede_of_exhausted (full : self.Exhausted prior) (now : Timestamp) :
    self.supersede prior now = .error (exhaustion prior) := by
  rw [Exhausted, ← Counter.next?_eq_none_iff, ← Counter.next?_eq_none_iff] at full
  rw [supersede]
  rcases full with generation | clock
  · rw [generation]
    rfl
  · rw [clock]
    cases Counter.next? (max self.generation prior.generation) <;> rfl

theorem supersede_of_not_exhausted (room : ¬self.Exhausted prior) (now : Timestamp) :
    ∃ after, self.supersede prior now = .ok after := by
  cases superseded : self.supersede prior now with
  | error e => exact absurd (supersede_eq_error_iff.mp ⟨e, superseded⟩) room
  | ok after => exact ⟨after, rfl⟩

theorem succeed_ranked (id : String) : Ranked id ∧ ∀ (self prior : Member) (now : Timestamp),
    (self.Exhausted prior → self.supersede prior now = .error (exhaustion prior) ∧
      succeed prior now self = (.error (exhaustion prior), self)) ∧
    (¬self.Exhausted prior → ∃ after, self.supersede prior now = .ok after ∧
      succeed prior now self = (.ok (), after) ∧
      after.Newer prior ∧ after.Newer self ∧ ∀ old, self.Newer old ∨ prior.Newer old → after.Newer old) := by
  refine ⟨ranked id, fun self prior now => ⟨fun full => ?_, fun room => ?_⟩⟩
  · have failed := supersede_of_exhausted full now
    exact ⟨failed, by rw [succeed_eq, failed]⟩
  · obtain ⟨after, superseded⟩ := supersede_of_not_exhausted room now
    exact ⟨after, superseded, by rw [succeed_eq, superseded], newer_supersede superseded⟩

-- The clock is set back behind both incarnations; the counter of a third one is full.
theorem succeed_ranked_of_three :
    let self : Member := { Member.starting "a" "c" "a:1" 500 with generation := 1, clock := 12 }
    let prior : Member := { Member.starting "a" "c" "a:1" 100 with generation := 3, clock := 9 }
    let full : Member := { Member.starting "a" "c" "a:1" 100 with generation := 2, clock := Counter.last }
    let after : Member := { self with generation := 4, clock := 13, timestamp := 100 }
    self.id = "a" ∧ prior.id = "a" ∧ ¬prior.Newer prior ∧ ¬self.Exhausted prior ∧
      succeed prior 20 self = (.ok (), after) ∧ after.Newer prior ∧ after.Newer self ∧
      self.Exhausted full ∧ succeed full 20 self = (.error (exhaustion full), self) := by
  intro self prior full after
  have ⟨ranked, moves⟩ := succeed_ranked "a"
  have room : ¬self.Exhausted prior := by decide
  have spent : self.Exhausted full := by decide
  have value : self.supersede prior 20 = .ok after := by decide +kernel
  obtain ⟨after', superseded, succeeded, newer_prior, newer_self, _⟩ := (moves self prior 20).2 room
  obtain rfl := Except.ok.inj (superseded.symm.trans value)
  exact ⟨rfl, rfl, ranked.irreflexive prior rfl, room, succeeded, newer_prior, newer_self, spent,
    ((moves self full 20).1 spent).2⟩

end GossipCluster.Member
