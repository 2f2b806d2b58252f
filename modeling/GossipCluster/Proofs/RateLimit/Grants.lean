import Mathlib
import GossipCluster.RateLimit.TokenBucket

namespace GossipCluster

namespace Instant

-- The nanoseconds by which a clock rises, all in all; what it steps back is not taken off.
def climb (start : Instant) : List Instant → ℕ
  | [] => 0
  | now :: times => (now - start).toNat + climb now times

def latest (start : Instant) (times : List Instant) : Instant := times.foldl max start

variable {start now : Instant} {times rest : List Instant}

@[simp]
theorem climb_cons : climb start (now :: times) = (now - start).toNat + climb now times := rfl

-- A clock that never steps back climbs no further than it gets.
theorem climb_of_ordered (ordered : (start :: times).Pairwise (· ≤ ·)) :
    (climb start times : ℤ) = latest start times - start := by
  induction times generalizing start with
  | nil => simp [climb, latest]
  | cons now times ih =>
    have ⟨first, ordered⟩ := List.pairwise_cons.mp ordered
    have le : start ≤ now := first now List.mem_cons_self
    have latest_cons : latest start (now :: times) = latest now times := by
      rw [latest, List.foldl_cons, max_eq_right le, latest]
    calc ((climb start (now :: times) : ℕ) : ℤ)
      _ = (now - start) + (latest now times - now) := by
        rw [climb_cons, Nat.cast_add, Int.toNat_of_nonneg (sub_nonneg.mpr le), ih ordered]
      _ = latest start (now :: times) - start := by
        rw [latest_cons]
        ring

end Instant

namespace TokenBucket

open Instant

-- How many of the calls at these times get a token.
def granted (b : TokenBucket ℚ) : List Instant → ℕ
  | [] => 0
  | now :: times => (b.tryAcquire now).1.toNat + granted (b.tryAcquire now).2 times

-- What is credited in a span of time.
def credit (b : TokenBucket ℚ) (nanos : ℕ) : ℚ := nanos / 1000000000 * b.rate

structure Sound (b : TokenBucket ℚ) : Prop where
  rate   : 0 ≤ b.rate
  burst  : 0 ≤ b.burst
  tokens : 0 ≤ b.tokens

variable {b : TokenBucket ℚ} {rate : ℚ} {burst : ℕ} {start now : Instant} {times rest : List Instant}

theorem refill_eq : b.refill now =
    { b with tokens := min (b.tokens + b.credit (now - b.filled).toNat) b.burst, filled := now } := by
  have least (x y : ℚ) : least x y = min x y := by
    simp [TokenBucket.least, Quantity.atMost, min_def]
  rw [refill, least]
  rfl

theorem tryAcquire_cases (b : TokenBucket ℚ) (now : Instant) :
    let full := min (b.tokens + b.credit (now - b.filled).toNat) b.burst
    (1 ≤ full ∧ b.tryAcquire now = (true, { b with tokens := full - 1, filled := now })) ∨
    (full < 1 ∧ b.tryAcquire now = (false, { b with tokens := full, filled := now })) := by
  intro full
  rw [tryAcquire, refill_eq]
  rcases le_or_gt 1 full with enough | short
  · exact .inl ⟨enough, if_pos (decide_eq_true enough)⟩
  · exact .inr ⟨short, if_neg fun h => short.not_ge (of_decide_eq_true h)⟩

theorem filled_tryAcquire {α : Type} [Quantity α] {b : TokenBucket α} : (b.tryAcquire now).2.filled = now := by
  rw [tryAcquire]
  split <;> rfl

theorem credit_tryAcquire : (b.tryAcquire now).2.credit = b.credit := by
  rcases tryAcquire_cases b now with ⟨_, e⟩ | ⟨_, e⟩ <;> rw [e] <;> rfl

theorem credit_add (m n : ℕ) : b.credit (m + n) = b.credit m + b.credit n := by
  simp only [credit]
  push_cast
  ring

namespace Sound

theorem credit_nonneg (sound : b.Sound) (nanos : ℕ) : 0 ≤ b.credit nanos :=
  mul_nonneg (by positivity) sound.rate

theorem full_nonneg (sound : b.Sound) (nanos : ℕ) : 0 ≤ min (b.tokens + b.credit nanos) b.burst :=
  le_min (add_nonneg sound.tokens (sound.credit_nonneg nanos)) sound.burst

theorem tryAcquire (sound : b.Sound) (now : Instant) : (b.tryAcquire now).2.Sound := by
  rcases tryAcquire_cases b now with ⟨enough, e⟩ | ⟨_, e⟩
  · rw [e]
    exact ⟨sound.rate, sound.burst, sub_nonneg.mpr enough⟩
  · rw [e]
    exact ⟨sound.rate, sound.burst, sound.full_nonneg _⟩

end Sound

-- No call makes a token of nothing. A full bucket loses what it is credited with.
theorem toNat_add_tokens_le (b : TokenBucket ℚ) (now : Instant) :
    ((b.tryAcquire now).1.toNat : ℚ) + (b.tryAcquire now).2.tokens ≤ b.tokens + b.credit (now - b.filled).toNat := by
  rcases tryAcquire_cases b now with ⟨_, e⟩ | ⟨_, e⟩
  · rw [e]
    simp
  · rw [e]
    simp

-- What is held and what is to be credited pays for all that is granted.
theorem Sound.granted_le_credit (sound : b.Sound) (times : List Instant) :
    (b.granted times : ℚ) ≤ b.tokens + b.credit (climb b.filled times) := by
  induction times generalizing b with
  | nil =>
    have : (0 : ℚ) ≤ b.tokens + b.credit 0 := add_nonneg sound.tokens (sound.credit_nonneg 0)
    simpa [granted, climb] using this
  | cons now times ih =>
    have later := ih (sound.tryAcquire now)
    rw [filled_tryAcquire, credit_tryAcquire] at later
    rw [granted, climb_cons, credit_add, Nat.cast_add]
    linarith [toNat_add_tokens_le b now]

theorem sound_new (nonneg : 0 ≤ rate) : (new rate burst start).Sound := by
  have : (0 : ℚ) ≤ (max burst 1 : ℕ) := Nat.cast_nonneg _
  exact ⟨nonneg, this, this⟩

-- A bucket that gets a token in every nanosecond.
def swift (burst held : ℕ) (filled : Instant) : TokenBucket ℚ := ⟨1000000000, burst, held, filled⟩

theorem tryAcquire_swift {held : ℕ} : (swift burst held start).tryAcquire now =
    match min (held + (now - start).toNat) burst with
    | 0 => (false, swift burst 0 now)
    | left + 1 => (true, swift burst left now) := by
  have full : let b := swift burst held start
      min (b.tokens + b.credit (now - b.filled).toNat) b.burst = (min (held + (now - start).toNat) burst : ℕ) := by
    simp [swift, credit]
  have acquired := tryAcquire_cases (swift burst held start) now
  simp only [full] at acquired
  cases after : min (held + (now - start).toNat) burst with
  | zero =>
    obtain ⟨enough, _⟩ | ⟨_, e⟩ := after ▸ acquired
    · norm_num at enough
    · exact e
  | succ left =>
    obtain ⟨_, e⟩ | ⟨short, _⟩ := after ▸ acquired
    · rw [e, Nat.cast_succ, add_sub_cancel_right]
      rfl
    · exact absurd short (not_lt.mpr (by simp))

theorem granted_swift_replicate {held k : ℕ} (le : held ≤ k) (room : held ≤ burst) :
    (swift burst held now).granted (List.replicate k now ++ rest) = held + (swift burst 0 now).granted rest := by
  induction k generalizing held with
  | zero => simp [Nat.le_zero.mp le]
  | succ k ih =>
    rw [List.replicate_succ, List.cons_append, granted, tryAcquire_swift, sub_self, Int.toNat_zero, add_zero,
      min_eq_left room]
    cases held with
    | zero => simpa using ih (Nat.zero_le k) room
    | succ held =>
      have := ih (Nat.le_of_succ_le_succ le) (Nat.le_of_succ_le room)
      simp only [Bool.toNat_true, this]
      omega

theorem granted_swift_cons {held : ℕ} : (swift burst held start).granted (now :: rest) =
    (swift burst (min (held + (now - start).toNat) burst) now).granted (now :: rest) := by
  rw [granted, granted, tryAcquire_swift, tryAcquire_swift, sub_self, Int.toNat_zero, add_zero, min_assoc, min_self]

theorem granted_swift_flatMap (room : climb start times < burst) :
    (swift burst 0 start).granted (times.flatMap (List.replicate burst)) = climb start times := by
  induction times generalizing start with
  | nil => rfl
  | cons now times ih =>
    obtain ⟨k, rfl⟩ := Nat.exists_eq_succ_of_ne_zero (Nat.ne_zero_of_lt room)
    rw [climb_cons] at room ⊢
    have rise : min (0 + (now - start).toNat) (k + 1) = (now - start).toNat := by omega
    rw [List.flatMap_cons, List.replicate_succ, List.cons_append, granted_swift_cons, rise, ← List.cons_append,
      ← List.replicate_succ, granted_swift_replicate (by omega) (by omega), ih (by omega)]

-- Whichever way the clock goes, calls that come often enough are granted all that it climbs.
theorem granted_eq_climb (room : climb start times < burst) :
    (new 1000000000 burst start).granted ((start :: times).flatMap (List.replicate burst)) =
      burst + climb start times := by
  have full : new 1000000000 burst start = swift burst burst start := by
    have : max burst 1 = burst := max_eq_left (Nat.one_le_of_lt room)
    rw [new, this]
    rfl
  rw [full, List.flatMap_cons, granted_swift_replicate le_rfl le_rfl, granted_swift_flatMap room]

theorem granted_le_climb (pos : 0 < rate) :
    (∀ times, ((new rate burst start).granted times : ℚ) ≤
      max burst 1 + rate * (climb start times / 1000000000)) ∧
    ∀ times, (start :: times).Pairwise (· ≤ ·) → ((new rate burst start).granted times : ℚ) ≤
      max burst 1 + rate * ((latest start times - start : ℤ) / 1000000000) := by
  have bound (times : List Instant) : ((new rate burst start).granted times : ℚ) ≤
      max burst 1 + rate * (climb start times / 1000000000) := by
    calc ((new rate burst start).granted times : ℚ)
      _ ≤ (max burst 1 : ℕ) + climb start times / 1000000000 * rate := (sound_new pos.le).granted_le_credit times
      _ = max burst 1 + rate * (climb start times / 1000000000) := by
        rw [Nat.cast_max, Nat.cast_one, mul_comm]
  refine ⟨bound, fun times ordered => ?_⟩
  rw [← climb_of_ordered ordered, Int.cast_natCast]
  exact bound times

-- Two tokens in a second, at first in order; then the clock steps back by six tenths of a second.
theorem granted_le_climb_of_two :
    let times : List Instant := [0, 500000000, 750000000, 1000000000]
    let more : List Instant := times ++ [400000000, 900000000]
    let b : TokenBucket ℚ := new 2 1 0
    (0 : ℚ) < 2 ∧ (0 :: times).Pairwise (· ≤ ·) ∧ b.granted times = 3 ∧ b.granted more = 4 ∧
      (b.granted times : ℚ) ≤ max (1 : ℕ) 1 + 2 * ((latest 0 times - 0 : ℤ) / 1000000000) ∧
      (b.granted more : ℚ) ≤ max (1 : ℕ) 1 + 2 * (climb 0 more / 1000000000) := by
  intro times more b
  have ordered : (0 :: times).Pairwise (· ≤ ·) := by decide +kernel
  have pos : (0 : ℚ) < 2 := by norm_num
  exact ⟨pos, ordered, by decide +kernel, by decide +kernel, (granted_le_climb pos).2 times ordered,
    (granted_le_climb pos).1 more⟩

-- The clock steps back by a second, and that second is credited twice.
theorem granted_twice :
    let times : List Instant := [0, 1000000000, 0, 1000000000]
    (∀ time ∈ times, 0 ≤ time) ∧
      max (1 : ℕ) 1 + 1 * ((latest 0 times - 0 : ℤ) / 1000000000) < ((new 1 1 0).granted times : ℚ) := by
  decide +kernel

end TokenBucket

end GossipCluster
