import Mathlib
import GossipCluster.Duration.Basic

namespace GossipCluster

namespace Binary64

variable {x : Float} {v : Finite}

-- The number that is written so.
def Finite.toRat (v : Finite) : ℚ := (if v.negative then -1 else 1) * (v.significand * 2 ^ v.exponent)

theorem significand_lt (h : finite? x = some v) : v.significand < 2 ^ 53 := by
  have fraction := Nat.mod_lt x.toBits.toNat (show 0 < leadingBit by decide)
  have leading : leadingBit = 2 ^ 52 := by decide
  simp only [finite?] at h
  split at h
  case isTrue => exact nomatch h
  case isFalse =>
    split at h <;> obtain rfl := Option.some_inj.mp h <;> simp only <;> omega

theorem roundQuotient_le {num den : ℕ} : roundQuotient num den ≤ num + 1 := by
  have quotient := Nat.div_le_self num den
  simp only [roundQuotient]
  split_ifs <;> omega

theorem magnitude_nonneg : 0 ≤ (v.significand * 2 ^ v.exponent : ℚ) := by positivity

theorem toRat_neg_iff : v.toRat < 0 ↔ v.negative ∧ v.significand ≠ 0 := by
  have positive : (0 : ℚ) < 2 ^ v.exponent := by positivity
  rw [Finite.toRat]
  split
  case isTrue negative =>
    rw [neg_one_mul, neg_lt_zero, mul_pos_iff_of_pos_right positive, Nat.cast_pos, Nat.pos_iff_ne_zero]
    simp [negative]
  case isFalse positive =>
    simp [positive, magnitude_nonneg.not_gt]

theorem toRat_of_nonneg (h : 0 ≤ v.toRat) : v.toRat = v.significand * 2 ^ v.exponent := by
  rw [Finite.toRat] at h ⊢
  split
  case isFalse => exact one_mul _
  case isTrue negative =>
    rw [if_pos negative, neg_one_mul, neg_nonneg] at h
    rw [neg_one_mul, le_antisymm h magnitude_nonneg, neg_zero]

-- What is rounded here has a fraction only where it is far too small to reach the limit.
theorem scaled_lt_limit_iff (small : v.significand < 2 ^ 53) :
    v.scaled Duration.nanosPerSecond < Duration.limit ↔ (v.significand * 2 ^ v.exponent : ℚ) < 2 ^ 64 := by
  have limit : Duration.limit = 2 ^ 64 * Duration.nanosPerSecond := by decide
  rw [Finite.scaled]
  split
  case isTrue whole =>
    obtain ⟨n, he⟩ := Int.eq_ofNat_of_zero_le whole
    rw [he, Int.toNat_natCast, Nat.shiftLeft_eq, mul_right_comm, limit, Nat.mul_lt_mul_right (by decide), zpow_natCast]
    exact_mod_cast Iff.rfl
  case isFalse fractional =>
    refine iff_of_true ?_ ?_
    · calc roundQuotient (v.significand * Duration.nanosPerSecond) (1 <<< (-v.exponent).toNat)
        _ ≤ v.significand * Duration.nanosPerSecond + 1 := roundQuotient_le
        _ ≤ 2 ^ 53 * Duration.nanosPerSecond + 1        := by gcongr
        _ < Duration.limit                              := by decide
    · have shrinks : (2 : ℚ) ^ v.exponent ≤ 1 := zpow_le_one_of_nonpos₀ one_le_two (by omega)
      have small : (v.significand : ℚ) < 2 ^ 53 := by exact_mod_cast small
      calc (v.significand * 2 ^ v.exponent : ℚ)
        _ ≤ v.significand := mul_le_of_le_one_right (Nat.cast_nonneg _) shrinks
        _ < 2 ^ 53        := small
        _ < 2 ^ 64        := by norm_num

end Binary64

namespace Duration

open Binary64

-- So many seconds are a span of time.
def Spans (x : Float) : Prop := ∃ v, finite? x = some v ∧ 0 ≤ v.toRat ∧ v.toRat < 2 ^ 64

theorem fromSeconds?_isSome_iff {x : Float} : (fromSeconds? x).isSome ↔ Spans x := by
  rw [fromSeconds?, Spans]
  cases h : finite? x with
  | none => simp
  | some v =>
    have small := significand_lt h
    by_cases negative : v.toRat < 0
    case pos =>
      have ⟨sign, nonzero⟩ := toRat_neg_iff.mp negative
      simp [sign, nonzero, negative]
    case neg =>
      have unsigned : ¬(v.negative ∧ ¬v.significand = 0) := mt toRat_neg_iff.mpr negative
      have fits : v.scaled nanosPerSecond < limit ↔ v.toRat < 2 ^ 64 := by
        rw [toRat_of_nonneg (not_lt.mp negative)]
        exact scaled_lt_limit_iff small
      simp [unsigned, not_lt.mp negative, ← fits]

end Duration

end GossipCluster
