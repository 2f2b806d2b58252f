import Mathlib.Algebra.Ring.Nat
import GossipCluster.Wire.Bytes

namespace GossipCluster.Wire

@[simp]
theorem length_bigEndian (width n : Nat) : (bigEndian width n).length = width := by
  induction width generalizing n <;> simp_all [bigEndian]

theorem ofBigEndian_append (as : List UInt8) (b : UInt8) :
    ofBigEndian (as ++ [b]) = ofBigEndian as * 256 + b.toNat := by
  simp [ofBigEndian]

theorem ofBigEndian_bigEndian {width n : Nat} (h : n < 256 ^ width) :
    ofBigEndian (bigEndian width n) = n := by
  induction width generalizing n with
  | zero => simp_all [bigEndian, ofBigEndian]
  | succ width ih =>
    rw [Nat.pow_succ] at h
    rw [bigEndian, ofBigEndian_append, ih (Nat.div_lt_of_lt_mul (by omega)), UInt8.toNat_ofNat']
    omega

theorem ofBigEndian_lt (bytes : List UInt8) : ofBigEndian bytes < 256 ^ bytes.length := by
  suffices ∀ (bytes : List UInt8) n, bytes.foldl (fun n (b : UInt8) => n * 256 + b.toNat) n <
      (n + 1) * 256 ^ bytes.length by simpa [ofBigEndian] using this bytes 0
  intro bytes
  induction bytes with
  | nil => simp
  | cons b bs ih =>
    intro n
    have := b.toNat_lt
    refine Nat.lt_of_lt_of_le (ih _) ?_
    rw [List.length_cons, Nat.pow_succ', ← Nat.mul_assoc]
    exact Nat.mul_le_mul_right _ (by simp only; omega)

end GossipCluster.Wire
