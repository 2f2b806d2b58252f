import Mathlib
import GossipCluster.Text.Hex

namespace GossipCluster.Text.Hex

theorem toNat_digit : ∀ n < 16, (digit n).toNat = if n < 10 then 48 + n else 87 + n := by decide

theorem toNat_toLower (c : Char) :
    c.toLower.toNat = if 65 ≤ c.toNat ∧ c.toNat ≤ 90 then c.toNat + 32 else c.toNat := by
  have upper : c.isUpper ↔ 65 ≤ c.toNat ∧ c.toNat ≤ 90 := by
    simp only [Char.isUpper, decide_eq_true_eq]
    rfl
  simp only [← upper]
  split
  case isTrue h =>
    have valid : (c.toNat + 32).isValidChar := .inl (by have := upper.mp h; omega)
    rw [Char.toLower_eq_of_isUpper h, Char.toNat_ofNat, if_pos valid]
  case isFalse h => rw [Char.toLower_eq_of_not_isUpper h]

theorem digit?_eq_some_iff {c : Char} {n : Nat} :
    digit? c = some n ↔ n < 16 ∧ c.toLower = digit n := by
  have figure : ('0' ≤ c ∧ c ≤ '9') ↔ 48 ≤ c.toNat ∧ c.toNat ≤ 57 := Iff.rfl
  have lower : ('a' ≤ c ∧ c ≤ 'f') ↔ 97 ≤ c.toNat ∧ c.toNat ≤ 102 := Iff.rfl
  have upper : ('A' ≤ c ∧ c ≤ 'F') ↔ 65 ≤ c.toNat ∧ c.toNat ≤ 70 := Iff.rfl
  have value : digit? c =
      if 48 ≤ c.toNat ∧ c.toNat ≤ 57 then some (c.toNat - 48)
      else if 97 ≤ c.toNat ∧ c.toNat ≤ 102 then some (c.toNat - 97 + 10)
      else if 65 ≤ c.toNat ∧ c.toNat ≤ 70 then some (c.toNat - 65 + 10) else none := by
    simp only [digit?, figure, lower, upper]
    rfl
  have same (h : n < 16) : c.toLower = digit n ↔
      (if 65 ≤ c.toNat ∧ c.toNat ≤ 90 then c.toNat + 32 else c.toNat) =
        if n < 10 then 48 + n else 87 + n := by
    rw [← toNat_toLower, ← toNat_digit n h, Char.toNat_inj]
  rw [value]
  constructor
  case mp =>
    intro h
    have small : n < 16 := by grind
    refine ⟨small, (same small).mpr ?_⟩
    grind
  case mpr =>
    rintro ⟨small, h⟩
    have := (same small).mp h
    grind

theorem toList_encode_cons (b : UInt8) (bytes : List UInt8) :
    (encode (b :: bytes)).toList =
      digit (b.toNat / 16) :: digit (b.toNat % 16) :: (encode bytes).toList := by
  simp [encode]

theorem ofNat_eq_iff {hi lo : Nat} (hhi : hi < 16) (hlo : lo < 16) {b : UInt8} :
    UInt8.ofNat (hi * 16 + lo) = b ↔ hi = b.toNat / 16 ∧ lo = b.toNat % 16 := by
  rw [← UInt8.toNat_inj, UInt8.toNat_ofNat']
  have := b.toNat_lt
  omega

theorem decode_cons_cons_eq_some_iff {a b : Char} {cs : List Char} {bytes : List UInt8} :
    decode (a :: b :: cs) = some bytes ↔ ∃ hi lo rest, digit? a = some hi ∧ digit? b = some lo ∧
      decode cs = some rest ∧ UInt8.ofNat (hi * 16 + lo) :: rest = bytes := by
  simp only [decode, bind, Option.bind_eq_some_iff, pure, Option.some.injEq]
  constructor
  case mp =>
    rintro ⟨hi, ha, lo, hb, rest, hr, e⟩
    exact ⟨hi, lo, rest, ha, hb, hr, e⟩
  case mpr =>
    rintro ⟨hi, lo, rest, ha, hb, hr, e⟩
    exact ⟨hi, ha, lo, hb, rest, hr, e⟩

-- By two digits at a time, as they are read.
theorem decode_eq_some_iff {cs : List Char} {bytes : List UInt8} :
    decode cs = some bytes ↔ cs.map Char.toLower = (encode bytes).toList := by
  induction cs using decode.induct generalizing bytes with
  | case1 => cases bytes <;> simp [decode, encode]
  | case2 c => cases bytes <;> simp [decode, encode]
  | case3 a b cs ih =>
    rw [decode_cons_cons_eq_some_iff]
    cases bytes with
    | nil => simp [encode]
    | cons byte bytes =>
      simp only [toList_encode_cons, List.map_cons, List.cons.injEq, ← ih]
      constructor
      case mp =>
        rintro ⟨hi, lo, rest, ha, hb, hr, e, rfl⟩
        have ⟨hhi, ea⟩ := digit?_eq_some_iff.mp ha
        have ⟨hlo, eb⟩ := digit?_eq_some_iff.mp hb
        have ⟨ehi, elo⟩ := (ofNat_eq_iff hhi hlo).mp e
        exact ⟨ehi ▸ ea, elo ▸ eb, hr⟩
      case mpr =>
        rintro ⟨ea, eb, hr⟩
        have hhi : byte.toNat / 16 < 16 := by have := byte.toNat_lt; omega
        have hlo : byte.toNat % 16 < 16 := by omega
        refine ⟨_, _, bytes, digit?_eq_some_iff.mpr ⟨hhi, ea⟩, digit?_eq_some_iff.mpr ⟨hlo, eb⟩, hr, ?_, rfl⟩
        exact (ofNat_eq_iff hhi hlo).mpr ⟨rfl, rfl⟩

theorem map_toLower_encode (bytes : List UInt8) :
    (encode bytes).toList.map Char.toLower = (encode bytes).toList := by
  have digit : ∀ n < 16, (digit n).toLower = Hex.digit n := by decide
  induction bytes with
  | nil => rfl
  | cons b bytes ih =>
    have := b.toNat_lt
    simp only [toList_encode_cons, List.map_cons, ih, digit (b.toNat / 16) (by omega),
      digit (b.toNat % 16) (by omega)]

theorem decode_toList_encode (bytes : List UInt8) : decode (encode bytes).toList = some bytes :=
  decode_eq_some_iff.mpr (map_toLower_encode bytes)

end GossipCluster.Text.Hex
