import GossipCluster.Text.Decimal

namespace GossipCluster.Text

theorem foldlM_digit? {cs : List Char} (h : ∀ c ∈ cs, c.isDigit) (n : Nat) :
    cs.foldlM (fun n c => (n * 10 + ·) <$> digit? c) n = some (Nat.ofDigitChars 10 cs n) := by
  induction cs generalizing n with
  | nil => simp
  | cons c cs ih =>
    have digit : digit? c = some (c.toNat - '0'.toNat) := if_pos (h c (by simp))
    have value : 10 * n + (c.toNat - '0'.toNat) = n * 10 + (c.toNat - '0'.toNat) := by omega
    simp only [List.foldlM_cons, digit, Nat.ofDigitChars_cons, value]
    exact ih (fun c hc => h c (by simp [hc])) _

theorem isDigit_of_mem_toDigits {n : Nat} {c : Char} (h : c ∈ Nat.toDigits 10 n) : c.isDigit :=
  Nat.isDigit_of_mem_toDigits (by omega) (by omega) h

theorem digits?_toDigits (n : Nat) : digits? (Nat.toDigits 10 n) = some n := by
  have read := foldlM_digit? (n := 0) fun c => isDigit_of_mem_toDigits (n := n)
  rw [Nat.ofDigitChars_ten_toDigits] at read
  cases hd : Nat.toDigits 10 n with
  | nil => exact absurd hd Nat.toDigits_ne_nil
  | cons c cs => simpa [digits?, hd] using read

theorem natural?_repr {limit n : Nat} (h : n < limit) : natural? limit n.repr = some n := by
  -- A number is written without a sign.
  have unsigned (cs : List Char) : Nat.toDigits 10 n ≠ '+' :: cs := fun signed => by
    have := isDigit_of_mem_toDigits (n := n) (c := '+') (by simp [signed])
    contradiction
  have plain : natural? limit n.repr = (digits? (Nat.toDigits 10 n)).filter (· < limit) := by
    rw [natural?, Nat.toList_repr]
    split
    case h_1 cs signed => exact absurd signed (unsigned cs)
    case h_2 => rfl
  simp [plain, digits?_toDigits, h]

theorem isDigit_of_foldlM {cs : List Char} {n m : Nat} (h : cs.foldlM (fun n c => (n * 10 + ·) <$> digit? c) n = some m) :
    ∀ c ∈ cs, c.isDigit := by
  induction cs generalizing n with
  | nil => exact fun _ hc => nomatch hc
  | cons c cs ih =>
    rw [List.foldlM_cons] at h
    obtain ⟨k, first, rest⟩ := Option.bind_eq_some_iff.mp h
    obtain ⟨d, digit, _⟩ := Option.map_eq_some_iff.mp first
    have digit : c.isDigit := (Option.ite_none_right_eq_some.mp digit).1
    exact fun b hb => (List.mem_cons.mp hb).elim (· ▸ digit) (ih rest b)

theorem isDigit_of_digits? {cs : List Char} {n : Nat} (h : digits? cs = some n) : ∀ c ∈ cs, c.isDigit := by
  rw [digits?.eq_def] at h
  split at h
  case h_1 => exact nomatch h
  case h_2 => exact isDigit_of_foldlM h

theorem mem_of_natural? {limit n : Nat} {s : String} (h : natural? limit s = some n) :
    ∀ c ∈ s.toList, c = '+' ∨ c.isDigit := by
  rw [natural?] at h
  have digits := isDigit_of_digits? (Option.filter_eq_some_iff.mp h).1
  intro c hc
  split at digits
  case h_1 cs signed =>
    rw [signed] at hc
    exact (List.mem_cons.mp hc).imp_right (digits c)
  case h_2 => exact .inr (digits c hc)

end GossipCluster.Text
