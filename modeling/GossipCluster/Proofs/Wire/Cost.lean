import GossipCluster.Wire.Lemmas
import GossipCluster.Wire.Message
import GossipCluster.Proofs.Table.Lookup

namespace GossipCluster.Wire

-- What cannot be written costs more than any number of bytes.
def cost : Written → ℕ∞
  | .ok bytes => bytes.length
  | .error _ => ⊤

section

variable {α : Type} {w : Written} {ws : List Written} {context : String} {max n : ℕ}

@[simp]
theorem cost_ok {bytes : List UInt8} : cost (.ok bytes) = bytes.length := rfl

@[simp]
theorem cost_error {error : Error} : cost (.error error) = ⊤ := rfl

theorem cost_ne_top_iff : cost w ≠ ⊤ ↔ ∃ bytes, w = .ok bytes := by
  cases w <;> simp

theorem cost_ne_top {k : ℕ} (h : cost w ≤ k) : cost w ≠ ⊤ := ne_top_of_le_ne_top (ENat.natCast_ne_top k) h

theorem cost_all : cost (Write.all ws) = (ws.map cost).sum := by
  induction ws with
  | nil => rfl
  | cons w ws ih =>
    rw [List.map_cons, List.sum_cons, ← ih]
    cases w with
    | error => simp [Write.all, bind, Except.bind, Except.map]
    | ok bytes =>
      cases h : ws.mapM id <;> simp [Write.all, h, bind, Except.bind, Except.map, pure, Except.pure]

theorem cost_all_nil : cost (Write.all []) ≤ (0 : ℕ) := le_rfl

theorem cost_all_cons {k m : ℕ} (h : cost w ≤ k) (hs : cost (Write.all ws) ≤ m) :
    cost (Write.all (w :: ws)) ≤ (k + m : ℕ) := by
  rw [cost_all, List.map_cons, List.sum_cons, ← cost_all, Nat.cast_add]
  exact add_le_add h hs

@[simp]
theorem cost_all_ne_top_iff : cost (Write.all ws) ≠ ⊤ ↔ ∀ w ∈ ws, cost w ≠ ⊤ := by
  rw [cost_all]
  induction ws with
  | nil => simp
  | cons w ws ih => simp [ih]

@[simp]
theorem cost_word : cost (Write.word n max) = n := by
  simp [Write.word]

@[simp]
theorem cost_byte {b : UInt8} : cost (Write.byte b) = 1 := by
  simp [Write.byte]

theorem cost_word_le {k : ℕ} (h : k = n) : cost (Write.word n max) ≤ k := by
  rw [cost_word, h]

theorem cost_length (h : n ≤ max) (short : n ≤ maxLength) : cost (Write.length context max n) = 4 := by
  rw [Write.length, if_neg (by omega)]
  exact cost_word

theorem cost_blob {bytes : List UInt8} (h : bytes.length ≤ max) (short : bytes.length ≤ maxLength) :
    cost (Write.blob context max bytes) = 4 + bytes.length := by
  simp [Write.blob, cost_all, cost_length h short]

theorem cost_listOf {write : α → Written} {items : List α} (h : items.length ≤ max) (short : items.length ≤ maxLength) :
    cost (Write.listOf context max write items) = 4 + (items.map fun a => cost (write a)).sum := by
  simp [Write.listOf, cost_all, cost_length h short, Function.comp_def]

-- Fewer items cost less.
theorem sum_le_of_subperm {c : α → ℕ∞} {as bs : List α} (h : as.Subperm bs) : (as.map c).sum ≤ (bs.map c).sum := by
  obtain ⟨cs, perm, sublist⟩ := h
  rw [← (perm.map c).sum_eq]
  exact (sublist.map c).sum_le_sum fun _ _ => zero_le

theorem cost_listOf_le {write : α → Written} {kept items : List α} {k : ℕ} (h : kept.Subperm items)
    (few : items.length ≤ max ∧ items.length ≤ maxLength)
    (sum : 4 + (items.map fun a => cost (write a)).sum ≤ k) : cost (Write.listOf context max write kept) ≤ k := by
  rw [cost_listOf (h.length_le.trans few.1) (h.length_le.trans few.2)]
  exact (add_le_add_right (sum_le_of_subperm h) 4).trans sum

theorem cost_body_le (h : cost (Write.all ws) ≤ n) (short : n ≤ maxLength) :
    cost (Write.body context ws) ≤ 4 + n := by
  cases hw : Write.all ws with
  | error => simp [hw] at h
  | ok bytes =>
    have le : bytes.length ≤ n := by simpa [hw] using h
    have written : Write.body context ws = Write.blob context maxLength bytes := by
      rw [Write.body, hw]
      rfl
    rw [written, cost_blob (le.trans short) (le.trans short)]
    exact add_le_add_right (Nat.cast_le.mpr le) 4

end

-- What holds of all that a reader accepts, and of the number of bytes that it has taken for it.
def Ensures {α : Type} (r : Reader α) (P : α → ℕ → Prop) : Prop :=
  ∀ bytes a rest, r bytes = .ok (a, rest) → ∃ n, bytes.length = n + rest.length ∧ P a n

namespace Ensures

variable {α β : Type} {r : Reader α} {f : α → Reader β} {P P' : α → ℕ → Prop} {Q : β → ℕ → Prop} {a : α}
  {context : String} {max n : ℕ} {c : α → ℕ∞} {Fit : α → Prop}

theorem mono (h : Ensures r P) (hp : ∀ a n, P a n → P' a n) : Ensures r P' := by
  intro bytes a rest e
  have ⟨n, length, p⟩ := h bytes a rest e
  exact ⟨n, length, hp a n p⟩

theorem pure (h : P a 0) : Ensures (Pure.pure a) P := by
  intro bytes b rest e
  injection e with e
  injection e with same left
  subst same left
  exact ⟨0, (Nat.zero_add _).symm, h⟩

theorem fail {error : Error} : Ensures (Reader.fail error) P := by
  intro bytes a rest e
  exact nomatch e

theorem bind (h : Ensures r P) (hf : ∀ a n, P a n → Ensures (f a) fun b m => Q b (n + m)) : Ensures (r >>= f) Q := by
  intro bytes b rest e
  simp only [Bind.bind] at e
  split at e
  case h_2 => exact nomatch e
  case h_1 a left ha =>
    have ⟨n, length, p⟩ := h bytes a left ha
    have ⟨m, length', q⟩ := hf a n p left b rest e
    exact ⟨n + m, by omega, q⟩

theorem exactly : Ensures (Read.exactly context n) fun bytes k => k = n ∧ bytes.length = n := by
  intro bytes a rest e
  rw [Read.exactly] at e
  split at e
  case isTrue => exact nomatch e
  case isFalse enough =>
    injection e with e
    injection e with taken left
    subst taken left
    rw [List.length_take] at enough
    exact ⟨n, by rw [List.length_drop]; omega, rfl, by rw [List.length_take]; omega⟩

theorem word : Ensures (Read.word context n) fun m k => k = n ∧ m < 256 ^ n := by
  refine exactly.bind fun bytes k h => pure ⟨h.1, ?_⟩
  exact h.2 ▸ ofBigEndian_lt bytes

theorem byte : Ensures (Read.byte context) fun b k => cost (Write.byte b) ≤ k :=
  word.bind fun _ _ h => pure (by simp [h.1])

theorem counter : Ensures (Read.counter context) fun n k => cost (Write.counter n) ≤ k :=
  word.bind fun _ _ h => pure (by simp [Write.counter, h.1])

theorem time : Ensures (Read.time context) fun t k => cost (Write.time t) ≤ k :=
  word.bind fun _ _ h => pure (by simp [Write.time, h.1])

theorem length : Ensures (Read.length context max) fun n k => k = 4 ∧ n ≤ max ∧ n ≤ maxLength := by
  refine word.bind fun n k h => ?_
  split
  case isTrue => exact fail
  case isFalse le => exact pure ⟨h.1, by omega, Nat.le_sub_one_of_lt h.2⟩

theorem blob : Ensures (Read.blob context max) fun bytes k =>
    k = 4 + bytes.length ∧ bytes.length ≤ max ∧ bytes.length ≤ maxLength := by
  refine length.bind fun n k h => exactly.mono fun bytes m e => ?_
  omega

theorem text : Ensures (Read.text context) fun s k => cost (Write.text s) ≤ k := by
  refine blob.bind fun bytes k h => ?_
  split
  case h_2 => exact fail
  case h_1 s hs =>
    refine pure ?_
    have same : s.toUTF8.data.toList = bytes := by
      rw [String.fromUTF8?] at hs
      split at hs
      case isFalse => exact nomatch hs
      case isTrue =>
        injection hs with hs
        subst hs
        rw [String.toUTF8_eq_toByteArray]
        rfl
    rw [Write.text, same, cost_blob h.2.1 h.2.2, h.1]
    simp

-- Of as many items the costs add up.
theorem times (h : Ensures r fun a k => Fit a ∧ c a ≤ k) : Ensures (Read.times r n) fun items k =>
    items.length = n ∧ (∀ a ∈ items, Fit a) ∧ (items.map c).sum ≤ k := by
  suffices ∀ acc, Ensures (Read.times.go r n acc) fun items k => ∃ more : List α, items = acc.reverse ++ more ∧
      more.length = n ∧ (∀ a ∈ more, Fit a) ∧ (more.map c).sum ≤ k by
    refine (this []).mono fun items k ⟨more, e, rest⟩ => ?_
    exact e ▸ rest
  induction n with
  | zero => exact fun acc => pure ⟨[], by simp⟩
  | succ n ih =>
    intro acc
    refine (h.bind fun a k ha => (ih (a :: acc)).mono fun items m => ?_ : Ensures (r >>= fun a => Read.times.go r n (a :: acc)) _)
    rintro ⟨more, rfl, length, fit, sum⟩
    refine ⟨a :: more, by simp, by simp [length], by simpa [ha.1] using fit, ?_⟩
    rw [List.map_cons, List.sum_cons, Nat.cast_add]
    exact add_le_add ha.2 sum

theorem listOf (h : Ensures r fun a k => Fit a ∧ c a ≤ k) : Ensures (Read.listOf context max r) fun items k =>
    (items.length ≤ max ∧ items.length ≤ maxLength) ∧ (∀ a ∈ items, Fit a) ∧ 4 + (items.map c).sum ≤ k := by
  refine length.bind fun n k hn => (times h).mono fun items m ⟨length, fit, sum⟩ => ?_
  refine ⟨length ▸ hn.2, fit, ?_⟩
  rw [hn.1, Nat.cast_add]
  exact add_le_add_right sum 4

-- Of entries that come more than once some are written only once.
theorem map : Ensures (Read.map context) fun d k => cost (Write.map d) ≤ k := by
  have entry : Ensures (do return (← Read.text context, ← Read.text context)) fun e k =>
      True ∧ cost (Write.all [Write.text e.1, Write.text e.2]) ≤ k :=
    text.bind fun _ _ hk => text.bind fun _ _ hv =>
      pure ⟨trivial, cost_all_cons hk <| cost_all_cons hv cost_all_nil⟩
  exact (listOf entry).bind fun items _ ⟨few, _, sum⟩ => pure (cost_listOf_le (Table.subperm_ofList items) few sum)

theorem body (h : Ensures r P) : Ensures (Read.body context r) fun a k =>
    ∃ n, P a n ∧ n ≤ maxLength ∧ 4 + n ≤ k := by
  refine blob.bind fun bytes k hb => ?_
  split
  case h_2 => exact fail
  case h_1 a rest ha =>
    have ⟨n, length, p⟩ := h bytes a rest ha
    exact pure ⟨n, p, by omega, by omega⟩

end Ensures

end GossipCluster.Wire
