import GossipCluster.Wire.Lemmas
import GossipCluster.Wire.Message
import GossipCluster.Proofs.Table.Lookup

namespace GossipCluster.Wire

def Reads (r : Reader α) (w : Written) (a : α) : Prop :=
  ∀ bytes, w = .ok bytes → ∀ rest, r (bytes ++ rest) = .ok (a, rest)

namespace Write

theorem all_cons_eq_ok {w : Written} {ws : List Written} {bytes : List UInt8}
    (h : all (w :: ws) = .ok bytes) : ∃ x y, w = .ok x ∧ all ws = .ok y ∧ bytes = x ++ y := by
  cases w with
  | error e => simp [all, bind, Except.bind, Except.map] at h
  | ok x =>
    cases hw : ws.mapM id with
    | error e => simp [all, hw, bind, Except.bind, Except.map] at h
    | ok ys =>
      simp [all, hw, bind, Except.bind, Except.map, pure, Except.pure] at h
      exact ⟨x, ys.flatten, rfl, by simp [all, hw, Except.map], h.symm⟩

theorem all_append_eq_ok {vs ws : List Written} {bytes : List UInt8}
    (h : all (vs ++ ws) = .ok bytes) :
    ∃ x y, all vs = .ok x ∧ all ws = .ok y ∧ bytes = x ++ y := by
  induction vs generalizing bytes with
  | nil => exact ⟨[], bytes, rfl, h, rfl⟩
  | cons v vs ih =>
    have ⟨x, y, hx, hy, e⟩ := all_cons_eq_ok h
    have ⟨y₁, y₂, h₁, h₂, e'⟩ := ih hy
    refine ⟨x ++ y₁, y₂, ?_, h₂, by simp [e, e']⟩
    cases hvs : vs.mapM id with
    | error => simp [all, hvs, Except.map] at h₁
    | ok ys =>
      simp only [all, hvs, Except.map, Except.ok.injEq] at h₁
      simp [all, hvs, hx, ← h₁, bind, Except.bind, Except.map, pure, Except.pure]

theorem length_eq_ok {context : String} {max n : Nat} {bytes : List UInt8}
    (h : length context max n = .ok bytes) : n ≤ max ∧ n ≤ maxLength ∧ bytes = bigEndian 4 n := by
  rw [length] at h
  split at h
  case isTrue => contradiction
  case isFalse le => exact ⟨by omega, by omega, by injection h with h; exact h.symm⟩

end Write

namespace Reads

variable {r : Reader α} {f : α → Reader β} {w : Written} {ws : List Written} {a : α} {b : β}

theorem nil : Reads (pure a) (Write.all []) a := by
  intro bytes h rest
  injection h with h
  exact h ▸ rfl

theorem bind_pure (h : Reads r w a) (hf : f a = pure b) : Reads (r >>= f) w b := by
  intro bytes hw rest
  simp only [bind, h bytes hw rest, hf]
  rfl

theorem cons (h : Reads r w a) (hs : Reads (f a) (Write.all ws) b) :
    Reads (r >>= f) (Write.all (w :: ws)) b := by
  intro bytes hw rest
  have ⟨x, y, hx, hy, e⟩ := Write.all_cons_eq_ok hw
  simp only [bind, e, List.append_assoc, h x hx, hs y hy]

theorem single (h : Reads r w a) : Reads r (Write.all [w]) a := by
  intro bytes hw rest
  have ⟨x, y, hx, hy, e⟩ := Write.all_cons_eq_ok hw
  injection hy with hy
  exact h bytes (by simpa [e, ← hy] using hx) rest

theorem last (h : Reads r w a) (hf : f a = pure b) : Reads (r >>= f) (Write.all [w]) b :=
  single <| h.bind_pure hf

theorem word {context : String} {width n : Nat} (h : n < 256 ^ width) :
    Reads (Read.word context width) (Write.word width n) n := by
  intro bytes hw rest
  injection hw with hw
  have exact : Read.exactly context width (bytes ++ rest) = .ok (bytes, rest) := by
    have : bytes.length = width := by simp [← hw]
    simp [Read.exactly, ← this]
  have value : ofBigEndian bytes = n := hw ▸ ofBigEndian_bigEndian h
  simp only [Read.word, bind, exact, value, pure]

theorem byte {context : String} {b : UInt8} : Reads (Read.byte context) (Write.byte b) b := by
  have : Write.byte b = Write.word 1 b.toNat := by simp [Write.byte, Write.word, bigEndian]
  have : Reads (Read.word context 1) (Write.byte b) b.toNat := this ▸ word b.toNat_lt
  exact this.bind_pure <| congrArg pure (UInt8.ofNat_toNat ..)

theorem counter {context : String} {n : UInt64} :
    Reads (Read.counter context) (Write.counter n) n :=
  (word n.toNat_lt).bind_pure <| congrArg pure (UInt64.ofNat_toNat ..)

theorem time {context : String} {t : Timestamp} : Reads (Read.time context) (Write.time t) t :=
  (word t.toUInt64.toNat_lt).bind_pure (by simp)

theorem length {context context' : String} {max n : Nat} :
    Reads (Read.length context max) (Write.length context' max n) n := by
  intro bytes hw rest
  have ⟨le, lt, e⟩ := Write.length_eq_ok hw
  have : n < 256 ^ 4 := by have : maxLength = 256 ^ 4 - 1 := rfl; omega
  have : Read.word context 4 (bytes ++ rest) = _ := word this bytes (by rw [e]; rfl) rest
  simp [Read.length, bind, this, Nat.not_lt.mpr le, pure]

theorem exactly {context : String} {bytes : List UInt8} :
    Reads (Read.exactly context bytes.length) (.ok bytes) bytes := by
  intro bytes' hw rest
  injection hw with hw
  simp [Read.exactly, ← hw]

theorem blob {context context' : String} {max : Nat} {bytes : List UInt8} :
    Reads (Read.blob context max) (Write.blob context' max bytes) bytes :=
  length.cons exactly.single

theorem text {context : String} {s : String} : Reads (Read.text context) (Write.text s) s := by
  intro bytes hw rest
  have : Read.blob context maxTextBytes (bytes ++ rest) = _ := blob bytes hw rest
  have utf8 : String.fromUTF8? ⟨s.toUTF8.data.toList.toArray⟩ = some s := by
    rw [Array.toArray_toList, String.fromUTF8?, String.toUTF8_eq_toByteArray, dif_pos s.isValidUTF8]
    rfl
  simp only [Read.text, bind, this, utf8]
  rfl

theorem times {write : α → Written} {items : List α} (h : ∀ a ∈ items, Reads r (write a) a) :
    Reads (Read.times r items.length) (Write.all (items.map write)) items := by
  suffices ∀ acc, Reads (Read.times.go r items.length acc) (Write.all (items.map write))
      (acc.reverse ++ items) from this []
  induction items with
  | nil => exact fun acc => (List.append_nil acc.reverse).symm ▸ nil (a := acc.reverse)
  | cons a items ih =>
    intro acc bytes hw rest
    have ⟨x, y, hx, hy, e⟩ := Write.all_cons_eq_ok hw
    have := ih (fun b hb => h b (by simp [hb])) (a :: acc) y hy rest
    simp only [List.length_cons, Read.times.go, e, List.append_assoc, h a (by simp) x hx, this]
    simp

theorem listOf {context context' : String} {max : Nat} {write : α → Written} {items : List α}
    (h : ∀ a ∈ items, Reads r (write a) a) :
    Reads (Read.listOf context max r) (Write.listOf context' max write items) items :=
  length.cons (times h)

theorem map {context : String} {d : Dict String} : Reads (Read.map context) (Write.map d) d := by
  have entry (e : String × String) :
      Reads (do return (← Read.text context, ← Read.text context))
        (Write.all [Write.text e.1, Write.text e.2]) e :=
    text.cons (text.last rfl)
  exact (listOf fun e _ => entry e).bind_pure <| congrArg pure d.ofList_rows

-- Parts of a body that the reader does not know are skipped.
theorem body {context context' : String} (ws more : List Written) (h : Reads r (Write.all ws) a) :
    Reads (Read.body context r) (Write.body context' (ws ++ more)) a := by
  intro bytes hw rest
  cases hp : Write.all (ws ++ more) with
  | error => simp [Write.body, hp, bind, Except.bind] at hw
  | ok inside =>
    simp only [Write.body, hp, bind, Except.bind] at hw
    have ⟨x, y, hx, _, e⟩ := Write.all_append_eq_ok hp
    have : Read.blob context maxLength (bytes ++ rest) = _ := blob bytes hw rest
    simp only [Read.body, bind, this, e, h x hx]
    rfl

end Reads

end GossipCluster.Wire
