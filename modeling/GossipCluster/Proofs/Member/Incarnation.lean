import Mathlib
import GossipCluster.View.Merge

namespace GossipCluster

abbrev Stamp := ℕ ×ₗ ℕ ×ₗ ℤ

section

variable {β : Type} [LE β] [DecidableLE β] [Std.IsLinearOrder β]

-- The maximum of words, as they have it.
theorem le_max_word (a b : β) : a ≤ (if a ≤ b then b else a) ∧ b ≤ (if a ≤ b then b else a) := by
  split
  case isTrue le => exact ⟨le, Std.le_refl b⟩
  case isFalse nle => exact ⟨Std.le_refl a, Std.le_of_not_ge nle⟩

-- It stays the same when one of them comes once more.
theorem max_word_max_word (a b : β) :
    (if (if a ≤ b then b else a) ≤ b then b else if a ≤ b then b else a) = if a ≤ b then b else a := by
  by_cases le : a ≤ b <;> simp [le]

theorem max_word_eq_left_iff {a b : β} : (if a ≤ b then b else a) = a ↔ b ≤ a := by
  split
  case isTrue le => exact ⟨(· ▸ Std.le_refl _), (Std.le_antisymm · le)⟩
  case isFalse nle => simp [Std.le_of_not_ge nle]

end

namespace Member

def stamp (m : Member) : Stamp :=
  toLex (m.generation.toNat, toLex (m.clock.toNat, m.timestamp.toInt))

def profile (m : Member) : String × String × Dict String × Dict String :=
  (m.cluster, m.address, m.labels, m.state)

def imprint (m : Member) : Member := { m with status := .joining, lastSeen := 0 }

-- The imprints of several members.
def imprints (ms : List Member) : Set Member := {p | ∃ m ∈ ms, m.imprint = p}

variable {a b c ours theirs : Member} {now : Timestamp} {ms ns : List Member}

theorem stamp_eq_iff : a.stamp = b.stamp ↔
    a.generation = b.generation ∧ a.clock = b.clock ∧ a.timestamp = b.timestamp := by
  simp [stamp, UInt64.toNat_inj, Int64.toInt_inj]

theorem stamp_lt_iff : a.stamp < b.stamp ↔
    a.generation < b.generation ∨ a.generation = b.generation ∧
      (a.clock < b.clock ∨ a.clock = b.clock ∧ a.timestamp < b.timestamp) := by
  simp [stamp, Prod.Lex.toLex_lt_toLex, UInt64.lt_iff_toNat_lt, Int64.lt_iff_toInt_lt,
    UInt64.toNat_inj]

theorem newer_iff (h : a.id = b.id) : a.Newer b ↔ b.stamp < a.stamp := by
  rw [stamp_lt_iff, Newer]
  split
  case isTrue ne =>
    simp only [Ne.symm ne, false_and, or_false]
  case isFalse eq =>
    have eq := Decidable.not_not.mp eq
    simp only [eq, UInt64.lt_irrefl, h, true_and, false_or]
    split
    case isTrue ne =>
      simp only [Ne.symm ne, false_and, or_false]
    case isFalse eq =>
      have eq := Decidable.not_not.mp eq
      simp only [eq, UInt64.lt_irrefl, true_and, false_or]

theorem not_newer_iff (h : a.id = b.id) : ¬a.Newer b ↔ a.stamp ≤ b.stamp := by
  rw [newer_iff h, not_lt]

theorem stamp_reconcile (h : ours.id = theirs.id) :
    (ours.reconcile theirs).stamp = max ours.stamp theirs.stamp := by
  rw [reconcile]
  split
  case isTrue newer => exact (max_eq_right <| le_of_lt <| (newer_iff h.symm).mp newer).symm
  case isFalse older =>
    have := (max_eq_left <| (not_newer_iff h.symm).mp older).symm
    split <;> exact this

theorem reconcile_eq_or (ours theirs : Member) :
    (ours.reconcile theirs).profile = theirs.profile ∧ theirs.Newer ours ∨
      (ours.reconcile theirs).profile = ours.profile ∧ ¬theirs.Newer ours := by
  rw [reconcile]
  split
  case isTrue newer => exact .inl ⟨rfl, newer⟩
  case isFalse older => split <;> exact .inr ⟨rfl, older⟩

theorem isDeparting_reconcile (ours theirs : Member) : (ours.reconcile theirs).isDeparting = ours.isDeparting ∨
    (ours.reconcile theirs).isDeparting = theirs.isDeparting := by
  rw [reconcile]
  split
  case isTrue => exact .inr rfl
  case isFalse => split <;> exact .inl rfl

theorem not_newer_self : ¬a.Newer a := (not_newer_iff rfl).mpr le_rfl

theorem reconcile_self : a.reconcile a = a := by
  have : max a.lastSeen a.lastSeen = a.lastSeen := ite_self ..
  rw [reconcile, if_neg not_newer_self, if_pos ⟨rfl, rfl⟩, this]

-- The same incarnation teaches nothing when it comes again.
theorem reconcile_reconcile (h : ours.id = theirs.id) :
    (ours.reconcile theirs).reconcile theirs = ours.reconcile theirs := by
  have old : ¬theirs.Newer (ours.reconcile theirs) := by
    rw [newer_iff <| h.symm.trans (reconcile_id h).symm, not_lt, stamp_reconcile h]
    exact le_max_right ..
  have seen : max (max ours.lastSeen theirs.lastSeen) theirs.lastSeen = max ours.lastSeen theirs.lastSeen :=
    max_word_max_word ..
  rw [reconcile, if_neg old]
  split
  case isFalse => rfl
  case isTrue same =>
    rw [reconcile] at same ⊢
    split
    case isTrue => rw [seen]
    case isFalse older =>
      rw [if_neg older] at same
      split
      case isTrue => rw [seen]
      case isFalse other =>
        rw [if_neg other] at same
        exact absurd same other

theorem clock_advance (now : Timestamp) (h : a.clock.toNat < 2 ^ 64 - 1) :
    (a.advance now).clock.toNat = a.clock.toNat + 1 := by
  have ne : a.clock ≠ Counter.last := fun e => by rw [e] at h; exact absurd h (by decide)
  have : Counter.next? a.clock = some (a.clock + 1) := if_neg ne
  rw [advance, Counter.next, this, Option.getD_some]
  exact Counter.toNat_next? this

theorem stamp_lt_of_clock (hg : a.generation = b.generation) (hc : a.clock.toNat < b.clock.toNat) :
    a.stamp < b.stamp :=
  stamp_lt_iff.mpr <| .inr ⟨hg, .inl <| UInt64.lt_iff_toNat_lt.mpr hc⟩

theorem stamp_le_advance : a.stamp ≤ (a.advance now).stamp := by
  have clock : a.clock.toNat ≤ (a.advance now).clock.toNat := UInt64.le_iff_toNat_le.mp <| Counter.le_next a.clock
  have timestamp : a.timestamp.toInt ≤ (a.advance now).timestamp.toInt := by
    change _ ≤ Int64.toInt (if a.timestamp ≤ now then now else a.timestamp)
    split
    case isTrue le => exact Int64.le_iff_toInt_le.mp le
    case isFalse => exact le_rfl
  exact Prod.Lex.toLex_mono ⟨le_rfl, Prod.Lex.toLex_mono ⟨clock, timestamp⟩⟩

-- A superseding incarnation is of the next generation, and the change is counted.
theorem supersede_eq (h : a.supersede b now = .ok c) : c.id = a.id ∧ c.profile = a.profile ∧
    c.generation.toNat = max a.generation.toNat b.generation.toNat + 1 ∧
    c.clock.toNat = max a.clock.toNat b.clock.toNat + 1 := by
  have toNat_max (n m : UInt64) : (max n m).toNat = max n.toNat m.toNat := by
    change (if n ≤ m then m else n).toNat = _
    rw [max_def, apply_ite UInt64.toNat]
    simp only [UInt64.le_iff_toNat_le]
  rw [supersede] at h
  split at h
  case h_1 generation clock hg hc =>
    have h := Except.ok.inj h
    subst h
    refine ⟨rfl, rfl, ?_, ?_⟩
    · exact (Counter.toNat_next? hg).trans <| by rw [toNat_max]
    · exact (Counter.toNat_next? hc).trans <| by rw [toNat_max]
  case h_2 => exact nomatch h

theorem status_supersede (h : a.supersede b now = .ok c) : c.status = a.status := by
  rw [supersede] at h
  split at h
  case h_1 =>
    have h := Except.ok.inj h
    subst h
    rfl
  case h_2 => exact nomatch h

theorem stamp_lt_supersede (h : a.supersede b now = .ok c) : a.stamp < c.stamp ∧ b.stamp < c.stamp := by
  have ⟨_, _, generation, _⟩ := supersede_eq h
  constructor <;> exact stamp_lt_iff.mpr <| .inl <| UInt64.lt_iff_toNat_lt.mpr (by omega)

theorem supersede_eq_error_iff : (∃ e, a.supersede b now = .error e) ↔
    max a.generation b.generation = Counter.last ∨ max a.clock b.clock = Counter.last := by
  rw [← Counter.next?_eq_none_iff, ← Counter.next?_eq_none_iff, supersede]
  cases Counter.next? (max a.generation b.generation) <;> cases Counter.next? (max a.clock b.clock) <;> simp

theorem imprint_eq_iff : a.imprint = b.imprint ↔
    a.id = b.id ∧ a.stamp = b.stamp ∧ a.profile = b.profile := by
  rw [stamp_eq_iff]
  simp only [imprint, profile, Member.ext_iff, Prod.mk.injEq]
  grind

theorem imprint_reconcile (ours theirs : Member) :
    (ours.reconcile theirs).imprint = ours.imprint ∨
      (ours.reconcile theirs).imprint = theirs.imprint := by
  rw [reconcile]
  split
  case isTrue => exact .inr rfl
  case isFalse => split <;> exact .inl rfl

theorem imprint_mem (h : a ∈ ms) : a.imprint ∈ imprints ms := ⟨a, h, rfl⟩

theorem imprints_append : imprints (ms ++ ns) = imprints ms ∪ imprints ns := by
  ext p
  simp [imprints, or_and_right, exists_or]

theorem imprints_cons : imprints (a :: ms) = insert a.imprint (imprints ms) := by
  ext p
  simp [imprints, eq_comm]

end Member

end GossipCluster
