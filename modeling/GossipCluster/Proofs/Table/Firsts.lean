import Mathlib

namespace GossipCluster

variable {α : Type} {key : α → String} {seen l : List α} {a b : α}

-- Leaves out what has the key of something seen before.
def addFirst (key : α → String) (seen : List α) (a : α) : List α :=
  if seen.any (key · == key a) then seen else seen ++ [a]

theorem mem_addFirst_iff : b ∈ addFirst key seen a ↔ b ∈ seen ∨ b = a ∧ ∀ e ∈ seen, key e ≠ key a := by
  rw [addFirst]
  split
  case isTrue known =>
    obtain ⟨e, he, same⟩ : ∃ e ∈ seen, key e = key a := by simpa using known
    exact ⟨.inl, Or.rec id fun ⟨_, fresh⟩ => absurd same (fresh e he)⟩
  case isFalse fresh =>
    have fresh : ∀ e ∈ seen, key e ≠ key a := by simpa using fresh
    rw [List.mem_append, List.mem_singleton, and_iff_left fresh]

theorem mem_foldl_addFirst_iff : b ∈ l.foldl (addFirst key) seen ↔
    b ∈ seen ∨ (∀ e ∈ seen, key e ≠ key b) ∧ l.find? (key · == key b) = some b := by
  induction l generalizing seen with
  | nil => simp
  | cons a l ih =>
    rw [List.foldl_cons, ih]
    by_cases here : key a = key b
    case pos =>
      rw [List.find?_cons_of_pos (by simpa using here)]
      simp only [mem_addFirst_iff]
      grind
    case neg =>
      rw [List.find?_cons_of_neg (by simpa using here)]
      simp only [mem_addFirst_iff]
      grind

theorem pairwise_foldl_addFirst (h : seen.Pairwise (key · ≠ key ·)) :
    (l.foldl (addFirst key) seen).Pairwise (key · ≠ key ·) := by
  induction l generalizing seen with
  | nil => exact h
  | cons a l ih =>
    rw [List.foldl_cons]
    refine ih ?_
    rw [addFirst]
    split
    case isTrue => exact h
    case isFalse fresh =>
      refine List.pairwise_append.mpr ⟨h, List.pairwise_singleton .., fun e he c hc same => fresh ?_⟩
      rw [List.mem_singleton.mp hc] at same
      simpa using ⟨e, he, same⟩

end GossipCluster
