import Mathlib
import GossipCluster.Gossip.Selection
import GossipCluster.Proofs.Table.Firsts

namespace GossipCluster

namespace Random

variable {α : Type} {a : Array α} {l : List α} {words : List UInt64} {n i j : ℕ}

theorem perm_swapIfInBounds : (a.swapIfInBounds i j).Perm a := by
  rw [Array.swapIfInBounds_def]
  split
  case isTrue =>
    split
    case isTrue => exact Array.swap_perm ..
    case isFalse => exact .refl a
  case isFalse => exact .refl a

theorem perm_shuffleFrom : (shuffleFrom a n words).1.Perm a := by
  induction n generalizing a words with
  | zero => exact .refl a
  | succ n ih => exact ih.trans perm_swapIfInBounds

theorem perm_shuffle : (shuffle l words).1.Perm l := Array.perm_iff_toList_perm.mp perm_shuffleFrom

end Random

namespace Selector

variable {v : View} {self : Member} {seeds : List Seed} {s : Selector} {words : List UInt64} {t : Target}
  {c d : Candidate} {seen cs : List Candidate} {chosen targets : List Target} {tiers : List (List Target)} {max : ℕ}

-- Where somebody is who gossip may go to.
def Near (v : View) (seeds : List Seed) (address : String) : Prop :=
  (∃ m ∈ v.members.rows, m.address = address) ∨ ∃ seed ∈ seeds, seed.address = address

-- The node itself is no candidate; of the others at one address the first one is.
theorem foldl_add_eq : cs.foldl (candidates.add self) seen =
    (cs.filter (·.target.address ≠ self.address)).foldl (addFirst (·.target.address)) seen := by
  rw [List.foldl_filter]
  congr
  funext seen c
  rw [candidates.add, addFirst]
  grind

theorem find?_filter_other {address : String} :
    (cs.filter (·.target.address ≠ self.address)).find? (·.target.address == address) =
      if address = self.address then none else cs.find? (·.target.address == address) := by
  split
  case isTrue same => simp [List.find?_eq_none, same]
  case isFalse other =>
    rw [List.find?_filter]
    congr
    funext d
    grind

theorem mem_foldl_add_iff : c ∈ cs.foldl (candidates.add self) seen ↔ c ∈ seen ∨
    c.target.address ≠ self.address ∧ (∀ e ∈ seen, e.target.address ≠ c.target.address) ∧
      cs.find? (·.target.address == c.target.address) = some c := by
  rw [foldl_add_eq, mem_foldl_addFirst_iff, find?_filter_other]
  grind

theorem pairwise_foldl_add (h : seen.Pairwise (·.target.address ≠ ·.target.address)) :
    (cs.foldl (candidates.add self) seen).Pairwise (·.target.address ≠ ·.target.address) :=
  foldl_add_eq ▸ pairwise_foldl_addFirst h

theorem near_of_mem_candidates (h : c ∈ candidates v self seeds) : Near v seeds c.target.address := by
  have found := ((mem_foldl_add_iff.mp h).resolve_left nofun).2.2
  rcases List.mem_append.mp (List.mem_of_find?_eq_some found) with member | configured
  · obtain ⟨m, known, rfl⟩ := List.mem_map.mp member
    exact .inl ⟨m, (List.mem_filter.mp known).1, rfl⟩
  · obtain ⟨seed, known, rfl⟩ := List.mem_map.mp configured
    exact .inr ⟨seed, known, rfl⟩

theorem fill_cons {tier : List Target} : (fill max (tier :: tiers) chosen words).1 =
    if (chosen ++ (Random.shuffle tier words).1).length ≥ max then (chosen ++ (Random.shuffle tier words).1).take max
    else (fill max tiers (chosen ++ (Random.shuffle tier words).1) (Random.shuffle tier words).2).1 := by
  rw [fill]
  change ((if _ then _ else _ : Random (List Target)) _).1 = _
  split
  case isTrue enough => exact (if_pos enough).symm
  case isFalse few => exact (if_neg few).symm

-- Chance decides on the order within the tiers alone.
theorem exists_ranked {r : Target → Target → Prop} (across : tiers.Pairwise fun l l' => ∀ a ∈ l, ∀ b ∈ l', r a b)
    (within : ∀ l ∈ tiers, ∀ a ∈ l, ∀ b ∈ l, r a b) : ∃ ranked : List Target, ranked.Perm tiers.flatten ∧
      ranked.Pairwise r ∧ (fill max tiers chosen words).1 = (chosen ++ ranked).take max := by
  induction tiers generalizing chosen words with
  | nil => exact ⟨[], .refl _, .nil, by rw [List.append_nil]; rfl⟩
  | cons tier tiers ih =>
    obtain ⟨first, later⟩ := List.pairwise_cons.mp across
    obtain ⟨here, there⟩ := List.forall_mem_cons.mp within
    have drawn : (Random.shuffle tier words).1.Perm tier := Random.perm_shuffle
    have ordered {rest : List Target} (perm : rest.Perm tiers.flatten) (rest_ordered : rest.Pairwise r) :
        ((Random.shuffle tier words).1 ++ rest).Pairwise r := by
      refine List.pairwise_append.mpr ⟨List.pairwise_of_forall_mem_list fun a ha b hb => ?_, rest_ordered, fun a ha b hb => ?_⟩
      · exact here a (drawn.mem_iff.mp ha) b (drawn.mem_iff.mp hb)
      · obtain ⟨l, hl, hb⟩ := List.mem_flatten.mp (perm.mem_iff.mp hb)
        exact first l hl a (drawn.mem_iff.mp ha) b hb
    rw [fill_cons, List.flatten_cons]
    split
    case isTrue enough =>
      have rest : tiers.flatten.Pairwise r := List.pairwise_flatten.mpr
        ⟨fun l hl => List.pairwise_of_forall_mem_list (there l hl), later⟩
      refine ⟨_, drawn.append (.refl tiers.flatten), ordered (.refl _) rest, ?_⟩
      rw [← List.append_assoc, List.take_append_of_le_length enough]
    case isFalse =>
      obtain ⟨ranked, perm, rest, e⟩ := ih later there
      exact ⟨_, drawn.append perm, ordered perm rest, by rw [e, List.append_assoc]⟩

theorem mem_fill (h : t ∈ (fill max tiers chosen words).1) : t ∈ chosen ∨ ∃ tier ∈ tiers, t ∈ tier := by
  obtain ⟨ranked, perm, _, e⟩ : ∃ ranked : List Target, ranked.Perm tiers.flatten ∧ ranked.Pairwise (fun _ _ => True) ∧
      (fill max tiers chosen words).1 = (chosen ++ ranked).take max :=
    exists_ranked (List.pairwise_of_forall fun _ _ _ _ _ _ => trivial) fun _ _ _ _ _ _ => trivial
  exact (List.mem_append.mp <| List.mem_of_mem_take (e ▸ h)).imp_right fun h =>
    List.mem_flatten.mp (perm.mem_iff.mp h)

theorem near_of_mem_select (h : (s.select v self seeds words).1 = some targets) (mem : t ∈ targets) :
    Near v seeds t.address := by
  rw [select] at h
  split at h
  case isTrue => exact nomatch h
  case isFalse =>
    have drawn (r : Random (List Target)) : ((some <$> r) words).1 = some (r words).1 := rfl
    rw [drawn] at h
    rw [← Option.some_inj.mp h] at mem
    obtain ⟨tier, known, mem⟩ := (mem_fill mem).resolve_left nofun
    obtain ⟨i, _, rfl⟩ := List.mem_map.mp known
    obtain ⟨c, candidate, rfl⟩ := List.mem_map.mp mem
    exact near_of_mem_candidates (List.mem_filter.mp candidate).1

-- Seeds take no part in what is sent to other datacenters.
theorem near_of_mem_selectRemote (mem : t ∈ (s.selectRemote v self words).1) : Near v [] t.address := by
  rw [selectRemote] at mem
  split at mem
  case isTrue => exact nomatch mem
  case isFalse =>
    have drawn : t ∈ remote v self := Random.perm_shuffle.mem_iff.mp (List.mem_of_mem_take mem)
    obtain ⟨m, known, rfl⟩ := List.mem_map.mp drawn
    exact .inl ⟨m, (List.mem_filter.mp (List.mem_filter.mp known).1).1, rfl⟩

end Selector

end GossipCluster
