import GossipCluster.Proofs.Gossip.Selection

namespace GossipCluster

namespace Candidate

def ofMember (m : Member) : Candidate := ⟨⟨m.address, some m.id⟩, some m.datacenter, m.region?⟩

def ofSeed (s : Seed) : Candidate := ⟨⟨s.address, none⟩, s.datacenter, none⟩

def SameDatacenter (self : Member) (c : Candidate) : Prop := c.datacenter = some self.datacenter

-- Those who name no region have none in common.
def SameRegion (self : Member) (c : Candidate) : Prop := ∃ region, self.region? = some region ∧ c.region = some region

-- The region counts for more than the datacenter.
def Nearer (self : Member) (c d : Candidate) : Prop :=
  c.SameRegion self ∧ ¬d.SameRegion self ∨
    (c.SameRegion self ↔ d.SameRegion self) ∧ c.SameDatacenter self ∧ ¬d.SameDatacenter self

end Candidate

namespace Selector

open Candidate
open scoped List

-- Whom one meets at an address: a member, the first one by id, before any seed.
def contact? (v : View) (self : Member) (seeds : List Seed) (address : String) : Option Candidate :=
  ((gossipable v self).find? (·.address == address)).map ofMember <|> (seeds.find? (·.address == address)).map ofSeed

-- Where there is somebody to talk to.
def peers (v : View) (self : Member) (seeds : List Seed) : Finset String :=
  ((gossipable v self).map (·.address) ++ seeds.map (·.address)).toFinset.erase self.address

def NearerAt (v : View) (self : Member) (seeds : List Seed) (a b : String) : Prop :=
  ∃ c d, contact? v self seeds a = some c ∧ contact? v self seeds b = some d ∧ c.Nearer self d

structure Fair (s : Selector) (v : View) (me : Member) (seeds : List Seed) (targets : List Target) : Prop where
  distinct : (targets.map (·.address)).Nodup
  known    : ∀ t ∈ targets, t.address ∈ peers v me seeds
  named    : ∀ t ∈ targets, t.nodeId = ((gossipable v me).find? (·.address == t.address)).map (·.id)
  length   : targets.length = min s.maxTargets (peers v me seeds).card
  nearest  : targets.Pairwise fun t u => ¬NearerAt v me seeds u.address t.address
  left     : ∀ a ∈ peers v me seeds, (∀ t ∈ targets, t.address ≠ a) → ∀ t ∈ targets, ¬NearerAt v me seeds a t.address

variable {v : View} {self : Member} {seeds : List Seed} {s : Selector} {words : List UInt64} {c d : Candidate}
  {address : String} {ranked : List Target}

theorem contact?_eq : contact? v self seeds address =
    ((gossipable v self).map ofMember ++ seeds.map ofSeed).find? (·.target.address == address) := by
  rw [List.find?_append, List.find?_map, List.find?_map, contact?, Option.orElse_eq_orElse, Option.orElse_eq_or]
  rfl

theorem candidates_eq : candidates v self seeds =
    ((gossipable v self).map ofMember ++ seeds.map ofSeed).foldl (candidates.add self) [] := rfl

theorem mem_candidates_iff : c ∈ candidates v self seeds ↔
    c.target.address ≠ self.address ∧ contact? v self seeds c.target.address = some c := by
  rw [contact?_eq, candidates_eq, mem_foldl_add_iff]
  simp only [List.not_mem_nil, false_or, false_imp_iff, implies_true, true_and]

theorem address_of_contact? (h : contact? v self seeds address = some c) : c.target.address = address := by
  rw [contact?_eq] at h
  simpa using List.find?_some h

theorem mem_peers_iff : address ∈ peers v self seeds ↔
    address ≠ self.address ∧ ∃ c, contact? v self seeds address = some c := by
  rw [contact?_eq, ← Option.isSome_iff_exists, List.find?_isSome]
  simp [peers, ofMember, ofSeed, or_and_right, exists_or]

theorem mem_peers_iff_candidate : address ∈ peers v self seeds ↔
    ∃ c ∈ candidates v self seeds, c.target.address = address := by
  rw [mem_peers_iff]
  constructor
  case mp =>
    rintro ⟨other, c, found⟩
    obtain rfl := address_of_contact? found
    exact ⟨c, mem_candidates_iff.mpr ⟨other, found⟩, rfl⟩
  case mpr =>
    rintro ⟨c, hc, rfl⟩
    have ⟨other, found⟩ := mem_candidates_iff.mp hc
    exact ⟨other, c, found⟩

theorem nodup_candidates : ((candidates v self seeds).map (·.target.address)).Nodup :=
  List.pairwise_map.mpr <| pairwise_foldl_add .nil

theorem card_peers : (peers v self seeds).card = (candidates v self seeds).length := by
  have same : peers v self seeds = ((candidates v self seeds).map (·.target.address)).toFinset := by
    ext address
    simp [mem_peers_iff_candidate]
  rw [same, List.toFinset_card_of_nodup nodup_candidates, List.length_map]

theorem nodeId_of_mem (h : c ∈ candidates v self seeds) :
    c.target.nodeId = ((gossipable v self).find? (·.address == c.target.address)).map (·.id) := by
  have found := (mem_candidates_iff.mp h).2
  rw [contact?] at found
  cases member : (gossipable v self).find? (·.address == c.target.address) with
  | some m =>
    rw [member] at found
    rw [← Option.some_inj.mp found]
    rfl
  | none =>
    rw [member] at found
    obtain ⟨seed, _, rfl⟩ := Option.map_eq_some_iff.mp found
    rfl

theorem tier_lt_iff : tier self c < tier self d ↔ c.Nearer self d := by
  have region (c : Candidate) : c.SameRegion self ↔ self.region?.isSome ∧ c.region = self.region? := by
    rw [SameRegion, Option.isSome_iff_exists]
    grind
  simp only [tier, Nearer, region, SameDatacenter]
  grind

theorem tier_lt_four : tier self c < 4 := by
  rw [tier]
  grind

-- Whom chance orders among each other.
def peersOfTier (v : View) (self : Member) (seeds : List Seed) (i : ℕ) : List Target :=
  ((candidates v self seeds).filter (tier self · = i)).map (·.target)

def tiers (v : View) (self : Member) (seeds : List Seed) (n : ℕ) : List (List Target) :=
  (List.range n).map (peersOfTier v self seeds)

theorem mem_peersOfTier_iff {i : ℕ} {t : Target} : t ∈ peersOfTier v self seeds i ↔
    ∃ c ∈ candidates v self seeds, tier self c = i ∧ c.target = t := by
  simp [peersOfTier, and_assoc]

theorem perm_flatten_tiers (n : ℕ) : (tiers v self seeds n).flatten.Perm
    (((candidates v self seeds).filter (tier self · < n)).map (·.target)) := by
  induction n with
  | zero => simp [tiers]
  | succ n ih =>
    have below : (candidates v self seeds).filter (tier self · < n) =
        ((candidates v self seeds).filter (tier self · < n + 1)).filter (tier self · < n) := by
      rw [List.filter_filter]
      exact List.filter_congr fun c _ => by grind
    have last : (candidates v self seeds).filter (tier self · = n) =
        ((candidates v self seeds).filter (tier self · < n + 1)).filter (fun c => !decide (tier self c < n)) := by
      rw [List.filter_filter]
      exact List.filter_congr fun c _ => by grind
    calc (tiers v self seeds (n + 1)).flatten
      _ = (tiers v self seeds n).flatten ++ peersOfTier v self seeds n := by simp [tiers, List.range_succ]
      _ ~ ((candidates v self seeds).filter (tier self · < n)).map (·.target) ++ peersOfTier v self seeds n :=
        ih.append_right _
      _ = ((candidates v self seeds).filter (tier self · < n) ++ (candidates v self seeds).filter (tier self · = n)).map
            (·.target) := List.map_append.symm
      _ ~ ((candidates v self seeds).filter (tier self · < n + 1)).map (·.target) := by
        rw [below, last]
        exact (List.filter_append_perm ..).map _

theorem perm_tiers : (tiers v self seeds 4).flatten.Perm ((candidates v self seeds).map (·.target)) := by
  have all : (candidates v self seeds).filter (tier self · < 4) = candidates v self seeds :=
    List.filter_eq_self.mpr fun c _ => decide_eq_true tier_lt_four
  exact all ▸ perm_flatten_tiers 4

theorem not_nearerAt (hc : c ∈ candidates v self seeds) (hd : d ∈ candidates v self seeds)
    (le : tier self c ≤ tier self d) : ¬NearerAt v self seeds d.target.address c.target.address := by
  rintro ⟨d', c', found, found', nearer⟩
  obtain rfl := Option.some_inj.mp (found.symm.trans (mem_candidates_iff.mp hd).2)
  obtain rfl := Option.some_inj.mp (found'.symm.trans (mem_candidates_iff.mp hc).2)
  exact Nat.not_lt.mpr le (tier_lt_iff.mpr nearer)

theorem not_nearerAt_of_tiers {i j : ℕ} (le : i ≤ j) {t u : Target} (ht : t ∈ peersOfTier v self seeds i)
    (hu : u ∈ peersOfTier v self seeds j) : ¬NearerAt v self seeds u.address t.address := by
  obtain ⟨c, hc, rfl, rfl⟩ := mem_peersOfTier_iff.mp ht
  obtain ⟨d, hd, rfl, rfl⟩ := mem_peersOfTier_iff.mp hu
  exact not_nearerAt hc hd le

-- The first of all candidates, when those are in an order that respects how near they are.
theorem fair_take (perm : ranked.Perm ((candidates v self seeds).map (·.target)))
    (ordered : ranked.Pairwise fun t u => ¬NearerAt v self seeds u.address t.address) :
    s.Fair v self seeds (ranked.take s.maxTargets) := by
  have candidate {t : Target} (h : t ∈ ranked) : ∃ c ∈ candidates v self seeds, c.target = t :=
    List.mem_map.mp (perm.mem_iff.mp h)
  have nodup : (ranked.map (·.address)).Nodup := by
    have := (perm.map (·.address)).nodup_iff
    rw [List.map_map] at this
    exact this.mpr nodup_candidates
  constructor
  case distinct => exact nodup.sublist ((List.take_sublist ..).map _)
  case known =>
    intro t ht
    obtain ⟨c, hc, rfl⟩ := candidate (List.mem_of_mem_take ht)
    exact mem_peers_iff_candidate.mpr ⟨c, hc, rfl⟩
  case named =>
    intro t ht
    obtain ⟨c, hc, rfl⟩ := candidate (List.mem_of_mem_take ht)
    exact nodeId_of_mem hc
  case length => rw [List.length_take, perm.length_eq, List.length_map, card_peers]
  case nearest => exact ordered.sublist (List.take_sublist ..)
  case left =>
    intro a ha without t ht
    obtain ⟨c, hc, rfl⟩ := mem_peers_iff_candidate.mp ha
    have there : c.target ∈ ranked := perm.mem_iff.mpr (List.mem_map_of_mem hc)
    rw [← List.take_append_drop s.maxTargets ranked] at there ordered
    have behind : c.target ∈ ranked.drop s.maxTargets :=
      (List.mem_append.mp there).resolve_left fun h => without _ h rfl
    exact (List.pairwise_append.mp ordered).2.2 t ht _ behind

theorem select_eq : (s.select v self seeds words).1 =
    if maxRoom < s.maxTargets then none else some (fill s.maxTargets (tiers v self seeds 4) [] words).1 := by
  rw [select]
  split <;> rfl

theorem select_fair : ((s.select v self seeds words).1 = none ↔ maxRoom < s.maxTargets) ∧
    ∀ targets, (s.select v self seeds words).1 = some targets → s.Fair v self seeds targets := by
  rw [select_eq]
  split
  case isTrue full => simp [full]
  case isFalse room =>
    refine ⟨by simp [room], fun targets selected => ?_⟩
    obtain ⟨ranked, perm, ordered, e⟩ : ∃ ranked : List Target, ranked.Perm (tiers v self seeds 4).flatten ∧
        ranked.Pairwise (fun t u => ¬NearerAt v self seeds u.address t.address) ∧
        (fill s.maxTargets (tiers v self seeds 4) [] words).1 = ([] ++ ranked).take s.maxTargets := by
      refine exists_ranked ?across ?within
      case across =>
        refine List.pairwise_map.mpr (List.pairwise_lt_range.imp fun lt t ht u hu => ?_)
        exact not_nearerAt_of_tiers lt.le ht hu
      case within =>
        intro l hl t ht u hu
        obtain ⟨i, _, rfl⟩ := List.mem_map.mp hl
        exact not_nearerAt_of_tiers le_rfl ht hu
    rw [← Option.some_inj.mp selected, e]
    exact fair_take (perm.trans perm_tiers) ordered

-- Two members are at one address and a seed stands twice, one seed is a member and one is the node itself.
theorem select_fair_of_three :
    let member (id address region dc : String) : Member := { Member.starting id "c" address 7 with
      status := .up, labels := (Dict.put ∅ "region" region).put "datacenter" dc }
    let a := member "a" "h:1" "eu" "eu-1"
    let v := (((((View.new "v" 7 0).add a).add (member "b" "h:2" "us" "us-1")).add (member "c" "h:2" "eu" "eu-1")).add
      (member "d" "h:3" "eu" "eu-2")).add { member "e" "h:4" "eu" "eu-1" with status := .down }
    let seeds : List Seed := [⟨"h:1", none⟩, ⟨"h:3", none⟩, ⟨"h:5", some "eu-1"⟩, ⟨"h:5", none⟩]
    let s : Selector := .new 2 0
    (s.select v a seeds [7, 9]).1 = some [⟨"h:3", some "d"⟩, ⟨"h:5", none⟩] ∧
      (peers v a seeds).card = 3 ∧ s.Fair v a seeds [⟨"h:3", some "d"⟩, ⟨"h:5", none⟩] := by
  intro member a v seeds s
  have selected : (s.select v a seeds [7, 9]).1 = some [⟨"h:3", some "d"⟩, ⟨"h:5", none⟩] := by decide +kernel
  exact ⟨selected, by decide +kernel, select_fair.2 _ selected⟩

-- Without any bound to speak of nobody is chosen, though there are two to choose from.
theorem select_overfull :
    let member (id address : String) : Member := { Member.starting id "c" address 0 with status := .up }
    let v := ((View.new "v" 0 0).add (member "a" "a:1")).add (member "b" "b:1")
    let seeds : List Seed := [⟨"s:1", none⟩]
    (peers v (member "a" "a:1") seeds).card = 2 ∧
      ((Selector.new 18446744073709551615 0).select v (member "a" "a:1") seeds [1, 2, 3]).1 = none := by
  decide +kernel

end Selector

end GossipCluster
