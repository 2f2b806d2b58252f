import GossipCluster.Seeds
import GossipCluster.Proofs.Gossip.Selection
import GossipCluster.Proofs.Table.Lookup

namespace GossipCluster.Seeds

open scoped List

variable {s : Seeds} {seed : Seed} {dc a : String} {seeds : List String} {datacenterSeeds : Dict (List String)}
  {resolved : List Seed} {words : List UInt64}

-- All that is known of seeds, in the order in which it is looked at.
def mentions (s : Seeds) : List Seed := s.configured ++ s.resolved

-- Where an address stands first, it is given this datacenter.
def FirstUnder (s : Seeds) (dc address : String) : Prop :=
  (s.mentions.find? (·.address == address)).bind (·.datacenter) = some dc

instance : Decidable (s.FirstUnder dc a) := inferInstanceAs (Decidable (_ = _))

-- Somewhere the address is given this datacenter.
def Under (datacenterSeeds : Dict (List String)) (resolved : List Seed) (dc address : String) : Prop :=
  (∃ addresses, datacenterSeeds.get? dc = some addresses ∧ address ∈ addresses) ∨ ⟨address, some dc⟩ ∈ resolved

def Known (seeds : List String) (datacenterSeeds : Dict (List String)) (resolved : List Seed) (address : String) :
    Prop :=
  address ∈ seeds ∨ (∃ dc addresses, datacenterSeeds.get? dc = some addresses ∧ address ∈ addresses) ∨
    ∃ seed ∈ resolved, seed.address = address

theorem all_eq : s.all = s.mentions.foldl (addFirst (·.address)) [] := rfl

theorem mem_all_iff : seed ∈ s.all ↔ s.mentions.find? (·.address == seed.address) = some seed := by
  rw [all_eq, mem_foldl_addFirst_iff]
  simp

theorem nodup_addresses : s.addresses.Nodup := List.pairwise_map.mpr <| all_eq ▸ pairwise_foldl_addFirst .nil

theorem mem_addresses_iff : a ∈ s.addresses ↔ ∃ seed ∈ s.mentions, seed.address = a := by
  simp only [addresses, List.mem_map, mem_all_iff]
  constructor
  case mp =>
    rintro ⟨seed, first, rfl⟩
    exact ⟨seed, List.mem_of_find?_eq_some first, rfl⟩
  case mpr =>
    rintro ⟨seed, mentioned, rfl⟩
    obtain ⟨first, found⟩ : ∃ first, s.mentions.find? (·.address == seed.address) = some first :=
      Option.isSome_iff_exists.mp <| List.find?_isSome.mpr ⟨seed, mentioned, by simp⟩
    have same : first.address = seed.address := by simpa using List.find?_some found
    exact ⟨first, same ▸ found, same⟩

theorem firstUnder_iff_of_mem_all (h : seed ∈ s.all) : s.FirstUnder dc seed.address ↔ seed.datacenter = some dc := by
  rw [FirstUnder, mem_all_iff.mp h, Option.bind_some]

-- Chance decides on the order within the two groups alone.
theorem exists_groups (s : Seeds) (dc : String) (words : List UInt64) : ∃ near far : List Seed,
    near ~ s.all.filter (·.datacenter == some dc) ∧ far ~ s.all.filter (fun seed => !seed.datacenter == some dc) ∧
      (s.forJoin dc words).1 = (near ++ far).map (·.address) := by
  have groups : s.split dc =
      (s.all.filter (·.datacenter == some dc), s.all.filter fun seed => !seed.datacenter == some dc) :=
    List.partition_eq_filter_filter
  have drawn : (s.forJoin dc words).1 = ((Random.shuffle (s.split dc).1 words).1 ++
    (Random.shuffle (s.split dc).2 (Random.shuffle (s.split dc).1 words).2).1).map (·.address) := rfl
  rw [drawn, groups]
  exact ⟨_, _, Random.perm_shuffle, Random.perm_shuffle, rfl⟩

theorem perm_forJoin : (s.forJoin dc words).1 ~ s.addresses := by
  obtain ⟨near, far, permNear, permFar, order⟩ := exists_groups s dc words
  rw [order]
  exact ((permNear.append permFar).trans (List.filter_append_perm ..)).map _

theorem pairwise_forJoin : (s.forJoin dc words).1.Pairwise fun a b => s.FirstUnder dc b → s.FirstUnder dc a := by
  obtain ⟨near, far, permNear, permFar, order⟩ := exists_groups s dc words
  have local_ : ∀ seed ∈ near, s.FirstUnder dc seed.address := by
    intro seed h
    have ⟨known, here⟩ := List.mem_filter.mp (permNear.mem_iff.mp h)
    exact (firstUnder_iff_of_mem_all known).mpr (beq_iff_eq.mp here)
  have remote : ∀ seed ∈ far, ¬s.FirstUnder dc seed.address := by
    intro seed h
    have ⟨known, there⟩ := List.mem_filter.mp (permFar.mem_iff.mp h)
    rw [firstUnder_iff_of_mem_all known]
    simpa using there
  rw [order, List.pairwise_map]
  refine List.pairwise_append.mpr ⟨?_, ?_, fun seed h _ _ _ => local_ seed h⟩
  · exact List.pairwise_of_forall_mem_list fun seed h _ _ _ => local_ seed h
  · exact List.pairwise_of_forall_mem_list fun _ _ seed h here => absurd here (remote seed h)

theorem mem_mentions_iff : seed ∈ ((ofLists seeds datacenterSeeds).refresh (some resolved)).mentions ↔
    (seed.datacenter = none ∧ seed.address ∈ seeds) ∨ (∃ dc addresses, datacenterSeeds.get? dc = some addresses ∧
      seed.address ∈ addresses ∧ seed.datacenter = some dc) ∨ seed ∈ resolved := by
  obtain ⟨address, datacenter⟩ := seed
  simp only [mentions, refresh, ofLists, Option.getD_some, List.mem_append, List.mem_map, List.mem_flatMap,
    Dict.get?_eq_some_iff, Seed.mk.injEq, Prod.exists, or_assoc]
  refine or_congr ?flat (or_congr_left ?under)
  case flat => grind
  case under => grind

theorem known_iff : Known seeds datacenterSeeds resolved a ↔
    ∃ seed ∈ ((ofLists seeds datacenterSeeds).refresh (some resolved)).mentions, seed.address = a := by
  simp only [Known, mem_mentions_iff]
  constructor
  case mp =>
    rintro (flat | ⟨dc, addresses, found, listed⟩ | ⟨seed, mentioned, rfl⟩)
    · exact ⟨⟨a, none⟩, .inl ⟨rfl, flat⟩, rfl⟩
    · exact ⟨⟨a, some dc⟩, .inr (.inl ⟨dc, addresses, found, listed, rfl⟩), rfl⟩
    · exact ⟨seed, .inr (.inr mentioned), rfl⟩
  case mpr =>
    rintro ⟨seed, ⟨_, flat⟩ | ⟨dc, addresses, found, listed, _⟩ | mentioned, rfl⟩
    · exact .inl flat
    · exact .inr (.inl ⟨dc, addresses, found, listed⟩)
    · exact .inr (.inr ⟨seed, mentioned, rfl⟩)

theorem under_of_firstUnder (h : ((ofLists seeds datacenterSeeds).refresh (some resolved)).FirstUnder dc a) :
    Under datacenterSeeds resolved dc a := by
  obtain ⟨⟨address, _⟩, first, rfl⟩ := Option.bind_eq_some_iff.mp h
  obtain rfl : address = a := by simpa using List.find?_some first
  rcases mem_mentions_iff.mp (List.mem_of_find?_eq_some first) with
    ⟨nowhere, _⟩ | ⟨_, addresses, found, listed, e⟩ | mentioned
  · exact nomatch nowhere
  · cases e
    exact .inl ⟨addresses, found, listed⟩
  · exact .inr mentioned

theorem forJoin_ordered (seeds : List String) (datacenterSeeds : Dict (List String)) (resolved : List Seed)
    (dc : String) (words : List UInt64) :
    let s := (ofLists seeds datacenterSeeds).refresh (some resolved)
    let order := (s.forJoin dc words).1
    order.Nodup ∧ (∀ a, a ∈ order ↔ Known seeds datacenterSeeds resolved a) ∧
      order.Pairwise (fun a b => s.FirstUnder dc b → s.FirstUnder dc a) ∧
      ((∀ a, Under datacenterSeeds resolved dc a → s.FirstUnder dc a) →
        order.Pairwise fun a b => Under datacenterSeeds resolved dc b → Under datacenterSeeds resolved dc a) := by
  intro s order
  refine ⟨?_, fun a => ?_, pairwise_forJoin, fun plain => ?_⟩
  · exact perm_forJoin.nodup_iff.mpr nodup_addresses
  · rw [perm_forJoin.mem_iff, mem_addresses_iff, known_iff]
  · exact pairwise_forJoin.imp fun nearer under => under_of_firstUnder (nearer (plain _ under))

-- Of the seeds that are resolved one is known already, and it does not come first for that.
theorem forJoin_ordered_of_five :
    let datacenterSeeds : Dict (List String) := (Dict.put ∅ "dc1" ["a:1", "b:1"]).put "dc2" ["c:1"]
    let resolved : List Seed := [⟨"e:1", some "dc1"⟩, ⟨"d:1", some "dc2"⟩]
    let s := (ofLists ["d:1"] datacenterSeeds).refresh (some resolved)
    (∀ a, Under datacenterSeeds resolved "dc1" a → s.FirstUnder "dc1" a) ∧
      (s.forJoin "dc1" [7, 4000000000]).1 = ["b:1", "e:1", "a:1", "c:1", "d:1"] ∧
      ["b:1", "e:1", "a:1", "c:1", "d:1"].Pairwise
        fun a b => Under datacenterSeeds resolved "dc1" b → Under datacenterSeeds resolved "dc1" a := by
  intro datacenterSeeds resolved s
  have plain : ∀ a, Under datacenterSeeds resolved "dc1" a → s.FirstUnder "dc1" a := by
    rintro a (⟨addresses, found, listed⟩ | mentioned)
    · have : datacenterSeeds.get? "dc1" = some ["a:1", "b:1"] := by decide +kernel
      obtain rfl := Option.some_inj.mp (this.symm.trans found)
      have listed : a = "a:1" ∨ a = "b:1" := by simpa using listed
      rcases listed with rfl | rfl <;> decide +kernel
    · obtain rfl : a = "e:1" := by simpa [resolved] using mentioned
      decide +kernel
  have order : (s.forJoin "dc1" [7, 4000000000]).1 = ["b:1", "e:1", "a:1", "c:1", "d:1"] := by decide +kernel
  exact ⟨plain, order, order ▸ (forJoin_ordered ["d:1"] datacenterSeeds resolved "dc1" [7, 4000000000]).2.2.2 plain⟩

-- A seed of the own datacenter stands among those without one as well, and is asked last.
theorem forJoin_behind :
    let datacenterSeeds : Dict (List String) := Dict.put ∅ "dc1" ["b:1"]
    let s := (ofLists ["b:1", "d:1"] datacenterSeeds).refresh (some [])
    Under datacenterSeeds [] "dc1" "b:1" ∧ ¬Under datacenterSeeds [] "dc1" "d:1" ∧
      (s.forJoin "dc1" []).1 = ["d:1", "b:1"] := by
  intro datacenterSeeds s
  refine ⟨.inl ⟨["b:1"], by decide +kernel, by decide +kernel⟩, ?_, by decide +kernel⟩
  rintro (⟨addresses, found, listed⟩ | resolved)
  · have : datacenterSeeds.get? "dc1" = some ["b:1"] := by decide +kernel
    obtain rfl := Option.some_inj.mp (this.symm.trans found)
    exact absurd listed (by decide +kernel)
  · exact nomatch resolved

end GossipCluster.Seeds
