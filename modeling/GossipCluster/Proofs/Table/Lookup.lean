import Mathlib
import GossipCluster.Table

namespace GossipCluster.Table

variable {α : Type} {key : α → String} {s t : Table key} {a b : α} {k : String}

theorem row_unique (ha : a ∈ t.rows) (hb : b ∈ t.rows) (h : key a = key b) : a = b := by
  have hs := t.sorted
  generalize t.rows = l at ha hb hs
  induction l with
  | nil => contradiction
  | cons c r ih =>
    have ⟨hc, hr⟩ := List.pairwise_cons.mp hs
    have irrefl := String.lt_irrefl
    cases List.mem_cons.mp ha <;> cases List.mem_cons.mp hb <;> grind

theorem find?_eq_some_iff : t.find? k = some a ↔ a ∈ t.rows ∧ key a = k := by
  constructor
  case mp =>
    intro h
    exact ⟨List.mem_of_find?_eq_some h, by simpa using List.find?_some h⟩
  case mpr =>
    intro ⟨ha, hk⟩
    cases h : t.find? k with
    | none => simp_all [find?]
    | some b =>
      have hb : b ∈ t.rows := List.mem_of_find?_eq_some h
      have : key b = k := by simpa using List.find?_some h
      rw [row_unique ha hb (hk.trans this.symm)]

theorem find?_key_of_mem (h : a ∈ t.rows) : t.find? (key a) = some a :=
  find?_eq_some_iff.mpr ⟨h, rfl⟩

theorem key_of_find? (h : t.find? k = some a) : key a = k :=
  (find?_eq_some_iff.mp h).2

theorem mem_of_find? (h : t.find? k = some a) : a ∈ t.rows :=
  (find?_eq_some_iff.mp h).1

theorem mem_keys_iff : k ∈ t.keys ↔ ∃ a, t.find? k = some a := by
  simp [keys, find?_eq_some_iff]

theorem contains_iff : t.contains k ↔ ∃ a, t.find? k = some a := by
  simp [contains, find?_eq_some_iff]

theorem ext_mem (h : ∀ a, a ∈ s.rows ↔ a ∈ t.rows) : s = t := by
  have nodup (u : Table key) : u.rows.Nodup := by
    refine u.sorted.imp ?_
    intro a b lt e
    exact String.lt_irrefl _ (e ▸ lt)
  have perm : s.rows.Perm t.rows := (List.perm_ext_iff_of_nodup (nodup s) (nodup t)).mpr h
  refine Table.ext <| perm.eq_of_pairwise (fun a b _ _ ab ba => ?_) s.sorted t.sorted
  exact absurd (String.lt_trans ab ba) (String.lt_irrefl _)

theorem ext_find? (h : ∀ k, s.find? k = t.find? k) : s = t := by
  refine ext_mem fun a => ?_
  have := h (key a)
  constructor <;> intro ha
  · exact mem_of_find? <| this ▸ find?_key_of_mem ha
  · exact mem_of_find? <| this.symm ▸ find?_key_of_mem ha

theorem mem_insertRow_iff {l : List α} (h : l.Pairwise (key · < key ·)) :
    b ∈ insertRow key a l ↔ b = a ∨ b ∈ l ∧ key b ≠ key a := by
  induction l with
  | nil => simp [insertRow]
  | cons c r ih =>
    obtain ⟨hc, hr⟩ := List.pairwise_cons.mp h
    have irrefl := String.lt_irrefl
    have trans := @String.lt_trans
    rw [insertRow]
    grind

theorem mem_insert_iff : b ∈ (t.insert a).rows ↔ b = a ∨ b ∈ t.rows ∧ key b ≠ key a :=
  mem_insertRow_iff t.sorted

theorem find?_insert : (t.insert a).find? k = if key a = k then some a else t.find? k := by
  ext b
  rw [find?_eq_some_iff, mem_insert_iff]
  split
  case isTrue => grind
  case isFalse => rw [find?_eq_some_iff]; grind

theorem mem_filter_iff {p : α → Bool} : a ∈ (t.filter p).rows ↔ a ∈ t.rows ∧ p a :=
  List.mem_filter

theorem find?_filter {p : α → Bool} : (t.filter p).find? k = (t.find? k).filter p := by
  ext a
  simp only [find?_eq_some_iff, mem_filter_iff, Option.filter_eq_some_iff]
  grind

theorem find?_erase {i : String} : (t.erase i).find? k = if k = i then none else t.find? k := by
  ext a
  simp only [erase, find?_filter, Option.filter_eq_some_iff, find?_eq_some_iff]
  split
  case isTrue => grind
  case isFalse => rw [find?_eq_some_iff]; grind

theorem find?_map {f : α → α} (hf : ∀ a, key (f a) = key a) :
    (t.map f hf).find? k = (t.find? k).map f := by
  rw [find?, map, List.find?_map, find?]
  congr 2
  funext a
  simp [hf]

theorem find?_modify {i : String} {f : α → α} (hf : ∀ a, key (f a) = key a) :
    (t.modify i f hf).find? k = (t.find? k).map fun a => if k = i then f a else a := by
  rw [modify, find?_map]
  refine Option.map_congr fun a ha => ?_
  rw [key_of_find? ha]

theorem keys_modify {i : String} {f : α → α} (hf : ∀ a, key (f a) = key a) :
    (t.modify i f hf).keys = t.keys := by
  simp only [keys, modify, map, List.map_map]
  refine List.map_congr_left fun a _ => ?_
  simp only [Function.comp]
  split <;> simp [hf]

theorem find?_mergeRows {both : α → α → α} (hf : ∀ a b, key a = key b → key (both a b) = key a)
    {as bs : List α} (ha : as.Pairwise (key · < key ·)) (hb : bs.Pairwise (key · < key ·)) :
    (mergeRows key both as bs).find? (key · == k) =
      (as.find? (key · == k)).merge both (bs.find? (key · == k)) := by
  have absent {c : α} {l : List α} (hc : key c = k) (h : ∀ d ∈ l, key c < key d) :
      l.find? (key · == k) = none := by
    have irrefl := String.lt_irrefl
    simp only [List.find?_eq_none, beq_iff_eq]
    grind
  fun_induction mergeRows key both as bs with
  | case1 => simp
  | case2 => simp
  | case3 a as b bs lt ih =>
    obtain ⟨ha₁, ha₂⟩ := List.pairwise_cons.mp ha
    obtain ⟨hb₁, _⟩ := List.pairwise_cons.mp hb
    by_cases h : key a = k
    case pos =>
      have : (b :: bs).find? (key · == k) = none := absent h fun d hd =>
        (List.mem_cons.mp hd).elim (· ▸ lt) (String.lt_trans lt <| hb₁ d ·)
      simp [h, this]
    case neg => simpa [List.find?_cons, h] using ih ha₂ hb
  | case4 a as b bs nlt lt ih =>
    obtain ⟨ha₁, _⟩ := List.pairwise_cons.mp ha
    obtain ⟨hb₁, hb₂⟩ := List.pairwise_cons.mp hb
    by_cases h : key b = k
    case pos =>
      have : (a :: as).find? (key · == k) = none := absent h fun d hd =>
        (List.mem_cons.mp hd).elim (· ▸ lt) (String.lt_trans lt <| ha₁ d ·)
      simp [h, this]
    case neg => simpa [List.find?_cons, h] using ih ha hb₂
  | case5 a as b bs nlt ngt ih =>
    obtain ⟨ha₁, ha₂⟩ := List.pairwise_cons.mp ha
    obtain ⟨hb₁, hb₂⟩ := List.pairwise_cons.mp hb
    have e : key a = key b := by grind
    by_cases h : key a = k
    case pos => simp [h, hf a b e, ← e]
    case neg => simpa [List.find?_cons, h, hf a b e, ← e] using ih ha₂ hb₂

theorem find?_merge {both : α → α → α} (hf : ∀ a b, key a = key b → key (both a b) = key a) :
    (s.merge t both hf).find? k = (s.find? k).merge both (t.find? k) :=
  find?_mergeRows hf s.sorted t.sorted

theorem lastOfEach_eq_self {l : List α} (h : l.Pairwise (key · < key ·)) :
    lastOfEach key l = l := by
  induction l with
  | nil => rfl
  | cons a r ih =>
    have ⟨ha, hr⟩ := List.pairwise_cons.mp h
    have irrefl := String.lt_irrefl
    rw [lastOfEach, List.foldr_cons, ← lastOfEach, ih hr]
    cases r with
    | nil => rfl
    | cons b r => grind

theorem lastOfEach_sublist (l : List α) : (lastOfEach key l).Sublist l := by
  induction l with
  | nil => exact .slnil
  | cons a r ih =>
    rw [lastOfEach, List.foldr_cons, ← lastOfEach]
    split
    case isTrue => exact ih.cons a
    case isFalse => exact ih.cons_cons a

-- Nothing comes into a table but what is in the list.
theorem subperm_ofList (l : List α) : ((ofList l : Table key).rows).Subperm l :=
  (lastOfEach_sublist _).subperm.trans (List.mergeSort_perm ..).subperm

-- A list that is in order already is the table of its own rows.
theorem ofList_rows (t : Table key) : ofList t.rows = t := by
  have hs : t.rows.Pairwise fun a b => key a ≤ key b := t.sorted.imp String.lt_asymm
  have : t.rows.mergeSort (key · ≤ key ·) = t.rows :=
    List.mergeSort_of_pairwise <| hs.imp decide_eq_true
  refine Table.ext ?_
  calc (ofList t.rows).rows = lastOfEach key (t.rows.mergeSort (key · ≤ key ·)) := rfl
    _ = lastOfEach key t.rows := congrArg (lastOfEach key) this
    _ = t.rows := lastOfEach_eq_self t.sorted

theorem nodup_keys : t.keys.Nodup := t.sorted.map _ fun _ _ => ne_of_lt

theorem card_keys : t.keys.toFinset.card = t.size := by
  rw [List.toFinset_card_of_nodup nodup_keys]
  exact List.length_map ..

theorem toFinset_keys_insert : (t.insert a).keys.toFinset = Insert.insert (key a) t.keys.toFinset := by
  ext k
  by_cases h : key a = k <;> simp [mem_keys_iff, find?_insert, h, eq_comm (a := k)]

theorem toFinset_keys_erase : (t.erase k).keys.toFinset = t.keys.toFinset.erase k := by
  ext i
  simp only [List.mem_toFinset, Finset.mem_erase, mem_keys_iff, find?_erase]
  grind

theorem contains_iff_mem_keys : t.contains k ↔ k ∈ t.keys := contains_iff.trans mem_keys_iff.symm

theorem size_insert_le : (t.insert a).size ≤ t.size + 1 := by
  rw [← card_keys, ← card_keys, toFinset_keys_insert]
  exact Finset.card_insert_le ..

theorem size_insert_of_contains (h : t.contains (key a)) : (t.insert a).size = t.size := by
  rw [← card_keys, ← card_keys, toFinset_keys_insert,
    Finset.insert_eq_of_mem (List.mem_toFinset.mpr (contains_iff_mem_keys.mp h))]

theorem size_erase_of_contains (h : t.contains k) : (t.erase k).size + 1 = t.size := by
  rw [← card_keys, ← card_keys, toFinset_keys_erase]
  exact Finset.card_erase_add_one (List.mem_toFinset.mpr (contains_iff_mem_keys.mp h))

theorem size_filter_le {p : α → Bool} : (t.filter p).size ≤ t.size := List.length_filter_le ..

end GossipCluster.Table

namespace GossipCluster.Dict

variable {β : Type} {d d' : Dict β} {k k' : String} {v : β}

theorem get?_put : (d.put k v).get? k' = if k = k' then some v else d.get? k' := by
  rw [get?, put, Table.find?_insert]
  split <;> rfl

theorem get?_erase : get? (d.erase k) k' = if k = k' then none else d.get? k' := by
  rw [get?, Table.find?_erase]
  simp only [eq_comm (a := k')]
  split <;> rfl

theorem get?_eq_some_iff : d.get? k = some v ↔ (k, v) ∈ d.rows := by
  simp [get?, Table.find?_eq_some_iff]

theorem mem_keys_iff_get? : k ∈ d.keys ↔ ∃ v, d.get? k = some v := by
  simp [get?_eq_some_iff, Table.keys]

theorem get?_filter_key {p : String → Bool} : get? (d.filter (p ·.1)) k = if p k then d.get? k else none := by
  ext v
  rw [get?_eq_some_iff, Table.mem_filter_iff, ← get?_eq_some_iff]
  split <;> simp_all

theorem contains_eq_isSome : d.contains k = (d.get? k).isSome := by
  rw [Bool.eq_iff_iff, Table.contains_iff, get?, Option.isSome_map, Option.isSome_iff_exists]

theorem contains_of_get? (h : d.get? k = some v) : d.contains k := by
  rw [contains_eq_isSome, h]
  rfl

theorem find?_eq_map_get? : d.find? k = (d.get? k).map (k, ·) := by
  cases h : d.find? k with
  | none => simp [get?, h]
  | some row =>
    obtain rfl := Table.key_of_find? h
    simp [get?, h]

theorem ext_get? (h : ∀ k, d.get? k = d'.get? k) : d = d' :=
  Table.ext_find? fun k => by rw [find?_eq_map_get?, find?_eq_map_get?, h]

end GossipCluster.Dict
