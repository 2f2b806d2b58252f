namespace GossipCluster

-- Texts are ordered by code point, which is also the order of their UTF-8 bytes.
@[ext]
structure Table {α : Type} (key : α → String) where
  rows   : List α
  sorted : rows.Pairwise (key · < key ·)

namespace Table

variable {α : Type} {key : α → String}

instance [DecidableEq α] : DecidableEq (Table key) := fun s t =>
  if h : s.rows = t.rows then isTrue (Table.ext h) else isFalse (h ∘ congrArg rows)

instance [Repr α] : Repr (Table key) := ⟨fun t => reprPrec t.rows⟩

def empty : Table key := ⟨[], .nil⟩

instance : EmptyCollection (Table key) := ⟨empty⟩

instance : Inhabited (Table key) := ⟨empty⟩

def size (t : Table key) : Nat := t.rows.length

def isEmpty (t : Table key) : Bool := t.rows.isEmpty

def keys (t : Table key) : List String := t.rows.map key

def find? (t : Table key) (k : String) : Option α := t.rows.find? (key · == k)

def contains (t : Table key) (k : String) : Bool := t.rows.any (key · == k)

section Rows

variable (key)

def insertRow (a : α) : List α → List α
  | [] => [a]
  | b :: r =>
    if key a < key b then a :: b :: r
    else if key a = key b then a :: r
    else b :: insertRow a r

-- A row survives unless the next one has its key.
def lastOfEach (l : List α) : List α :=
  l.foldr (fun a r => if r.head?.any (key · == key a) then r else a :: r) []

def mergeRows (both : α → α → α) : List α → List α → List α
  | [], bs => bs
  | as, [] => as
  | a :: as, b :: bs =>
    if key a < key b then a :: mergeRows both as (b :: bs)
    else if key b < key a then b :: mergeRows both (a :: as) bs
    else both a b :: mergeRows both as bs
termination_by as bs => as.length + bs.length

end Rows

theorem mem_insertRow {a c : α} {l : List α} (h : c ∈ insertRow key a l) : c = a ∨ c ∈ l := by
  induction l with
  | nil => simp_all [insertRow]
  | cons b r ih =>
    rw [insertRow] at h
    grind

theorem sorted_insertRow (a : α) {l : List α} (h : l.Pairwise (key · < key ·)) :
    (insertRow key a l).Pairwise (key · < key ·) := by
  induction l with
  | nil => simp [insertRow]
  | cons b r ih =>
    have ⟨hb, hr⟩ := List.pairwise_cons.mp h
    rw [insertRow]
    split
    case isTrue lt =>
      exact .cons (fun c hc => (List.mem_cons.mp hc).elim (· ▸ lt) (String.lt_trans lt <| hb c ·)) h
    case isFalse nlt =>
      split
      case isTrue eq => exact .cons (fun c hc => eq ▸ hb c hc) hr
      case isFalse ne =>
        refine .cons (fun c hc => ?_) (ih hr)
        cases mem_insertRow hc
        case inl e => subst e; grind
        case inr m => exact hb c m

theorem mem_lastOfEach {a : α} {l : List α} (h : a ∈ lastOfEach key l) : a ∈ l := by
  induction l with
  | nil => simp [lastOfEach] at h
  | cons b r ih =>
    rw [lastOfEach, List.foldr_cons, ← lastOfEach] at h
    split at h <;> grind

theorem head?_lastOfEach {a b : α} {r : List α} (h : (b :: r).Pairwise (key · ≤ key ·))
    (ha : a ∈ lastOfEach key r) : key b ≤ key a :=
  (List.pairwise_cons.mp h).1 a (mem_lastOfEach ha)

theorem sorted_lastOfEach {l : List α} (h : l.Pairwise (key · ≤ key ·)) :
    (lastOfEach key l).Pairwise (key · < key ·) := by
  induction l with
  | nil => exact .nil
  | cons b r ih =>
    have hr := ih (List.pairwise_cons.mp h).2
    rw [lastOfEach, List.foldr_cons, ← lastOfEach]
    split
    case isTrue => exact hr
    case isFalse ne =>
      refine .cons (fun a ha => ?_) hr
      have le := head?_lastOfEach h ha
      cases e : lastOfEach key r with
      | nil => simp [e] at ha
      | cons c q =>
        rw [e] at ne ha hr
        have hc := head?_lastOfEach (a := c) h (by simp [e])
        have : key b ≠ key c := fun q => ne (by simp [q])
        have : key b < key c := by grind
        cases List.mem_cons.mp ha
        case inl e => exact e ▸ this
        case inr m => exact String.lt_trans this <| (List.pairwise_cons.mp hr).1 a m

theorem mem_mergeRows {both : α → α → α} {c : α} {as bs : List α}
    (h : c ∈ mergeRows key both as bs) :
    c ∈ as ∨ c ∈ bs ∨ ∃ a ∈ as, ∃ b ∈ bs, key a = key b ∧ c = both a b := by
  fun_induction mergeRows key both as bs <;> grind

-- A merge keeps the order when a joined row keeps the key of the rows it was joined from.
theorem sorted_mergeRows {both : α → α → α} (hf : ∀ a b, key a = key b → key (both a b) = key a)
    {as bs : List α} (ha : as.Pairwise (key · < key ·)) (hb : bs.Pairwise (key · < key ·)) :
    (mergeRows key both as bs).Pairwise (key · < key ·) := by
  fun_induction mergeRows key both as bs with
  | case1 => exact hb
  | case2 => exact ha
  | case3 a as b bs lt ih =>
    have ⟨ha₁, ha₂⟩ := List.pairwise_cons.mp ha
    have ⟨hb₁, _⟩ := List.pairwise_cons.mp hb
    refine .cons (fun c hc => ?_) (ih ha₂ hb)
    rcases mem_mergeRows hc with m | m | ⟨x, hx, y, hy, e, rfl⟩
    · exact ha₁ c m
    · exact (List.mem_cons.mp m).elim (· ▸ lt) (String.lt_trans lt <| hb₁ c ·)
    · exact hf x y e ▸ ha₁ x hx
  | case4 a as b bs nlt lt ih =>
    have ⟨ha₁, _⟩ := List.pairwise_cons.mp ha
    have ⟨hb₁, hb₂⟩ := List.pairwise_cons.mp hb
    refine .cons (fun c hc => ?_) (ih ha hb₂)
    rcases mem_mergeRows hc with m | m | ⟨x, hx, y, hy, e, rfl⟩
    · exact (List.mem_cons.mp m).elim (· ▸ lt) (String.lt_trans lt <| ha₁ c ·)
    · exact hb₁ c m
    · exact hf x y e ▸ e ▸ hb₁ y hy
  | case5 a as b bs nlt ngt ih =>
    have ⟨ha₁, ha₂⟩ := List.pairwise_cons.mp ha
    have ⟨hb₁, hb₂⟩ := List.pairwise_cons.mp hb
    have e : key a = key b := by grind
    refine .cons (fun c hc => ?_) (ih ha₂ hb₂)
    rw [hf a b e]
    rcases mem_mergeRows hc with m | m | ⟨x, hx, y, hy, e, rfl⟩
    · exact ha₁ c m
    · exact e ▸ hb₁ c m
    · exact hf x y e ▸ ha₁ x hx

def insert (t : Table key) (a : α) : Table key :=
  ⟨insertRow key a t.rows, sorted_insertRow a t.sorted⟩

-- Of several rows with one key the last is kept.
def ofList (l : List α) : Table key where
  rows   := lastOfEach key (l.mergeSort (key · ≤ key ·))
  sorted := by
    refine sorted_lastOfEach <| (List.pairwise_mergeSort ?_ ?_ l).imp (by simp)
    · intro a b c ab bc
      exact decide_eq_true <| String.le_trans (of_decide_eq_true ab) (of_decide_eq_true bc)
    · intro a b
      simpa using String.le_total (key a) (key b)

def filter (t : Table key) (p : α → Bool) : Table key :=
  ⟨t.rows.filter p, t.sorted.filter p⟩

def take (t : Table key) (n : Nat) : Table key :=
  ⟨t.rows.take n, t.sorted.sublist <| t.rows.take_sublist n⟩

def erase (t : Table key) (k : String) : Table key :=
  t.filter (key · != k)

def map (t : Table key) (f : α → α) (hf : ∀ a, key (f a) = key a) : Table key :=
  ⟨t.rows.map f, List.pairwise_map.mpr <| t.sorted.imp (fun h => by simpa [hf] using h)⟩

def modify (t : Table key) (k : String) (f : α → α) (hf : ∀ a, key (f a) = key a) : Table key :=
  t.map (fun a => if key a = k then f a else a) (fun a => by split <;> simp [hf])

def merge (s t : Table key) (both : α → α → α) (hf : ∀ a b, key a = key b → key (both a b) = key a) :
    Table key :=
  ⟨mergeRows key both s.rows t.rows, sorted_mergeRows hf s.sorted t.sorted⟩

end Table

-- A dictionary is a table of entries ordered by their first component.
abbrev Dict (β : Type) := Table (α := String × β) Prod.fst

namespace Dict

variable {β : Type}

def get? (d : Dict β) (k : String) : Option β := (d.find? k).map Prod.snd

def put (d : Dict β) (k : String) (v : β) : Dict β := d.insert (k, v)

def values (d : Dict β) : List β := d.rows.map Prod.snd

end Dict

end GossipCluster
