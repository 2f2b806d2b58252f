import GossipCluster.Proofs.View.Imprints

namespace GossipCluster

-- Somebody, and where to find it.
def Member.lodging (m : Member) : String × String := (m.id, m.address)

def lodgings (ms : Set Member) : Set (String × String) := Member.lodging '' ms

-- No address is that of two. An empty one is none.
def Apart (s : Set (String × String)) : Prop := ∀ p ∈ s, ∀ q ∈ s, p.2 = q.2 → p.2 ≠ "" → p.1 = q.1

-- Of those who come somebody moves to an address that is another's.
def Intrudes (coming present : Set (String × String)) : Prop :=
  ∃ p ∈ coming, ∃ q ∈ present ∪ coming, p.2 = q.2 ∧ p.2 ≠ "" ∧ p.1 ≠ q.1

-- What is known of a member after somebody at an address has been heard.
def Member.heard (m : Member) (address : String) (now : Timestamp) : Member :=
  if m.address = address then
    { m with
      lastSeen := max m.lastSeen now
      status   := if m.status = .suspect then .up else m.status }
  else m

variable {s s' coming present : Set (String × String)}

theorem Member.lodging_eq {m n : Member} (id : m.id = n.id) (profile : m.profile = n.profile) : m.lodging = n.lodging :=
  congrArg₂ Prod.mk id (congrArg (fun p => p.2.1) profile)

theorem Apart.mono (h : Apart s) (le : s' ⊆ s) : Apart s' :=
  fun p hp q hq => h p (le hp) q (le hq)

theorem Apart.union (h : Apart present) (fits : ¬Intrudes coming present) : Apart (present ∪ coming) := by
  have settles {p q} (hp : p ∈ coming) (hq : q ∈ present ∪ coming) (same : p.2 = q.2) (ne : p.2 ≠ "") : p.1 = q.1 := by
    by_contra differ
    exact fits ⟨p, hp, q, hq, same, ne, differ⟩
  intro p hp q hq same ne
  rcases hp with old | new
  · rcases hq with old' | new'
    · exact h p old q old' same ne
    · exact (settles new' (.inl old) same.symm (same ▸ ne)).symm
  · exact settles new hq same ne

namespace View

variable {v w other : View} {now : Timestamp} {id address : String} {m : Member}

def lodgings (v : View) : Set (String × String) := GossipCluster.lodgings {m | m ∈ v.members.rows}

-- Those whom a view takes in: whom it does not know, or knows as an older incarnation only.
def Takes (v : View) (m : Member) : Prop := ∀ known ∈ v.member? m.id, m.Newer known

-- Where those are whom a view takes in from another one.
def arrivals (v other : View) : Set (String × String) :=
  GossipCluster.lodgings {m | m ∈ other.members.rows ∧ v.Takes m}

-- Where those are who stay as they are when others come. Whoever comes itself is not one of them.
def staying (v : View) (coming : Set (String × String)) : Set (String × String) :=
  {p ∈ v.lodgings | ∀ q ∈ coming, q.1 ≠ p.1}

theorem mem_lodgings (h : m ∈ v.members.rows) : m.lodging ∈ v.lodgings := ⟨m, h, rfl⟩

theorem lodgings_eq : v.lodgings = GossipCluster.lodgings v.imprints := by
  have same (m : Member) : m.imprint.lodging = m.lodging := rfl
  ext p
  constructor
  case mp =>
    rintro ⟨m, hm, rfl⟩
    exact ⟨m.imprint, Member.imprint_mem hm, same m⟩
  case mpr =>
    rintro ⟨_, ⟨m, hm, rfl⟩, rfl⟩
    exact ⟨m, hm, same m⟩

theorem lodgings_mono (h : w.imprints ⊆ v.imprints) : w.lodgings ⊆ v.lodgings := by
  rw [lodgings_eq, lodgings_eq]
  exact Set.image_mono h

theorem staying_subset {coming : Set (String × String)} : v.staying coming ⊆ v.lodgings := Set.sep_subset ..

theorem takes_iff : v.Takes m ↔ (v.member? m.id).all (m.Newer ·) := by
  cases h : v.member? m.id <;> simp [Takes, h]

theorem lodgings_add_subset : (v.add m).lodgings ⊆
    v.staying {p | p = m.lodging ∧ v.Takes m} ∪ {p | p = m.lodging ∧ v.Takes m} := by
  rintro _ ⟨x, hx, rfl⟩
  have held : (v.add m).member? x.id = some x := member?_eq_some_iff.mpr ⟨hx, rfl⟩
  rw [member?_add] at held
  split at held
  case isTrue new =>
    obtain rfl := Option.some_inj.mp held
    exact .inr ⟨rfl, takes_iff.mpr new.2⟩
  case isFalse old =>
    refine .inl ⟨mem_lodgings (member?_eq_some_iff.mp held).1, ?_⟩
    rintro _ ⟨rfl, takes⟩ (same : m.id = x.id)
    exact old ⟨same, same ▸ takes_iff.mp takes⟩

theorem lodgings_merge_subset {options : MergeOptions} :
    (v.merge other options now).1.lodgings ⊆ v.staying (v.arrivals other) ∪ v.arrivals other := by
  rintro _ ⟨m, hm, rfl⟩
  have held : (v.merge other options now).1.member? m.id = some m := member?_eq_some_iff.mpr ⟨hm, rfl⟩
  have stays (known : m.lodging ∈ v.lodgings) (h : ∀ r, other.member? m.id = some r → ¬v.Takes r) :
      m.lodging ∈ v.staying (v.arrivals other) := by
    refine ⟨known, ?_⟩
    rintro _ ⟨r, ⟨hr, takes⟩, rfl⟩ same
    exact h r (member?_eq_some_iff.mpr ⟨hr, same⟩) takes
  rw [member?_merge] at held
  cases hv : v.member? m.id with
  | none =>
    rw [hv, Option.merge_none_left] at held
    have new : v.Takes m := by simp [Takes, hv]
    exact .inr ⟨m, ⟨(member?_eq_some_iff.mp held).1, new⟩, rfl⟩
  | some ours =>
    have ⟨known, named⟩ := member?_eq_some_iff.mp hv
    cases ho : other.member? m.id with
    | none =>
      rw [hv, ho, Option.merge_none_right] at held
      obtain rfl := Option.some_inj.mp held
      exact .inl <| stays (mem_lodgings known) (by simp [ho])
    | some theirs =>
      have ⟨told, named'⟩ := member?_eq_some_iff.mp ho
      have takes_iff : v.Takes theirs ↔ theirs.Newer ours := by simp [Takes, named', hv]
      rw [hv, ho] at held
      have e : ours.reconcile theirs = m := Option.some_inj.mp held
      rcases Member.reconcile_eq_or ours theirs with ⟨profile, newer⟩ | ⟨profile, old⟩
      · rw [e] at profile
        exact .inr ⟨theirs, ⟨told, takes_iff.mpr newer⟩, Member.lodging_eq named' profile.symm⟩
      · rw [e] at profile
        have same : m.lodging = ours.lodging := Member.lodging_eq named.symm profile
        refine .inl <| stays (same ▸ mem_lodgings known) fun r hr takes => ?_
        obtain rfl := Option.some_inj.mp (ho.symm.trans hr)
        exact old (takes_iff.mp takes)

theorem of_memberAt? (h : v.memberAt? address = some m) : m ∈ v.members.rows ∧ m.address = address :=
  ⟨List.mem_of_find?_eq_some h, by simpa using List.find?_some h⟩

theorem address_ne_of_memberAt? (h : v.memberAt? address = none) (hm : m ∈ v.members.rows) : m.address ≠ address := by
  have := List.find?_eq_none.mp h m hm
  simpa using this

theorem eq_of_apart (apart : Apart v.lodgings) {a b : Member} (ha : a ∈ v.members.rows) (hb : b ∈ v.members.rows)
    (same : a.address = b.address) (ne : a.address ≠ "") : a = b :=
  Table.row_unique ha hb (apart _ (mem_lodgings ha) _ (mem_lodgings hb) same ne)

-- Then an address is as good as an id.
theorem memberAt?_eq_some_iff (apart : Apart v.lodgings) (ne : address ≠ "") :
    v.memberAt? address = some m ↔ m ∈ v.members.rows ∧ m.address = address := by
  constructor
  case mp => exact of_memberAt?
  case mpr =>
    rintro ⟨hm, rfl⟩
    cases h : v.memberAt? m.address with
    | none => exact absurd rfl (address_ne_of_memberAt? h hm)
    | some b =>
      have ⟨hb, same⟩ := of_memberAt? h
      rw [eq_of_apart apart hm hb same.symm ne]

-- Of several members at an address the first one counts for all of them.
theorem member?_revive_of_memberAt? {peer : Member} (h : v.memberAt? address = some peer) :
    (Turn.revive v address now).1.member? id = if id = peer.id then some (peer.heard address now) else v.member? id := by
  have ⟨known, there⟩ := of_memberAt? h
  have held : v.member? peer.id = some peer := member?_eq_some_iff.mpr ⟨known, rfl⟩
  simp only [Turn.revive, h]
  split
  case isTrue suspect =>
    rw [member?_setStatus, member?_touch]
    split
    case isTrue same => simp [same, held, Member.heard, there, suspect]
    case isFalse => simp
  case isFalse trusted =>
    rw [member?_touch]
    split
    case isTrue same => simp [same, held, Member.heard, there, trusted]
    case isFalse => simp

theorem member?_revive_of_apart (apart : Apart v.lodgings) (ne : address ≠ "") :
    (Turn.revive v address now).1.member? id = (v.member? id).map (·.heard address now) := by
  have elsewhere (h : ∀ m, v.member? id = some m → m.address ≠ address) :
      (v.member? id).map (·.heard address now) = v.member? id := by
    cases hm : v.member? id with
    | none => rfl
    | some m => exact congrArg some (if_neg (h m hm))
  cases h : v.memberAt? address with
  | none =>
    rw [elsewhere fun m hm => address_ne_of_memberAt? h (member?_eq_some_iff.mp hm).1]
    simp only [Turn.revive, h]
  | some peer =>
    obtain ⟨known, there⟩ := of_memberAt? h
    rw [member?_revive_of_memberAt? h]
    split
    case isTrue same =>
      have held : v.member? id = some peer := member?_eq_some_iff.mpr ⟨known, same.symm⟩
      rw [held, Option.map_some]
    case isFalse other =>
      refine (elsewhere fun m hm here => other ?_).symm
      obtain ⟨hm, named⟩ := member?_eq_some_iff.mp hm
      have same : m = peer := eq_of_apart apart hm known (here.trans there.symm) (here ▸ ne)
      exact same ▸ named.symm

end View

end GossipCluster
