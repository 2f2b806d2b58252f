import GossipCluster.Event.Basic
import GossipCluster.Proofs.View.Merge

namespace GossipCluster

namespace View

-- The members of the second view that the first one does not know.
def newcomers (v w : View) : List Member := w.members.rows.filter (! v.contains ·.id)

-- Both views know the same members, with the same status and in the same generation.
structure Alike (v w : View) : Prop where
  ids  : ∀ id, v.contains id ↔ w.contains id
  same : ∀ id m n, v.member? id = some m → w.member? id = some n → m.status = n.status ∧ m.generation = n.generation

variable {v w : View} {m : Member}

theorem mem_newcomers_iff : m ∈ newcomers v w ↔ m ∈ w.members.rows ∧ ¬v.contains m.id := by
  simp [newcomers]

theorem pairwise_newcomers : (newcomers v w).Pairwise (·.id < ·.id) := w.members.sorted.filter _

theorem newcomers_eq_nil_iff : newcomers v w = [] ↔ ∀ id, w.contains id → v.contains id := by
  rw [List.eq_nil_iff_forall_not_mem]
  constructor
  case mp =>
    intro nobody id known
    obtain ⟨m, found⟩ := contains_iff.mp known
    obtain ⟨hm, rfl⟩ := member?_eq_some_iff.mp found
    exact not_not.mp fun unknown => nobody m (mem_newcomers_iff.mpr ⟨hm, unknown⟩)
  case mpr =>
    intro known m hm
    have ⟨hm, unknown⟩ := mem_newcomers_iff.mp hm
    exact unknown (known m.id (contains_iff.mpr ⟨m, Table.find?_key_of_mem hm⟩))

end View

namespace Event

open View

-- Who came and who went, each once and in the order of the ids.
structure Difference (before after : View) (added removed : List Member) : Prop where
  came    : ∀ m, m ∈ added ↔ m ∈ after.members.rows ∧ ¬before.contains m.id
  went    : ∀ m, m ∈ removed ↔ m ∈ before.members.rows ∧ ¬after.contains m.id
  ordered : added.Pairwise (·.id < ·.id) ∧ removed.Pairwise (·.id < ·.id)

variable {before after : View}

def differs (before after : View) : Bool := after.members.rows.any fun m =>
  (before.member? m.id).any fun old => old.status ≠ m.status || old.generation ≠ m.generation

theorem membersChange?_eq : membersChange? before after =
    if (newcomers before after).isEmpty && (newcomers after before).isEmpty && !differs before after then none
    else some (.membersChanged after.members.rows (newcomers before after) (newcomers after before)) := rfl

theorem differs_eq_false_iff : differs before after = false ↔ ∀ id m n, before.member? id = some m →
    after.member? id = some n → m.status = n.status ∧ m.generation = n.generation := by
  constructor
  case mp =>
    intro quiet id m n hm hn
    obtain ⟨there, rfl⟩ := member?_eq_some_iff.mp hn
    have := List.any_eq_false.mp quiet n there
    rw [hm] at this
    simpa using this
  case mpr =>
    intro same
    refine List.any_eq_false.mpr fun n hn => ?_
    cases found : before.member? n.id with
    | none => exact Bool.false_ne_true
    | some m =>
      have ⟨status, generation⟩ := same n.id m n found (Table.find?_key_of_mem hn)
      simp [status, generation]

theorem alike_iff : before.Alike after ↔ newcomers before after = [] ∧ newcomers after before = [] ∧
    differs before after = false := by
  rw [newcomers_eq_nil_iff, newcomers_eq_nil_iff, differs_eq_false_iff]
  constructor
  case mp => exact fun h => ⟨fun id => (h.ids id).mpr, fun id => (h.ids id).mp, h.same⟩
  case mpr => exact fun ⟨left, right, same⟩ => ⟨fun id => ⟨right id, left id⟩, same⟩

theorem membersChange?_exact (before after : View) : ∃ added removed, Difference before after added removed ∧
    (before.Alike after → membersChange? before after = none) ∧
    (¬before.Alike after →
      membersChange? before after = some (.membersChanged after.members.rows added removed)) := by
  refine ⟨newcomers before after, newcomers after before, ?_, fun alike => ?_, fun changed => ?_⟩
  · exact ⟨fun _ => mem_newcomers_iff, fun _ => mem_newcomers_iff, pairwise_newcomers, pairwise_newcomers⟩
  · obtain ⟨left, right, same⟩ := alike_iff.mp alike
    rw [membersChange?_eq, left, right, same]
    rfl
  · rw [membersChange?_eq]
    refine if_neg fun unchanged => changed (alike_iff.mpr ?_)
    simpa [and_assoc] using unchanged

-- One member stays and is suspected now, one went and one came.
theorem membersChange?_exact_of_three :
    let member (id : String) (status : Status) : Member := { Member.starting id "c" id 0 with status := status }
    let before := ((View.new "v" 0 0).add (member "a" .up)).add (member "b" .up)
    let after := ((View.new "v" 0 0).add (member "a" .suspect)).add (member "c" .up)
    let event : Event := .membersChanged [member "a" .suspect, member "c" .up] [member "c" .up] [member "b" .up]
    before.Alike before ∧ ¬before.Alike after ∧ membersChange? before before = none ∧
      membersChange? before after = some event ∧ Difference before after [member "c" .up] [member "b" .up] := by
  intro member before after event
  have alike : before.Alike before := by
    refine ⟨fun _ => Iff.rfl, fun _ _ _ hm hn => ?_⟩
    cases hm.symm.trans hn
    exact ⟨rfl, rfl⟩
  have changed : ¬before.Alike after := fun h => absurd ((h.ids "b").mp (by decide +kernel)) (by decide +kernel)
  have value : membersChange? before after = some event := by decide +kernel
  obtain ⟨_, _, _, unsaid, _⟩ := membersChange?_exact before before
  obtain ⟨added, removed, difference, _, told⟩ := membersChange?_exact before after
  obtain ⟨_, rfl, rfl⟩ := membersChanged.inj (Option.some_inj.mp ((told changed).symm.trans value))
  exact ⟨alike, changed, unsaid alike, value, difference⟩

-- A member has another state, which it says to be newer than what was known; nobody is told.
theorem membersChange?_unsaid :
    let known : Member := { Member.starting "a" "c" "a:1" 0 with status := .up }
    let before := (View.new "v" 0 0).add known
    let after := before.add { known with clock := 2, timestamp := 5, state := Dict.put ∅ "role" "db" }
    (∀ id, before.contains id ↔ after.contains id) ∧ before.member? "a" ≠ after.member? "a" ∧
      membersChange? before after = none := by
  intro known before after
  have ids : before.memberIds = after.memberIds := by decide +kernel
  exact ⟨fun id => by rw [mem_memberIds_iff, mem_memberIds_iff, ids], by decide +kernel, by decide +kernel⟩

end Event

end GossipCluster
