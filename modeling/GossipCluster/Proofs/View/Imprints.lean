import GossipCluster.Proofs.View.Merge
import GossipCluster.Proofs.View.Built
import GossipCluster.Node.Detection
import GossipCluster.Node.Gossip

namespace GossipCluster.View

-- What a view knows of a member that only this member may change.
def imprint? (v : View) (id : String) : Option Member := (v.member? id).map Member.imprint

def imprints (v : View) : Set Member := Member.imprints v.members.rows

variable {v w other : View} {options : MergeOptions} {now : Timestamp} {id i : String} {m p : Member}
  {status : Status} {ms : List Member} {ids : List String}

theorem mem_imprints_iff : p ∈ v.imprints ↔ v.imprint? p.id = some p := by
  simp only [imprints, Member.imprints, imprint?, Option.map_eq_some_iff, member?_eq_some_iff]
  constructor
  case mp => rintro ⟨m, h, e⟩; exact ⟨m, ⟨h, e ▸ rfl⟩, e⟩
  case mpr => rintro ⟨m, ⟨h, _⟩, e⟩; exact ⟨m, h, e⟩

theorem imprint_mem_imprints (h : v.member? id = some m) : m.imprint ∈ v.imprints :=
  Member.imprint_mem (member?_eq_some_iff.mp h).1

-- A view with fewer imprints of each member has fewer imprints.
theorem imprints_subset {s : Set Member}
    (h : ∀ id p, w.imprint? id = some p → v.imprint? id = some p ∨ p ∈ s) :
    w.imprints ⊆ v.imprints ∪ s := by
  intro p hp
  exact (h p.id p <| mem_imprints_iff.mp hp).imp_left mem_imprints_iff.mpr

theorem imprints_congr (h : ∀ id, w.imprint? id = v.imprint? id) : w.imprints = v.imprints := by
  ext p
  rw [mem_imprints_iff, mem_imprints_iff, h]

theorem stampOf_eq_map_imprint? : v.stampOf id = (v.imprint? id).map Member.stamp := by
  rw [stampOf, imprint?, Option.map_map]
  rfl

theorem member?_touch : (v.touch i now).member? id =
    (v.member? id).map fun m => if id = i then { m with lastSeen := max m.lastSeen now } else m :=
  Table.find?_modify (f := fun m : Member => { m with lastSeen := max m.lastSeen now }) fun _ => rfl

theorem imprint?_touch : (v.touch i now).imprint? id = v.imprint? id := by
  rw [imprint?, member?_touch, Option.map_map, imprint?]
  congr 1
  funext m
  simp only [Function.comp]
  split <;> rfl

theorem imprints_touch : (v.touch i now).imprints = v.imprints :=
  imprints_congr fun _ => imprint?_touch

theorem member?_setStatus : (v.setStatus i status).member? id =
    (v.member? id).map fun m => if id = i then { m with status := status } else m := by
  rw [setStatus, setStatus?]
  split
  case isTrue => exact Table.find?_modify (f := fun m : Member => { m with status := status }) fun _ => rfl
  case isFalse same =>
    cases h : v.member? id with
    | none => exact h
    | some m =>
      simp only [Option.getD_none, h, Option.map_some]
      split
      case isTrue e =>
        subst e
        rw [h] at same
        simp only [Option.any_some, decide_not, Bool.not_eq_true', decide_eq_false_iff_not,
          Decidable.not_not] at same
        rw [← same]
      case isFalse => rfl

theorem imprint?_setStatus : (v.setStatus i status).imprint? id = v.imprint? id := by
  rw [imprint?, member?_setStatus, Option.map_map, imprint?]
  congr 1
  funext m
  simp only [Function.comp]
  split <;> rfl

theorem member?_recordChange (h : v.recordChange i now = .ok w) : w.member? id = v.member? id := by
  have ⟨_, _, e⟩ := recordChange_eq h
  rw [e]
  rfl

theorem imprints_recordChange (h : v.recordChange i now = .ok w) : w.imprints = v.imprints :=
  imprints_congr fun _ => by rw [imprint?, member?_recordChange h, imprint?]

-- Only a suspicion is lifted.
theorem member?_revive (h : v.member? id = some m) (hs : m.status ≠ .suspect) {address : String} :
    ∃ seen, (Turn.revive v address now).1.member? id = some { m with lastSeen := seen } := by
  rw [Turn.revive]
  split
  case h_1 => exact ⟨m.lastSeen, h⟩
  case h_2 peer hp =>
    have held : v.member? peer.id = some peer :=
      member?_eq_some_iff.mpr ⟨List.mem_of_find?_eq_some hp, rfl⟩
    have touched : ∃ seen, (v.touch peer.id now).member? id = some { m with lastSeen := seen } := by
      rw [member?_touch, h, Option.map_some]
      split
      case isTrue => exact ⟨_, rfl⟩
      case isFalse => exact ⟨m.lastSeen, rfl⟩
    dsimp only
    split
    case isTrue suspect =>
      have ⟨seen, touched⟩ := touched
      have ne : id ≠ peer.id := fun e => hs <| by
        rw [e, held] at h
        exact Option.some_inj.mp h ▸ suspect
      exact ⟨seen, by simp [member?_setStatus, touched, ne]⟩
    case isFalse => exact touched

theorem imprint?_revive {address : String} :
    (Turn.revive v address now).1.imprint? id = v.imprint? id := by
  rw [Turn.revive]
  split
  case h_1 => rfl
  case h_2 =>
    dsimp only
    split
    case isTrue => exact imprint?_setStatus.trans imprint?_touch
    case isFalse => exact imprint?_touch

theorem imprints_revive {address : String} : (Turn.revive v address now).1.imprints = v.imprints :=
  imprints_congr fun _ => imprint?_revive

theorem member?_add : (v.add m).member? id =
    if m.id = id ∧ (v.member? id).all (m.Newer ·) then some m else v.member? id := by
  rw [add, add?]
  split
  case isTrue old =>
    refine (if_neg ?_).symm
    rintro ⟨e, newer⟩
    rw [e] at old
    cases h : v.member? id <;> simp_all
  case isFalse new =>
    refine Table.find?_insert.trans ?_
    by_cases e : m.id = id
    case neg => exact (if_neg e).trans (if_neg (e ·.1)).symm
    case pos =>
      have : (v.member? id).all (m.Newer ·) := by
        rw [e] at new
        cases h : v.member? id <;> simp_all
      exact (if_pos e).trans (if_pos ⟨e, this⟩).symm

theorem member?_remove : (v.remove i).member? id = if id = i then none else v.member? id := by
  rw [remove, remove?]
  cases h : v.member? i with
  | none => split <;> simp_all
  | some => exact Table.find?_erase

theorem imprints_add_subset : (v.add m).imprints ⊆ v.imprints ∪ {m.imprint} := by
  refine imprints_subset fun id p h => ?_
  rw [imprint?, member?_add] at h
  split at h
  case isTrue => exact .inr (Option.some_inj.mp h).symm
  case isFalse => exact .inl h

theorem imprints_remove_subset : (v.remove i).imprints ⊆ v.imprints := by
  rw [← Set.union_empty v.imprints]
  refine imprints_subset fun id p h => .inl ?_
  rw [imprint?, member?_remove] at h
  split at h
  case isTrue => contradiction
  case isFalse => exact h

theorem imprints_merge_subset :
    (v.merge other options now).1.imprints ⊆ v.imprints ∪ other.imprints := by
  refine imprints_subset fun id p h => ?_
  rw [imprint?, member?_merge] at h
  cases hv : v.member? id with
  | none =>
    rw [hv, Option.merge_none_left] at h
    have ⟨m, ho, e⟩ := Option.map_eq_some_iff.mp h
    exact .inr <| e ▸ imprint_mem_imprints ho
  | some ours =>
    cases ho : other.member? id with
    | none =>
      rw [hv, ho, Option.merge_none_right] at h
      exact .inl <| by rw [imprint?, hv]; exact h
    | some theirs =>
      rw [hv, ho] at h
      injection h with h
      rcases Member.imprint_reconcile ours theirs with e | e
      · exact .inl <| by rw [imprint?, hv, ← h, e]; rfl
      · exact .inr <| by rw [← h, e]; exact imprint_mem_imprints ho

theorem member?_suspectAll (h : id ∉ ids) : (Turn.suspectAll v ids).member? id = v.member? id := by
  induction ids generalizing v with
  | nil => rfl
  | cons i ids ih =>
    rw [List.mem_cons, not_or] at h
    calc (Turn.suspectAll (v.setStatus i .suspect) ids).member? id
      _ = (v.setStatus i .suspect).member? id := ih h.2
      _ = v.member? id := by simp [member?_setStatus, h.1]

theorem member?_removeAll :
    (Turn.removeAll v ids).member? id = if id ∈ ids then none else v.member? id := by
  induction ids generalizing v with
  | nil => rfl
  | cons i ids ih =>
    calc (Turn.removeAll (v.remove i) ids).member? id
      _ = if id ∈ ids then none else (v.remove i).member? id := ih
      _ = if id ∈ i :: ids then none else v.member? id := by
        rw [member?_remove]
        grind

theorem without_eq : Turn.without v ms = Turn.removeAll v (ms.map Member.id) := List.foldl_map.symm

theorem imprints_suspectAll : (Turn.suspectAll v ids).imprints = v.imprints := by
  induction ids generalizing v with
  | nil => rfl
  | cons i ids ih => exact ih.trans <| imprints_congr fun _ => imprint?_setStatus

theorem imprints_removeAll_subset : (Turn.removeAll v ids).imprints ⊆ v.imprints := by
  induction ids generalizing v with
  | nil => exact subset_rfl
  | cons i ids ih => exact ih.trans imprints_remove_subset

theorem stampOf_congr (h : w.imprint? id = v.imprint? id) : w.stampOf id = v.stampOf id := by
  rw [stampOf_eq_map_imprint?, stampOf_eq_map_imprint?, h]

theorem stampOf_of_member?_eq (h : w.member? id = v.member? id) : w.stampOf id = v.stampOf id := by
  rw [stampOf, stampOf, h]

theorem stampOf_le_add : v.stampOf id ≤ (v.add m).stampOf id := by
  rw [stampOf, stampOf, member?_add]
  split
  case isFalse => exact le_rfl
  case isTrue newer =>
    cases h : v.member? id with
    | none => exact bot_le
    | some old =>
      have later : m.Newer old := by simpa [h] using newer.2
      have same : m.id = old.id := newer.1.trans (member?_id h).symm
      exact WithBot.coe_le_coe.mpr ((Member.newer_iff same).mp later).le

theorem stampOf_add_le : (v.add m).stampOf id ≤ max (v.stampOf id) m.stamp := by
  rw [stampOf, stampOf, member?_add]
  split
  case isTrue => exact le_max_right ..
  case isFalse => exact le_max_left ..

-- A member that is newer than what the view has of it replaces that.
theorem member?_add_of_lt (same : m.id = id) (newer : v.stampOf id < m.stamp) : (v.add m).member? id = some m := by
  refine member?_add.trans <| if_pos ⟨same, ?_⟩
  cases known : v.member? id with
  | none => rfl
  | some old =>
    rw [stampOf_of_member? known, WithBot.coe_lt_coe] at newer
    exact decide_eq_true <| (Member.newer_iff (same.trans (member?_id known).symm)).mpr newer

theorem vectorBound_add : (v.add m).vectorBound = v.vectorBound := by
  rcases @add_eq v m with e | e <;> rw [e]
  rfl

theorem vectorBound_remove : (v.remove i).vectorBound = v.vectorBound := by
  rcases @remove_eq v i with e | e <;> rw [e]
  rfl

theorem vectorBound_setStatus : (v.setStatus i status).vectorBound = v.vectorBound := by
  rcases @setStatus_eq v i status with e | e <;> rw [e]
  rfl

theorem vectorBound_recordChange (h : v.recordChange i now = .ok w) : w.vectorBound = v.vectorBound := by
  have ⟨_, _, e⟩ := recordChange_eq h
  rw [e]

theorem vectorBound_merge : (v.merge other options now).1.vectorBound = v.vectorBound := by
  rw [merge]
  split <;> rfl

theorem vectorBound_revive {address : String} :
    (Turn.revive v address now).1.vectorBound = v.vectorBound := by
  rw [Turn.revive]
  split
  case h_1 => rfl
  case h_2 =>
    dsimp only
    split
    case isTrue => exact vectorBound_setStatus
    case isFalse => rfl

theorem vectorBound_suspectAll : (Turn.suspectAll v ids).vectorBound = v.vectorBound := by
  induction ids generalizing v with
  | nil => rfl
  | cons i ids ih => exact ih.trans vectorBound_setStatus

theorem vectorBound_removeAll : (Turn.removeAll v ids).vectorBound = v.vectorBound := by
  induction ids generalizing v with
  | nil => rfl
  | cons i ids ih => exact ih.trans vectorBound_remove

end GossipCluster.View
