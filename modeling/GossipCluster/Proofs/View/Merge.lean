import GossipCluster.Proofs.Member.Incarnation
import GossipCluster.Proofs.Table.Lookup

namespace GossipCluster.View

-- The stamp under which a view knows a member; of a member that it does not know there is none.
def stampOf (v : View) (id : String) : WithBot Stamp := (v.member? id).map Member.stamp

variable {v other : View} {options : MergeOptions} {now : Timestamp} {id : String} {m : Member}

theorem member?_id (h : v.member? id = some m) : m.id = id := Table.key_of_find? h

theorem member?_eq_some_iff : v.member? id = some m ↔ m ∈ v.members.rows ∧ m.id = id :=
  Table.find?_eq_some_iff

theorem contains_iff : v.contains id ↔ ∃ m, v.member? id = some m := Table.contains_iff

theorem mem_memberIds_iff : v.contains id ↔ id ∈ v.memberIds := Table.contains_iff_mem_keys

theorem stampOf_eq_bot_iff : v.stampOf id = ⊥ ↔ v.member? id = none := Option.map_eq_none_iff

theorem stampOf_of_member? (h : v.member? id = some m) : v.stampOf id = m.stamp := by
  rw [stampOf, h]
  rfl

theorem contains_iff_stampOf : v.contains id ↔ v.stampOf id ≠ ⊥ := by
  rw [contains_iff, Ne, stampOf_eq_bot_iff, ← Ne, Option.ne_none_iff_exists']

theorem member?_of_isEmpty (h : v.isEmpty) : v.member? id = none := by
  have : v.members.rows = [] := List.isEmpty_iff.mp h
  simp [member?, Table.find?, this]

theorem merge_of_isEmpty (h : other.isEmpty) : (v.merge other options now).1 = v := by
  rw [merge, if_pos h]

theorem id_merge : (v.merge other options now).1.id = v.id := by
  rw [merge]
  split <;> rfl

theorem member?_merge : (v.merge other options now).1.member? id =
    (v.member? id).merge Member.reconcile (other.member? id) := by
  rw [merge]
  split
  case isTrue empty => simp [member?_of_isEmpty empty]
  case isFalse => exact Table.find?_merge fun _ _ => Member.reconcile_id

theorem stampOf_merge :
    (v.merge other options now).1.stampOf id = max (v.stampOf id) (other.stampOf id) := by
  simp only [stampOf, member?_merge]
  cases hv : v.member? id with
  | none => cases other.member? id <;> exact (bot_sup_eq _).symm
  | some ours =>
    cases ho : other.member? id with
    | none => exact (sup_bot_eq _).symm
    | some theirs =>
      have same : ours.id = theirs.id := (member?_id hv).trans (member?_id ho).symm
      exact congrArg WithBot.some (Member.stamp_reconcile same)

-- Whatever is known of a member after a merge was known to one of the two before.
theorem merge_source (h : (v.merge other options now).1.member? id = some m) :
    ∃ e, (v.member? id = some e ∨ other.member? id = some e) ∧
      e.stamp = m.stamp ∧ e.profile = m.profile := by
  rw [member?_merge] at h
  cases hv : v.member? id with
  | none =>
    rw [hv, Option.merge_none_left] at h
    exact ⟨m, .inr h, rfl, rfl⟩
  | some ours =>
    cases ho : other.member? id with
    | none =>
      rw [hv, ho, Option.merge_none_right] at h
      exact ⟨m, .inl h, rfl, rfl⟩
    | some theirs =>
      rw [hv, ho] at h
      injection h with h
      have same : ours.id = theirs.id := (member?_id hv).trans (member?_id ho).symm
      have stamp := h ▸ Member.stamp_reconcile same
      rcases Member.reconcile_eq_or ours theirs with ⟨p, newer⟩ | ⟨p, older⟩
      · refine ⟨theirs, .inr rfl, ?_, h ▸ p.symm⟩
        rw [stamp, max_eq_right <| le_of_lt <| (Member.newer_iff same.symm).mp newer]
      · refine ⟨ours, .inl rfl, ?_, h ▸ p.symm⟩
        rw [stamp, max_eq_left <| (Member.not_newer_iff same.symm).mp older]

theorem adoptsTime_of_lenient (hs : options.maxClockSkew = none)
    (hc : options.concurrent ≠ .preferLocal) : v.adoptsTime other options now := by
  simp [adoptsTime, hs, hc]

theorem epoch_merge (ho : other.isEmpty = false) (ha : v.adoptsTime other options now) :
    (v.merge other options now).1.epoch = max v.epoch other.epoch := by
  simp [merge, ho, ha]

theorem timestamp_merge (ho : other.isEmpty = false) (ha : v.adoptsTime other options now) :
    (v.merge other options now).1.timestamp = max v.timestamp other.timestamp := by
  simp [merge, ho, ha]

theorem epoch_merge_of_kept (ha : v.adoptsTime other options now = false) :
    (v.merge other options now).1.epoch = v.epoch := by
  rw [merge]
  split
  case isTrue => rfl
  case isFalse => exact if_neg (by simp [ha])

theorem timestamp_merge_of_kept (ha : v.adoptsTime other options now = false) :
    (v.merge other options now).1.timestamp = v.timestamp := by
  rw [merge]
  split
  case isTrue => rfl
  case isFalse => exact if_neg (by simp [ha])

theorem protocolVersion_merge (ho : other.isEmpty = false) :
    (v.merge other options now).1.protocolVersion = max v.protocolVersion other.protocolVersion := by
  simp [merge, ho]

end GossipCluster.View
