import GossipCluster.Proofs.VersionVector.Rank
import GossipCluster.Proofs.View.Imprints

namespace GossipCluster.View

-- What a bound leaves of the vector.
def trimmed (v : View) (bound : ℕ) : VersionVector :=
  if bound = 0 then v.versions else v.versions.prune v.memberIds bound

abbrev Level := (String → WithBot Stamp) × VersionVector.Rank × ℕ × ℤ × ℕ

def level (v : View) : Level :=
  (v.stampOf, (v.trimmed v.vectorBound).rank, v.epoch.toNat, v.timestamp.toInt, v.protocolVersion.toNat)

-- The second view may differ from the first in signs of life, statuses and counts, and may be cut down to
-- its bound.
structure Akin (v w : View) : Prop where
  imprint?        : ∀ id, w.imprint? id = v.imprint? id
  vectorBound     : w.vectorBound = v.vectorBound
  versions        : w.versions = v.versions ∨ w.versions = v.trimmed v.vectorBound
  epoch           : w.epoch = v.epoch
  timestamp       : w.timestamp = v.timestamp
  protocolVersion : w.protocolVersion = v.protocolVersion

-- The other view has something to teach besides signs of life and events.
def Learns (v other : View) (options : MergeOptions) (now : Timestamp) : Prop :=
  v.learnsMember other ∨
  v.adoptsTime other options now ∧ (v.epoch < other.epoch ∨ v.timestamp < other.timestamp) ∨
  v.protocolVersion < other.protocolVersion

-- All that a view knows of members and events comes from a stock.
structure Drawn (known : Set Member) (events : Set (String × ℕ)) (v : View) : Prop where
  imprints : v.imprints ⊆ known
  entries  : ∀ e ∈ v.versions.entries, e ∈ events

variable {v w u other : View} {options : MergeOptions} {now : Timestamp} {id i address : String} {m : Member}
  {status : Status} {ids : List String} {bound : ℕ} {known : Set Member} {events : Set (String × ℕ)}

theorem mem_memberIds_iff_imprint? : id ∈ v.memberIds ↔ v.imprint? id ≠ none := by
  rw [← mem_memberIds_iff, contains_iff, imprint?, Ne, Option.map_eq_none_iff, ← Ne, Option.ne_none_iff_exists']

theorem within_trimmed : (v.trimmed bound).Within v.versions := by
  rw [trimmed]
  split
  case isTrue => exact .refl v.versions
  case isFalse => exact VersionVector.within_prune

theorem mem_entries_of_trimmed {e : String × ℕ} (h : e ∈ (v.trimmed bound).entries) : e ∈ v.versions.entries := by
  rw [trimmed] at h
  split at h
  case isTrue => exact h
  case isFalse => exact VersionVector.mem_entries_of_prune h

-- To cut off what has been cut off already changes nothing.
theorem trimmed_eq (h : ∀ id, id ∈ w.memberIds ↔ id ∈ v.memberIds)
    (hv : w.versions = v.versions ∨ w.versions = v.trimmed bound) : w.trimmed bound = v.trimmed bound := by
  by_cases zero : bound = 0
  · simp only [trimmed, zero, if_true, or_self] at *
    exact hv
  · simp only [trimmed, zero, if_false] at *
    rw [VersionVector.prune_congr h]
    rcases hv with e | e
    · rw [e]
    · rw [e, VersionVector.prune_prune]

theorem rank_trimmed_le (hi : v.memberIds ⊆ w.memberIds) (h : v.versions.Within w.versions) :
    (v.trimmed bound).rank ≤ (w.trimmed bound).rank := by
  rw [trimmed, trimmed]
  split
  case isTrue => exact VersionVector.rank_le h
  case isFalse => exact VersionVector.rank_prune_le h hi

namespace Akin

theorem refl (v : View) : Akin v v := ⟨fun _ => rfl, rfl, .inl rfl, rfl, rfl, rfl⟩

theorem mem_memberIds_iff (h : Akin v w) : id ∈ w.memberIds ↔ id ∈ v.memberIds := by
  rw [mem_memberIds_iff_imprint?, h.imprint?, mem_memberIds_iff_imprint?]

theorem trimmed_eq (h : Akin v w) : w.trimmed v.vectorBound = v.trimmed v.vectorBound :=
  View.trimmed_eq (fun _ => h.mem_memberIds_iff) h.versions

theorem trans (a : Akin v w) (b : Akin w u) : Akin v u where
  imprint? id := (b.imprint? id).trans (a.imprint? id)
  vectorBound := b.vectorBound.trans a.vectorBound
  versions := by
    rcases b.versions with e | e
    · exact e ▸ a.versions
    · exact .inr <| e.trans <| a.vectorBound ▸ a.trimmed_eq
  epoch := b.epoch.trans a.epoch
  timestamp := b.timestamp.trans a.timestamp
  protocolVersion := b.protocolVersion.trans a.protocolVersion

theorem touch : Akin v (v.touch i now) := ⟨fun _ => imprint?_touch, rfl, .inl rfl, rfl, rfl, rfl⟩

theorem setStatus : Akin v (v.setStatus i status) := by
  have same id : (v.setStatus i status).imprint? id = v.imprint? id := imprint?_setStatus
  rcases @setStatus_eq v i status with e | e
  · rw [e]
    exact refl v
  · refine ⟨same, ?_, ?_, ?_, ?_, ?_⟩ <;> rw [e]
    case refine_2 =>
      refine .inr <| View.trimmed_eq (fun id => ?_) (.inl rfl)
      rw [memberIds, Table.keys_modify]
      rfl
    all_goals rfl

theorem revive : Akin v (Turn.revive v address now).1 := by
  rw [Turn.revive]
  split
  case h_1 => exact refl v
  case h_2 =>
    dsimp only
    split
    case isTrue => exact touch.trans setStatus
    case isFalse => exact touch

theorem level_eq (h : Akin v w) : w.level = v.level := by
  have stampOf : w.stampOf = v.stampOf := by
    funext id
    rw [stampOf_eq_map_imprint?, h.imprint?, stampOf_eq_map_imprint?]
  rw [level, stampOf, h.vectorBound, h.trimmed_eq, h.epoch, h.timestamp, h.protocolVersion, level]

theorem drawn (h : Akin v w) (hv : v.Drawn known events) : w.Drawn known events where
  imprints := (imprints_congr h.imprint?).trans_subset hv.imprints
  entries e he := by
    rcases h.versions with eq | eq
    · exact hv.entries e (eq ▸ he)
    · exact hv.entries e (mem_entries_of_trimmed (eq ▸ he))

end Akin

theorem mem_memberIds_merge :
    id ∈ (v.merge other options now).1.memberIds ↔ id ∈ v.memberIds ∨ id ∈ other.memberIds := by
  simp only [← mem_memberIds_iff, contains_iff_stampOf, stampOf_merge, Ne, max_eq_bot]
  exact Decidable.not_and_iff_not_or_not

variable (v other options now) in
-- The vectors are joined before entries are cut off.
theorem versions_merge (ho : other.isEmpty = false) : ∃ u : View, u.versions = v.versions.merge other.versions ∧
    u.memberIds = (v.merge other options now).1.memberIds ∧
    (v.merge other options now).1.versions = u.trimmed v.vectorBound := by
  refine ⟨{ (v.merge other options now).1 with versions := v.versions.merge other.versions }, rfl, rfl, ?_⟩
  simp only [merge, ho, Bool.false_eq_true, if_false]
  rfl

theorem versions_merge_of_unbounded (hb : v.vectorBound = 0) (ho : other.isEmpty = false) :
    (v.merge other options now).1.versions = v.versions.merge other.versions := by
  have ⟨u, joined, _, e⟩ := versions_merge v other options now ho
  rw [e, trimmed, if_pos hb, joined]

theorem trimmed_merge (ho : other.isEmpty = false) :
    (v.merge other options now).1.trimmed v.vectorBound = (v.merge other options now).1.versions := by
  have ⟨u, _, ids, e⟩ := versions_merge v other options now ho
  exact (trimmed_eq (fun id => ids ▸ Iff.rfl) (.inr e)).trans e.symm

theorem rank_merge_le : (v.trimmed v.vectorBound).rank ≤
    ((v.merge other options now).1.trimmed v.vectorBound).rank := by
  cases ho : other.isEmpty with
  | true => rw [merge, if_pos ho]
  | false =>
    obtain ⟨u, joined, ids, e⟩ := versions_merge v other options now ho
    rw [trimmed_merge ho, e]
    refine rank_trimmed_le (fun id hid => ?_) (joined ▸ VersionVector.within_merge_left)
    exact ids ▸ mem_memberIds_merge.mpr (.inl hid)

section

variable {β : Type} [LE β] [DecidableLE β] [Std.IsLinearOrder β] (a b : β)

theorem le_adopted (adopts : Bool) : a ≤ (if adopts then (if a ≤ b then b else a) else a) := by
  cases adopts with
  | true => exact (le_max_word a b).1
  | false => exact Std.le_refl a

end

theorem le_epoch_merge : v.epoch ≤ (v.merge other options now).1.epoch := by
  rw [merge]
  split
  case isTrue => exact UInt64.le_refl _
  case isFalse => exact le_adopted ..

theorem le_timestamp_merge : v.timestamp ≤ (v.merge other options now).1.timestamp := by
  rw [merge]
  split
  case isTrue => exact Int64.le_refl _
  case isFalse => exact le_adopted ..

theorem le_protocolVersion_merge : v.protocolVersion ≤ (v.merge other options now).1.protocolVersion := by
  rw [merge]
  split
  case isTrue => exact UInt16.le_refl _
  case isFalse => exact (le_max_word ..).1

theorem level_le_merge : v.level ≤ (v.merge other options now).1.level := by
  refine ⟨fun id => ?_, ?_, UInt64.le_iff_toNat_le.mp le_epoch_merge, Int64.le_iff_toInt_le.mp le_timestamp_merge,
    UInt16.le_iff_toNat_le.mp le_protocolVersion_merge⟩
  · exact (le_max_left ..).trans_eq stampOf_merge.symm
  · rw [level, level, vectorBound_merge]
    exact rank_merge_le

theorem stampOf_lt_of_learnsMember (h : v.learnsMember other) : ∃ id, v.stampOf id < other.stampOf id := by
  rw [learnsMember, List.any_eq_true] at h
  obtain ⟨theirs, mem, new⟩ := h
  have ht : other.member? theirs.id = some theirs := member?_eq_some_iff.mpr ⟨mem, rfl⟩
  refine ⟨theirs.id, ?_⟩
  rw [stampOf_of_member? ht]
  cases hv : v.member? theirs.id with
  | none =>
    rw [stampOf_eq_bot_iff.mpr hv]
    exact WithBot.bot_lt_coe _
  | some ours =>
    rw [hv] at new
    rw [stampOf_of_member? hv, WithBot.coe_lt_coe]
    exact (Member.newer_iff (member?_id hv).symm).mp (of_decide_eq_true new)

theorem changed_iff (ho : other.isEmpty = false) : (v.merge other options now).2 ↔
    v.Learns other options now ∨ v.versions.merge other.versions ≠ v.versions := by
  simp only [merge, ho, Bool.false_eq_true, if_false, Learns, Bool.or_eq_true, Bool.and_eq_true, decide_eq_true_eq]
  tauto

theorem known_of_changed (h : (v.merge other options now).2) : other.isEmpty = false := by
  by_contra empty
  rw [merge, if_pos (by simpa using empty)] at h
  contradiction

-- Whatever the other view has to teach shows after the merge.
theorem not_learns_of_same (ho : other.isEmpty = false)
    (stampOf : ∀ id, (v.merge other options now).1.stampOf id = v.stampOf id)
    (epoch : (v.merge other options now).1.epoch = v.epoch)
    (timestamp : (v.merge other options now).1.timestamp = v.timestamp)
    (protocolVersion : (v.merge other options now).1.protocolVersion = v.protocolVersion) :
    ¬v.Learns other options now := by
  rintro (learns | ⟨ha, later | later⟩ | later)
  · obtain ⟨id, lt⟩ := stampOf_lt_of_learnsMember learns
    have le := stampOf id
    rw [stampOf_merge, max_eq_left_iff] at le
    exact not_le_of_gt lt le
  · rw [epoch_merge ho ha] at epoch
    exact UInt64.not_lt.mpr (max_word_eq_left_iff.mp epoch) later
  · rw [timestamp_merge ho ha] at timestamp
    exact Int64.not_lt.mpr (max_word_eq_left_iff.mp timestamp) later
  · rw [protocolVersion_merge ho] at protocolVersion
    exact UInt16.not_lt.mpr (max_word_eq_left_iff.mp protocolVersion) later

-- A merge that leaves the view where it was has brought in no more than events.
theorem versions_ne_of_changed (h : (v.merge other options now).2)
    (same : (v.merge other options now).1.level = v.level) : v.versions.merge other.versions ≠ v.versions := by
  simp only [level, Prod.mk.injEq] at same
  have ⟨stamps, _, epoch, timestamp, protocolVersion⟩ := same
  have ho := known_of_changed h
  refine ((changed_iff ho).mp h).resolve_left <| not_learns_of_same ho (congrFun stamps) ?_ ?_ ?_
  case refine_1 => exact UInt64.toNat_inj.mp epoch
  case refine_2 => exact Int64.toInt_inj.mp timestamp
  case refine_3 => exact UInt16.toNat_inj.mp protocolVersion

-- What the other view knows of events is behind, unless the merge has taken the view further.
theorem rank_lt_of_changed (hb : other.trimmed v.vectorBound = other.versions)
    (h : (v.merge other options now).2) (same : (v.merge other options now).1.level = v.level) :
    other.versions.rank < (v.merge other options now).1.versions.rank := by
  have ho := known_of_changed h
  obtain ⟨u, joined, ids, e⟩ := versions_merge v other options now ho
  have le : other.versions.rank ≤ (v.merge other options now).1.versions.rank := by
    rw [← hb, e]
    refine rank_trimmed_le (fun id hid => ?_) (joined ▸ VersionVector.within_merge_right)
    exact ids ▸ mem_memberIds_merge.mpr (.inr hid)
  refine lt_of_le_of_ne le fun eq => versions_ne_of_changed h same <| VersionVector.merge_eq_left ?_
  -- Then all three vectors are what the bound leaves of the first.
  have kept : (v.trimmed v.vectorBound).rank = (v.merge other options now).1.versions.rank := by
    have := (Prod.mk.inj (Prod.mk.inj same).2).1
    rw [vectorBound_merge, trimmed_merge ho] at this
    exact this.symm
  have : other.versions = v.trimmed v.vectorBound := VersionVector.rank_injective (eq.trans kept.symm)
  exact this ▸ within_trimmed

theorem Drawn.merge (hv : v.Drawn known events) (hw : other.Drawn known events) :
    (v.merge other options now).1.Drawn known events where
  imprints := imprints_merge_subset.trans <| Set.union_subset hv.imprints hw.imprints
  entries e he := by
    cases ho : other.isEmpty with
    | true =>
      rw [View.merge, if_pos ho] at he
      exact hv.entries e he
    | false =>
      obtain ⟨u, joined, _, eq⟩ := versions_merge v other options now ho
      have he := mem_entries_of_trimmed (eq ▸ he)
      exact (VersionVector.mem_entries_of_merge (joined ▸ he)).elim (hv.entries e) (hw.entries e)

theorem Drawn.remove (h : v.Drawn known events) : (v.remove i).Drawn known events where
  imprints := imprints_remove_subset.trans h.imprints
  entries e he := by
    rcases @remove_eq v i with eq | eq <;> rw [eq] at he
    · exact h.entries e he
    · exact h.entries e (mem_entries_of_trimmed (v := { v with members := v.members.erase i }) he)

theorem Drawn.removeAll (h : v.Drawn known events) : (Turn.removeAll v ids).Drawn known events := by
  induction ids generalizing v with
  | nil => exact h
  | cons i ids ih => exact ih h.remove

-- What a stock of imprints lets views know of the incarnations.
def Stamping (known : Set Member) (f : String → WithBot Stamp) : Prop :=
  ∀ id, f id = ⊥ ∨ ∃ p ∈ known, p.id = id ∧ f id = p.stamp

theorem Drawn.stamping (h : v.Drawn known events) : Stamping known v.stampOf := by
  intro id
  cases hv : v.member? id with
  | none => exact .inl <| stampOf_eq_bot_iff.mpr hv
  | some m =>
    have same : m.imprint.id = id := (member?_id hv :)
    exact .inr ⟨m.imprint, h.imprints (imprint_mem_imprints hv), same, (stampOf_of_member? hv :)⟩

theorem finite_stamping (hk : known.Finite) : {f | Stamping known f}.Finite := by
  refine Set.Finite.of_finite_image (f := fun f => {p ∈ known | f p.id = p.stamp}) ?_ ?_
  · refine hk.powerset.subset ?_
    rintro _ ⟨f, _, eq⟩
    exact eq ▸ Set.sep_subset ..
  · intro f hf g hg same
    funext id
    have agree p : p ∈ known ∧ f p.id = p.stamp ↔ p ∈ known ∧ g p.id = p.stamp := Set.ext_iff.mp same p
    rcases hf id with unknown | ⟨p, hp, eq, stamp⟩
    · rcases hg id with unknown' | ⟨p, hp, eq, stamp⟩
      · exact unknown.trans unknown'.symm
      · exact eq ▸ ((agree p).mpr ⟨hp, eq ▸ stamp⟩).2.trans (eq ▸ stamp).symm
    · exact stamp.trans (eq ▸ ((agree p).mp ⟨hp, eq ▸ stamp⟩).2).symm

-- Views from a finite stock are on finitely many levels.
theorem finite_levels (hk : known.Finite) (he : events.Finite) :
    (level '' {v | v.Drawn known events}).Finite := by
  have ranks := (VersionVector.finite_of_entries he).image VersionVector.rank
  have words := Set.finite_Iio (2 ^ 64)
  have times := Set.finite_Ico (-2 ^ 63 : ℤ) (2 ^ 63)
  refine ((finite_stamping hk).prod <| ranks.prod <| words.prod <| times.prod words).subset ?_
  rintro _ ⟨v, hv, eq⟩
  subst eq
  refine ⟨hv.stamping, ⟨_, fun e he => hv.entries e (mem_entries_of_trimmed he), rfl⟩, v.epoch.toNat_lt,
    ⟨v.timestamp.le_toInt, v.timestamp.toInt_lt⟩, ?_⟩
  exact v.protocolVersion.toNat_lt.trans (by decide)

end GossipCluster.View
