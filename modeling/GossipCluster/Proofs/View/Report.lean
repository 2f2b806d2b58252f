import GossipCluster.Proofs.View.Level

namespace GossipCluster.View

-- The view but for the signs of life of its members.
def gist (v : View) : View :=
  { v with members := v.members.map (fun m => { m with lastSeen := 0 }) (fun _ => rfl) }

variable {v w other : View} {options : MergeOptions} {now : Timestamp} {id : String}

instance : Decidable (v.Learns other options now) := inferInstanceAs (Decidable (_ ∨ _ ∧ _ ∨ _))

theorem member?_gist : v.gist.member? id = (v.member? id).map fun m => { m with lastSeen := 0 } :=
  Table.find?_map (f := fun m : Member => { m with lastSeen := 0 }) fun _ => rfl

theorem size_gist : v.gist.members.size = v.members.size := List.length_map ..

theorem healthyMembers_gist : v.gist.healthyMembers.length = v.healthyMembers.length := by
  simp only [healthyMembers, gist, Table.map, List.filter_map, List.length_map]
  rfl

theorem stampOf_gist : v.gist.stampOf id = v.stampOf id := by
  rw [stampOf, member?_gist, Option.map_map]
  rfl

theorem gist_congr (hv : v.Counted) (hw : w.Counted) (identity : w.id = v.id) (epoch : w.epoch = v.epoch)
    (timestamp : w.timestamp = v.timestamp) (versions : w.versions = v.versions)
    (protocolVersion : w.protocolVersion = v.protocolVersion) (vectorBound : w.vectorBound = v.vectorBound)
    (member? : ∀ id, w.gist.member? id = v.gist.member? id) : w.gist = v.gist := by
  have members : w.gist.members = v.gist.members := Table.ext_find? member?
  have healthyMembers : w.healthyMembers.length = v.healthyMembers.length := by
    rw [← healthyMembers_gist, View.healthyMembers, members, ← View.healthyMembers, healthyMembers_gist]
  have size : w.members.size = v.members.size := by rw [← size_gist, members, size_gist]
  refine View.ext identity epoch timestamp members ?_ ?_ ?_ versions protocolVersion vectorBound
  case refine_1 => exact hw.healthy.trans <| healthyMembers.trans hv.healthy.symm
  case refine_2 =>
    calc w.unhealthy
      _ = w.members.size - w.healthyMembers.length := hw.unhealthy
      _ = v.members.size - v.healthyMembers.length := by rw [size, healthyMembers]
      _ = v.unhealthy := hv.unhealthy.symm
  case refine_3 =>
    calc w.quorum
      _ = quorumSize w.healthyMembers.length := hw.quorum
      _ = quorumSize v.healthyMembers.length := by rw [healthyMembers]
      _ = v.quorum := hv.quorum.symm

theorem gist_member?_merge (h : ¬v.learnsMember other) :
    (v.merge other options now).1.gist.member? id = v.gist.member? id := by
  rw [member?_gist, member?_gist, member?_merge]
  cases ho : other.member? id with
  | none => rw [Option.merge_none_right]
  | some theirs =>
    have ⟨ours, hv, old⟩ : ∃ ours, v.member? id = some ours ∧ ¬theirs.Newer ours := by
      have ⟨mem, same⟩ := member?_eq_some_iff.mp ho
      rw [learnsMember, List.any_eq_true] at h
      have := fun new => h ⟨theirs, mem, new⟩
      rw [same] at this
      cases hv : v.member? id with
      | none => exact absurd (by rw [hv]; rfl) this
      | some ours => exact ⟨ours, rfl, by simpa [hv] using this⟩
    rw [hv]
    change some _ = some _
    rw [Member.reconcile, if_neg old]
    split <;> rfl

-- A bounded view that learns nothing else changes by what comes of its vector.
theorem gist_merge_eq_iff (ho : other.isEmpty = false) (hv : v.Counted) :
    (v.merge other options now).1.gist = v.gist ↔
      ¬v.Learns other options now ∧ (v.merge other options now).1.versions = v.versions := by
  constructor
  case mp =>
    intro same
    refine ⟨not_learns_of_same ho (fun id => ?_) ?_ ?_ ?_, ?_⟩
    case refine_1 => rw [← stampOf_gist, same, stampOf_gist]
    case refine_2 => exact (congrArg View.epoch same :)
    case refine_3 => exact (congrArg View.timestamp same :)
    case refine_4 => exact (congrArg View.protocolVersion same :)
    case refine_5 => exact (congrArg View.versions same :)
  case mpr =>
    rintro ⟨known, versions⟩
    simp only [Learns, not_or, not_and] at known
    obtain ⟨members, time, protocolVersion⟩ := known
    obtain ⟨epoch, timestamp⟩ : (v.merge other options now).1.epoch = v.epoch ∧
        (v.merge other options now).1.timestamp = v.timestamp := by
      cases ha : v.adoptsTime other options now with
      | false => exact ⟨epoch_merge_of_kept ha, timestamp_merge_of_kept ha⟩
      | true =>
        obtain ⟨epoch, timestamp⟩ := time ha
        rw [epoch_merge ho ha, timestamp_merge ho ha]
        exact ⟨max_word_eq_left_iff.mpr <| UInt64.not_lt.mp epoch, max_word_eq_left_iff.mpr <| Int64.not_lt.mp timestamp⟩
    refine gist_congr hv (counted_merge hv) id_merge epoch timestamp versions ?_ vectorBound_merge
      fun _ => gist_member?_merge members
    rw [protocolVersion_merge ho]
    exact max_word_eq_left_iff.mpr <| UInt16.not_lt.mp protocolVersion

theorem merge_report (hv : v.Built) (other : View) (options : MergeOptions) (now : Timestamp) :
    let merged := (v.merge other options now).1
    let changed := (v.merge other options now).2
    let joined := v.versions.merge other.versions
    (changed ∧ merged.gist = v.gist ↔ other.isEmpty = false ∧ ¬v.Learns other options now ∧
      joined ≠ v.versions ∧ merged.versions = v.versions) ∧
    (¬changed ∧ merged.gist ≠ v.gist ↔ other.isEmpty = false ∧ ¬v.Learns other options now ∧
      joined = v.versions ∧ merged.versions ≠ v.versions) ∧
    (v.vectorBound = 0 → (changed ↔ merged.gist ≠ v.gist)) := by
  intro merged changed joined
  cases ho : other.isEmpty with
  | true =>
    have same : v.merge other options now = (v, false) := if_pos ho
    simp [merged, changed, same]
  | false =>
    have changed_iff : changed ↔ v.Learns other options now ∨ joined ≠ v.versions := changed_iff ho
    have gist_iff : merged.gist = v.gist ↔ ¬v.Learns other options now ∧ merged.versions = v.versions :=
      gist_merge_eq_iff ho hv.counted
    refine ⟨?_, ?_, fun hb => ?_⟩
    case refine_1 => grind
    case refine_2 => grind
    case refine_3 =>
      have : merged.versions = joined := versions_merge_of_unbounded hb ho
      grind

-- The other view has no news at all, but the vector loses an entry that it had beyond its bound.
theorem merge_report_missed :
    let a := Member.starting "a" "c" "h:1" 7
    let b := Member.starting "b" "c" "h:2" 7
    let start := ((View.new "v" 3 1).add a).add b
    let v := { start with versions := ⟨⟨[("a", 1), ("b", 1)], by decide⟩⟩ }
    let other := (View.new "o" 3 0).add a
    v.Built ∧ (v.merge other {} 6).2 = false ∧ (v.merge other {} 6).1.gist ≠ v.gist := by
  intro a b start v other
  let between := { start with versions := ⟨⟨[("a", 1)], by decide⟩⟩ }
  have first : start.incrementVersion "a" = .ok between := rfl
  have second : between.incrementVersion "b" = .ok v := by decide +kernel
  have hv : v.Built := .incrementVersion (.incrementVersion (.add b <| .add a <| .new ..) first) second
  have ⟨_, missed, _⟩ := merge_report hv other {} 6
  have ⟨unreported, changed⟩ := missed.mpr ⟨rfl, by decide +kernel⟩
  exact ⟨hv, Bool.not_eq_true _ ▸ unreported, changed⟩

-- The event of the other view is joined and cut off again.
theorem merge_report_spurious :
    let a := Member.starting "a" "c" "h:1" 7
    let b := Member.starting "b" "c" "h:2" 7
    let start := ((View.new "v" 3 1).add a).add b
    let v := { start with versions := ⟨⟨[("a", 1)], by decide⟩⟩ }
    let other := { start with versions := ⟨⟨[("b", 1)], by decide⟩⟩ }
    v.Built ∧ other.Built ∧ (v.merge other {} 6).2 = true ∧ (v.merge other {} 6).1 = v := by
  intro a b start v other
  have hs : start.Built := .add b <| .add a <| .new ..
  have hv : v.Built := .incrementVersion hs (show start.incrementVersion "a" = .ok v from rfl)
  have ho : other.Built := .incrementVersion hs (show start.incrementVersion "b" = .ok other from rfl)
  exact ⟨hv, ho, by decide +kernel⟩

end GossipCluster.View
