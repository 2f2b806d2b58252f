import GossipCluster.Proofs.View.Convergence
import GossipCluster.Proofs.View.Level

namespace GossipCluster.View

-- The first merge keeps epoch and timestamp because the views are concurrent, and makes an end of that.
structure CaughtUp (v other : View) (options : MergeOptions) (now : Timestamp) : Prop where
  known       : other.isEmpty = false
  preferLocal : options.concurrent = .preferLocal
  inTime      : ∀ limit ∈ options.maxClockSkew, Timestamp.distance now other.timestamp ≤ limit.nanos
  apart       : v.versions.compare other.versions = .concurrent
  joined      : (v.merge other options now).1.versions.compare other.versions ≠ .concurrent

variable {v other : View} {options : MergeOptions} {now : Timestamp} {k : ℕ}

theorem members_merge_merge : ((v.merge other options now).1.merge other options now).1.members =
    (v.merge other options now).1.members := by
  refine Table.ext_find? fun id => ?_
  change View.member? _ id = View.member? _ id
  rw [member?_merge (v := (v.merge other options now).1), member?_merge]
  cases hv : v.member? id with
  | none => cases ho : other.member? id <;> simp [Member.reconcile_self]
  | some ours =>
    cases ho : other.member? id with
    | none => rfl
    | some theirs =>
      have same : ours.id = theirs.id := (member?_id hv).trans (member?_id ho).symm
      exact congrArg some (Member.reconcile_reconcile same)

-- What is joined the second time lies within what was joined the first time.
theorem versions_merge_merge (ho : other.isEmpty = false) :
    ((v.merge other options now).1.merge other options now).1.versions =
      (v.merge other options now).1.versions := by
  set once := (v.merge other options now).1
  have bound : once.vectorBound = v.vectorBound := vectorBound_merge
  obtain ⟨u, joined, ids, e⟩ := versions_merge v other options now ho
  obtain ⟨u', joined', ids', e'⟩ := versions_merge once other options now ho
  have ge : once.versions.rank ≤ (once.merge other options now).1.versions.rank := by
    have : (once.trimmed once.vectorBound).rank ≤
        ((once.merge other options now).1.trimmed once.vectorBound).rank := rank_merge_le
    rwa [trimmed_merge ho, bound, trimmed_merge ho] at this
  have le : (once.merge other options now).1.versions.rank ≤ once.versions.rank := by
    rw [e', e, bound]
    have seen : once.versions.Within u.versions := e ▸ within_trimmed
    have ids : u'.memberIds = u.memberIds := by rw [ids', ids, memberIds, members_merge_merge, memberIds]
    refine rank_trimmed_le (ids ▸ fun _ h => h) ?_
    rw [joined']
    exact seen.merge (joined ▸ VersionVector.within_merge_right)
  exact VersionVector.rank_injective (le_antisymm le ge)

variable (v options now) in
theorem merge_merge_eq (ho : other.isEmpty = false) :
    let once := (v.merge other options now).1
    let twice := (once.merge other options now).1
    twice = { once with epoch := twice.epoch, timestamp := twice.timestamp } := by
  intro once twice
  have members : twice.members = once.members := members_merge_merge
  have healthyMembers : twice.healthyMembers = once.healthyMembers := by
    rw [View.healthyMembers, members, View.healthyMembers]
  have counted : once.Counted := counted_merge_of_known ho
  have counted' : twice.Counted := counted_merge_of_known ho
  refine View.ext id_merge rfl rfl members ?_ ?_ ?_ (versions_merge_merge ho) ?_ vectorBound_merge
  case refine_1 => rw [counted'.healthy, counted.healthy, healthyMembers]
  case refine_2 => rw [counted'.unhealthy, counted.unhealthy, healthyMembers, members]
  case refine_3 => rw [counted'.quorum, counted.quorum, healthyMembers]
  case refine_4 =>
    change twice.protocolVersion = once.protocolVersion
    rw [protocolVersion_merge ho, protocolVersion_merge ho]
    exact max_word_max_word ..

theorem adoptsTime_iff : v.adoptsTime other options now ↔
    (∀ limit ∈ options.maxClockSkew, Timestamp.distance now other.timestamp ≤ limit.nanos) ∧
      (v.versions.compare other.versions = .concurrent → options.concurrent ≠ .preferLocal) := by
  cases h : options.maxClockSkew <;> simp [adoptsTime, h, or_iff_not_imp_left]

theorem caughtUp_iff : v.CaughtUp other options now ↔ other.isEmpty = false ∧
    v.adoptsTime other options now = false ∧
    (v.merge other options now).1.adoptsTime other options now := by
  rw [← Bool.not_eq_true (v.adoptsTime other options now), adoptsTime_iff, adoptsTime_iff]
  constructor
  case mp =>
    intro h
    exact ⟨h.known, fun ⟨_, lenient⟩ => lenient h.apart h.preferLocal, h.inTime, fun apart => absurd apart h.joined⟩
  case mpr =>
    intro ⟨known, kept, inTime, joined⟩
    have ⟨apart, preferLocal⟩ : v.versions.compare other.versions = .concurrent ∧
        options.concurrent = .preferLocal := by
      by_contra lenient
      exact kept ⟨inTime, fun apart preferLocal => lenient ⟨apart, preferLocal⟩⟩
    exact ⟨known, preferLocal, inTime, apart, fun apart => joined apart preferLocal⟩

theorem merge_merge_of_caughtUp (h : v.CaughtUp other options now) :
    ((v.merge other options now).1.merge other options now).1 =
      { (v.merge other options now).1 with
        epoch := max v.epoch other.epoch, timestamp := max v.timestamp other.timestamp } := by
  have ⟨known, kept, adopts⟩ := caughtUp_iff.mp h
  rw [merge_merge_eq v options now known, epoch_merge known adopts, epoch_merge_of_kept kept,
    timestamp_merge known adopts, timestamp_merge_of_kept kept]

theorem merge_merge_of_not_caughtUp (h : ¬v.CaughtUp other options now) :
    ((v.merge other options now).1.merge other options now).1 = (v.merge other options now).1 := by
  cases known : other.isEmpty with
  | true => exact merge_of_isEmpty known
  | false =>
    set once := (v.merge other options now).1 with eq
    have ⟨epoch, timestamp⟩ : (once.merge other options now).1.epoch = once.epoch ∧
        (once.merge other options now).1.timestamp = once.timestamp := by
      cases again : once.adoptsTime other options now with
      | false => exact ⟨epoch_merge_of_kept again, timestamp_merge_of_kept again⟩
      | true =>
        have first : v.adoptsTime other options now := by
          by_contra kept
          exact h <| caughtUp_iff.mpr ⟨known, Bool.not_eq_true _ ▸ kept, again⟩
        rw [epoch_merge known again, timestamp_merge known again, eq, epoch_merge known first,
          timestamp_merge known first]
        exact ⟨max_word_max_word .., max_word_max_word ..⟩
    rw [merge_merge_eq v options now known]
    exact View.ext rfl epoch timestamp rfl rfl rfl rfl rfl rfl rfl

theorem merge_merge_eq_iff :
    ((v.merge other options now).1.merge other options now).1 = (v.merge other options now).1 ↔
      ¬(v.CaughtUp other options now ∧ (v.epoch < other.epoch ∨ v.timestamp < other.timestamp)) := by
  by_cases h : v.CaughtUp other options now
  case neg => exact iff_of_true (merge_merge_of_not_caughtUp h) (h ·.1)
  case pos =>
    have ⟨_, kept, _⟩ := caughtUp_iff.mp h
    rw [merge_merge_of_caughtUp h]
    constructor
    case mp =>
      intro same ⟨_, later⟩
      have epoch : max v.epoch other.epoch = v.epoch := (congrArg View.epoch same).trans (epoch_merge_of_kept kept)
      have timestamp : max v.timestamp other.timestamp = v.timestamp :=
        (congrArg View.timestamp same).trans (timestamp_merge_of_kept kept)
      rcases later with lt | lt
      · exact UInt64.not_lt.mpr (max_word_eq_left_iff.mp epoch) lt
      · exact Int64.not_lt.mpr (max_word_eq_left_iff.mp timestamp) lt
    case mpr =>
      intro settled
      have epoch : max v.epoch other.epoch = v.epoch :=
        max_word_eq_left_iff.mpr <| UInt64.not_lt.mp fun lt => settled ⟨h, .inl lt⟩
      have timestamp : max v.timestamp other.timestamp = v.timestamp :=
        max_word_eq_left_iff.mpr <| Int64.not_lt.mp fun lt => settled ⟨h, .inr lt⟩
      rw [epoch, timestamp, ← epoch_merge_of_kept kept, ← timestamp_merge_of_kept kept]

-- Once the vectors are joined, a further merge joins nothing more.
theorem not_caughtUp_merge : ¬(v.merge other options now).1.CaughtUp other options now := by
  intro h
  refine h.joined ?_
  rw [versions_merge_merge h.known]
  exact h.apart

variable (v other options now) in
theorem mergeAll_replicate :
    v.mergeAll options (List.replicate (k + 2) (other, now)) =
      ((v.merge other options now).1.merge other options now).1 := by
  induction k generalizing v with
  | zero => rfl
  | succ k ih =>
    calc v.mergeAll options (List.replicate (k + 3) (other, now))
      _ = (v.merge other options now).1.mergeAll options (List.replicate (k + 2) (other, now)) := rfl
      _ = (((v.merge other options now).1.merge other options now).1.merge other options now).1 := ih _
      _ = ((v.merge other options now).1.merge other options now).1 :=
        merge_merge_of_not_caughtUp not_caughtUp_merge

-- As long as the views stay concurrent, the local epoch and timestamp stay.
theorem kept_mergeAll_replicate (preferLocal : options.concurrent = .preferLocal)
    (apart : v.versions.compare other.versions = .concurrent)
    (still : (v.merge other options now).1.versions.compare other.versions = .concurrent) :
    (v.mergeAll options (.replicate k (other, now))).epoch = v.epoch ∧
      (v.mergeAll options (.replicate k (other, now))).timestamp = v.timestamp := by
  have kept : v.adoptsTime other options now = false := by
    rw [← Bool.not_eq_true, adoptsTime_iff]
    exact fun ⟨_, lenient⟩ => lenient apart preferLocal
  match k with
  | 0 => exact ⟨rfl, rfl⟩
  | 1 => exact ⟨epoch_merge_of_kept kept, timestamp_merge_of_kept kept⟩
  | k + 2 =>
    rw [mergeAll_replicate, merge_merge_of_not_caughtUp fun h => h.joined still]
    exact ⟨epoch_merge_of_kept kept, timestamp_merge_of_kept kept⟩

-- A vector without a bound keeps all that was joined.
theorem compare_merge_ne_concurrent (hb : v.vectorBound = 0) (ho : other.isEmpty = false) :
    (v.merge other options now).1.versions.compare other.versions ≠ .concurrent := by
  rw [versions_merge_of_unbounded hb ho]
  exact VersionVector.compare_ne_concurrent VersionVector.within_merge_right

theorem merge_redelivered (v other : View) (options : MergeOptions) (now : Timestamp) :
    let once := (v.merge other options now).1
    let twice := (once.merge other options now).1
    (twice = once ↔ ¬(v.CaughtUp other options now ∧
      (v.epoch < other.epoch ∨ v.timestamp < other.timestamp))) ∧
    (v.CaughtUp other options now → twice =
      { once with epoch := max v.epoch other.epoch, timestamp := max v.timestamp other.timestamp }) ∧
    (∀ k, v.mergeAll options (.replicate (k + 2) (other, now)) = twice) ∧
    (options.concurrent = .preferLocal → v.versions.compare other.versions = .concurrent →
      once.versions.compare other.versions = .concurrent → ∀ k,
        (v.mergeAll options (.replicate k (other, now))).epoch = v.epoch ∧
        (v.mergeAll options (.replicate k (other, now))).timestamp = v.timestamp) ∧
    (v.vectorBound = 0 → other.isEmpty = false →
      once.versions.compare other.versions ≠ .concurrent) := by
  intro once twice
  exact ⟨merge_merge_eq_iff, merge_merge_of_caughtUp, fun _ => mergeAll_replicate ..,
    fun preferLocal apart still _ => kept_mergeAll_replicate preferLocal apart still,
    compare_merge_ne_concurrent⟩

-- Under its bound the view forgets the event of the other one as soon as it has seen it.
theorem merge_redelivered_bounded :
    let a := Member.starting "a" "c" "h:1" 7
    let b := Member.starting "b" "c" "h:2" 7
    let v := { ((View.new "v" 3 1).add a).add b with versions := ⟨⟨[("a", 1)], by decide⟩⟩ }
    let other := { ((View.new "o" 5 1).add a).add b with epoch := 7, versions := ⟨⟨[("b", 1)], by decide⟩⟩ }
    (v.mergeAll { concurrent := .preferLocal } (.replicate 9 (other, 6))).epoch = 0 := by
  intro a b v other
  have ⟨_, _, _, kept, _⟩ := merge_redelivered v other { concurrent := .preferLocal } 6
  exact (kept rfl (by decide +kernel) (by decide +kernel) 9).1

-- Without a bound the second merge is no longer one of concurrent views.
theorem epoch_redelivered :
    let a := Member.starting "a" "c" "h:1" 7
    let b := Member.starting "b" "c" "h:2" 7
    let v := { ((View.new "v" 3 0).add a).add b with versions := ⟨⟨[("a", 1)], by decide⟩⟩ }
    let other := { ((View.new "o" 5 0).add a).add b with epoch := 7, versions := ⟨⟨[("b", 1)], by decide⟩⟩ }
    let once := (v.merge other { concurrent := .preferLocal } 6).1
    let twice := (once.merge other { concurrent := .preferLocal } 6).1
    v.versions.compare other.versions = .concurrent ∧ twice ≠ once ∧
      v.epoch = 0 ∧ once.epoch = 0 ∧ twice.epoch = 7 := by
  decide +kernel

end GossipCluster.View
