import GossipCluster.Proofs.View.Merge

namespace GossipCluster.View

def mergeAll (options : MergeOptions) (start : View) (news : List (View × Timestamp)) : View :=
  news.foldl (fun v (other, now) => (v.merge other options now).1) start

-- Views in which the same incarnation of a member always has the same profile.
def Consistent (views : List View) : Prop :=
  ∀ v ∈ views, ∀ w ∈ views, ∀ id a b, v.member? id = some a → w.member? id = some b →
    a.stamp = b.stamp → a.profile = b.profile

-- Views that tell the same of who is in a cluster and how far it has come.
structure Concordant (v w : View) : Prop where
  ids             : v.memberIds = w.memberIds
  stamps          : ∀ id, v.stampOf id = w.stampOf id
  epoch           : v.epoch = w.epoch
  timestamp       : v.timestamp = w.timestamp
  protocolVersion : v.protocolVersion = w.protocolVersion

variable {v w : View} {options : MergeOptions} {start : View} {news news' : List (View × Timestamp)}
  {id : String} {m : Member}

theorem memberIds_eq (h : ∀ id, v.contains id ↔ w.contains id) : v.memberIds = w.memberIds := by
  let ids (u : View) : Table (fun id : String => id) :=
    ⟨u.memberIds, List.pairwise_map.mpr u.members.sorted⟩
  have : ids v = ids w := Table.ext_mem fun id => by
    rw [← mem_memberIds_iff, ← mem_memberIds_iff]
    exact h id
  exact congrArg Table.rows this

theorem isGreatest_mergeAll {β : Type} [LE β] [DecidableLE β] [Std.IsLinearOrder β] {f : View → β}
    (hn : ∀ n ∈ news, n.1.isEmpty = false)
    (hf : ∀ v other now, other.isEmpty = false →
      f (v.merge other options now).1 = if f v ≤ f other then f other else f v) :
    IsGreatest {b | ∃ v ∈ start :: news.map Prod.fst, f v = b} (f (start.mergeAll options news)) := by
  induction news generalizing start with
  | nil => exact ⟨⟨start, by simp, rfl⟩, by simp [upperBounds, mergeAll, Std.le_refl]⟩
  | cons n news ih =>
    obtain ⟨other, now⟩ := n
    have step := hf start other now (hn (other, now) (by simp))
    have ⟨⟨v, hv, e⟩, bound⟩ := @ih (start.merge other options now).1 fun n hn' => hn n (by simp [hn'])
    refine ⟨?_, ?_⟩
    case refine_1 =>
      cases List.mem_cons.mp hv
      case inl eq =>
        subst eq
        split at step
        case isTrue => exact ⟨other, by simp, step.symm.trans e⟩
        case isFalse => exact ⟨start, by simp, step.symm.trans e⟩
      case inr mem => exact ⟨v, by simp [List.mem_map.mp mem], e⟩
    case refine_2 =>
      have first := bound ⟨_, List.mem_cons_self, rfl⟩
      have above : f start ≤ f (start.merge other options now).1 ∧
          f other ≤ f (start.merge other options now).1 := by
        rw [step]
        split
        case isTrue le => exact ⟨le, Std.le_refl _⟩
        case isFalse nle => exact ⟨Std.le_refl _, Std.le_of_not_ge nle⟩
      intro b ⟨w, hw, eq⟩
      subst eq
      rcases List.mem_cons.mp hw with rfl | hw
      · exact Std.le_trans above.1 first
      · rcases List.mem_cons.mp hw with rfl | hw
        · exact Std.le_trans above.2 first
        · exact bound ⟨w, by simp [hw], rfl⟩

theorem mergeAll_source (h : (start.mergeAll options news).member? id = some m) :
    ∃ v ∈ start :: news.map Prod.fst, ∃ e, v.member? id = some e ∧
      e.stamp = m.stamp ∧ e.profile = m.profile := by
  induction news generalizing start with
  | nil => exact ⟨start, by simp, m, h, rfl, rfl⟩
  | cons n news ih =>
    have ⟨v, hv, e, he, stamp, profile⟩ := ih h
    cases List.mem_cons.mp hv
    case inr mem => exact ⟨v, by simp [List.mem_map.mp mem], e, he, stamp, profile⟩
    case inl eq =>
      have ⟨d, hd, stamp', profile'⟩ := merge_source (eq ▸ he)
      have stamp := stamp'.trans stamp
      have profile := profile'.trans profile
      exact hd.elim (⟨start, by simp, d, ·, stamp, profile⟩) (⟨n.1, by simp, d, ·, stamp, profile⟩)

section

variable (hs : options.maxClockSkew = none) (hc : options.concurrent ≠ .preferLocal)
  (hn : ∀ n ∈ news, n.1.isEmpty = false)
include hn

variable (options start id) in
theorem isGreatest_stampOf : IsGreatest {s | ∃ v ∈ start :: news.map Prod.fst, v.stampOf id = s}
    ((start.mergeAll options news).stampOf id) :=
  isGreatest_mergeAll hn fun _ _ _ _ => by rw [stampOf_merge, max_def]

variable (options start) in
theorem isGreatest_protocolVersion :
    IsGreatest {p | ∃ v ∈ start :: news.map Prod.fst, v.protocolVersion = p}
      (start.mergeAll options news).protocolVersion :=
  isGreatest_mergeAll (f := View.protocolVersion) hn fun _ _ _ ho => protocolVersion_merge ho

include hs hc

variable (start) in
theorem isGreatest_epoch : IsGreatest {e | ∃ v ∈ start :: news.map Prod.fst, v.epoch = e}
    (start.mergeAll options news).epoch :=
  isGreatest_mergeAll (f := View.epoch) hn fun _ _ _ ho =>
    epoch_merge ho (adoptsTime_of_lenient hs hc)

variable (start) in
theorem isGreatest_timestamp : IsGreatest {t | ∃ v ∈ start :: news.map Prod.fst, v.timestamp = t}
    (start.mergeAll options news).timestamp :=
  isGreatest_mergeAll (f := View.timestamp) hn fun _ _ _ ho =>
    timestamp_merge ho (adoptsTime_of_lenient hs hc)

end

theorem contains_mergeAll (hn : ∀ n ∈ news, n.1.isEmpty = false) :
    (start.mergeAll options news).contains id ↔
      ∃ v ∈ start :: news.map Prod.fst, v.contains id := by
  have ⟨⟨v, hv, e⟩, bound⟩ := isGreatest_stampOf options start id hn
  constructor
  case mp =>
    intro h
    refine ⟨v, hv, contains_iff_stampOf.mpr ?_⟩
    exact e ▸ contains_iff_stampOf.mp h
  case mpr =>
    intro ⟨w, hw, h⟩
    refine contains_iff_stampOf.mpr fun absent => contains_iff_stampOf.mp h ?_
    exact le_bot_iff.mp <| absent ▸ bound ⟨w, hw, rfl⟩

theorem isGreatest_stamp (hn : ∀ n ∈ news, n.1.isEmpty = false)
    (h : (start.mergeAll options news).member? id = some m) :
    IsGreatest {s | ∃ v ∈ start :: news.map Prod.fst, ∃ e, v.member? id = some e ∧ e.stamp = s}
      m.stamp := by
  have ⟨_, bound⟩ := isGreatest_stampOf options start id hn
  rw [stampOf_of_member? h] at bound
  have ⟨v, hv, e, he, stamp, _⟩ := mergeAll_source h
  refine ⟨⟨v, hv, e, he, stamp⟩, ?_⟩
  intro s ⟨w, hw, d, hd, eq⟩
  subst eq
  exact WithBot.coe_le_coe.mp <| stampOf_of_member? hd ▸ bound ⟨w, hw, rfl⟩

-- What is greatest among the same views is the same.
theorem concordant_mergeAll (hs : options.maxClockSkew = none) (hc : options.concurrent ≠ .preferLocal)
    (hn : ∀ n ∈ news, n.1.isEmpty = false) (hn' : ∀ n ∈ news', n.1.isEmpty = false)
    (h : ∀ v, v ∈ start :: news'.map Prod.fst ↔ v ∈ start :: news.map Prod.fst) :
    (start.mergeAll options news').Concordant (start.mergeAll options news) where
  ids := memberIds_eq fun id => by simp only [contains_mergeAll hn, contains_mergeAll hn', h]
  stamps id := by
    have := isGreatest_stampOf options start id hn'
    simp only [h] at this
    exact this.unique <| isGreatest_stampOf options start id hn
  epoch := by
    have ⟨⟨v, hv, e⟩, bound⟩ := isGreatest_epoch start hs hc hn
    have ⟨⟨v', hv', e'⟩, bound'⟩ := isGreatest_epoch start hs hc hn'
    exact UInt64.le_antisymm (bound ⟨v', (h v').mp hv', e'⟩) (bound' ⟨v, (h v).mpr hv, e⟩)
  timestamp := by
    have ⟨⟨v, hv, e⟩, bound⟩ := isGreatest_timestamp start hs hc hn
    have ⟨⟨v', hv', e'⟩, bound'⟩ := isGreatest_timestamp start hs hc hn'
    exact Int64.le_antisymm (bound ⟨v', (h v').mp hv', e'⟩) (bound' ⟨v, (h v).mpr hv, e⟩)
  protocolVersion := by
    have ⟨⟨v, hv, e⟩, bound⟩ := isGreatest_protocolVersion options start hn
    have ⟨⟨v', hv', e'⟩, bound'⟩ :=
      isGreatest_protocolVersion options start hn'
    exact UInt16.le_antisymm (bound ⟨v', (h v').mp hv', e'⟩) (bound' ⟨v, (h v).mpr hv, e⟩)

theorem profiles_mergeAll (hn : ∀ n ∈ news, n.1.isEmpty = false)
    (hn' : ∀ n ∈ news', n.1.isEmpty = false)
    (h : ∀ v, v ∈ start :: news'.map Prod.fst ↔ v ∈ start :: news.map Prod.fst)
    (consistent : Consistent (start :: news.map Prod.fst)) :
    ((start.mergeAll options news').member? id).map Member.profile =
      ((start.mergeAll options news).member? id).map Member.profile := by
  have stamps : (start.mergeAll options news').stampOf id = (start.mergeAll options news).stampOf id := by
    have := isGreatest_stampOf options start id hn'
    simp only [h] at this
    exact this.unique <| isGreatest_stampOf options start id hn
  cases hm : (start.mergeAll options news).member? id with
  | none => rw [stampOf_eq_bot_iff.mp <| stamps.trans <| stampOf_eq_bot_iff.mpr hm]
  | some m =>
    cases hm' : (start.mergeAll options news').member? id with
    | none =>
      have := stampOf_eq_bot_iff.mp <| stamps.symm.trans <| stampOf_eq_bot_iff.mpr hm'
      exact absurd (hm.symm.trans this) (Option.some_ne_none m)
    | some m' =>
      have ⟨v, hv, e, he, stamp, profile⟩ := mergeAll_source hm
      have ⟨v', hv', e', he', stamp', profile'⟩ := mergeAll_source hm'
      have same : m'.stamp = m.stamp := by
        rw [stampOf_of_member? hm, stampOf_of_member? hm'] at stamps
        exact WithBot.coe_inj.mp stamps
      have := consistent v' ((h v').mp hv') v hv id e' e he' he (stamp'.trans <| same.trans stamp.symm)
      simp [← profile, ← profile', this]

theorem mergeAll_converges (options : MergeOptions) (start : View) (news : List (View × Timestamp))
    (hs : options.maxClockSkew = none) (hc : options.concurrent ≠ .preferLocal)
    (hn : ∀ n ∈ news, n.1.isEmpty = false) :
    let views := start :: news.map Prod.fst
    let final := start.mergeAll options news
    (∀ id, final.contains id ↔ ∃ v ∈ views, v.contains id) ∧
    (∀ id m, final.member? id = some m →
      IsGreatest {s | ∃ v ∈ views, ∃ e, v.member? id = some e ∧ e.stamp = s} m.stamp) ∧
    IsGreatest {e | ∃ v ∈ views, v.epoch = e} final.epoch ∧
    IsGreatest {t | ∃ v ∈ views, v.timestamp = t} final.timestamp ∧
    IsGreatest {p | ∃ v ∈ views, v.protocolVersion = p} final.protocolVersion ∧
    ∀ news' : List (View × Timestamp), (∀ v, v ∈ news'.map Prod.fst ↔ v ∈ news.map Prod.fst) →
      (start.mergeAll options news').Concordant final ∧
      (Consistent views → ∀ id, ((start.mergeAll options news').member? id).map Member.profile =
        (final.member? id).map Member.profile) := by
  refine ⟨fun _ => contains_mergeAll hn, fun _ _ => isGreatest_stamp hn, isGreatest_epoch start hs hc hn,
    isGreatest_timestamp start hs hc hn, isGreatest_protocolVersion options start hn, fun news' same => ?_⟩
  have hn' : ∀ n ∈ news', n.1.isEmpty = false := fun n h => by
    have ⟨n', mem, e⟩ := List.mem_map.mp <| (same n.1).mp <| List.mem_map_of_mem h
    exact e ▸ hn n' mem
  have h (v : View) : v ∈ start :: news'.map Prod.fst ↔ v ∈ start :: news.map Prod.fst := by
    simp only [List.mem_cons, same]
  exact ⟨concordant_mergeAll hs hc hn hn' h, fun consistent _ => profiles_mergeAll hn hn' h consistent⟩

-- Of two views one knows a later incarnation, and the other one more member; one comes twice.
theorem mergeAll_converges_reordered :
    let a := Member.starting "a" "c" "h:1" 7
    let start := (View.new "s" 0 0).add a
    let newer := (View.new "n" 2 0).add (a.advance 9)
    let wider := ((View.new "w" 1 0).add a).add (.starting "b" "c" "h:2" 5)
    (start.mergeAll {} [(wider, 4), (newer, 3), (wider, 0)]).Concordant
      (start.mergeAll {} [(newer, 3), (wider, 4)]) := by
  intro a start newer wider
  have ⟨_, _, _, _, _, same⟩ := mergeAll_converges {} start [(newer, 3), (wider, 4)] rfl (by decide)
    (by decide)
  exact (same [(wider, 4), (newer, 3), (wider, 0)] (by simp)).1

end GossipCluster.View
