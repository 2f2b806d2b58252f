import GossipCluster.Detection
import GossipCluster.Proofs.View.Imprints

namespace GossipCluster

-- The nanoseconds since a member was last seen, as far as a timestamp can tell; none, if that is still to come.
def Member.silence (m : Member) (now : Timestamp) : ℕ := (min (now.toInt - m.lastSeen.toInt) (2 ^ 63 - 1)).toNat

namespace Timestamp

theorem toNat_toInt_clamp {n : ℤ} : (clamp n).toInt.toNat = (min n (2 ^ 63 - 1)).toNat := by
  have low : Int64.minValue.toInt = -2 ^ 63 := rfl
  have high : Int64.maxValue.toInt = 2 ^ 63 - 1 := rfl
  rw [clamp]
  split
  case isTrue => omega
  case isFalse =>
    split
    case isTrue => omega
    case isFalse =>
      rw [Int64.toInt_ofInt_of_le (by omega) (by omega)]
      omega

theorem nanos_elapsed {m : Member} {now : Timestamp} : (elapsed now m.lastSeen).nanos = m.silence now :=
  toNat_toInt_clamp

end Timestamp

namespace Member

variable {m n : Member} {now now' : Timestamp}

theorem silence_mono (h : now ≤ now') : m.silence now ≤ m.silence now' := by
  have := Int64.le_iff_toInt_le.mp h
  rw [silence, silence]
  omega

theorem silence_anti (h : m.lastSeen ≤ n.lastSeen) : n.silence now ≤ m.silence now := by
  have := Int64.le_iff_toInt_le.mp h
  rw [silence, silence]
  omega

end Member

namespace View

variable {v : View} {i id : String} {seen : Timestamp} {n : Member}

theorem member?_of_touch (h : (v.touch i seen).member? id = some n) :
    ∃ m t, v.member? id = some m ∧ m.lastSeen ≤ t ∧ { m with lastSeen := t } = n := by
  obtain ⟨m, known, rfl⟩ := Option.map_eq_some_iff.mp (member?_touch.symm.trans h)
  split
  case isTrue => exact ⟨m, max m.lastSeen seen, known, (le_max_word ..).1, rfl⟩
  case isFalse => exact ⟨m, m.lastSeen, known, Int64.le_refl _, rfl⟩

theorem member?_touch_of_ne (ne : id ≠ i) : (v.touch i seen).member? id = v.member? id := by
  simp [member?_touch, ne]

end View

namespace Detection

-- Nobody is judged more harshly than in the other one.
structure Milder (found other : Detection) : Prop where
  remove  : ∀ id ∈ found.remove, id ∈ other.remove
  suspect : ∀ id ∈ found.suspect, id ∈ other.suspect ∨ id ∈ other.remove

end Detection

namespace Detector

variable {d : Detector} {v w : View} {selfId selfDc id : String} {now now' : Timestamp} {m : Member}
  {found found' : Detection} {i : String} {seen : Timestamp}

-- The silence that is allowed to a member, and that which is allowed to it once it is suspected.
def patience (d : Detector) (selfDc : String) (m : Member) : ℕ := (d.suspectTimeout selfDc m.datacenter).nanos

def lastPatience (d : Detector) (selfDc : String) (m : Member) : ℕ := d.patience selfDc m + d.confirmation.nanos

-- The timeouts of all members that are judged are spans of time.
def Fits (d : Detector) (v : View) (selfId selfDc : String) : Prop :=
  ∀ id m, v.member? id = some m → id ≠ selfId → d.lastPatience selfDc m < Duration.limit

-- The lists are strictly ordered, so nobody is in one of them twice.
structure Classifies (d : Detector) (v : View) (selfId selfDc : String) (now : Timestamp) (found : Detection) : Prop where
  remove_iff  : ∀ id, id ∈ found.remove ↔
    ∃ m, v.member? id = some m ∧ id ≠ selfId ∧ d.lastPatience selfDc m < m.silence now
  suspect_iff : ∀ id, id ∈ found.suspect ↔
    ∃ m, v.member? id = some m ∧ id ≠ selfId ∧ d.patience selfDc m < m.silence now ∧
      m.silence now ≤ d.lastPatience selfDc m ∧ m.status ≠ .suspect
  apart       : ∀ id ∈ found.suspect, id ∉ found.remove
  spared      : selfId ∉ found.suspect ∧ selfId ∉ found.remove
  ordered     : found.suspect.Pairwise (· < ·) ∧ found.remove.Pairwise (· < ·)

def judge (d : Detector) (selfDc : String) (now : Timestamp) (m : Member) : Detection.Verdict :=
  if d.lastPatience selfDc m < m.silence now then .remove
  else if d.patience selfDc m < m.silence now ∧ m.status ≠ .suspect then .suspect
  else .alive

theorem judge_eq_remove_iff : d.judge selfDc now m = .remove ↔ d.lastPatience selfDc m < m.silence now := by
  rw [judge]
  grind

theorem judge_eq_suspect_iff : d.judge selfDc now m = .suspect ↔ d.patience selfDc m < m.silence now ∧
    m.silence now ≤ d.lastPatience selfDc m ∧ m.status ≠ .suspect := by
  rw [judge]
  grind

theorem verdict?_eq_judge (fits : d.lastPatience selfDc m < Duration.limit) :
    d.verdict? selfDc now m = some (d.judge selfDc now m) := by
  have down : d.downTimeout? selfDc m.datacenter = some ⟨d.lastPatience selfDc m⟩ := if_pos fits
  have late (n : ℕ) : (⟨n⟩ : Duration) < Timestamp.elapsed now m.lastSeen ↔ n < m.silence now := by
    rw [← Timestamp.nanos_elapsed]
    rfl
  have patience : (d.suspectTimeout selfDc m.datacenter).nanos = d.patience selfDc m := rfl
  simp only [verdict?, down, Option.bind_eq_bind, Option.bind_some, late, patience, judge]
  split
  case isTrue => rfl
  case isFalse bearable =>
    split
    case isTrue overdue =>
      -- Only with a confirmation there is anything between the two bounds.
      have confirmed : ¬d.confirmation.isZero := fun h =>
        bearable <| by rwa [lastPatience, of_decide_eq_true h, Nat.add_zero]
      rw [if_neg confirmed]
      split
      case isTrue fresh => exact congrArg some (if_pos ⟨overdue, fresh⟩).symm
      case isFalse known => exact congrArg some (if_neg fun h => known h.2).symm
    case isFalse patient => exact congrArg some (if_neg fun h => patient h.1).symm

def others (v : View) (selfId : String) : List Member := v.members.rows.filter (·.id != selfId)

-- Who is judged in a certain way.
def judged (d : Detector) (v : View) (selfId selfDc : String) (now : Timestamp) (x : Detection.Verdict) : List String :=
  ((others v selfId).filter (d.judge selfDc now · = x)).map (·.id)

theorem verdicts_eq {members : List Member} (fits : ∀ m ∈ members, d.lastPatience selfDc m < Duration.limit) :
    members.mapM (fun m => return (m.id, ← d.verdict? selfDc now m)) =
      some (members.map fun m => (m.id, d.judge selfDc now m)) := by
  induction members with
  | nil => rfl
  | cons m members ih =>
    have ⟨here, later⟩ := List.forall_mem_cons.mp fits
    rw [List.mapM_cons, verdict?_eq_judge here, ih later]
    rfl

theorem mem_others_iff : m ∈ others v selfId ↔ v.member? m.id = some m ∧ m.id ≠ selfId := by
  simp [others, View.member?_eq_some_iff]

theorem detect?_eq (fits : d.Fits v selfId selfDc) : d.detect? v selfId selfDc now =
    some ⟨d.judged v selfId selfDc now .suspect, d.judged v selfId selfDc now .remove⟩ := by
  have each : ∀ m ∈ others v selfId, d.lastPatience selfDc m < Duration.limit := fun m hm =>
    have ⟨known, other⟩ := mem_others_iff.mp hm
    fits m.id m known other
  have having (x : Detection.Verdict) : (((others v selfId).map fun m => (m.id, d.judge selfDc now m)).filter (·.2 = x)).map
      Prod.fst = d.judged v selfId selfDc now x := by
    rw [List.filter_map, List.map_map]
    rfl
  rw [detect?, ← others, verdicts_eq each, ← having, ← having]
  rfl

theorem mem_judged_iff {x : Detection.Verdict} : id ∈ d.judged v selfId selfDc now x ↔
    ∃ m, v.member? id = some m ∧ id ≠ selfId ∧ d.judge selfDc now m = x := by
  simp only [judged, List.mem_map, List.mem_filter, mem_others_iff, decide_eq_true_eq]
  constructor
  case mp =>
    rintro ⟨m, ⟨⟨known, other⟩, judged⟩, rfl⟩
    exact ⟨m, known, other, judged⟩
  case mpr =>
    rintro ⟨m, known, other, judged⟩
    obtain rfl := View.member?_id known
    exact ⟨m, ⟨⟨known, other⟩, judged⟩, rfl⟩

theorem pairwise_judged {x : Detection.Verdict} : (d.judged v selfId selfDc now x).Pairwise (· < ·) :=
  ((v.members.sorted.filter _).filter _).map _ fun _ _ => id

theorem classifies_judged :
    d.Classifies v selfId selfDc now ⟨d.judged v selfId selfDc now .suspect, d.judged v selfId selfDc now .remove⟩ where
  remove_iff id := by simp only [mem_judged_iff, judge_eq_remove_iff]
  suspect_iff id := by simp only [mem_judged_iff, judge_eq_suspect_iff]
  apart id suspected removed := by
    obtain ⟨m, known, _, suspect⟩ := mem_judged_iff.mp suspected
    obtain ⟨n, known', _, remove⟩ := mem_judged_iff.mp removed
    obtain rfl := Option.some_inj.mp (known.symm.trans known')
    exact nomatch suspect.symm.trans remove
  spared := by simp [mem_judged_iff]
  ordered := ⟨pairwise_judged, pairwise_judged⟩

namespace Classifies

-- Nobody is judged more mildly for a longer silence.
theorem milder (h : d.Classifies v selfId selfDc now found) (h' : d.Classifies w selfId selfDc now' found')
    (quieter : ∀ id m, v.member? id = some m → ∃ n, w.member? id = some n ∧
      n.datacenter = m.datacenter ∧ n.status = m.status ∧ m.silence now ≤ n.silence now') : found.Milder found' where
  remove id removed := by
    obtain ⟨m, known, other, late⟩ := (h.remove_iff id).mp removed
    obtain ⟨n, known', dc, _, le⟩ := quieter id m known
    rw [lastPatience, patience, ← dc] at late
    exact (h'.remove_iff id).mpr ⟨n, known', other, late.trans_le le⟩
  suspect id suspected := by
    obtain ⟨m, known, other, late, _, fresh⟩ := (h.suspect_iff id).mp suspected
    obtain ⟨n, known', dc, same, le⟩ := quieter id m known
    rw [patience, ← dc] at late
    rcases le_or_gt (n.silence now') (d.lastPatience selfDc n) with bearable | exceeded
    · exact .inl <| (h'.suspect_iff id).mpr ⟨n, known', other, late.trans_le le, bearable, same ▸ fresh⟩
    · exact .inr <| (h'.remove_iff id).mpr ⟨n, known', other, exceeded⟩

theorem milder_of_le (h : d.Classifies v selfId selfDc now found) (h' : d.Classifies v selfId selfDc now' found')
    (le : now ≤ now') : found.Milder found' :=
  h.milder h' fun _ m known => ⟨m, known, rfl, rfl, Member.silence_mono le⟩

-- A sign of life of one member, whether it is known or not.
theorem milder_of_touch (h : d.Classifies v selfId selfDc now found)
    (h' : d.Classifies (v.touch i seen) selfId selfDc now found') : found'.Milder found := by
  refine h'.milder h fun id n touched => ?_
  obtain ⟨m, t, known, le, rfl⟩ := View.member?_of_touch touched
  exact ⟨m, known, rfl, rfl, Member.silence_anti le⟩

theorem same_of_touch (h : d.Classifies v selfId selfDc now found)
    (h' : d.Classifies (v.touch i seen) selfId selfDc now found') (ne : id ≠ i) :
    (id ∈ found'.remove ↔ id ∈ found.remove) ∧ (id ∈ found'.suspect ↔ id ∈ found.suspect) := by
  rw [h.remove_iff, h'.remove_iff, h.suspect_iff, h'.suspect_iff, View.member?_touch_of_ne ne]
  exact ⟨.rfl, .rfl⟩

end Classifies

theorem fits_touch (fits : d.Fits v selfId selfDc) : d.Fits (v.touch i seen) selfId selfDc := by
  intro id n touched other
  obtain ⟨m, t, known, _, rfl⟩ := View.member?_of_touch touched
  exact fits id m known other

theorem classifies_of_detect? (fits : d.Fits v selfId selfDc) (detected : d.detect? v selfId selfDc now = some found) :
    d.Classifies v selfId selfDc now found := by
  obtain rfl := Option.some_inj.mp ((detect?_eq fits).symm.trans detected)
  exact classifies_judged

theorem detect?_classifies (fits : d.Fits v selfId selfDc) :
    (∀ now, ∃ found, d.detect? v selfId selfDc now = some found ∧ d.Classifies v selfId selfDc now found) ∧
    (∀ now now' found found', now ≤ now' → d.detect? v selfId selfDc now = some found →
      d.detect? v selfId selfDc now' = some found' → found.Milder found') ∧
    ∀ now id seen found, d.detect? v selfId selfDc now = some found →
      ∃ found', d.detect? (v.touch id seen) selfId selfDc now = some found' ∧ found'.Milder found ∧
        ∀ other ≠ id, (other ∈ found'.remove ↔ other ∈ found.remove) ∧ (other ∈ found'.suspect ↔ other ∈ found.suspect) := by
  refine ⟨fun now => ⟨_, detect?_eq fits, classifies_judged⟩, ?_, ?_⟩
  case refine_1 =>
    intro now now' found found' le detected detected'
    exact (classifies_of_detect? fits detected).milder_of_le (classifies_of_detect? fits detected') le
  case refine_2 =>
    intro now id seen found detected
    have before := classifies_of_detect? fits detected
    exact ⟨_, detect?_eq (fits_touch fits), before.milder_of_touch classifies_judged,
      fun other ne => before.same_of_touch classifies_judged ne⟩

-- A member next door is removed as soon as one in another datacenter is suspected; it would have been heard of in
-- the last moment.
theorem detect?_classifies_of_three :
    let d : Detector := ⟨⟨200⟩, ⟨400⟩, ⟨300⟩⟩
    let v := (((View.new "v" 0 0).add (.starting "a" "c" "h:1" 0)).add (.starting "b" "c" "h:2" 0)).add
      { Member.starting "f" "c" "h:3" 99 with labels := .ofList [("datacenter", "eu")] }
    d.Fits v "a" Member.defaultDatacenter ∧
    d.detect? v "a" Member.defaultDatacenter 500 = some ⟨["b", "f"], []⟩ ∧
    d.detect? v "a" Member.defaultDatacenter 501 = some ⟨["f"], ["b"]⟩ ∧
    d.detect? (v.touch "b" 301) "a" Member.defaultDatacenter 501 = some ⟨["f"], []⟩ ∧
    d.Classifies v "a" Member.defaultDatacenter 500 ⟨["b", "f"], []⟩ ∧
    Detection.Milder ⟨["b", "f"], []⟩ ⟨["f"], ["b"]⟩ := by
  intro d v
  have fits : d.Fits v "a" Member.defaultDatacenter := by
    intro id m _ _
    rw [lastPatience, patience, suspectTimeout]
    split <;> decide
  have early : d.detect? v "a" Member.defaultDatacenter 500 = some ⟨["b", "f"], []⟩ := by decide +kernel
  have late : d.detect? v "a" Member.defaultDatacenter 501 = some ⟨["f"], ["b"]⟩ := by decide +kernel
  obtain ⟨classified, harsher, _⟩ := detect?_classifies fits
  obtain ⟨found, detected, classifies⟩ := classified 500
  obtain rfl := Option.some_inj.mp (early.symm.trans detected)
  exact ⟨fits, early, late, by decide +kernel, classifies, harsher 500 501 _ _ (by decide) early late⟩

end Detector

end GossipCluster
