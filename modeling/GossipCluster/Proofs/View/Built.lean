import GossipCluster.View.Merge
import GossipCluster.Proofs.VersionVector.Order

namespace GossipCluster

namespace VersionVector

inductive Built : VersionVector → Prop
  | empty : Built .empty
  | ofEntries {entries v} : ofEntries entries = .ok v → Built v
  | increment {v w id} : Built v → v.increment id = .ok w → Built w
  | merge {v w} : Built v → Built w → Built (v.merge w)
  | restrict {v} (ids) : Built v → Built (v.restrict ids)
  | prune {v} (ids bound) : Built v → Built (v.prune ids bound)

def Faultless (v : VersionVector) : Prop := ∀ e ∈ v.entries, entryFault? e = none

variable {v w : VersionVector} {entries : List (String × Nat)} {id : String}

theorem entryFault?_eq_none_iff {e : String × Nat} :
    entryFault? e = none ↔ idFault? e.1 = none ∧ e.2 ≤ maxCounter := by
  simp [entryFault?]

-- Nothing is dropped or changed when the entries are free of faults and few enough.
theorem ofEntries_eq_ok (h : ∀ e ∈ entries, entryFault? e = none)
    (hs : (.ofList entries : Dict Nat).size ≤ maxEntries) :
    ofEntries entries = .ok ⟨.ofList entries⟩ := by
  have all : entries.takeWhile (entryFault? · |>.isNone) = entries :=
    List.takeWhile_eq_self_iff.mpr fun e he => by simp [h e he]
  have none : entries.findSome? entryFault? = none := List.findSome?_eq_none_iff.mpr h
  simp [ofEntries, all, none, Nat.not_lt.mpr hs]

theorem mem_ofList {α : Type} {key : α → String} {a : α} {l : List α}
    (h : a ∈ (.ofList l : Table key).rows) : a ∈ l :=
  List.mem_mergeSort.mp <| Table.mem_lastOfEach h

theorem faultless_ofEntries (h : ofEntries entries = .ok v) : v.Faultless := by
  rw [ofEntries] at h
  split at h
  case isTrue => contradiction
  case isFalse =>
    split at h
    case h_1 => contradiction
    case h_2 none =>
      injection h with h
      subst h
      intro e he
      have := List.mem_takeWhile_imp <| mem_ofList he
      simpa using this

theorem faultless_increment (hv : v.Faultless) (h : v.increment id = .ok w) : w.Faultless := by
  obtain ⟨free, room, counted⟩ := increment_eq_ok_iff.mp h
  intro e he
  rw [entries, counted] at he
  rcases Table.mem_insert_iff.mp he with rfl | ⟨he, _⟩
  · exact entryFault?_eq_none_iff.mpr ⟨free, room⟩
  · exact hv e he

theorem faultless_merge (hv : v.Faultless) (hw : w.Faultless) : (v.merge w).Faultless := by
  intro e he
  rcases Table.mem_mergeRows he with m | m | ⟨a, ha, b, hb, _, rfl⟩
  · exact hv e m
  · exact hw e m
  · have ⟨free, la⟩ := entryFault?_eq_none_iff.mp <| hv a ha
    have ⟨_, lb⟩ := entryFault?_eq_none_iff.mp <| hw b hb
    exact entryFault?_eq_none_iff.mpr ⟨free, Nat.max_le.mpr ⟨la, lb⟩⟩

theorem faultless_restrict (hv : v.Faultless) (ids : List String) : (v.restrict ids).Faultless :=
  fun e he => hv e (Table.mem_filter_iff.mp he).1

theorem faultless_prune (hv : v.Faultless) (ids : List String) (bound : Nat) :
    (v.prune ids bound).Faultless :=
  fun e he => faultless_restrict hv ids e (List.mem_of_mem_take he)

theorem Built.faultless (h : v.Built) : v.Faultless := by
  induction h with
  | empty => simp [Faultless, entries, VersionVector.empty]; exact fun _ _ h => nomatch h
  | ofEntries h => exact faultless_ofEntries h
  | increment _ h ih => exact faultless_increment ih h
  | merge _ _ ihv ihw => exact faultless_merge ihv ihw
  | restrict ids _ ih => exact faultless_restrict ih ids
  | prune ids bound _ ih => exact faultless_prune ih ids bound

end VersionVector

namespace View

-- Everything that can be done with a view, with the fields that anyone may set.
inductive Built : View → Prop
  | new (id now bound) : Built (.new id now bound)
  | ofParts (id epoch timestamp members versions protocolVersion bound) :
      versions.Built → Built (.ofParts id epoch timestamp members versions protocolVersion bound)
  | add {v} (m) : Built v → Built (v.add m)
  | remove {v} (id) : Built v → Built (v.remove id)
  | setStatus {v} (id status) : Built v → Built (v.setStatus id status)
  | touch {v} (id now) : Built v → Built (v.touch id now)
  | merge {v other} (options now) : Built v → Built other → Built (v.merge other options now).1
  | incrementVersion {v w id} : Built v → v.incrementVersion id = .ok w → Built w
  | recordChange {v w id now} : Built v → v.recordChange id now = .ok w → Built w
  | fields {v} (id epoch timestamp protocolVersion vectorBound) :
      Built v → Built { v with id, epoch, timestamp, protocolVersion, vectorBound }

structure Counted (v : View) : Prop where
  healthy   : v.healthy = v.healthyMembers.length
  unhealthy : v.unhealthy = v.members.size - v.healthyMembers.length
  quorum    : v.quorum = quorumSize v.healthyMembers.length

variable {v w other : View} {id : String} {now : Timestamp} {status : Status} {m : Member}
  {options : MergeOptions}

theorem add_eq : v.add m = v ∨ v.add m = refresh { v with members := v.members.insert m } := by
  rw [add, add?]
  split <;> simp

theorem remove_eq :
    v.remove id = v ∨ v.remove id = refresh { v with members := v.members.erase id } := by
  rw [remove, remove?]
  cases v.member? id <;> simp

theorem setStatus_eq : v.setStatus id status = v ∨
    v.setStatus id status = refresh { v with
      members := v.members.modify id ({ · with status := status }) (fun _ => rfl) } := by
  rw [setStatus, setStatus?]
  split <;> simp

theorem incrementVersion_eq (h : v.incrementVersion id = .ok w) :
    ∃ versions, v.versions.increment id = .ok versions ∧ w = { v with versions := versions } := by
  rw [incrementVersion] at h
  cases hv : v.versions.increment id with
  | error => simp [hv, Except.map] at h
  | ok versions => simp only [hv, Except.map, Except.ok.injEq] at h; exact ⟨_, rfl, h.symm⟩

theorem recordChange_eq (h : v.recordChange id now = .ok w) :
    ∃ versions, v.versions.increment id = .ok versions ∧
      w = { v with
        versions := versions, epoch := Counter.next v.epoch, timestamp := max v.timestamp now } := by
  rw [recordChange] at h
  cases hv : v.incrementVersion id with
  | error => simp [hv, Except.map] at h
  | ok u =>
    have ⟨versions, hi, hu⟩ := incrementVersion_eq hv
    simp only [hv, Except.map, Except.ok.injEq] at h
    exact ⟨versions, hi, by rw [← h, hu]⟩

theorem counted_refresh : (refresh v).Counted := ⟨rfl, rfl, rfl⟩

theorem healthyMembers_touch : (v.touch id now).healthyMembers.length = v.healthyMembers.length := by
  simp only [healthyMembers, touch, Table.modify, Table.map, List.filter_map, List.length_map]
  congr 2
  funext m
  simp only [Function.comp]
  split <;> rfl

theorem counted_touch (h : v.Counted) : (v.touch id now).Counted := by
  have size : (v.touch id now).members.size = v.members.size := by
    simp [touch, Table.size, Table.modify, Table.map]
  constructor <;> rw [healthyMembers_touch]
  case healthy => exact h.healthy
  case unhealthy => exact size ▸ h.unhealthy
  case quorum => exact h.quorum

theorem counted_merge (h : v.Counted) : (v.merge other options now).1.Counted := by
  rw [merge]
  split
  case isTrue => exact h
  case isFalse => exact ⟨rfl, rfl, rfl⟩

theorem counted_merge_of_known (ho : other.isEmpty = false) : (v.merge other options now).1.Counted := by
  rw [merge, if_neg (by simp [ho])]
  exact ⟨rfl, rfl, rfl⟩

theorem Built.counted (h : v.Built) : v.Counted := by
  induction h with
  | new => exact ⟨rfl, rfl, rfl⟩
  | ofParts => exact counted_refresh
  | add m _ ih => exact add_eq.elim (· ▸ ih) (· ▸ counted_refresh)
  | remove id _ ih => exact remove_eq.elim (· ▸ ih) (· ▸ counted_refresh)
  | setStatus id s _ ih => exact setStatus_eq.elim (· ▸ ih) (· ▸ counted_refresh)
  | touch id now _ ih => exact counted_touch ih
  | merge options now _ _ ih => exact counted_merge ih
  | incrementVersion _ h ih => have ⟨_, _, e⟩ := incrementVersion_eq h; exact e ▸ ⟨ih.1, ih.2, ih.3⟩
  | recordChange _ h ih => have ⟨_, _, e⟩ := recordChange_eq h; exact e ▸ ⟨ih.1, ih.2, ih.3⟩
  | fields _ _ _ _ _ _ ih => exact ⟨ih.1, ih.2, ih.3⟩

theorem versions_refresh_faultless (h : v.versions.Faultless) : (refresh v).versions.Faultless := by
  simp only [refresh]
  split
  case isTrue => exact h
  case isFalse => exact VersionVector.faultless_prune h _ _

theorem versions_merge_faultless (hv : v.versions.Faultless) (ho : other.versions.Faultless) :
    (v.merge other options now).1.versions.Faultless := by
  rw [merge]
  split
  case isTrue => exact hv
  case isFalse => exact versions_refresh_faultless <| VersionVector.faultless_merge hv ho

theorem Built.faultless (h : v.Built) : v.versions.Faultless := by
  have refreshed {u w : View} (hu : u.versions.Faultless) (e : w = u ∨ ∃ members,
      w = refresh { u with members := members }) : w.versions.Faultless := by
    rcases e with e | ⟨members, e⟩
    · exact e ▸ hu
    · exact e ▸ versions_refresh_faultless hu
  induction h with
  | new => exact VersionVector.Built.empty.faultless
  | ofParts _ _ _ _ _ _ _ h => exact versions_refresh_faultless h.faultless
  | add m _ ih => exact refreshed ih <| add_eq.imp_right (⟨_, ·⟩)
  | remove id _ ih => exact refreshed ih <| remove_eq.imp_right (⟨_, ·⟩)
  | setStatus id s _ ih => exact refreshed ih <| setStatus_eq.imp_right (⟨_, ·⟩)
  | touch id now _ ih => exact ih
  | merge options now _ _ ih ih' => exact versions_merge_faultless ih ih'
  | incrementVersion _ h ih =>
    have ⟨_, hi, e⟩ := incrementVersion_eq h
    exact e ▸ VersionVector.faultless_increment ih hi
  | recordChange _ h ih =>
    have ⟨_, hi, e⟩ := recordChange_eq h
    exact e ▸ VersionVector.faultless_increment ih hi
  | fields _ _ _ _ _ _ ih => exact ih

end View

end GossipCluster
