import GossipCluster.Proofs.View.Built
import GossipCluster.Proofs.View.Merge

namespace GossipCluster.View

-- Changes of a view that may be broken off, and then leave it as it has become until there.
abbrev InPlace := ExceptT VersionVector.Fault (StateM View)

def increment (id : String) : InPlace Unit := do
  let versions ← ExceptT.mk (m := StateM View) <| pure <| (← get).versions.increment id
  modify fun v => { v with versions := versions }

def record (id : String) (now : Timestamp) : InPlace Unit := do
  increment id
  modify fun v => { v with epoch := Counter.next v.epoch }
  modify fun v => { v with timestamp := max v.timestamp now }

-- Carried out in one go: all of the change, or none of it.
def atomically (change : View → Except VersionVector.Fault View) : InPlace Unit :=
  fun v => match change v with
    | .ok w => (.ok (), w)
    | .error fault => (.error fault, v)

structure Truthful (v : View) : Prop where
  keyed     : ∀ id m, v.member? id = some m ↔ m ∈ v.members.rows ∧ m.id = id
  healthy   : v.healthy = v.members.rows.countP (·.status = .up)
  unhealthy : v.unhealthy = v.members.rows.countP (·.status ≠ .up)
  quorum    : v.quorum = if v.healthy = 0 then 0 else v.healthy / 2 + 1
  ids       : ∀ e ∈ v.versions.entries, 1 ≤ e.1.utf8ByteSize ∧ e.1.utf8ByteSize ≤ VersionVector.maxIdBytes
  counters  : ∀ e ∈ v.versions.entries, e.2 ≤ VersionVector.maxCounter

variable {v u : View} {id : String} {now : Timestamp} {fault : VersionVector.Fault}

theorem countP_up : v.members.rows.countP (·.status = .up) = v.healthyMembers.length := List.countP_eq_length_filter

theorem countP_not_up : v.members.rows.countP (·.status ≠ .up) = v.members.size - v.healthyMembers.length := by
  have all := List.length_eq_countP_add_countP (l := v.members.rows) (·.status = .up)
  rw [countP_up] at all
  simpa [Table.size] using (Nat.sub_eq_of_eq_add' all).symm

theorem Built.truthful (h : v.Built) : v.Truthful where
  keyed _ _ := member?_eq_some_iff
  healthy := h.counted.healthy.trans countP_up.symm
  unhealthy := h.counted.unhealthy.trans countP_not_up.symm
  quorum := by rw [h.counted.quorum, h.counted.healthy, quorumSize]
  ids e he := VersionVector.idFault?_eq_none_iff.mp (VersionVector.entryFault?_eq_none_iff.mp (h.faultless e he)).1
  counters e he := (VersionVector.entryFault?_eq_none_iff.mp (h.faultless e he)).2

theorem atomically_modify {change : View → Except VersionVector.Fault View} {f : View → View} :
    (do atomically change; modify f) = atomically fun v => (change v).map f := by
  funext v
  simp only [bind, ExceptT.bind, ExceptT.mk, StateT.bind, atomically]
  cases change v <;> rfl

theorem increment_eq : increment id = atomically (·.incrementVersion id) := by
  funext v
  simp only [increment, bind, ExceptT.bind, ExceptT.mk, StateT.bind, atomically, incrementVersion]
  change ExceptT.bindCont (m := StateM View) _ (v.versions.increment id) v = _
  cases v.versions.increment id <;> rfl

theorem record_eq : record id now = atomically (·.recordChange id now) := by
  rw [record, increment_eq]
  exact atomically_modify

theorem unchanged_of_error {change : View → Except VersionVector.Fault View}
    (h : atomically change v = (.error fault, u)) : change v = .error fault ∧ u = v := by
  rw [atomically] at h
  split at h
  case h_1 => cases h
  case h_2 failed =>
    obtain ⟨⟨⟩, rfl⟩ := Prod.mk.inj h
    exact ⟨failed, rfl⟩

theorem truthful_of_built (h : v.Built) :
    v.Truthful ∧
    (∀ id fault u, increment id v = (.error fault, u) → v.incrementVersion id = .error fault ∧ u = v) ∧
    ∀ id now fault u, record id now v = (.error fault, u) → v.recordChange id now = .error fault ∧ u = v := by
  refine ⟨h.truthful, fun id fault u failed => ?_, fun id now fault u failed => ?_⟩
  · rw [increment_eq] at failed
    exact unchanged_of_error failed
  · rw [record_eq] at failed
    exact unchanged_of_error failed

-- A node that cannot count any more.
theorem truthful_of_built_exhausted :
    let a := Member.starting "a" "c" "h:1" 7
    let versions : VersionVector := ⟨⟨[("a", VersionVector.maxCounter)], by decide⟩⟩
    let v := (View.ofParts "v" 4 3 [a] versions 1 2).setStatus "a" .up
    v.healthy = 1 ∧ v.unhealthy = 0 ∧ v.quorum = 1 ∧ record "a" 9 v = (.error (.exhaustedCounter "a"), v) := by
  intro a versions v
  have read : VersionVector.ofEntries [("a", VersionVector.maxCounter)] = .ok versions := by decide +kernel
  have built : v.Built := .setStatus _ _ <| .ofParts _ _ _ _ _ _ _ (.ofEntries read)
  have ⟨truthful, _, kept⟩ := truthful_of_built built
  have failed : (record "a" 9 v).1 = .error (.exhaustedCounter "a") := by decide +kernel
  have healthy : v.healthy = 1 := truthful.healthy.trans (by decide +kernel)
  have quorum : v.quorum = 1 := truthful.quorum.trans (by rw [healthy]; rfl)
  refine ⟨healthy, truthful.unhealthy.trans (by decide +kernel), quorum, ?_⟩
  exact Prod.ext failed (kept "a" 9 _ _ (Prod.ext failed rfl)).2

end GossipCluster.View
