import GossipCluster.Metrics
import GossipCluster.Proofs.View.Quorum

namespace GossipCluster

namespace Change

variable {l l' : List Change} {c : Change} {s : Series} {ss : List Series}

theorem total_eq_sum : total l s = ((l.filter (·.series = s)).map (·.amount)).sum := by
  rw [total, List.sum_eq_foldl, List.foldl_map]

theorem total_append : total (l ++ l') s = total l s + total l' s := by
  simp only [total_eq_sum, List.filter_append, List.map_append, List.sum_append]

theorem total_cons : total (c :: l) s = (if c.series = s then c.amount else 0) + total l s := by
  by_cases h : c.series = s <;> simp [total_eq_sum, h]

-- Changes by nothing may be left out.
theorem total_filter_ne_zero : total (l.filter (·.amount ≠ 0)) s = total l s := by
  induction l with
  | nil => rfl
  | cons c l ih =>
    rw [List.filter_cons, total_cons, ← ih]
    split
    case isTrue => rw [total_cons]
    case isFalse still =>
      have still : c.amount = 0 := by simpa using still
      simp [still]

-- Of each series one change is listed.
theorem total_map (nodup : ss.Nodup) (amount : Series → ℤ) :
    total (ss.map fun s => ⟨s, amount s⟩) s = if s ∈ ss then amount s else 0 := by
  induction ss with
  | nil => rfl
  | cons a ss ih =>
    have ⟨fresh, nodup⟩ := List.nodup_cons.mp nodup
    rw [List.map_cons, total_cons, ih nodup]
    by_cases here : a = s
    case pos =>
      subst here
      simp [fresh]
    case neg =>
      simp [here, Ne.symm here]

end Change

namespace Meter

open Change

-- What is reported when several views are recorded one after the other.
def recordAll (m : Meter) : List (View × Bool) → List Change × Meter
  | [] => ([], m)
  | (v, inQuorum) :: calls =>
    let (told, m) := m.record v inQuorum
    let (more, m) := recordAll m calls
    (told ++ more, m)

-- All that is known from the changes alone agrees with the view.
structure Shows (told : List Change) (v : View) (inQuorum : Bool) : Prop where
  members    : total told .members = v.size
  healthy    : total told .healthyMembers = v.healthy
  unhealthy  : total told .unhealthyMembers = v.unhealthy
  quorum     : total told .quorumSize = v.quorum
  inQuorum   : total told .inQuorum = if inQuorum then 1 else 0
  datacenter : ∀ dc, total told (.datacenterHealthy dc) =
    v.members.rows.countP fun m => m.status = .up ∧ m.datacenter = dc
  deserted   : ∀ dc, (∀ m ∈ v.members.rows, m.datacenter ≠ dc) → total told (.datacenterHealthy dc) = 0

variable {m before now : Meter} {v : View} {inQuorum : Bool} {calls : List (View × Bool)} {s : Series} {dc : String}

theorem nodup_gauges : (gauges before now).Nodup := by
  have injective : Function.Injective Series.datacenterHealthy := fun _ _ => Series.datacenterHealthy.inj
  rw [gauges, List.append_assoc, ← List.map_append]
  refine List.nodup_append.mpr ⟨by decide, List.Nodup.map injective ?_, ?_⟩
  case refine_1 =>
    refine List.nodup_append.mpr ⟨Table.nodup_keys, Table.nodup_keys.filter _, ?_⟩
    rintro dc here _ gone rfl
    have gone := (List.mem_filter.mp gone).2
    simp [Table.contains_iff_mem_keys.mpr here] at gone
  case refine_2 =>
    intro s plain _ dc e
    obtain ⟨_, _, rfl⟩ := List.mem_map.mp dc
    simp [e] at plain

theorem datacenterHealthy_mem_gauges_iff :
    .datacenterHealthy dc ∈ gauges before now ↔ dc ∈ now.datacenters.keys ∨ dc ∈ before.datacenters.keys := by
  simp only [gauges, List.mem_append, List.mem_map, List.mem_filter, Series.datacenterHealthy.injEq, exists_eq_right]
  by_cases known : now.datacenters.contains dc
  case pos =>
    have listed := Table.contains_iff_mem_keys.mp known
    simp [listed]
  case neg =>
    have unlisted := mt Table.contains_iff_mem_keys.mpr known
    simp [unlisted, known]

theorem healthyIn_of_not_mem (h : dc ∉ m.datacenters.keys) : m.healthyIn dc = 0 := by
  have unknown : m.datacenters.get? dc = none := by
    rw [Dict.mem_keys_iff_get?] at h
    exact Option.eq_none_iff_forall_not_mem.mpr fun v found => h ⟨v, found⟩
  rw [healthyIn, unknown]
  rfl

-- What is no gauge, or one of a datacenter that nobody knows, stands at zero.
theorem reading_of_not_mem (h : s ∉ gauges before now) : before.reading s = 0 ∧ now.reading s = 0 := by
  cases s with
  | datacenterHealthy dc =>
    rw [datacenterHealthy_mem_gauges_iff, not_or] at h
    exact ⟨healthyIn_of_not_mem h.2, healthyIn_of_not_mem h.1⟩
  | members | healthyMembers | unhealthyMembers | quorumSize | inQuorum => simp [gauges] at h
  | gossipSent | gossipLimited | joinRejected | membersRemoved => exact ⟨rfl, rfl⟩

theorem total_changes : total (changes before now) s = (now.reading s : ℤ) - before.reading s := by
  rw [changes, total_filter_ne_zero, total_map nodup_gauges]
  split
  case isTrue => rfl
  case isFalse h =>
    have ⟨before, now⟩ := reading_of_not_mem h
    rw [before, now]
    rfl

theorem total_recordAll : total (m.recordAll calls).1 s = ((m.recordAll calls).2.reading s : ℤ) - m.reading s := by
  induction calls generalizing m with
  | nil => simp [recordAll, total]
  | cons call calls ih =>
    -- The reading in between is added by this step and taken away again by the next.
    have step : total (m.record call.1 call.2).1 s = ((ofView call.1 call.2).reading s : ℤ) - m.reading s := total_changes
    simp only [recordAll, total_append, ih, step]
    simp only [record]
    omega

theorem recordAll_concat : (m.recordAll (calls ++ [(v, inQuorum)])).2 = ofView v inQuorum := by
  induction calls generalizing m with
  | nil => rfl
  | cons call calls ih => exact ih

theorem healthyIn_ofView : (ofView v inQuorum).healthyIn dc =
    v.members.rows.countP fun m => m.status = .up ∧ m.datacenter = dc := by
  have counted : (DatacenterHealth.ofMembers v.members.rows dc).healthy =
      v.members.rows.countP fun m => m.status = .up ∧ m.datacenter = dc := by
    rw [DatacenterHealth.ofMembers, Member.datacenters, Member.up, List.count, List.countP_map, List.countP_filter]
    refine List.countP_congr fun m _ => ?_
    simp [and_comm]
  rw [← counted, healthyIn, ofView, View.get?_datacenterHealth]
  split
  case isTrue => rfl
  case isFalse h => rw [DatacenterHealth.ofMembers_of_not_mem h]; rfl

theorem total_recorded (calls : List (View × Bool)) (v : View) (inQuorum : Bool) :
    Shows (recordAll {} (calls ++ [(v, inQuorum)])).1 v inQuorum := by
  have totals (s : Series) : total (recordAll {} (calls ++ [(v, inQuorum)])).1 s = (ofView v inQuorum).reading s := by
    have fresh : Meter.reading {} s = 0 := by cases s <;> rfl
    rw [total_recordAll, recordAll_concat, fresh, Nat.cast_zero, sub_zero]
  have datacenter (dc : String) : total (recordAll {} (calls ++ [(v, inQuorum)])).1 (.datacenterHealthy dc) =
      v.members.rows.countP fun m => m.status = .up ∧ m.datacenter = dc := by
    rw [totals, reading, healthyIn_ofView]
  exact {
    members    := totals .members
    healthy    := totals .healthyMembers
    unhealthy  := totals .unhealthyMembers
    quorum     := totals .quorumSize
    inQuorum   := by rw [totals]; cases inQuorum <;> rfl
    datacenter := datacenter
    deserted   := fun dc nobody => by
      rw [datacenter, Nat.cast_eq_zero, List.countP_eq_zero]
      intro m hm here
      exact nobody m hm (of_decide_eq_true here).2 }

-- The only datacenter falls to zero, is left by its last member and comes back.
example :
    let member (status : Status) : Member := {
      Member.starting "a" "c" "a:1" 0 with status := status, labels := .ofList [("datacenter", "eu")] }
    let empty := View.new "v" 0 0
    let calls := [(empty.add (member .up), true), (empty.add (member .suspect), false), (empty, false),
      (empty.add (member .up), true)]
    let told := (recordAll {} calls).1
    ((told.filter (·.series = .datacenterHealthy "eu")).map (·.amount) = [1, -1, 1]) ∧
      ((told.filter (·.series = .members)).map (·.amount) = [1, -1, 1]) := by
  decide +kernel

end Meter

end GossipCluster
