import GossipCluster.View.Basic

namespace GossipCluster

inductive QuorumStrategy
  | globalMajority
  | majorityDatacenters
  | everyDatacenter
deriving DecidableEq, Repr, Inhabited

namespace QuorumStrategy

def all : List QuorumStrategy := [globalMajority, majorityDatacenters, everyDatacenter]

def name : QuorumStrategy → String
  | globalMajority => "global_majority"
  | majorityDatacenters => "majority_datacenters"
  | everyDatacenter => "at_least_one_per_datacenter"

def ofName? (s : String) : Option QuorumStrategy := all.find? (·.name == s)

def parse (s : String) : Except Error QuorumStrategy :=
  match ofName? s with
  | some q => .ok q
  | none => .error (.configuration "membership.quorum_strategy" ("unknown strategy '" ++ s ++ "'"))

end QuorumStrategy

structure DatacenterHealth where
  healthy : Nat
  total   : Nat
deriving DecidableEq, Repr, Inhabited

def DatacenterHealth.isHealthy (h : DatacenterHealth) : Bool := 0 < h.healthy

namespace View

def datacenterHealth (v : View) : Dict DatacenterHealth :=
  v.members.rows.foldl count ∅
where
  count (d : Dict DatacenterHealth) (m : Member) : Dict DatacenterHealth :=
    let h := (d.get? m.datacenter).getD ⟨0, 0⟩
    d.put m.datacenter ⟨h.healthy + if m.status.isHealthy then 1 else 0, h.total + 1⟩

-- The smallest address among the healthy members: nodes with equal views agree on it.
def leader? (v : View) : Option String :=
  ((v.healthyMembers.map (·.address)).filter (· != "")).foldl lesser none
where
  lesser (least : Option String) (a : String) : Option String :=
    match least with
    | some b => if a < b then some a else some b
    | none => some a

end View

-- What a strategy counts, in members or in datacenters, and how much of it a quorum needs.
structure Tally where
  healthy  : Nat
  required : Nat
deriving DecidableEq, Repr

structure QuorumRule where
  strategy : QuorumStrategy
  required : List String
deriving DecidableEq, Repr, Inhabited

namespace QuorumRule

def new (strategy : QuorumStrategy) (required : List String) : QuorumRule where
  strategy := strategy
  required := required.map fun dc => if dc = "" then Member.defaultDatacenter else dc

def tally (rule : QuorumRule) (v : View) : Tally :=
  let health := v.datacenterHealth
  let participating := (health.values.filter (·.isHealthy)).length
  match rule.strategy with
  | .globalMajority => ⟨v.healthy, quorumSize v.size⟩
  | .majorityDatacenters => ⟨participating, (health.size + 1) / 2⟩
  | .everyDatacenter => ⟨participating, health.size⟩

def satisfied (rule : QuorumRule) (v : View) : Bool :=
  let tally := rule.tally v
  0 < v.healthy && tally.required ≤ tally.healthy &&
    rule.required.all fun dc => (v.datacenterHealth.get? dc).any (·.isHealthy)

end QuorumRule

end GossipCluster
