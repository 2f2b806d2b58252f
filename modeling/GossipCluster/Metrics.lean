import GossipCluster.Number.Binary64
import GossipCluster.Quorum

namespace GossipCluster

inductive Series
  | members
  | healthyMembers
  | unhealthyMembers
  | quorumSize
  | inQuorum
  | datacenterHealthy (datacenter : String)
  | gossipSent
  | gossipLimited
  | joinRejected (reason : String)
  | membersRemoved
deriving DecidableEq, Repr, Inhabited

namespace Series

-- The name of a series, and what tells it from others of that name.
def text : Series → String
  | members => "cluster_members\x7b\x7d"
  | healthyMembers => "cluster_members_healthy\x7b\x7d"
  | unhealthyMembers => "cluster_members_unhealthy\x7b\x7d"
  | quorumSize => "cluster_quorum_size\x7b\x7d"
  | inQuorum => "cluster_quorum_in_quorum\x7b\x7d"
  | datacenterHealthy dc => "cluster_datacenter_healthy\x7bdatacenter=" ++ dc ++ "\x7d"
  | gossipSent => "cluster_gossip_sent_total\x7b\x7d"
  | gossipLimited => "cluster_gossip_rate_limited_total\x7b\x7d"
  | joinRejected reason => "cluster_join_rejected_total\x7breason=" ++ reason ++ "\x7d"
  | membersRemoved => "cluster_members_removed_total\x7b\x7d"

end Series

-- A gauge is reported by its changes, so that their sum is the present value.
structure Change where
  series : Series
  amount : Int
deriving DecidableEq, Repr, Inhabited

namespace Change

def total (changes : List Change) (s : Series) : Int :=
  (changes.filter (·.series = s)).foldl (· + ·.amount) 0

-- The series that have moved, by their text. Totals are shown as floats hold them.
def samples (changes : List Change) : Dict Int :=
  let all : Dict Int := .ofList <|
    changes.map fun c => (c.series.text, Binary64.nearestInt (total changes c.series))
  all.filter (·.2 ≠ 0)

end Change

-- What a node has reported last of its view.
structure Meter where
  members     : Nat := 0
  healthy     : Nat := 0
  unhealthy   : Nat := 0
  quorum      : Nat := 0
  inQuorum    : Bool := false
  datacenters : Dict DatacenterHealth := ∅
deriving DecidableEq, Repr, Inhabited

namespace Meter

def ofView (v : View) (inQuorum : Bool) : Meter :=
  ⟨v.size, v.healthy, v.unhealthy, v.quorum, inQuorum, v.datacenterHealth⟩

def healthyIn (m : Meter) (datacenter : String) : Nat :=
  ((m.datacenters.get? datacenter).map (·.healthy)).getD 0

def reading (m : Meter) : Series → Nat
  | .members => m.members
  | .healthyMembers => m.healthy
  | .unhealthyMembers => m.unhealthy
  | .quorumSize => m.quorum
  | .inQuorum => m.inQuorum.toNat
  | .datacenterHealthy dc => m.healthyIn dc
  | _ => 0

-- The gauges that have a reading now or had one before.
def gauges (before now : Meter) : List Series :=
  [.members, .healthyMembers, .unhealthyMembers, .quorumSize, .inQuorum] ++
    now.datacenters.keys.map .datacenterHealthy ++
    (before.datacenters.keys.filter (! now.datacenters.contains ·)).map .datacenterHealthy

-- Gauges that stand still are not reported.
def changes (before now : Meter) : List Change :=
  ((gauges before now).map fun s => ⟨s, (now.reading s : Int) - before.reading s⟩).filter
    (·.amount ≠ 0)

def record (m : Meter) (v : View) (inQuorum : Bool) : List Change × Meter :=
  let now := ofView v inQuorum
  (changes m now, now)

end Meter

-- Metrics are set up once in a program.
def Metrics.install (installed : Bool) : Except Error Unit :=
  if installed then .error (.internal "metrics already initialized") else .ok ()

end GossipCluster
