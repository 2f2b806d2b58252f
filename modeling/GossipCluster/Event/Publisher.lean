import GossipCluster.Event.Basic
import GossipCluster.Quorum

namespace GossipCluster

-- What was last said of quorum, leader and datacenters, so that each change is said once.
structure Publisher where
  inQuorum    : Option Bool := none
  leader      : Option (Option String) := none
  datacenters : Dict DatacenterHealth := ∅
deriving DecidableEq, Repr, Inhabited

namespace Publisher

def announceQuorum (p : Publisher) (inQuorum : Bool) : Option Event × Publisher :=
  let event :=
    if p.inQuorum = some inQuorum then none
    else if inQuorum then some .quorumReached
    else some .quorumLost
  (event, { p with inQuorum := inQuorum })

-- A leader is announced again when the quorum has changed.
def announceLeader (p : Publisher) (leader : Option String) (self : String)
    (inQuorum quorumChanged : Bool) : Option Event × Publisher :=
  if p.leader = some leader && !quorumChanged then (none, p)
  else (some (.leaderChanged leader (leader = some self) inQuorum), { p with leader := some leader })

-- A datacenter that has vanished is announced with no members.
def announceDatacenters (p : Publisher) (current : Dict DatacenterHealth) :
    List Event × Publisher :=
  let changed := current.rows.filter fun (dc, health) => p.datacenters.get? dc ≠ some health
  let vanished := p.datacenters.keys.filter (! current.contains ·)
  (changed.map (fun (dc, health) => .datacenterHealthChanged dc health.healthy health.total) ++
      vanished.map (.datacenterHealthChanged · 0 0),
    { p with datacenters := current })

end Publisher

end GossipCluster
