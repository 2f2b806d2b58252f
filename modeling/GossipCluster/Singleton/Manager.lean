import GossipCluster.Event.Basic
import GossipCluster.Singleton.Proxy

namespace GossipCluster

-- The names of all singletons, and of those that have been started, both in order.
structure Manager where
  names   : List String
  running : List String := []
deriving DecidableEq, Repr, Inhabited

namespace Manager

-- Each singleton once.
def new (singletons : List String) : Manager :=
  let names : Dict Unit := .ofList (singletons.map (·, ()))
  { names := names.keys }

inductive Order
  | start (name : String)
  | stop (name : String)
deriving DecidableEq, Repr

-- A singleton whose path is taken is not started.
def reconcile (m : Manager) (free : String → Bool) (isLeader inQuorum : Bool) : Manager × List Order :=
  if isLeader && inQuorum then
    let started := m.names.filter fun name => !m.running.contains name && free name
    let running := m.names.filter fun name => m.running.contains name || started.contains name
    ({ m with running := running }, started.map .start)
  else ({ m with running := [] }, m.running.map .stop)

-- Only news of the leader count.
def observe (m : Manager) (free : String → Bool) : Event → Manager × List Order
  | .leaderChanged _ isSelf inQuorum => m.reconcile free isSelf inQuorum
  | _ => (m, [])

end Manager

end GossipCluster
