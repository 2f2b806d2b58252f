import GossipCluster.Config.Basic
import GossipCluster.Random

namespace GossipCluster

structure Seed where
  address    : String
  datacenter : Option String
deriving DecidableEq, Repr, Inhabited

-- Seeds are configured, or found out while the node runs.
structure Seeds where
  configured : List Seed
  resolved   : List Seed := []
deriving DecidableEq, Repr, Inhabited

namespace Seeds

def ofLists (seeds : List String) (datacenterSeeds : Dict (List String)) : Seeds where
  configured :=
    seeds.map (⟨·, none⟩) ++
      datacenterSeeds.rows.flatMap fun (dc, addresses) => addresses.map (⟨·, some dc⟩)

def ofConfig (c : Config.Discovery) : Seeds := ofLists c.seeds c.datacenterSeeds

-- Keeps the earlier result when a resolution has failed.
def refresh (s : Seeds) (result : Option (List Seed)) : Seeds :=
  { s with resolved := result.getD s.resolved }

-- Each address once, with the datacenter under which it stands first.
def all (s : Seeds) : List Seed :=
  (s.configured ++ s.resolved).foldl
    (fun seen seed => if seen.any (·.address == seed.address) then seen else seen ++ [seed]) []

def addresses (s : Seeds) : List String := s.all.map (·.address)

def split (s : Seeds) (datacenter : String) : List Seed × List Seed :=
  s.all.partition (·.datacenter == some datacenter)

-- Seeds of the own datacenter come first; within the two groups the order is random.
def forJoin (s : Seeds) (datacenter : String) : Random (List String) := do
  let (near, far) := s.split datacenter
  return ((← Random.shuffle near) ++ (← Random.shuffle far)).map (·.address)

-- A node that has no seeds, or is one, starts a cluster of its own.
def isBootstrap (s : Seeds) (self : String) : Bool :=
  s.all.isEmpty || s.all.any (·.address == self)

end Seeds

end GossipCluster
