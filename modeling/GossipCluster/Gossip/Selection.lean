import GossipCluster.Seeds

namespace GossipCluster

-- A peer, by its id if it is a member already.
structure Target where
  address : String
  nodeId  : Option String
deriving DecidableEq, Repr, Inhabited

structure Candidate where
  target     : Target
  datacenter : Option String
  region     : Option String
deriving DecidableEq, Repr

structure Selector where
  maxTargets      : Nat
  maxCrossTargets : Nat
deriving DecidableEq, Repr, Inhabited

-- Members on their way out, or without an address, are left alone.
def Member.isGossipable (m : Member) : Bool :=
  !(m.status matches .down | .exiting | .removed) && m.address != ""

namespace Selector

-- Rounds cannot be unbounded: no limit means the usual one.
def new (maxTargets maxCrossTargets : Nat) : Selector :=
  ⟨if maxTargets = 0 then ({} : Config.Discovery).maxTargets else maxTargets, maxCrossTargets⟩

def gossipable (v : View) (self : Member) : List Member :=
  v.members.rows.filter fun m => m.id != self.id && m.isGossipable

-- Members by id and then seeds, each address once and never the own one.
def candidates (v : View) (self : Member) (seeds : List Seed) : List Candidate :=
  let members := (gossipable v self).map fun m =>
    (⟨⟨m.address, some m.id⟩, some m.datacenter, m.region?⟩ : Candidate)
  let seeds := seeds.map fun s => (⟨⟨s.address, none⟩, s.datacenter, none⟩ : Candidate)
  (members ++ seeds).foldl add []
where
  add (seen : List Candidate) (c : Candidate) : List Candidate :=
    if c.target.address = self.address || seen.any (·.target.address == c.target.address) then seen
    else seen ++ [c]

-- Same region and datacenter, same region, same datacenter, all others.
def tier (self : Member) (c : Candidate) : Nat :=
  let sameDc := c.datacenter = some self.datacenter
  let sameRegion := self.region?.isSome ∧ c.region = self.region?
  if sameRegion then (if sameDc then 0 else 1) else (if sameDc then 2 else 3)

-- Takes tier after tier in random order until there are enough.
def fill (max : Nat) : List (List Target) → List Target → Random (List Target)
  | [], chosen => return chosen.take max
  | tier :: tiers, chosen => do
    let chosen := chosen ++ (← Random.shuffle tier)
    if chosen.length ≥ max then return chosen.take max else fill max tiers chosen

-- Room is made for as many targets as there may be: 48 bytes for each of them, and less than 2^63 for
-- all.
def maxRoom : Nat := 9223372036854775807 / 48

-- Nothing, if there is no room for the targets.
def select (s : Selector) (v : View) (self : Member) (seeds : List Seed) :
    Random (Option (List Target)) :=
  let candidates := candidates v self seeds
  let tiers := (List.range 4).map fun i =>
    (candidates.filter (tier self · = i)).map (·.target)
  if maxRoom < s.maxTargets then return none else some <$> fill s.maxTargets tiers []

def remote (v : View) (self : Member) : List Target :=
  ((gossipable v self).filter (·.datacenter != self.datacenter)).map fun m => ⟨m.address, some m.id⟩

-- Members of other datacenters; none, if no round goes there.
def selectRemote (s : Selector) (v : View) (self : Member) : Random (List Target) := do
  if s.maxCrossTargets = 0 then return []
  else return (← Random.shuffle (remote v self)).take s.maxCrossTargets

end Selector

end GossipCluster
