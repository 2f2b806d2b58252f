import GossipCluster.Counter
import GossipCluster.Error
import GossipCluster.Member.Status
import GossipCluster.Table
import GossipCluster.Timestamp

namespace GossipCluster

-- A member as the others see it. `generation` tells the runs of one id apart, `clock` counts the changes within a run,
-- and `timestamp` breaks the remaining ties.
@[ext]
structure Member where
  id         : String
  cluster    : String
  address    : String
  generation : UInt64
  clock      : UInt64
  timestamp  : Timestamp
  status     : Status
  lastSeen   : Timestamp
  labels     : Dict String
  state      : Dict String
deriving DecidableEq, Repr, Inhabited

namespace Member

def maxAddressBytes : Nat := 256

-- The datacenter of members that name none.
def defaultDatacenter : String := "_default"

def starting (id cluster address : String) (now : Timestamp) : Member where
  id         := id
  cluster    := cluster
  address    := address
  generation := 1
  clock      := 1
  timestamp  := now
  status     := .joining
  lastSeen   := now
  labels     := ∅
  state      := ∅

-- Logical clocks are compared only within one id.
def Newer (a b : Member) : Prop :=
  if a.generation ≠ b.generation then a.generation > b.generation
  else if a.id = b.id ∧ a.clock ≠ b.clock then a.clock > b.clock
  else a.timestamp > b.timestamp

instance : DecidableRel Newer := fun a b => by unfold Newer; infer_instance

-- Records a change that the member itself has made.
def advance (m : Member) (now : Timestamp) : Member :=
  { m with clock := Counter.next m.clock, timestamp := max m.timestamp now }

-- Moves past an incarnation of the same member that the cluster already knows.
def supersede (m prior : Member) (now : Timestamp) : Except Error Member :=
  match Counter.next? (max m.generation prior.generation), Counter.next? (max m.clock prior.clock) with
  | some generation, some clock =>
    .ok { m with generation := generation, clock := clock, timestamp := max now prior.timestamp }
  | _, _ =>
    .error <| .internal <| "incarnation of " ++ prior.id ++ " cannot move past generation " ++
      toString prior.generation ++ " clock " ++ toString prior.clock

def isDeparting (m : Member) : Bool := m.status.isDeparting

def label? (m : Member) (name : String) : Option String := m.labels.get? name

def datacenter (m : Member) : String :=
  match m.label? "datacenter" with
  | some dc => if dc = "" then defaultDatacenter else dc
  | none => defaultDatacenter

def region? (m : Member) : Option String := (m.label? "region").filter (· != "")

def rack? (m : Member) : Option String := m.label? "rack"

def zone? (m : Member) : Option String := m.label? "zone"

end Member

-- The members of a cluster by id.
abbrev Roster := Table Member.id

end GossipCluster
