import GossipCluster.Member.Basic
import GossipCluster.VersionVector

namespace GossipCluster

-- Half of the healthy members and one more; none of none.
def quorumSize (healthy : Nat) : Nat := if healthy = 0 then 0 else healthy / 2 + 1

@[ext]
-- What one node knows of its cluster. The counts follow from the members and are brought up to date with every change of
-- them.
structure View where
  id              : String
  epoch           : UInt64
  timestamp       : Timestamp
  members         : Roster
  healthy         : Nat
  unhealthy       : Nat
  quorum          : Nat
  versions        : VersionVector
  protocolVersion : UInt16
  vectorBound     : Nat
deriving DecidableEq, Repr, Inhabited

namespace View

def currentProtocolVersion : UInt16 := 1

def memberIds (v : View) : List String := v.members.keys

def member? (v : View) (id : String) : Option Member := v.members.find? id

def memberAt? (v : View) (address : String) : Option Member :=
  v.members.rows.find? (·.address == address)

def contains (v : View) (id : String) : Bool := v.members.contains id

def size (v : View) : Nat := v.members.size

def isEmpty (v : View) : Bool := v.members.isEmpty

def healthyMembers (v : View) : List Member := v.members.rows.filter (·.status.isHealthy)

-- Counts the members anew and, under a bound, drops vector entries beyond it or of no member.
def refresh (v : View) : View :=
  let healthy := v.healthyMembers.length
  { v with
    healthy   := healthy
    unhealthy := v.members.size - healthy
    quorum    := quorumSize healthy
    versions  := if v.vectorBound = 0 then v.versions else v.versions.prune v.memberIds v.vectorBound }

def ofParts (id : String) (epoch : UInt64) (timestamp : Timestamp) (members : List Member)
    (versions : VersionVector) (protocolVersion : UInt16) (vectorBound : Nat) : View :=
  refresh {
    id, epoch, timestamp, versions, protocolVersion, vectorBound
    members := .ofList members, healthy := 0, unhealthy := 0, quorum := 0 }

def new (id : String) (now : Timestamp) (vectorBound : Nat) : View where
  id              := id
  epoch           := 0
  timestamp       := now
  members         := ∅
  healthy         := 0
  unhealthy       := 0
  quorum          := 0
  versions        := .empty
  protocolVersion := currentProtocolVersion
  vectorBound     := vectorBound

-- The view with a member added, unless it knows one of the same id that is at least as new.
def add? (v : View) (m : Member) : Option View :=
  if (v.member? m.id).any (¬ m.Newer ·) then none
  else some <| refresh { v with members := v.members.insert m }

def add (v : View) (m : Member) : View := (v.add? m).getD v

def remove? (v : View) (id : String) : Option (Member × View) :=
  (v.member? id).map fun m => (m, refresh { v with members := v.members.erase id })

def remove (v : View) (id : String) : View := ((v.remove? id).map Prod.snd).getD v

-- Gives a member a new status and leaves its incarnation as it is, so that the change stays within
-- this view; nothing if the member is unknown or has the status already.
def setStatus? (v : View) (id : String) (status : Status) : Option View :=
  if (v.member? id).any (·.status ≠ status) then
    some <| refresh { v with
      members := v.members.modify id ({ · with status := status }) (fun _ => rfl) }
  else none

def setStatus (v : View) (id : String) (status : Status) : View := (v.setStatus? id status).getD v

def touch (v : View) (id : String) (now : Timestamp) : View :=
  { v with members :=
      v.members.modify id (fun m => { m with lastSeen := max m.lastSeen now }) (fun _ => rfl) }

def incrementVersion (v : View) (id : String) : Except VersionVector.Fault View :=
  (v.versions.increment id).map ({ v with versions := · })

-- A change that this node has made itself: a new event of it, and a new epoch.
def recordChange (v : View) (id : String) (now : Timestamp) : Except VersionVector.Fault View :=
  (v.incrementVersion id).map fun w =>
    { w with epoch := Counter.next w.epoch, timestamp := max w.timestamp now }

end View

end GossipCluster
