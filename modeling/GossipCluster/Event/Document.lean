import GossipCluster.Event.Basic
import GossipCluster.Document.Basic

namespace GossipCluster.Event

def kind : Event → String
  | membersChanged .. => "members_changed"
  | viewChanged _ => "view_changed"
  | quorumLost => "quorum_lost"
  | quorumReached => "quorum_reached"
  | leaderChanged .. => "leader_changed"
  | datacenterHealthChanged .. => "datacenter_health_changed"
  | leaveCompleted _ => "leave_completed"

def ids (members : List Member) : Document := .list (members.map (.string ·.id))

def fields : Event → List (String × Document)
  | membersChanged members added removed =>
    [("members", ids members), ("added", ids added), ("removed", ids removed)]
  | viewChanged view => [("epoch", .integer view.epoch.toNat), ("members", .integer view.size)]
  | leaderChanged leader isSelf inQuorum =>
    [("leader", .optional .string leader), ("i_am_leader", .bool isSelf),
      ("in_quorum", .bool inQuorum)]
  | datacenterHealthChanged datacenter healthy total =>
    [("datacenter", .string datacenter), ("healthy", .integer healthy), ("total", .integer total)]
  | leaveCompleted nodeId => [("node_id", .string nodeId)]
  | quorumLost | quorumReached => []

def toDocument (e : Event) : Document := .table (("event", .string e.kind) :: e.fields)

end GossipCluster.Event
