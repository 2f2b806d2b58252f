import GossipCluster.Message.Basic
import GossipCluster.Text.Hex
import GossipCluster.View.Document

namespace GossipCluster

namespace RejectKind

def name : RejectKind → String
  | clusterDisabled => "ClusterDisabled"
  | nameMismatch => "NameMismatch"
  | statusMismatch => "NodeStatusMismatch"
  | joinAuthFailed => "JoinAuthFailed"
  | joinRateLimited => "JoinRateLimited"
  | joinNotAllowed => "JoinNotAllowed"
  | notInQuorum => "NotInQuorum"
  | protocolMismatch => "ProtocolVersionMismatch"
  | adminAuthFailed => "AdminAuthFailed"
  | other => "Other"

end RejectKind

def Rejection.toDocument (r : Rejection) : Document := .table [
  ("kind", .integer r.kind.toByte.toNat), ("kind_name", .string r.kind.name),
  ("params", .list (r.params.map .string)), ("message", .string r.message)]

namespace Message

def fields (view : View → Document) : Message → List (String × Document)
  | joinRequest member token => [("state", member.toDocument), ("auth_token", .string token)]
  | joinResponse v => [("view", view v)]
  | gossip v => [("view", view v)]
  | viewResponse v inQuorum leader =>
    [("view", view v), ("in_quorum", .bool inQuorum), ("leader_address", .optional .string leader)]
  | forceDown nodeId token => [("node_id", .string nodeId), ("admin_token", .string token)]
  | triggerBroadcast token => [("admin_token", .string token)]
  | updateState state => [("custom_state", .texts state)]
  | rejected r => [("rejection", r.toDocument)]
  | user payload => [("hex", .string (Text.Hex.encode payload))]
  | viewRequest | leaveRequest | leaveAck | adminAck => []

def toDocument (view : View → Document) (m : Message) : Document :=
  .table (("type", .string m.name) :: m.fields view)

end Message

end GossipCluster
