import GossipCluster.Message.Rejection
import GossipCluster.View.Basic

namespace GossipCluster

inductive Message
  | joinRequest (member : Member) (token : String)
  | joinResponse (view : View)
  | gossip (view : View)
  | viewRequest
  | viewResponse (view : View) (inQuorum : Bool) (leader : Option String)
  | leaveRequest
  | leaveAck
  | forceDown (nodeId token : String)
  | triggerBroadcast (token : String)
  | adminAck
  | updateState (state : Dict String)
  | rejected (rejection : Rejection)
  | user (payload : List UInt8)
deriving DecidableEq, Repr, Inhabited

namespace Message

def name : Message → String
  | joinRequest .. => "join_request"
  | joinResponse .. => "join_response"
  | gossip .. => "gossip"
  | viewRequest => "get_view_request"
  | viewResponse .. => "get_view_response"
  | leaveRequest => "leave_request"
  | leaveAck => "leave_ack"
  | forceDown .. => "force_member_down"
  | triggerBroadcast .. => "trigger_view_broadcast"
  | adminAck => "admin_ack"
  | updateState .. => "update_node_state"
  | rejected .. => "rejected"
  | user .. => "user"

def ofError (e : Error) : Message := rejected (.ofError e)

-- A rejection stands for the error that it carries.
def toExcept : Message → Except Error Message
  | rejected r => .error r.toError
  | m => .ok m

end Message

end GossipCluster
