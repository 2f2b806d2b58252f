import GossipCluster.Duration.Text

namespace GossipCluster

inductive Error
  | clusterDisabled
  | nameMismatch (expected actual : String)
  | statusMismatch (nodeId expected actual : String)
  | joinAuthFailed (nodeId : String)
  | joinRateLimited (address : String)
  | joinNotAllowed (reason : String)
  | notInQuorum (healthy required : UInt64)
  | protocolMismatch (version min max : UInt16)
  | adminAuthFailed (operation : String)
  | versionVector (message : String)
  | codec (context message : String)
  | configuration (component message : String)
  | timeout (operation : String) (duration : Duration)
  | transport (target message : String)
  | actorNotFound (path : String)
  | unexpectedResponse (operation message : String)
  | internal (message : String)
deriving DecidableEq, Repr, Inhabited

namespace Error

-- The name of the cause.
def kind : Error → String
  | clusterDisabled => "ClusterDisabled"
  | nameMismatch .. => "NameMismatch"
  | statusMismatch .. => "NodeStatusMismatch"
  | joinAuthFailed _ => "JoinAuthFailed"
  | joinRateLimited _ => "JoinRateLimited"
  | joinNotAllowed _ => "JoinNotAllowed"
  | notInQuorum .. => "NotInQuorum"
  | protocolMismatch .. => "ProtocolVersionMismatch"
  | adminAuthFailed _ => "AdminAuthFailed"
  | versionVector _ => "InvalidVersionVector"
  | codec .. => "Codec"
  | configuration .. => "ConfigurationError"
  | timeout .. => "Timeout"
  | transport .. => "Transport"
  | actorNotFound _ => "ActorNotFound"
  | unexpectedResponse .. => "UnexpectedResponse"
  | internal _ => "Internal"

def message : Error → String
  | clusterDisabled => "Clustering is disabled on this node"
  | nameMismatch expected actual =>
    "Cluster name mismatch: expected '" ++ expected ++ "', got '" ++ actual ++ "'"
  | statusMismatch nodeId expected actual =>
    "Node " ++ nodeId ++ " has status " ++ actual ++ ", expected " ++ expected
  | joinAuthFailed nodeId => "Join authentication failed for node " ++ nodeId
  | joinRateLimited address => "Join rate limited for address " ++ address
  | joinNotAllowed reason => "Join not allowed: " ++ reason
  | notInQuorum healthy required =>
    "Node is not in quorum: " ++ toString healthy ++ " healthy of " ++ toString required ++ " required"
  | protocolMismatch version min max =>
    "Protocol version " ++ toString version ++ " outside accepted range [" ++ toString min ++ ", " ++
      toString max ++ "]"
  | adminAuthFailed operation => "Admin authentication failed for " ++ operation
  | versionVector message => "Invalid version vector: " ++ message
  | codec context message => "Codec error while decoding " ++ context ++ ": " ++ message
  | configuration component message => "Configuration error in " ++ component ++ ": " ++ message
  | timeout operation duration => "Operation '" ++ operation ++ "' timed out after " ++ duration.text
  | transport target message => "Transport error sending to " ++ target ++ ": " ++ message
  | actorNotFound path => "No actor registered at " ++ path
  | unexpectedResponse operation message =>
    "Unexpected response to " ++ operation ++ ": " ++ message
  | internal message => "Internal error: " ++ message

-- Whether the same operation may succeed when it is tried again later.
def isTransient : Error → Bool
  | timeout .. | transport .. | actorNotFound .. | joinRateLimited .. | notInQuorum .. => true
  | _ => false

end Error

end GossipCluster
