import GossipCluster.Address.Allowlist
import GossipCluster.Config.Basic

namespace GossipCluster.Config

def require (condition : Bool) (component message : String) : Except Error Unit :=
  if condition then .ok () else .error (.configuration component message)

def isHostPort (address : String) : Bool := address.toList.contains ':'

def Discovery.validate (d : Discovery) : Except Error Unit := do
  require (!d.interval.isZero) "discovery.interval" "must be greater than zero"
  require (d.maxCrossTargets = 0 || !d.crossInterval.isZero) "discovery.cross_dc_interval"
    "must be greater than zero when cross-DC fan-out is enabled"
  match (d.seeds ++ d.datacenterSeeds.values.flatten).find? (!isHostPort ·) with
  | some seed => .error <| .configuration "discovery.seeds" ("seed '" ++ seed ++ "' must be host:port")
  | none => .ok ()

def FailureDetection.validate (f : FailureDetection) : Except Error Unit := do
  require (!f.timeout.isZero) "failure.timeout" "must be greater than zero"
  require (!f.interval.isZero) "failure.interval" "must be greater than zero"
  require (f.crossMultiplier.isFinite && f.crossMultiplier ≥ 1) "failure.cross_dc_multiplier"
    "must be a finite value >= 1.0"

def Membership.validate (m : Membership) : Except Error Unit := do
  require (m.minProtocol ≤ m.maxProtocol) "membership.min_protocol_version"
    ("min " ++ toString m.minProtocol ++ " exceeds max " ++ toString m.maxProtocol)
  require (0 < m.maxVectorEntries && m.maxVectorEntries ≤ VersionVector.maxEntries)
    "membership.max_version_vector_entries" "must be between 1 and 65535"

def Security.validate (s : Security) : Except Error Unit :=
  discard <| AddressAllowlist.parse s.allowedAddresses

def RateLimit.validate (r : RateLimit) : Except Error Unit := do
  require (r.joinRate.isFinite && r.gossipRate.isFinite) "rate_limit" "rates must be finite numbers"
  require (!(r.joinRate > 0 && r.joinBurst = 0)) "rate_limit.join_burst"
    "must be at least 1 when join rate limiting is enabled"
  require (0 < r.joinMaxEntries) "rate_limit.join_max_entries" "must be at least 1"

def Join.validate (j : Join) : Except Error Unit := do
  require (!j.retryInitial.isZero) "join.retry_initial_delay" "must be greater than zero"
  require (j.retryInitial ≤ j.retryMax) "join.retry_max_delay"
    "must not be smaller than retry_initial_delay"
  require (j.retryMultiplier.isFinite && j.retryMultiplier ≥ 1) "join.retry_multiplier"
    "must be a finite value >= 1.0"

def validate (c : Config) : Except Error Unit := do
  require (c.clusterName != "") "cluster_name" "cannot be empty"
  require (isHostPort c.node.address) "node.address" ("'" ++ c.node.address ++ "' must be host:port")
  require (c.node.address.utf8ByteSize ≤ Member.maxAddressBytes) "node.address" "address too long"
  c.discovery.validate
  c.failure.validate
  c.membership.validate
  c.security.validate
  c.rateLimit.validate
  c.join.validate

def validated (c : Config) : Except Error Config := c.validate.map fun _ => c

end GossipCluster.Config
