import GossipCluster.Config.Validation

namespace GossipCluster

-- The variables by name.
abbrev Environment := Dict String

namespace Environment

-- The variables that have a meaning.
def names : List String :=
  ["MESHWORK_ADMIN_SECRET", "MESHWORK_ALLOWED_ADDRESSES", "MESHWORK_ALLOWED_DATACENTERS",
   "MESHWORK_CLUSTER_NAME", "MESHWORK_CROSS_DC_INTERVAL_MS", "MESHWORK_DATACENTER",
   "MESHWORK_DISCOVERY_INTERVAL_MS", "MESHWORK_ENABLED", "MESHWORK_FAILURE_INTERVAL_MS",
   "MESHWORK_FAILURE_TIMEOUT_MS", "MESHWORK_JOIN_RETRY_INITIAL_MS", "MESHWORK_JOIN_RETRY_MAX_MS",
   "MESHWORK_JOIN_SECRET", "MESHWORK_MAX_TARGETS_PER_TICK", "MESHWORK_NODE_ADDRESS",
   "MESHWORK_NODE_ID", "MESHWORK_QUORUM_STRATEGY", "MESHWORK_REGION", "MESHWORK_REQUEST_TIMEOUT_MS",
   "MESHWORK_REQUIRED_DATACENTERS", "MESHWORK_SEEDS", "MESHWORK_SUSPECT_CONFIRMATION_MS"]

-- A number of milliseconds; anything else is as good as nothing.
def span (env : Environment) (name : String) (default : Duration) : Duration :=
  ((env.get? name >>= Text.natural? UInt64.size).map .ofMillis).getD default

-- Items between commas, without the blanks around them and without empty ones.
def list? (env : Environment) (name : String) : Option (List String) :=
  (env.get? name).map fun s =>
    (((s.splitOn ",").map Text.trim)).filter (· != "")

def integer (env : Environment) (name component : String) (default : α) (read : Nat → α) :
    Except Error α :=
  match env.get? name with
  | none => .ok default
  | some s => match Text.natural? UInt64.size s with
    | some n => .ok (read n)
    | none => .error (.configuration component "not an integer")

def bool? : String → Option Bool
  | "true" => some true
  | "false" => some false
  | _ => none

def enabled (env : Environment) (default : Bool) : Except Error Bool :=
  match env.get? "MESHWORK_ENABLED" with
  | none => .ok default
  | some s => match bool? s with
    | some b => .ok b
    | none => .error (.configuration "enabled" "MESHWORK_ENABLED must be true or false")

def node (env : Environment) : Config.Node :=
  let base : Config.Node := {}
  let label (name key : String) (labels : Dict String) : Dict String :=
    match env.get? key with
    | some value => labels.put name value
    | none => labels
  { id      := (env.get? "MESHWORK_NODE_ID").getD base.id
    address := (env.get? "MESHWORK_NODE_ADDRESS").getD base.address
    labels  := label "region" "MESHWORK_REGION" (label "datacenter" "MESHWORK_DATACENTER" base.labels) }

def discovery (env : Environment) : Except Error Config.Discovery := do
  let base : Config.Discovery := {}
  return { base with
    seeds         := (env.list? "MESHWORK_SEEDS").getD base.seeds
    interval      := env.span "MESHWORK_DISCOVERY_INTERVAL_MS" base.interval
    crossInterval := env.span "MESHWORK_CROSS_DC_INTERVAL_MS" base.crossInterval
    maxTargets    :=
      ← env.integer "MESHWORK_MAX_TARGETS_PER_TICK" "discovery.max_targets_per_tick" base.maxTargets id }

def failure (env : Environment) : Except Error Config.FailureDetection := do
  let base : Config.FailureDetection := {}
  return { base with
    timeout      := env.span "MESHWORK_FAILURE_TIMEOUT_MS" base.timeout
    interval     := env.span "MESHWORK_FAILURE_INTERVAL_MS" base.interval
    confirmation :=
      ← env.integer "MESHWORK_SUSPECT_CONFIRMATION_MS" "failure.suspect_confirmation" base.confirmation
        (some ∘ Duration.ofMillis) }

def membership (env : Environment) : Except Error Config.Membership := do
  let base : Config.Membership := {}
  let strategy ← match env.get? "MESHWORK_QUORUM_STRATEGY" with
    | some s => QuorumStrategy.parse s
    | none => .ok base.strategy
  return { base with
    strategy            := strategy
    requiredDatacenters :=
      (env.list? "MESHWORK_REQUIRED_DATACENTERS").getD base.requiredDatacenters }

def security (env : Environment) : Config.Security :=
  let base : Config.Security := {}
  { joinSecret         := env.get? "MESHWORK_JOIN_SECRET"
    adminSecret        := env.get? "MESHWORK_ADMIN_SECRET"
    allowedAddresses   := (env.list? "MESHWORK_ALLOWED_ADDRESSES").getD base.allowedAddresses
    allowedDatacenters := (env.list? "MESHWORK_ALLOWED_DATACENTERS").getD base.allowedDatacenters }

def join (env : Environment) : Config.Join :=
  let base : Config.Join := {}
  { base with
    requestTimeout := env.span "MESHWORK_REQUEST_TIMEOUT_MS" base.requestTimeout
    retryInitial   := env.span "MESHWORK_JOIN_RETRY_INITIAL_MS" base.retryInitial
    retryMax       := env.span "MESHWORK_JOIN_RETRY_MAX_MS" base.retryMax }

end Environment

def Config.ofEnvironment (env : Environment) : Except Error Config := do
  let base : Config := {}
  let config : Config := { base with
    enabled     := ← env.enabled base.enabled
    clusterName := (env.get? "MESHWORK_CLUSTER_NAME").getD base.clusterName
    node        := env.node
    discovery   := ← env.discovery
    failure     := ← env.failure
    membership  := ← env.membership
    security    := env.security
    join        := env.join }
  config.validated

end GossipCluster
