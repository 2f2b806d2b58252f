import GossipCluster.Config.Validation
import GossipCluster.Document.Read
import GossipCluster.Toml.Reader
import GossipCluster.Toml.Writer

namespace GossipCluster.Config

open Document (Read)
open Text (Fault)

def nodeOf : Read Node := .record 3 fun f =>
  let base : Node := {}
  Node.mk
    <$> f.get 0 "id" .string base.id
    <*> f.get 1 "address" .string base.address
    <*> f.get 2 "labels" (.dict .string) base.labels

def discoveryOf : Read Discovery := .record 7 fun f =>
  let base : Discovery := {}
  Discovery.mk
    <$> f.get 0 "seeds" (.list .string) base.seeds
    <*> f.get 1 "datacenter_seeds" (.dict (.list .string)) base.datacenterSeeds
    <*> f.get 2 "interval" .duration base.interval
    <*> f.get 3 "cross_dc_interval" .duration base.crossInterval
    <*> f.get 4 "max_targets_per_tick" .size base.maxTargets
    <*> f.get 5 "max_cross_dc_targets_per_tick" .size base.maxCrossTargets
    <*> f.get 6 "peer_version_ttl" .duration base.peerVersionTtl

def failureOf : Read FailureDetection := .record 6 fun f =>
  let base : FailureDetection := {}
  FailureDetection.mk
    <$> f.get 0 "timeout" .duration base.timeout
    <*> f.get 1 "cross_dc_timeout" (.optional .duration) base.crossTimeout
    <*> f.get 2 "cross_dc_multiplier" .float base.crossMultiplier
    <*> f.get 3 "suspect_confirmation" (.optional .duration) base.confirmation
    <*> f.get 4 "interval" .duration base.interval
    <*> f.get 5 "recovery_seed_count" .size base.recoverySeeds

def membershipOf : Read Membership := .record 7 fun f =>
  let base : Membership := {}
  Membership.mk
    <$> f.get 0 "quorum_strategy" (.choice QuorumStrategy.ofName?) base.strategy
    <*> f.get 1 "required_datacenters" (.list .string) base.requiredDatacenters
    <*> f.get 2 "min_protocol_version" .version base.minProtocol
    <*> f.get 3 "max_protocol_version" .version base.maxProtocol
    <*> f.get 4 "max_version_vector_entries" .size base.maxVectorEntries
    <*> f.get 5 "max_clock_skew" (.optional .duration) base.maxClockSkew
    <*> f.get 6 "concurrent_merge" (.choice ConcurrentMerge.ofName?) base.concurrentMerge

def securityOf : Read Security := .record 4 fun f =>
  let base : Security := {}
  Security.mk
    <$> f.get 0 "join_secret" (.optional .string) base.joinSecret
    <*> f.get 1 "admin_secret" (.optional .string) base.adminSecret
    <*> f.get 2 "allowed_addresses" (.list .string) base.allowedAddresses
    <*> f.get 3 "allowed_datacenters" (.list .string) base.allowedDatacenters

def rateLimitOf : Read RateLimit := .record 5 fun f =>
  let base : RateLimit := {}
  RateLimit.mk
    <$> f.get 0 "join_rate" .float base.joinRate
    <*> f.get 1 "join_burst" .burst base.joinBurst
    <*> f.get 2 "join_max_entries" .size base.joinMaxEntries
    <*> f.get 3 "gossip_rate" .float base.gossipRate
    <*> f.get 4 "gossip_burst" .burst base.gossipBurst

def joinOf : Read Join := .record 5 fun f =>
  let base : Join := {}
  Join.mk
    <$> f.get 0 "request_timeout" .duration base.requestTimeout
    <*> f.get 1 "retry_initial_delay" .duration base.retryInitial
    <*> f.get 2 "retry_max_delay" .duration base.retryMax
    <*> f.get 3 "retry_multiplier" .float base.retryMultiplier
    <*> f.get 4 "retry_jitter" .bool base.retryJitter

def ofDocument : Read Config := .record 9 fun f =>
  Config.mk
    <$> f.get 0 "enabled" .bool true
    <*> f.get 1 "cluster_name" .string ({} : Config).clusterName
    <*> f.get 2 "node" nodeOf {}
    <*> f.get 3 "discovery" discoveryOf {}
    <*> f.get 4 "failure" failureOf {}
    <*> f.get 5 "membership" membershipOf {}
    <*> f.get 6 "security" securityOf {}
    <*> f.get 7 "rate_limit" rateLimitOf {}
    <*> f.get 8 "join" joinOf {}

def strings (l : List String) : Document := .list (l.map .string)

def span (d : Duration) : Document := .string d.toHuman

-- A field that is left out when it has no value.
def optionalSpan (name : String) : Option Duration → List (String × Document)
  | some d => [(name, span d)]
  | none => []

def Node.toDocument (n : Node) : Document := .table [
  ("id", .string n.id), ("address", .string n.address),
  ("labels", .table (n.labels.rows.map fun (k, v) => (k, .string v)))]

def Discovery.toDocument (d : Discovery) : Document := .table [
  ("seeds", strings d.seeds),
  ("datacenter_seeds", .table (d.datacenterSeeds.rows.map fun (k, v) => (k, strings v))),
  ("interval", span d.interval), ("cross_dc_interval", span d.crossInterval),
  ("max_targets_per_tick", .integer d.maxTargets),
  ("max_cross_dc_targets_per_tick", .integer d.maxCrossTargets),
  ("peer_version_ttl", span d.peerVersionTtl)]

def FailureDetection.toDocument (f : FailureDetection) : Document := .table <|
  [("timeout", span f.timeout)] ++ optionalSpan "cross_dc_timeout" f.crossTimeout ++
  [("cross_dc_multiplier", .float f.crossMultiplier)] ++
  optionalSpan "suspect_confirmation" f.confirmation ++
  [("interval", span f.interval), ("recovery_seed_count", .integer f.recoverySeeds)]

def Membership.toDocument (m : Membership) : Document := .table <|
  [("quorum_strategy", .string m.strategy.name),
    ("required_datacenters", strings m.requiredDatacenters),
    ("min_protocol_version", .integer m.minProtocol.toNat),
    ("max_protocol_version", .integer m.maxProtocol.toNat),
    ("max_version_vector_entries", .integer m.maxVectorEntries)] ++
  optionalSpan "max_clock_skew" m.maxClockSkew ++
  [("concurrent_merge", .string m.concurrentMerge.name)]

def Security.toDocument (s : Security) : Document := .table [
  ("join_secret", .optional .string s.joinSecret), ("admin_secret", .optional .string s.adminSecret),
  ("allowed_addresses", strings s.allowedAddresses),
  ("allowed_datacenters", strings s.allowedDatacenters)]

def RateLimit.toDocument (r : RateLimit) : Document := .table [
  ("join_rate", .float r.joinRate), ("join_burst", .integer r.joinBurst),
  ("join_max_entries", .integer r.joinMaxEntries), ("gossip_rate", .float r.gossipRate),
  ("gossip_burst", .integer r.gossipBurst)]

def Join.toDocument (j : Join) : Document := .table [
  ("request_timeout", span j.requestTimeout), ("retry_initial_delay", span j.retryInitial),
  ("retry_max_delay", span j.retryMax), ("retry_multiplier", .float j.retryMultiplier),
  ("retry_jitter", .bool j.retryJitter)]

def toDocument (c : Config) : Document := .table [
  ("enabled", .bool c.enabled), ("cluster_name", .string c.clusterName),
  ("node", c.node.toDocument), ("discovery", c.discovery.toDocument),
  ("failure", c.failure.toDocument), ("membership", c.membership.toDocument),
  ("security", c.security.toDocument), ("rate_limit", c.rateLimit.toDocument),
  ("join", c.join.toDocument)]

-- A configuration with one of its sections as it is by default.
def resetSection (c : Config) (name : String) : Config :=
  match name with
  | "node" => { c with node := {} }
  | "discovery" => { c with discovery := {} }
  | "failure" => { c with failure := {} }
  | "membership" => { c with membership := {} }
  | "security" => { c with security := {} }
  | "rate_limit" => { c with rateLimit := {} }
  | "join" => { c with join := {} }
  | _ => c

def fileError (message : String) : Error := .configuration "file" message

-- The configuration that a text stands for; nothing, if a span in it overflows.
def ofToml (text : String) : Except Error (Option Config) :=
  match Fault.need (Toml.read? text) >>= ofDocument Document.toml with
  | .ok c => c.validated.map some
  | .error .overflow => .ok none
  | .error .malformed => .error (fileError "not a configuration in TOML")

-- Nothing, if there is a text that the writer cannot survey.
def toToml (c : Config) : Except Error (Option String) :=
  match Toml.write? c.toDocument with
  | some text => .ok (if c.toDocument.everyString Toml.isSurveyable then some text else none)
  | none => .error (fileError "a number is too large for TOML")

-- Reads what a file holds, if it can be read.
def ofFile (text : Option String) : Except Error (Option Config) :=
  match text with
  | some text => ofToml text
  | none => .error (fileError "cannot read the file")

end GossipCluster.Config
