import GossipCluster.Backoff
import GossipCluster.Config.Validation
import GossipCluster.Detection
import GossipCluster.Endpoint
import GossipCluster.Event.Publisher
import GossipCluster.Gossip.PeerVersions
import GossipCluster.Gossip.Selection
import GossipCluster.Message.Basic
import GossipCluster.Metrics
import GossipCluster.RateLimit.Limiter
import GossipCluster.Token

namespace GossipCluster

-- Work that a node does again and again, or once more after a failed join.
inductive Tick
  | gossip
  | crossGossip
  | failureDetection
  | joinRetry
deriving DecidableEq, Repr, Inhabited

namespace Tick

def all : List Tick := [gossip, crossGossip, failureDetection, joinRetry]

def name : Tick → String
  | gossip => "gossip"
  | crossGossip => "cross-dc-gossip"
  | failureDetection => "failure-detection"
  | joinRetry => "join-retry"

def ofName? (s : String) : Option Tick := all.find? (·.name == s)

-- A retry is scheduled anew each time.
def repeats (t : Tick) : Bool := t ≠ joinRetry

def key (t : Tick) (address : String) : String := (Endpoint.node address).text ++ "/" ++ t.name

end Tick

-- The schedules of a node, each with its interval.
structure Timers where
  gossip           : Option Duration := none
  crossGossip      : Option Duration := none
  failureDetection : Option Duration := none
  joinRetry        : Option Duration := none
deriving DecidableEq, Repr, Inhabited

namespace Timers

def none : Timers := {}

def get (t : Timers) : Tick → Option Duration
  | .gossip => t.gossip
  | .crossGossip => t.crossGossip
  | .failureDetection => t.failureDetection
  | .joinRetry => t.joinRetry

-- The schedules with their keys.
def scheduled (t : Timers) (address : String) : List (String × Duration) :=
  Tick.all.filterMap fun tick => (t.get tick).map (tick.key address, ·)

-- A schedule that does not repeat is over once it has fired.
def fire (t : Timers) (tick : Tick) : Timers :=
  if tick.repeats then t else { t with joinRetry := Option.none }

end Timers

inductive Phase
  | joining (attempt : Nat) (inFlight : Bool)
  | up
  | exited
deriving DecidableEq, Repr, Inhabited

-- Attempts are counted in 32 bits, and stay at the last number.
def Phase.nextAttempt (attempt : Nat) : Nat := min (attempt + 1) 4294967295

-- A message on its arrival. Someone may wait for an answer to it.
structure Envelope where
  sender       : Option Endpoint
  message      : Message
  expectsReply : Bool
deriving DecidableEq, Repr, Inhabited

inductive Input
  | tick (t : Tick)
  | joinOutcome (attempt : Nat) (result : Except Error View)
  | recovered (views : List View)
  | envelope (e : Envelope)

-- What the host of a node carries out: `send` tells a message to some others, `reply` answers the
-- envelope that is being handled. A node that asks for `halt` cannot go on.
inductive Effect
  | publish (e : Event)
  | send (targets : List Endpoint) (m : Message)
  | reply (m : Message)
  | measure (c : Change)
  | join (attempt : Nat) (self : Member) (token : String)
  | probe (addresses : List String)
  | halt
deriving DecidableEq, Repr

-- What a node finds around it during a turn; `delivers` says which of some targets a message reaches.
structure Host where
  now      : Timestamp
  instant  : Instant
  seeds    : Seeds
  delivers : Message → List Endpoint → List Endpoint
  words    : List UInt64 := []

structure Node where
  config           : Config
  detector         : Detector
  allowedAddresses : AddressAllowlist
  joinLimiter      : JoinLimiter Float
  gossipLimiter    : GossipLimiter Float
  phase            : Phase
  self             : Member
  view             : View
  peers            : PeerVersions
  recovering       : Bool
  publisher        : Publisher
  meter            : Meter
  timers           : Timers
deriving Repr

namespace Node

-- As many peers are remembered as eight rounds of gossip reach.
def peerLimit (c : Config) : Nat := max c.discovery.maxTargets 1 * 8

-- Nothing, if a timeout or a limit of the configuration is more than can be represented.
def create (c : Config) (now : Timestamp) (instant : Instant) : Except Error (Option Node) := do
  if c.node.id = "" then .error (.configuration "node.id" "must be set before start")
  let self := { Member.starting c.node.id c.clusterName c.node.address now with
    labels := c.node.labels }
  match Detector.ofConfig? c.failure with
  | none => return none
  | some detector =>
    let allowed ← AddressAllowlist.parse c.security.allowedAddresses
    if peerLimit c ≥ UInt64.size then return none
    else return some {
      config           := c
      detector         := detector
      allowedAddresses := allowed
      joinLimiter      := .ofConfig c.rateLimit
      gossipLimiter    := .ofConfig c.rateLimit instant
      phase            := .joining 0 false
      self             := self
      view             := (View.new "" now c.membership.maxVectorEntries).add self
      peers            := .new c.discovery.peerVersionTtl (peerLimit c)
      recovering       := false
      publisher        := {}
      meter            := {}
      timers           := .none }

def address (n : Node) : String := n.self.address

def endpoint (n : Node) : Endpoint := .node n.address

def quorumRule (n : Node) : QuorumRule :=
  .new n.config.membership.strategy n.config.membership.requiredDatacenters

def selector (n : Node) : Selector :=
  .new n.config.discovery.maxTargets n.config.discovery.maxCrossTargets

def mergeOptions (n : Node) : MergeOptions :=
  ⟨n.config.membership.maxClockSkew, n.config.membership.concurrentMerge⟩

def requestTimeout (n : Node) : Duration := Config.clampTimeout n.config.join.requestTimeout

def isUp (n : Node) : Bool := n.phase = .up

-- A node that is not up has no part in a quorum.
def inQuorum (n : Node) : Bool := n.isUp && n.quorumRule.satisfied n.view

def viewResponse (n : Node) : Message := .viewResponse n.view n.inQuorum n.view.leader?

end Node

end GossipCluster
