import GossipCluster.Quorum
import GossipCluster.View.Merge

namespace GossipCluster

namespace Config

-- An empty id is replaced by a random one when the node starts.
structure Node where
  id      : String := ""
  address : String := "127.0.0.1:7946"
  labels  : Dict String := ∅
deriving BEq, Repr, Inhabited

structure Discovery where
  seeds            : List String := []
  datacenterSeeds  : Dict (List String) := ∅
  interval         : Duration := .ofMillis 1000
  crossInterval    : Duration := .ofMillis 5000
  maxTargets       : Nat := 20
  maxCrossTargets  : Nat := 3
  peerVersionTtl   : Duration := .ofMillis 5000
deriving BEq, Repr, Inhabited

structure FailureDetection where
  timeout         : Duration := .ofMillis 40000
  crossTimeout    : Option Duration := none
  crossMultiplier : Float := 2
  confirmation    : Option Duration := none
  interval        : Duration := .ofMillis 1000
  recoverySeeds   : Nat := 3
deriving BEq, Repr, Inhabited

structure Membership where
  strategy            : QuorumStrategy := .globalMajority
  requiredDatacenters : List String := []
  minProtocol         : UInt16 := 1
  maxProtocol         : UInt16 := 1
  maxVectorEntries    : Nat := 1000
  maxClockSkew        : Option Duration := none
  concurrentMerge     : ConcurrentMerge := .takeMax
deriving BEq, Repr, Inhabited

structure Security where
  joinSecret         : Option String := none
  adminSecret        : Option String := none
  allowedAddresses   : List String := []
  allowedDatacenters : List String := []
deriving BEq, Repr, Inhabited

structure RateLimit where
  joinRate       : Float := 5
  joinBurst      : Nat := 10
  joinMaxEntries : Nat := 10000
  gossipRate     : Float := 0
  gossipBurst    : Nat := 100
deriving BEq, Repr, Inhabited

structure Join where
  requestTimeout  : Duration := .ofSeconds 5
  retryInitial    : Duration := .ofMillis 500
  retryMax        : Duration := .ofSeconds 30
  retryMultiplier : Float := 2
  retryJitter     : Bool := true
deriving BEq, Repr, Inhabited

end Config

structure Config where
  enabled     : Bool := true
  clusterName : String := "meshwork"
  node        : Config.Node := {}
  discovery   : Config.Discovery := {}
  failure     : Config.FailureDetection := {}
  membership  : Config.Membership := {}
  security    : Config.Security := {}
  rateLimit   : Config.RateLimit := {}
  join        : Config.Join := {}
deriving BEq, Repr, Inhabited

namespace Config

-- Short timings, for clusters within one program.
def fast (address : String) : Config where
  clusterName := "test"
  node        := { address := address }
  discovery   := {
    interval := .ofMillis 50, crossInterval := .ofMillis 100, peerVersionTtl := .ofMillis 50 }
  failure     := { timeout := .ofMillis 200, interval := .ofMillis 50 }
  join        := { retryInitial := .ofMillis 20, retryMax := .ofMillis 200, retryJitter := false }

def Discovery.seedCount (d : Discovery) : Nat :=
  d.seeds.length + (d.datacenterSeeds.values.flatten).length

-- A zero asks for the default; any other request timeout is held between one and thirty seconds.
def clampTimeout (d : Duration) : Duration :=
  if d.isZero then .ofSeconds 5 else min (max d (.ofSeconds 1)) (.ofSeconds 30)

end Config

end GossipCluster
