import GossipCluster.Config.Basic
import GossipCluster.RateLimit.TokenBucket

namespace GossipCluster

structure JoinLimiter (α : Type) where
  rate       : α
  burst      : Nat
  maxEntries : Nat
  buckets    : Dict (TokenBucket α) := ∅
deriving Repr

namespace JoinLimiter

variable {α : Type} [Quantity α]

def new (rate : α) (burst maxEntries : Nat) : JoinLimiter α where
  rate       := rate
  burst      := burst
  maxEntries := max maxEntries 1

def ofConfig (c : Config.RateLimit) : JoinLimiter Float :=
  new c.joinRate c.joinBurst c.joinMaxEntries

-- The address whose bucket was used longest ago. Of several such addresses any would do: this takes the smallest, and
-- the proofs use no more than that it is one of them.
def oldest? (buckets : Dict (TokenBucket α)) : Option String :=
  (buckets.rows.foldl earlier none).map Prod.fst
where
  earlier (least : Option (String × TokenBucket α)) (e : String × TokenBucket α) :
      Option (String × TokenBucket α) :=
    match least with
    | some l => if e.2.filled < l.2.filled then some e else some l
    | none => some e

-- A new address takes the place of the oldest one if there is no room.
def makeRoom (l : JoinLimiter α) (address : String) : Dict (TokenBucket α) :=
  if l.buckets.contains address || l.buckets.size < l.maxEntries then l.buckets
  else match oldest? l.buckets with
    | some oldest => l.buckets.erase oldest
    | none => l.buckets

-- Without a positive rate every join is allowed.
def allow (l : JoinLimiter α) (address : String) (now : Instant) : Bool × JoinLimiter α :=
  if Quantity.atMost l.rate (Quantity.ofNat 0) then (true, l)
  else
    let buckets := l.makeRoom address
    let bucket := (buckets.get? address).getD (.new l.rate l.burst now)
    let (allowed, bucket) := bucket.tryAcquire now
    (allowed, { l with buckets := buckets.put address bucket })

def tracked (l : JoinLimiter α) : Nat := l.buckets.size

end JoinLimiter

-- No bucket means no limit.
structure GossipLimiter (α : Type) where
  bucket : Option (TokenBucket α)
deriving Repr

namespace GossipLimiter

variable {α : Type} [Quantity α]

def new (rate : α) (burst : Nat) (now : Instant) : GossipLimiter α :=
  ⟨if Quantity.lessThan (Quantity.ofNat 0) rate then some (.new rate burst now) else none⟩

def ofConfig (c : Config.RateLimit) (now : Instant) : GossipLimiter Float :=
  new c.gossipRate c.gossipBurst now

def isUnlimited (l : GossipLimiter α) : Bool := l.bucket.isNone

def allow (l : GossipLimiter α) (now : Instant) : Bool × GossipLimiter α :=
  match l.bucket with
  | some bucket =>
    let (allowed, bucket) := bucket.tryAcquire now
    (allowed, ⟨some bucket⟩)
  | none => (true, l)

end GossipLimiter

end GossipCluster
