import GossipCluster.Duration.Basic

namespace GossipCluster

-- Nanoseconds on a steady clock.
abbrev Instant := Int

-- The numbers in which rates and tokens are reckoned.
class Quantity (α : Type) extends Add α, Sub α, Mul α where
  ofNat     : Nat → α
  ofSpan    : Duration → α
  atMost    : α → α → Bool
  lessThan  : α → α → Bool

instance : Quantity Float where
  ofNat n        := n.toUInt64.toFloat
  ofSpan         := Duration.toSeconds
  atMost a b     := a ≤ b
  lessThan a b   := a < b

instance : Quantity Rat where
  ofNat n        := n
  ofSpan d       := (d.nanos : Rat) / Duration.nanosPerSecond
  atMost a b     := a ≤ b
  lessThan a b   := a < b

-- Tokens are taken one by one, and come back at a steady rate.
structure TokenBucket (α : Type) where
  rate   : α
  burst  : α
  tokens : α
  filled : Instant
deriving Repr

namespace TokenBucket

variable {α : Type} [Quantity α]

def least (a b : α) : α := if Quantity.atMost a b then a else b

-- A bucket starts full and holds at least one token.
def new (rate : α) (burst : Nat) (now : Instant) : TokenBucket α where
  rate   := rate
  burst  := Quantity.ofNat (max burst 1)
  tokens := Quantity.ofNat (max burst 1)
  filled := now

-- No time passes when the clock steps back.
def refill (b : TokenBucket α) (now : Instant) : TokenBucket α :=
  let elapsed : Duration := ⟨(now - b.filled).toNat⟩
  { b with
    tokens := least (b.tokens + Quantity.ofSpan elapsed * b.rate) b.burst
    filled := now }

def tryAcquire (b : TokenBucket α) (now : Instant) : Bool × TokenBucket α :=
  let b := b.refill now
  if Quantity.atMost (Quantity.ofNat 1) b.tokens then
    (true, { b with tokens := b.tokens - Quantity.ofNat 1 })
  else (false, b)

end TokenBucket

end GossipCluster
