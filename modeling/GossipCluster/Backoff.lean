import GossipCluster.Config.Basic
import GossipCluster.Random

namespace GossipCluster

-- Growing delays between attempts, with an optional spread.
structure Backoff where
  initial : Duration
  max     : Duration
  factor  : Float
  jitter  : Bool
deriving BEq, Repr, Inhabited

def Config.Join.backoff (c : Config.Join) : Backoff :=
  ⟨c.retryInitial, c.retryMax, c.retryMultiplier, c.retryJitter⟩

namespace Backoff

-- A delay is spread by up to a fifth of it to either side.
def jitterFraction : Float := 0.2

-- The largest fraction that 52 random bits make.
def maxFraction : Float := 1 - 1 / 4503599627370496

-- The width of the spread, made smaller until the largest fraction stays within it.
def jitterScale : Float := settle 16 ((jitterFraction + jitterFraction) / maxFraction)
where
  settle : Nat → Float → Float
    | 0, s => s
    | n + 1, s =>
      if s * maxFraction - jitterFraction > jitterFraction then settle n (.ofBits (s.toBits - 1))
      else s

def spread (word : UInt64) : Float :=
  (word >>> 12).toFloat / 4503599627370496 * jitterScale - jitterFraction

-- The delay before the given attempt, counted from zero.
def baseDelay (b : Backoff) (attempt : Nat) : Duration :=
  let factor := if b.factor.isFinite && b.factor > 1 then b.factor else 1
  let seconds := b.initial.toSeconds * Binary64.power factor (min attempt 2147483647)
  let longest := Max.max b.max b.initial
  if !seconds.isFinite || seconds ≥ longest.toSeconds then longest
  else (Duration.fromSeconds? seconds).getD longest

def delay? (b : Backoff) (attempt : Nat) : Random (Option Duration) := do
  let base := b.baseDelay attempt
  if !b.jitter || base.isZero then return base
  else return base.scale? (1 + spread (← Random.next))

end Backoff

end GossipCluster
