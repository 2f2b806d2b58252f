import GossipCluster.Number.Binary64

namespace GossipCluster

-- Whole nanoseconds that make up fewer than 2^64 seconds; operations that would go further answer nothing.
structure Duration where
  nanos : Nat
deriving DecidableEq, Repr, Inhabited

namespace Duration

def nanosPerSecond : Nat := 1000000000

def limit : Nat := UInt64.size * nanosPerSecond

def zero : Duration := ⟨0⟩

def ofSeconds (s : Nat) : Duration := ⟨s * nanosPerSecond⟩

def ofMillis (ms : Nat) : Duration := ⟨ms * 1000000⟩

instance : LT Duration := ⟨fun a b => a.nanos < b.nanos⟩

instance : LE Duration := ⟨fun a b => a.nanos ≤ b.nanos⟩

instance (a b : Duration) : Decidable (a < b) := inferInstanceAs (Decidable (a.nanos < b.nanos))

instance (a b : Duration) : Decidable (a ≤ b) := inferInstanceAs (Decidable (a.nanos ≤ b.nanos))

instance : Min Duration := minOfLe

instance : Max Duration := maxOfLe

def isZero (d : Duration) : Bool := d.nanos = 0

def seconds (d : Duration) : Nat := d.nanos / nanosPerSecond

def subsecond (d : Duration) : Nat := d.nanos % nanosPerSecond

def add? (a b : Duration) : Option Duration :=
  if a.nanos + b.nanos < limit then some ⟨a.nanos + b.nanos⟩ else none

def toSeconds (d : Duration) : Float :=
  d.seconds.toUInt64.toFloat + d.subsecond.toUInt64.toFloat / 1000000000

-- The nearest span to a number of seconds; nothing for a negative, infinite or too large number.
def fromSeconds? (x : Float) : Option Duration := do
  let v ← Binary64.finite? x
  if v.negative && v.significand != 0 then failure
  let n := v.scaled nanosPerSecond
  if n < limit then some ⟨n⟩ else none

def scale? (d : Duration) (factor : Float) : Option Duration :=
  fromSeconds? (factor * d.toSeconds)

end Duration

end GossipCluster
