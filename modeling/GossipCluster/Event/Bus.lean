import GossipCluster.Event.Basic

namespace GossipCluster

-- The latest events, oldest first, and how many have been published in all.
structure Bus where
  capacity  : Nat
  published : Nat
  recent    : List Event
deriving Repr

-- The number of the next event that a subscriber will read.
abbrev Cursor := Nat

inductive Delivery
  | lagged (missed : Nat)
  | event (e : Event)
deriving DecidableEq, Repr

namespace Bus

-- Room for the given number of events, raised to a power of two.
def new (capacity : Nat) : Bus where
  capacity  := (max capacity 1).nextPowerOfTwo
  published := 0
  recent    := []

-- There is no memory for more events than these.
def maxCapacity : Nat := 1 <<< 54

def ofCapacity? (capacity : Nat) : Option Bus :=
  if capacity ≤ maxCapacity then some (new capacity) else none

def publish (b : Bus) (e : Event) : Bus :=
  let recent := b.recent ++ [e]
  { b with published := b.published + 1, recent := recent.drop (recent.length - b.capacity) }

def subscribe (b : Bus) : Cursor := b.published

-- All that a subscriber has not read yet, and where it reads on.
def read (b : Bus) (c : Cursor) : List Delivery × Cursor :=
  let oldest := b.published - b.recent.length
  let missed := if c < oldest then [.lagged (oldest - c)] else []
  (missed ++ (b.recent.drop (c - oldest)).map .event, b.published)

-- The next event that a subscriber can still read.
def next? (b : Bus) (c : Cursor) : Option (Event × Cursor) :=
  let oldest := b.published - b.recent.length
  let c := max c oldest
  (b.recent[c - oldest]?).map (·, c + 1)

end Bus

end GossipCluster
