import GossipCluster.Table

namespace GossipCluster

inductive CausalOrder
  | equal
  | before
  | after
  | concurrent
deriving DecidableEq, Repr

@[ext]
-- How many events of each node a view has seen.
structure VersionVector where
  counters : Dict Nat
deriving DecidableEq, Repr, Inhabited

namespace VersionVector

def maxEntries : Nat := 65535

def maxIdBytes : Nat := 256

-- Counters stay representable as signed words of 64 bits.
def maxCounter : Nat := 9223372036854775807

inductive Fault
  | emptyId
  | longId
  | largeCounter (id : String)
  | exhaustedCounter (id : String)
  | tooManyEntries
deriving DecidableEq, Repr

def Fault.message : Fault → String
  | emptyId => "empty node id"
  | longId => "node id longer than " ++ toString maxIdBytes ++ " bytes"
  | largeCounter id => "counter for " ++ id ++ " exceeds maximum"
  | exhaustedCounter id => "counter for " ++ id ++ " would overflow"
  | tooManyEntries => "too many entries"

def empty : VersionVector := ⟨∅⟩

def size (v : VersionVector) : Nat := v.counters.size

def isEmpty (v : VersionVector) : Bool := v.counters.isEmpty

def entries (v : VersionVector) : List (String × Nat) := v.counters.rows

-- A node that does not occur has had no events.
def get (v : VersionVector) (id : String) : Nat := (v.counters.get? id).getD 0

def idFault? (id : String) : Option Fault :=
  if id = "" then some .emptyId
  else if id.utf8ByteSize > maxIdBytes then some .longId
  else none

def entryFault? (entry : String × Nat) : Option Fault :=
  idFault? entry.1 <|> if entry.2 > maxCounter then some (.largeCounter entry.1) else none

-- Entries count in the order in which they come: the vector is too large as soon as more distinct
-- ids than it may hold stand before the first faulty entry.
def ofEntries (entries : List (String × Nat)) : Except Fault VersionVector :=
  let counters : Dict Nat := .ofList <| entries.takeWhile (entryFault? · |>.isNone)
  if counters.size > maxEntries then .error .tooManyEntries
  else match entries.findSome? entryFault? with
    | some fault => .error fault
    | none => .ok ⟨counters⟩

def increment (v : VersionVector) (id : String) : Except Fault VersionVector :=
  match idFault? id with
  | some fault => .error fault
  | none =>
    if v.get id ≥ maxCounter then .error (.exhaustedCounter id)
    else .ok ⟨v.counters.put id (v.get id + 1)⟩

-- The pointwise maximum.
def merge (v w : VersionVector) : VersionVector :=
  ⟨v.counters.merge w.counters (fun a b => (a.1, max a.2 b.2)) (fun _ _ _ => rfl)⟩

-- Whether no counter of the first entries is above that of the second; both are sorted by id.
def below : List (String × Nat) → List (String × Nat) → Bool
  | [], _ => true
  | (_, n) :: as, [] => n = 0 && below as []
  | (i, n) :: as, (j, m) :: bs =>
    if i < j then n = 0 && below as ((j, m) :: bs)
    else if j < i then below ((i, n) :: as) bs
    else n ≤ m && below as bs
termination_by as bs => as.length + bs.length

def compare (v w : VersionVector) : CausalOrder :=
  match below v.entries w.entries, below w.entries v.entries with
  | true, true => .equal
  | true, false => .before
  | false, true => .after
  | false, false => .concurrent

-- Whether the first vector has seen everything that the second has.
def dominates (v w : VersionVector) : Bool :=
  v.compare w matches .after | .equal

def restrict (v : VersionVector) (ids : List String) : VersionVector :=
  ⟨v.counters.filter (ids.contains ·.1)⟩

-- Of the entries for `ids`, the first `bound`, so that all nodes drop the same ones.
def prune (v : VersionVector) (ids : List String) (bound : Nat) : VersionVector :=
  ⟨(v.restrict ids).counters.take bound⟩

end VersionVector

end GossipCluster
