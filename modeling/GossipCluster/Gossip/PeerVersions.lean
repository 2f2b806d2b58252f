import GossipCluster.Timestamp
import GossipCluster.VersionVector

namespace GossipCluster

-- What peers are known to have seen, so that nothing is sent to a peer that has it all. This lapses after a while, and is
-- kept for a bounded number of peers.
structure PeerVersions where
  ttl        : Duration
  maxEntries : Nat
  entries    : Dict (VersionVector × Timestamp) := ∅
deriving DecidableEq, Repr, Inhabited

namespace PeerVersions

def new (ttl : Duration) (maxEntries : Nat) : PeerVersions where
  ttl        := ttl
  maxEntries := max maxEntries 1

-- The address recorded longest ago. Of several such addresses any would do: this takes the smallest, and the proofs
-- use no more than that it is one of them.
def oldest? (entries : Dict (VersionVector × Timestamp)) : Option String :=
  (entries.rows.foldl earlier none).map Prod.fst
where
  earlier (least : Option (String × VersionVector × Timestamp))
      (e : String × VersionVector × Timestamp) : Option (String × VersionVector × Timestamp) :=
    match least with
    | some l => if e.2.2 < l.2.2 then some e else some l
    | none => some e

-- A new peer takes the place of the oldest one if there is no room.
def record (p : PeerVersions) (address : String) (version : VersionVector) (now : Timestamp) :
    PeerVersions :=
  let full := !p.entries.contains address && p.entries.size ≥ p.maxEntries
  let entries : Dict (VersionVector × Timestamp) :=
    match if full then oldest? p.entries else none with
    | some oldest => p.entries.erase oldest
    | none => p.entries
  { p with entries := entries.put address (version, now) }

-- Whether a peer is known, and not for too long, to have seen everything in `ours`.
def isCurrent (p : PeerVersions) (address : String) (ours : VersionVector) (now : Timestamp) : Bool :=
  match p.entries.get? address with
  | some (theirs, recorded) => Timestamp.elapsed now recorded < p.ttl && theirs.dominates ours
  | none => false

def retain (p : PeerVersions) (known : List String) : PeerVersions :=
  { p with entries := p.entries.filter (known.contains ·.1) }

end PeerVersions

end GossipCluster
