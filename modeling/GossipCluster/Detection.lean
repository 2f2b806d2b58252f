import GossipCluster.Config.Basic

namespace GossipCluster

structure Detector where
  timeout      : Duration
  crossTimeout : Duration
  confirmation : Duration
deriving DecidableEq, Repr, Inhabited

structure Detection where
  suspect : List String
  remove  : List String
deriving DecidableEq, Repr

namespace Detection

inductive Verdict
  | alive
  | suspect
  | remove
deriving DecidableEq, Repr

def isEmpty (d : Detection) : Bool := d.suspect.isEmpty && d.remove.isEmpty

end Detection

namespace Detector

-- Without a timeout of their own, members of other datacenters have a multiple of the usual one;
-- none, if that is longer than a span can be.
def ofConfig? (c : Config.FailureDetection) : Option Detector := do
  let factor := if c.crossMultiplier > 1 then c.crossMultiplier else 1
  let crossTimeout ← c.crossTimeout <|> c.timeout.scale? factor
  return ⟨c.timeout, crossTimeout, c.confirmation.getD .zero⟩

def suspectTimeout (d : Detector) (selfDc memberDc : String) : Duration :=
  if selfDc = memberDc then d.timeout else d.crossTimeout

def downTimeout? (d : Detector) (selfDc memberDc : String) : Option Duration :=
  (d.suspectTimeout selfDc memberDc).add? d.confirmation

-- Without confirmation a member is removed as soon as it would be suspected.
def verdict? (d : Detector) (selfDc : String) (now : Timestamp) (m : Member) :
    Option Detection.Verdict := do
  let silent := Timestamp.elapsed now m.lastSeen
  if (← d.downTimeout? selfDc m.datacenter) < silent then return .remove
  else if d.suspectTimeout selfDc m.datacenter < silent then
    if d.confirmation.isZero then return .remove
    else if m.status ≠ .suspect then return .suspect
    else return .alive
  else return .alive

-- Nothing, if the timeouts of some member add up to more than a span can be.
def detect? (d : Detector) (v : View) (self selfDc : String) (now : Timestamp) :
    Option Detection := do
  let others := v.members.rows.filter (·.id != self)
  let verdicts ← others.mapM fun m => return (m.id, ← d.verdict? selfDc now m)
  let having (x : Detection.Verdict) := (verdicts.filter (·.2 = x)).map Prod.fst
  return ⟨having .suspect, having .remove⟩

end Detector

end GossipCluster
