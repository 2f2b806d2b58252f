import GossipCluster.View.Basic

namespace GossipCluster

-- How epoch and timestamp are reconciled when neither view has seen all that the other has.
inductive ConcurrentMerge
  | takeMax
  | preferLocal
  | preferRemote
deriving DecidableEq, Repr, Inhabited

namespace ConcurrentMerge

def all : List ConcurrentMerge := [takeMax, preferLocal, preferRemote]

def name : ConcurrentMerge → String
  | takeMax => "take_max"
  | preferLocal => "prefer_local"
  | preferRemote => "prefer_remote"

def ofName? (s : String) : Option ConcurrentMerge := all.find? (·.name == s)

def parse (s : String) : Except Error ConcurrentMerge :=
  match ofName? s with
  | some m => .ok m
  | none => .error (.configuration "membership.concurrent_merge" ("unknown strategy '" ++ s ++ "'"))

end ConcurrentMerge

-- With a skew limit, epoch and timestamp are not taken from a view whose timestamp is further away
-- from the local time.
structure MergeOptions where
  maxClockSkew : Option Duration := none
  concurrent   : ConcurrentMerge := .takeMax
deriving DecidableEq, Repr, Inhabited

-- The newer of two incarnations; of equal ones the local entry, with the later sign of life.
def Member.reconcile (ours theirs : Member) : Member :=
  if theirs.Newer ours then { theirs with lastSeen := max ours.lastSeen theirs.lastSeen }
  else if ours.generation = theirs.generation ∧ ours.clock = theirs.clock then
    { ours with lastSeen := max ours.lastSeen theirs.lastSeen }
  else ours

theorem Member.reconcile_id {ours theirs : Member} (h : ours.id = theirs.id) :
    (ours.reconcile theirs).id = ours.id := by
  unfold reconcile
  split
  case isTrue => exact h.symm
  case isFalse => split <;> rfl

namespace View

def learnsMember (v other : View) : Bool :=
  other.members.rows.any fun theirs => (v.member? theirs.id).all (theirs.Newer ·)

def adoptsTime (v other : View) (options : MergeOptions) (now : Timestamp) : Bool :=
  let skewed := options.maxClockSkew.any (Timestamp.distance now other.timestamp > ·.nanos)
  let concurrent := v.versions.compare other.versions = .concurrent
  !skewed && !(concurrent && options.concurrent = .preferLocal)

-- The merged view, and whether anything was learned besides signs of life. A view without members
-- teaches nothing.
def merge (v other : View) (options : MergeOptions) (now : Timestamp) : View × Bool :=
  if other.isEmpty then (v, false)
  else
    let versions := v.versions.merge other.versions
    let adopts := v.adoptsTime other options now
    let merged := refresh { v with
      members  := v.members.merge other.members Member.reconcile (fun _ _ => Member.reconcile_id)
      versions := versions }
    let changed :=
      v.learnsMember other || versions ≠ v.versions ||
      adopts && (other.epoch > v.epoch || other.timestamp > v.timestamp) ||
      other.protocolVersion > v.protocolVersion
    ({ merged with
        epoch           := if adopts then max v.epoch other.epoch else v.epoch
        timestamp       := if adopts then max v.timestamp other.timestamp else v.timestamp
        protocolVersion := max v.protocolVersion other.protocolVersion },
      changed)

end View

end GossipCluster
