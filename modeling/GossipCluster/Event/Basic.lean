import GossipCluster.View.Basic

namespace GossipCluster

inductive Event
  | membersChanged (members added removed : List Member)
  | viewChanged (view : View)
  | quorumLost
  | quorumReached
  | leaderChanged (leader : Option String) (isSelf inQuorum : Bool)
  | datacenterHealthChanged (datacenter : String) (healthy total : Nat)
  | leaveCompleted (nodeId : String)
deriving DecidableEq, Repr, Inhabited

-- How the members of two views differ, if a member came or went or has another status or generation.
def Event.membersChange? (before after : View) : Option Event :=
  let added := after.members.rows.filter (! before.contains ·.id)
  let removed := before.members.rows.filter (! after.contains ·.id)
  let differs := after.members.rows.any fun m =>
    (before.member? m.id).any fun old => old.status ≠ m.status || old.generation ≠ m.generation
  if added.isEmpty && removed.isEmpty && !differs then none
  else some (.membersChanged after.members.rows added removed)

end GossipCluster
