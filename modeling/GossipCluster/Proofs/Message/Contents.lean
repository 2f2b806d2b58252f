import GossipCluster.Message.Basic

namespace GossipCluster.Message

def views : Message → List View
  | joinResponse v | gossip v | viewResponse v .. => [v]
  | _ => []

def members : Message → List Member
  | joinRequest m _ => [m]
  | joinResponse v | gossip v | viewResponse v .. => v.members.rows
  | _ => []

def mapViews (f : View → View) : Message → Message
  | joinResponse v => joinResponse (f v)
  | gossip v => gossip (f v)
  | viewResponse v inQuorum leader => viewResponse (f v) inQuorum leader
  | m => m

theorem mapViews_eq_self {f : View → View} {m : Message} (h : ∀ v ∈ m.views, f v = v) :
    m.mapViews f = m := by
  cases m <;> simp_all [views, mapViews]

end GossipCluster.Message
