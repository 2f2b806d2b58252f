import GossipCluster.Node.Basic
import GossipCluster.View.Document

namespace GossipCluster

structure Standing where
  view     : View
  inQuorum : Bool
  leader   : Option String
deriving DecidableEq, Repr, Inhabited

namespace Standing

def documentWith (s : Standing) (view : String × Document) : Document := .table [
  view, ("in_quorum", .bool s.inQuorum), ("leader", .optional .string s.leader)]

def toDocument (s : Standing) : Document := s.documentWith ("view", s.view.summary)

def statusText (m : Member) : String := m.status.name ++ " " ++ toString m.generation.toNat

-- Of each member only its status and its generation.
def brief (s : Standing) : Document := s.documentWith
  ("members", .table (s.view.members.rows.map fun m => (m.id, .string (statusText m))))

end Standing

def Node.standing (n : Node) : Standing := ⟨n.view, n.inQuorum, n.view.leader?⟩

end GossipCluster
