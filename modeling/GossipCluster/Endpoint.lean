namespace GossipCluster

-- Where messages are delivered: a path at the address of a node.
structure Endpoint where
  address : String
  path    : String
deriving DecidableEq, Repr, Inhabited

namespace Endpoint

def text (e : Endpoint) : String := e.address ++ e.path

-- Where every node takes part in the cluster.
def nodePath : String := "/@cluster"

def node (address : String) : Endpoint := ⟨address, nodePath⟩

-- As whom the owner of a node speaks to it.
def client (address : String) : Endpoint := ⟨address, "/@cluster-client"⟩

end Endpoint

end GossipCluster
