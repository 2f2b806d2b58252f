import GossipCluster.Singleton.Proxy
import GossipCluster.Text.Utf8

namespace GossipCluster.Singleton.Echo

-- One with such a name does not start.
def fails (name : String) : Bool := name.startsWith "bad"

def answer (address : String) (m : Message) : Message :=
  let what := match m with
    | .user payload => Text.Utf8.repair payload
    | m => m.name.toUTF8.data.toList
  .user ((address ++ "|").toUTF8.data.toList ++ what)

end GossipCluster.Singleton.Echo
