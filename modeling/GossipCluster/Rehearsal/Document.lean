import GossipCluster.Event.Document
import GossipCluster.Message.Document
import GossipCluster.Node.Standing
import GossipCluster.Rehearsal

namespace GossipCluster.Rehearsal

def span (d : Duration) : Document := .list [.integer d.seconds, .integer d.subsecond]

def sent (n : Node) (s : Sent) (more : String × Document) : Document := .table [
  ("to", .string s.target.text), ("sender", .string n.endpoint.text),
  ("message", s.message.toDocument View.summary), more]

-- By where they went to; what went to one place keeps its order.
def byTarget (l : List Sent) : List Sent := l.mergeSort (·.target.text ≤ ·.target.text)

def timersDocument (n : Node) : Document :=
  .list (((n.timers.scheduled n.address).mergeSort (·.1 ≤ ·.1)).map
    fun (key, interval) => .list [.string key, span interval])

-- That a node has ended, whether it did so as it was asked to, and where it can then no longer be
-- reached.
def endFields : Option Bool → List (String × Document)
  | none => []
  | some asked => ("stopped", .list [.bool asked, .bool true]) ::
    if asked then [("deregistered", .list [.string Endpoint.nodePath])] else []

def isShown : Document → Bool
  | .null | .list [] => false
  | _ => true

-- Parts without content are left out.
def report (r : Rehearsal) (result : Document) : Document :=
  let s := r.scene
  let timeout := ("timeout", span r.node.requestTimeout)
  .table <| (List.filter (isShown ·.2) [
    ("result", result), ("events", .list (s.events.map Event.toDocument)),
    ("reply", .optional (Message.toDocument View.summary) s.reply),
    ("state", if r.running then r.node.standing.toDocument else .null),
    ("tells", .list ((byTarget s.told).map fun t => sent r.node t ("failed", .bool t.failed))),
    ("asks", .list ((byTarget s.asked).map (sent r.node · timeout))),
    ("schedule", timersDocument r.node)]) ++ endFields s.ended

end GossipCluster.Rehearsal
