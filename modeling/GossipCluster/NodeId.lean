import GossipCluster.Config.Basic
import GossipCluster.Random
import GossipCluster.Text.Hex

namespace GossipCluster

namespace NodeId

-- Two words as hexadecimal digits in five groups, with the marks of a random identifier.
def ofWords (a b : UInt64) : String :=
  let a := (a &&& 0xffffffffffff0fff) ||| 0x4000
  let b := (b &&& 0x3fffffffffffffff) ||| 0x8000000000000000
  let bytes (w : UInt64) : List UInt8 := (List.range 8).map fun i => (w >>> (56 - 8 * i).toUInt64).toUInt8
  let text (l : List UInt8) : String := Text.Hex.encode l
  let x := bytes a
  let y := bytes b
  "-".intercalate
    [text (x.take 4), text ((x.drop 4).take 2), text (x.drop 6), text (y.take 2), text (y.drop 2)]

def generate : Random String := return ofWords (← Random.next) (← Random.next)

end NodeId

def Config.Node.withId (n : Config.Node) : Random Config.Node := do
  if n.id = "" then return { n with id := ← NodeId.generate } else return n

end GossipCluster
