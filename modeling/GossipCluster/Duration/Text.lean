import GossipCluster.Duration.Basic
import GossipCluster.Text.Decimal

namespace GossipCluster.Duration

-- The digits of `part / 10 ^ places` after the point, without closing zeros.
def fraction (places part : Nat) : String :=
  let digits := (Text.padded places part).toList.reverse.dropWhile (· == '0')
  if digits.isEmpty then "" else "." ++ .ofList digits.reverse

def inUnit (places : Nat) (unit : String) (amount : Nat) : String :=
  let one := Nat.pow 10 places
  toString (amount / one) ++ fraction places (amount % one) ++ unit

-- The largest unit that leaves a whole part, and as much of the fraction as is not zero.
def text (d : Duration) : String :=
  if d.nanos ≥ 1000000000 then inUnit 9 "s" d.nanos
  else if d.nanos ≥ 1000000 then inUnit 6 "ms" d.nanos
  else if d.nanos ≥ 1000 then inUnit 3 "µs" d.nanos
  else inUnit 0 "ns" d.nanos

end GossipCluster.Duration
