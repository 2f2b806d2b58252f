namespace GossipCluster.Text

-- `overflow` is a sum whose last carry has no place to go: whoever reckons with it breaks down.
inductive Fault
  | malformed
  | overflow
deriving DecidableEq, Repr, Inhabited

-- The value of an optional one; without it there is a fault.
def Fault.need : Option α → Except Fault α
  | some a => .ok a
  | none => .error .malformed

end GossipCluster.Text
