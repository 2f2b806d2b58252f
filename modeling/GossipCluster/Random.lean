namespace GossipCluster

-- The source of random words is a list of them, and zeros for ever after.
abbrev Random := StateM (List UInt64)

namespace Random

def next : Random UInt64 := fun words => (words.headD 0, words.tail)

-- Scales the low half of a word to a number below `n`. Words for which the fractional part of the
-- product lies in the incomplete last zone are passed over.
def pick (n : Nat) : List UInt64 → Nat × List UInt64
  | [] => (0, [])
  | w :: words =>
    let product := w.toNat % UInt32.size * n
    let zone := n <<< (31 - n.log2) - 1
    if product % UInt32.size ≤ zone then (product / UInt32.size, words) else pick n words

def below (n : Nat) : Random Nat := pick n

-- Exchanges each place, from the last to the second, with one that is not behind it.
def shuffleFrom (a : Array α) : Nat → Random (Array α)
  | 0 => return a
  | i + 1 => do shuffleFrom (a.swapIfInBounds (i + 1) (← below (i + 2))) i

def shuffle (l : List α) : Random (List α) :=
  Array.toList <$> shuffleFrom l.toArray (l.length - 1)

end Random

end GossipCluster
