namespace GossipCluster.Text.Hex

def digit (n : Nat) : Char :=
  if n < 10 then Char.ofNat ('0'.toNat + n) else Char.ofNat ('a'.toNat + n - 10)

def digit? (c : Char) : Option Nat :=
  if '0' ≤ c ∧ c ≤ '9' then some (c.toNat - '0'.toNat)
  else if 'a' ≤ c ∧ c ≤ 'f' then some (c.toNat - 'a'.toNat + 10)
  else if 'A' ≤ c ∧ c ≤ 'F' then some (c.toNat - 'A'.toNat + 10)
  else none

def encode (bytes : List UInt8) : String :=
  .ofList <| bytes.flatMap fun b => [digit (b.toNat / 16), digit (b.toNat % 16)]

-- Letters of either case are read; an odd digit at the end is refused.
def decode : List Char → Option (List UInt8)
  | [] => some []
  | [_] => none
  | a :: b :: r => do
    let hi ← digit? a
    let lo ← digit? b
    return UInt8.ofNat (hi * 16 + lo) :: (← decode r)

end GossipCluster.Text.Hex
