import GossipCluster.Text.Hex
import GossipCluster.Text.Parser

namespace GossipCluster

inductive Ip
  | v4 (bits : Nat)
  | v6 (bits : Nat)
deriving DecidableEq, Repr

-- The addresses that agree with `address` in the first `length` bits.
structure IpBlock where
  address : Ip
  length  : Nat
deriving DecidableEq, Repr

namespace Ip

-- What an address text may hold: numbers below 256 with zeros in front, and a gap that stands for
-- no group at all.
structure Grammar where
  leadingZeros : Bool
  emptyGap     : Bool

def strict : Grammar := ⟨false, false⟩

def lenient : Grammar := ⟨true, true⟩

-- A number below `limit` of one to `width` digits; a digit more and there is none.
def number (base width limit : Nat) (leadingZeros : Bool) : Text.Parser Nat := do
  let digits ← Text.Parser.takeWhile₁ fun c => (Text.Hex.digit? c).any (· < base)
  let value := digits.foldl (fun n c => n * base + (Text.Hex.digit? c).getD 0) 0
  if digits.length > width ∨ value ≥ limit then failure
  else if !leadingZeros ∧ digits.length > 1 ∧ digits.head? = some '0' then failure
  else return value

def readV4 (g : Grammar) : Text.Parser Nat := do
  let octet := number 10 3 256 g.leadingZeros
  let a ← octet
  let b ← Text.Parser.char '.' *> octet
  let c ← Text.Parser.char '.' *> octet
  let d ← Text.Parser.char '.' *> octet
  return ((a * 256 + b) * 256 + c) * 256 + d

-- The separator in front of all groups but the first.
def separated (first : Bool) (p : Text.Parser Nat) : Text.Parser Nat :=
  if first then p else Text.Parser.char ':' *> p

-- Up to `limit` groups of 16 bits, and whether the last two were written as an address of version 4.
def readGroups (g : Grammar) : (limit : Nat) → (first : Bool) → Text.Parser (List Nat × Bool)
  | 0, _ => return ([], false)
  | limit + 1, first => do
    match ← if limit = 0 then pure none else Text.Parser.optional (separated first (readV4 g)) with
    | some bits => return ([bits / 65536, bits % 65536], true)
    | none =>
      match ← Text.Parser.optional (separated first (number 16 4 65536 true)) with
      | none => return ([], false)
      | some group =>
        let (groups, mixed) ← readGroups g limit false
        return (group :: groups, mixed)

def ofGroups (groups : List Nat) : Nat := groups.foldl (· * 65536 + ·) 0

-- A gap of two colons stands for as many zero groups as are missing; it cannot follow a version 4
-- part.
def readV6 (g : Grammar) : Text.Parser Nat := do
  let (head, mixed) ← readGroups g 8 true
  if head.length = 8 then return ofGroups head
  else if mixed then failure
  else
    Text.Parser.word "::"
    let (tail, _) ← readGroups g (8 - head.length - if g.emptyGap then 0 else 1) true
    return ofGroups (head ++ List.replicate (8 - head.length - tail.length) 0 ++ tail)

def parse? (s : String) : Option Ip :=
  v4 <$> (readV4 strict).run? s <|> v6 <$> (readV6 strict).run? s

end Ip

namespace IpBlock

def read (version : Nat → Ip) (address : Text.Parser Nat) (width limit : Nat) :
    Text.Parser IpBlock := do
  let bits ← address
  let length ← Text.Parser.char '/' *> Ip.number 10 width limit true
  return ⟨version bits, length⟩

-- An address and the number of bits that count, with a slash between them.
def parse? (s : String) : Option IpBlock :=
  Text.Parser.run? (read .v4 (Ip.readV4 Ip.lenient) 2 33 <|> read .v6 (Ip.readV6 Ip.lenient) 3 129) s

def contains (b : IpBlock) (ip : Ip) : Bool :=
  match b.address, ip with
  | .v4 x, .v4 y => x >>> (32 - b.length) = y >>> (32 - b.length)
  | .v6 x, .v6 y => x >>> (128 - b.length) = y >>> (128 - b.length)
  | _, _ => false

end IpBlock

end GossipCluster
