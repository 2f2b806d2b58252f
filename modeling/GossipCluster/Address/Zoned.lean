import GossipCluster.Address.Ip
import GossipCluster.Text.Decimal

namespace GossipCluster

-- A zone tells the networks of a host apart; it belongs to addresses of version 6 alone.
structure ZonedIp where
  ip   : Ip
  zone : Nat
deriving DecidableEq, Repr

namespace ZonedIp

open Text (Parser)

def digits (base : Nat) : Parser Nat := do
  let digits ← Parser.takeWhile₁ fun c => (Text.Hex.digit? c).any (· < base)
  return digits.foldl (fun n c => n * base + (Text.Hex.digit? c).getD 0) 0

-- A number in hexadecimal digits begins with a zero and an x, and one in octal digits with a zero.
def number : Parser Nat := do
  match ← Parser.peek? with
  | some '0' => ((Parser.word "0x" <|> Parser.word "0X") *> digits 16) <|> digits 8
  | _ => digits 10

-- Up to four numbers: all but the last are bytes, and the last one fills the rest.
def readV4 : Parser Nat := do
  let numbers ← Parser.separated (Parser.char '.') number
  let bytes := numbers.dropLast
  let width := 8 * (4 - bytes.length)
  let last := numbers.getLastD 0
  if numbers.isEmpty || 3 < bytes.length || !bytes.all (· < 256) || last >>> width != 0 then failure
  return (bytes.foldl (· * 256 + ·) 0 <<< width) + last

-- Whether an address is good only within one network, be it of a single host or of a group.
def isLinkLocal (bits : Nat) : Bool := bits >>> 118 = 0x3fa || (bits >>> 112) &&& 0xff0f = 0xff02

-- A zone goes by its number. The loopback interface, which has the number one, has a name too.
def zone? (bits : Nat) (s : String) : Option Nat :=
  if s = "lo" && isLinkLocal bits then some 1
  else (Text.digits? s.toList).filter (· < UInt32.size)

def parse? (s : String) : Option ZonedIp :=
  (⟨.v4 ·, 0⟩) <$> readV4.run? s <|> do
    let cs := s.toList
    let bits ← (Ip.readV6 Ip.strict).run? (.ofList (cs.takeWhile (· != '%')))
    match cs.dropWhile (· != '%') with
    | [] => return ⟨.v6 bits, 0⟩
    | _ :: zone => return ⟨.v6 bits, ← zone? bits (.ofList zone)⟩

end ZonedIp

end GossipCluster
