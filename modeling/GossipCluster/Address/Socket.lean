import GossipCluster.Address.Allowlist
import GossipCluster.Address.Zoned
import GossipCluster.Seeds

namespace GossipCluster

structure SocketAddress extends ZonedIp where
  port : Nat
deriving DecidableEq, Repr

namespace Ip

def groups (bits : Nat) : List Nat := (List.range 8).map fun i => (bits >>> (16 * (7 - i))) % 65536

def v4Text (bits : Nat) : String :=
  ".".intercalate <| (List.range 4).map fun i => toString ((bits >>> (8 * (3 - i))) % 256)

def hex (n : Nat) : String := .ofList (Nat.toDigits 16 n)

def groupsText (l : List Nat) : String := ":".intercalate (l.map hex)

-- Start and length of the first of the longest runs of zero groups.
def zeroRun (groups : List Nat) : Nat × Nat :=
  (List.range groups.length).foldl longer (0, 0)
where
  longer (best : Nat × Nat) (start : Nat) : Nat × Nat :=
    let length := ((groups.drop start).takeWhile (· = 0)).length
    if best.2 < length then (start, length) else best

-- The longest run of two or more zero groups is left out; an address that stands for one of version
-- 4 ends like it.
def v6Text (bits : Nat) : String :=
  if bits >>> 32 = 0xffff then "::ffff:" ++ v4Text (bits % UInt32.size)
  else
    let groups := groups bits
    let (start, length) := zeroRun groups
    if length ≤ 1 then groupsText groups
    else groupsText (groups.take start) ++ "::" ++ groupsText (groups.drop (start + length))

end Ip

namespace SocketAddress

def text : SocketAddress → String
  | ⟨⟨.v4 bits, _⟩, port⟩ => Ip.v4Text bits ++ ":" ++ toString port
  | ⟨⟨.v6 bits, zone⟩, port⟩ =>
    let zone := if zone = 0 then "" else "%" ++ toString zone
    "[" ++ Ip.v6Text bits ++ zone ++ "]:" ++ toString port

def readPort (width : Nat) : Text.Parser Nat :=
  Text.Parser.char ':' *> Ip.number 10 width Address.portLimit true

def readV4 (width : Nat) : Text.Parser SocketAddress :=
  return ⟨⟨.v4 (← Ip.readV4 Ip.strict), 0⟩, ← readPort width⟩

def readV6 (width : Nat) : Text.Parser SocketAddress := do
  Text.Parser.word "["
  let bits ← Ip.readV6 Ip.strict
  let zone ← Text.Parser.optional (Text.Parser.char '%' *> Ip.number 10 width UInt32.size true)
  Text.Parser.word "]"
  return ⟨⟨.v6 bits, zone.getD 0⟩, ← readPort width⟩

-- An address whose host is all that stands before the last colon.
def ofHostPort? (s : String) : Option SocketAddress := do
  let (host, port) ← Address.splitLast ':' s.toList
  return ⟨← ZonedIp.parse? (.ofList host), ← Text.natural? Address.portLimit (.ofList port)⟩

def parse? (s : String) : Option SocketAddress :=
  (readV4 s.length).run? s <|> (readV6 s.length).run? s <|> ofHostPort? s

end SocketAddress

-- Names that cannot be resolved are passed over as long as one can be.
def Seeds.resolve (names : List String) (datacenter : Option String) : Except Error (List Seed) :=
  let seeds := names.filterMap fun name =>
    (SocketAddress.parse? name).map fun a => (⟨a.text, datacenter⟩ : Seed)
  if seeds.isEmpty && !names.isEmpty then
    .error (.transport (",".intercalate names) "no seed name resolved")
  else .ok seeds

end GossipCluster
