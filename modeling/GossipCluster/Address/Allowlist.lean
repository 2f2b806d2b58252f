import GossipCluster.Address.Ip
import GossipCluster.Member.Basic
import GossipCluster.Text.Blank

namespace GossipCluster

namespace Address

def portLimit : Nat := 65536

-- Splits at the last place where the character stands.
def splitLast (c : Char) (cs : List Char) : Option (List Char × List Char) :=
  let r := cs.reverse
  match r.dropWhile (· != c) with
  | [] => none
  | _ :: before => some (before.reverse, (r.takeWhile (· != c)).reverse)

-- The host and the port of an address. A version 6 host stands in brackets: without them it is all
-- host and no port.
def split? (address : String) : Option (String × Nat) := do
  let (host, port) ← match address.toList with
    | '[' :: r => match r.dropWhile (· != ']') with
      | _ :: ':' :: port => some (r.takeWhile (· != ']'), port)
      | _ => none
    | cs => do
      let (host, port) ← splitLast ':' cs
      if host.contains ':' then none else some (host, port)
  return (.ofList host, ← Text.natural? portLimit (.ofList port))

def host (address : String) : String := ((split? address).map Prod.fst).getD address

end Address

inductive AddressRule
  | host (name : String)
  | hostPort (address : String)
  | block (b : IpBlock)
deriving DecidableEq, Repr

structure AddressAllowlist where
  rules : List AddressRule
deriving DecidableEq, Repr, Inhabited

namespace AddressAllowlist

def isBracket (c : Char) : Bool := c = '[' || c = ']'

def withoutBrackets (s : String) : String :=
  .ofList ((s.toList.dropWhile isBracket).reverse.dropWhile isBracket).reverse

def invalidBlock (entry : String) : Error :=
  .configuration "security.allowed_addresses"
    ("invalid CIDR '" ++ entry ++ "': invalid IP address syntax")

def parseRule (entry : String) : Except Error AddressRule :=
  if entry.toList.contains '/' then
    match IpBlock.parse? entry with
    | some b => .ok (.block b)
    | none => .error (invalidBlock entry)
  else if (Address.split? entry).isSome then .ok (.hostPort entry)
  else .ok (.host (withoutBrackets entry))

-- Blanks around an entry, and entries without anything else, do not count.
def parse (entries : List String) : Except Error AddressAllowlist :=
  AddressAllowlist.mk <$> ((entries.map Text.trim).filter (· != "")).mapM parseRule

def isEmpty (l : AddressAllowlist) : Bool := l.rules.isEmpty

def admits (address : String) : AddressRule → Bool
  | .hostPort exact => exact = address
  | .host name => name = Address.host address
  | .block b => (Ip.parse? (Address.host address)).any b.contains

def allows (l : AddressAllowlist) (address : String) : Bool :=
  l.isEmpty || l.rules.any (admits address)

end AddressAllowlist

structure DatacenterAllowlist where
  allowed : List String
deriving DecidableEq, Repr, Inhabited

namespace DatacenterAllowlist

def canonical (datacenter : String) : String :=
  if datacenter = "" then Member.defaultDatacenter else datacenter

def new (entries : List String) : DatacenterAllowlist := ⟨entries.map canonical⟩

def allows (l : DatacenterAllowlist) (datacenter : String) : Bool :=
  l.allowed.isEmpty || l.allowed.contains (canonical datacenter)

end DatacenterAllowlist

end GossipCluster
