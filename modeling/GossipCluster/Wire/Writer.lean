import GossipCluster.Member.Basic
import GossipCluster.Wire.Bytes

namespace GossipCluster.Wire

def maxTextBytes : Nat := 1 <<< 20

def maxMapEntries : Nat := 65536

def maxLength : Nat := UInt32.size - 1

def tooLong (context : String) (length : Nat) : Error :=
  .codec context ("length " ++ toString length ++ " exceeds limit")

def addressTooLong : Error := .codec "node state" "address too long"

-- Texts, blobs, maps and bodies carry their length in front, and each has an upper bound.
abbrev Written := Except Error (List UInt8)

namespace Write

def byte (b : UInt8) : Written := .ok [b]

def word (width n : Nat) : Written := .ok (bigEndian width n)

def counter (n : UInt64) : Written := word 8 n.toNat

def time (t : Timestamp) : Written := word 8 t.toUInt64.toNat

def length (context : String) (max n : Nat) : Written :=
  if n > max ∨ n > maxLength then .error (tooLong context n) else word 4 n

-- The parts one after another; the first that cannot be written decides the error.
def all (parts : List Written) : Written := (parts.mapM id).map List.flatten

def blob (context : String) (max : Nat) (bytes : List UInt8) : Written :=
  all [length context max bytes.length, .ok bytes]

def text (s : String) : Written := blob "string" maxTextBytes s.toUTF8.data.toList

def listOf (context : String) (max : Nat) (write : α → Written) (items : List α) : Written :=
  all (length context max items.length :: items.map write)

def map (d : Dict String) : Written :=
  listOf "map" maxMapEntries (fun e => all [text e.1, text e.2]) d.rows

def body (context : String) (parts : List Written) : Written :=
  all parts >>= blob context maxLength

end GossipCluster.Wire.Write
