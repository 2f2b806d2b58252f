import GossipCluster.Wire.Writer

namespace GossipCluster.Wire

def Reader (α : Type) := List UInt8 → Except Error (α × List UInt8)

namespace Reader

instance : Monad Reader where
  pure a bytes := .ok (a, bytes)
  bind r f bytes := match r bytes with
    | .ok (a, rest) => f a rest
    | .error e => .error e

def fail (e : Error) : Reader α := fun _ => .error e

def ofExcept : Except Error α → Reader α
  | .ok a => pure a
  | .error e => fail e

end Reader

namespace Read

def truncated (context : String) (needed left : Nat) : Error :=
  .codec context ("need " ++ toString needed ++ " bytes, have " ++ toString left)

def exactly (context : String) (n : Nat) : Reader (List UInt8) := fun bytes =>
  let taken := bytes.take n
  if taken.length < n then .error (truncated context n bytes.length)
  else .ok (taken, bytes.drop n)

def word (context : String) (width : Nat) : Reader Nat :=
  return ofBigEndian (← exactly context width)

def byte (context : String) : Reader UInt8 := return .ofNat (← word context 1)

def counter (context : String) : Reader UInt64 := return .ofNat (← word context 8)

def time (context : String) : Reader Timestamp :=
  return (UInt64.ofNat (← word context 8)).toInt64

def length (context : String) (max : Nat) : Reader Nat := do
  let n ← word context 4
  if n > max then .fail (tooLong context n) else return n

def blob (context : String) (max : Nat) : Reader (List UInt8) := do
  exactly context (← length context max)

def text (context : String) : Reader String := do
  match String.fromUTF8? ⟨(← blob context maxTextBytes).toArray⟩ with
  | some s => return s
  | none => .fail (.codec context "invalid utf-8")

def times (read : Reader α) (n : Nat) : Reader (List α) := go n []
where
  go : Nat → List α → Reader (List α)
    | 0, acc, bytes => .ok (acc.reverse, bytes)
    | n + 1, acc, bytes => match read bytes with
      | .ok (a, rest) => go n (a :: acc) rest
      | .error e => .error e

def listOf (context : String) (max : Nat) (read : Reader α) : Reader (List α) := do
  times read (← length context max)

-- Of entries with the same key the last counts.
def map (context : String) : Reader (Dict String) :=
  return .ofList (← listOf context maxMapEntries do return (← text context, ← text context))

-- Reads within the bytes of a body; what is left of them at the end is skipped, so that newer nodes
-- may append fields.
def body (context : String) (read : Reader α) : Reader α := do
  match read (← blob context maxLength) with
  | .ok (a, _) => return a
  | .error e => .fail e

end GossipCluster.Wire.Read
