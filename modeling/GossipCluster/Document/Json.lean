import GossipCluster.Document.Basic
import GossipCluster.Number.Shortest
import GossipCluster.Text.Hex

namespace GossipCluster.Document.Json

def escape (c : Char) : String :=
  if c = '"' then "\\\""
  else if c = '\\' then "\\\\"
  else if c = '\n' then "\\n"
  else if c = '\r' then "\\r"
  else if c = '\t' then "\\t"
  else if c.toNat = 8 then "\\b"
  else if c.toNat = 12 then "\\f"
  else if c.toNat < 32 then "\\u00" ++ Text.Hex.encode [.ofNat c.toNat]
  else String.singleton c

def quoted (s : String) : String := "\"" ++ String.join (s.toList.map escape) ++ "\""

-- Numbers without a decimal text have no JSON text either.
def number (x : Float) : String :=
  if x.isFinite then Float.text Decimal.compact x else "null"

def indentation (depth : Nat) : String := .ofList (List.replicate (2 * depth) ' ')

def block (opening closing : String) (depth : Nat) (lines : List String) : String :=
  if lines.isEmpty then opening ++ closing
  else
    let inner := indentation (depth + 1)
    opening ++ "\n" ++ (",\n".intercalate (lines.map (inner ++ ·))) ++ "\n" ++ indentation depth ++
      closing

mutual

-- One field or item a line.
def write (depth : Nat) : Document → String
  | null => "null"
  | bool b => if b then "true" else "false"
  | integer n => toString n
  | float x => number x
  | string s => quoted s
  | list items => block "[" "]" depth (writeItems (depth + 1) items)
  | table fields => block "\x7b" "\x7d" depth (writeFields (depth + 1) fields)

def writeItems (depth : Nat) : List Document → List String
  | [] => []
  | d :: rest => write depth d :: writeItems depth rest

def writeFields (depth : Nat) : List (String × Document) → List String
  | [] => []
  | (name, d) :: rest => (quoted name ++ ": " ++ write depth d) :: writeFields depth rest

end

def text (d : Document) : String := write 0 d

end GossipCluster.Document.Json
