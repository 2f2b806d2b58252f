import GossipCluster.Document.Basic
import GossipCluster.Number.Shortest
import GossipCluster.Toml.Text

namespace GossipCluster.Toml

-- The longest run of a character.
def longestRun (c : Char) (cs : List Char) : Nat :=
  (cs.foldl (fun (longest, run) d =>
    let run := if d = c then run + 1 else 0
    (max longest run, run)) (0, 0)).1

-- Runs of quotes are counted in a byte, and nothing can be written once the count overflows.
def isSurveyable (s : String) : Bool :=
  longestRun '"' s.toList < UInt8.size && longestRun '\'' s.toList < UInt8.size

-- Tabs and line ends may stand for themselves; other control characters must be escaped.
def needsEscape (c : Char) : Bool := isControl c && c != '\t' && c != '\n'

def upperHex (width n : Nat) : String :=
  let digits := (Nat.toDigits 16 n).map Char.toUpper
  .ofList (List.replicate (width - digits.length) '0' ++ digits)

def escape (c : Char) : String :=
  if c.toNat = 8 then "\\b"
  else if c = '\t' then "\\t"
  else if c = '\n' then "\\n"
  else if c.toNat = 12 then "\\f"
  else if c = '\r' then "\\r"
  else if c = '"' then "\\\""
  else if c = '\\' then "\\\\"
  else if isControl c then "\\u" ++ upperHex 4 c.toNat
  else String.singleton c

-- Quotes are escaped where a run of them would grow too long, and line ends within a single line.
def escapeAll (multiline : Bool) (cs : List Char) : String :=
  let quotes := if multiline then 2 else 0
  String.join (cs.foldl (fun (out, run) c =>
    if c = '"' then
      if run < quotes then ("\"" :: out, run + 1) else ("\\\"" :: out, 0)
    else if c = '\n' && multiline then ("\n" :: out, 0)
    else (escape c :: out, 0)) (([] : List String), 0)).1.reverse

def lineBreak (cs : List Char) : String := if cs.contains '\n' then "\n" else ""

def basicText (cs : List Char) : String := "\"" ++ escapeAll false cs ++ "\""

def literalText (cs : List Char) : String := "'" ++ .ofList cs ++ "'"

def multilineText (cs : List Char) : String :=
  "\"\"\"" ++ lineBreak cs ++ escapeAll true cs ++ "\"\"\""

def multilineLiteralText (cs : List Char) : String :=
  "'''" ++ lineBreak cs ++ .ofList cs ++ "'''"

-- The first form that needs no escapes, or else the one with as few as there are.
def stringText (s : String) : String :=
  let cs := s.toList
  let plain := !cs.any needsEscape
  let oneLine := !cs.contains '\n'
  if plain && oneLine && !cs.contains '\\' && !cs.contains '"' then basicText cs
  else if plain && oneLine && !cs.contains '\'' then literalText cs
  else if plain && !cs.contains '\\' && longestRun '"' cs ≤ 2 then multilineText cs
  else if plain && longestRun '\'' cs ≤ 2 then multilineLiteralText cs
  else if oneLine then basicText cs else multilineText cs

def keyText (s : String) : String :=
  let cs := s.toList
  let plain := !cs.any needsEscape && !cs.contains '\n'
  if !cs.isEmpty && cs.all isBare then s
  else if plain && !cs.contains '\\' && !cs.contains '"' then basicText cs
  else if plain && !cs.contains '\'' then literalText cs
  else basicText cs

def floatText (x : Float) : String := Float.text Decimal.positional x

mutual

-- Lists of two and more items have a line for each. Integers beyond 64 bits cannot be written.
def valueText : Document → Option String
  | .null => none
  | .bool b => some (if b then "true" else "false")
  | .integer n => if n < Int64.minValue.toInt ∨ n > Int64.maxValue.toInt then none else some (toString n)
  | .float x => some (floatText x)
  | .string s => some (stringText s)
  | .list items => do
    match ← itemTexts items with
    | [] => return "[]"
    | [item] => return "[" ++ item ++ "]"
    | items => return "[\n" ++ String.join (items.map fun i => "    " ++ i ++ ",\n") ++ "]"
  | .table fields => do
    match ← fieldTexts fields with
    | [] => return "\x7b\x7d"
    | fields => return "\x7b " ++ ", ".intercalate fields ++ " \x7d"

def itemTexts : List Document → Option (List String)
  | [] => some []
  | d :: rest => do return (← valueText d) :: (← itemTexts rest)

def fieldTexts : List (String × Document) → Option (List String)
  | [] => some []
  | (name, d) :: rest => do return (keyText name ++ " = " ++ (← valueText d)) :: (← fieldTexts rest)

end

mutual

-- The lines of a table: its own values first, and then its tables, each under a header. Fields
-- without a value are left out.
def tableLines (path : List String) : Document → Option (List String)
  | .table fields => do return (← valueLines fields) ++ (← sectionLines path fields)
  | _ => none

def valueLines : List (String × Document) → Option (List String)
  | [] => some []
  | (_, .table _) :: rest => valueLines rest
  | (_, .null) :: rest => valueLines rest
  | (name, d) :: rest => do return (keyText name ++ " = " ++ (← valueText d)) :: (← valueLines rest)

def sectionLines (path : List String) : List (String × Document) → Option (List String)
  | [] => some []
  | (name, .table fields) :: rest => do
    let path' := path ++ [keyText name]
    let lines ← tableLines path' (.table fields)
    return "" :: ("[" ++ ".".intercalate path' ++ "]") :: lines ++ (← sectionLines path rest)
  | _ :: rest => sectionLines path rest

end

def write? (d : Document) : Option String := do
  return String.join ((← tableLines [] d).map (· ++ "\n"))

end GossipCluster.Toml
