import GossipCluster.Text.Hex
import GossipCluster.Text.Parser

namespace GossipCluster.Toml

open Text (Parser)

def isSpace (c : Char) : Bool := c = ' ' || c = '\t'

def isControl (c : Char) : Bool := c.toNat < 0x20 || c.toNat = 0x7f

-- What may stand on a line besides its end.
def isInline (c : Char) : Bool := c = '\t' || !isControl c

def spaces : Parser Unit := discard <| Parser.takeWhile isSpace

def newline : Parser Unit := Parser.char '\n' <|> Parser.word "\r\n"

def comment : Parser Unit := Parser.char '#' *> discard (Parser.takeWhile isInline)

def lineEnd : Parser Unit := newline <|> Parser.eof

-- What may follow a value or a header on its line.
def closeLine : Parser Unit := spaces *> discard (Parser.optional comment) *> lineEnd

-- Between the items of a list lines may end, and comments stand.
def gap : Parser Unit :=
  discard <| Parser.many (discard (Parser.satisfy isSpace) <|> newline <|> comment)

def hexScalar (width : Nat) : Parser Char := do
  let digits ← (List.range width).mapM fun _ => Parser.satisfy fun c => (Text.Hex.digit? c).isSome
  let n := digits.foldl (fun n c => n * 16 + (Text.Hex.digit? c).getD 0) 0
  if h : n.isValidChar then return Char.ofNatAux n h else failure

def escaped : Parser Char := do
  Parser.char '\\'
  match ← Parser.satisfy (fun _ => true) with
  | 'b' => return Char.ofNat 8
  | 't' => return '\t'
  | 'n' => return '\n'
  | 'f' => return Char.ofNat 12
  | 'r' => return '\r'
  | '"' => return '"'
  | '\\' => return '\\'
  | 'u' => hexScalar 4
  | 'U' => hexScalar 8
  | _ => failure

def basicChar : Parser Char :=
  Parser.satisfy (fun c => isInline c && c != '"' && c != '\\') <|> escaped

def basicString : Parser String := do
  Parser.char '"'
  let cs ← Parser.many basicChar
  Parser.char '"'
  return .ofList cs

def literalString : Parser String := do
  Parser.char '\''
  let cs ← Parser.takeWhile fun c => isInline c && c != '\''
  Parser.char '\''
  return .ofList cs

-- A backslash at the end of a line joins it with what follows the blanks and line ends after it.
def lineJoin : Parser Unit := do
  Parser.char '\\'
  spaces
  newline
  discard <| Parser.many (discard (Parser.satisfy isSpace) <|> newline)

def runOf (c : Char) (n : Nat) : Parser Unit := Parser.word (.ofList (List.replicate n c))

-- One or two quotes are text unless they end the string.
def looseQuotes (quote : Char) : Parser (List Char) := do
  let run ← Parser.takeWhile₁ (· == quote)
  if run.length < 3 then return run else failure

-- A string over several lines: up to two quotes may stand right before the three that end it, and a
-- line end right after those that begin it does not count.
def multiline (quote : Char) (piece : Parser (List Char)) : Parser String := do
  runOf quote 3
  discard <| Parser.optional newline
  let pieces ← Parser.many <|
    piece <|> looseQuotes quote <|> (do newline; return ['\n'])
  let closing ← Parser.optional (runOf quote 5) <&> (·.map fun _ => 2)
  let closing ← match closing with
    | some n => pure n
    | none => do
      match ← Parser.optional (runOf quote 4) with
      | some _ => pure 1
      | none => do runOf quote 3; pure 0
  return .ofList (pieces.flatten ++ List.replicate closing quote)

def multilineBasic : Parser String :=
  multiline '"' <|
    (do lineJoin; return []) <|> (do return [← basicChar])

def multilineLiteral : Parser String :=
  multiline '\'' do return [← Parser.satisfy fun c => isInline c && c != '\'']

def string : Parser String := multilineBasic <|> basicString <|> multilineLiteral <|> literalString

def isBare (c : Char) : Bool := c.isAlphanum || c = '-' || c = '_'

def simpleKey : Parser String := do
  match ← Parser.peek? with
  | some '"' => basicString
  | some '\'' => literalString
  | _ => return .ofList (← Parser.takeWhile₁ isBare)

-- How many lists, inline tables or parts of a dotted key may stand within each other.
def maxDepth : Nat := 79

-- The parts of a dotted key, with blanks around them.
def key : Parser (List String) := do
  let part : Parser String := spaces *> simpleKey <* spaces
  let parts ← Parser.separated (Parser.char '.') part
  if parts.isEmpty || maxDepth < parts.length then failure else return parts

end GossipCluster.Toml
