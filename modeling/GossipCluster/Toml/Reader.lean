import GossipCluster.Toml.Scalar
import GossipCluster.Toml.Tree

namespace GossipCluster.Toml

open Text (Parser)

def list (item : Parser Document) : Parser Document := do
  Parser.char '['
  let items ← Parser.separated (Parser.char ',') (gap *> item <* gap)
  if !items.isEmpty then discard <| Parser.optional (Parser.char ',')
  gap
  Parser.char ']'
  return .list items

def assignment (item : Parser Document) : Parser (List String × Document) := do
  let path ← key
  Parser.char '='
  spaces
  return (path, ← item)

def inlineTable (item : Parser Document) : Parser Document := do
  Parser.char '\x7b'
  let pairs ← Parser.separated (Parser.char ',') (assignment item <* spaces)
  spaces
  Parser.char '\x7d'
  let fields : Fields ← pairs.foldlM
    (fun fields (path, d) => (Fields.put path.dropLast (path.getLastD "") d fields).elim failure pure) []
  return .table (Fields.toDocuments fields)

def valueWithin : (depth : Nat) → Parser Document
  | 0 => scalar
  | depth + 1 => scalar <|> list (valueWithin depth) <|> inlineTable (valueWithin depth)

inductive Line
  | blank
  | header (path : List String)
  | listHeader (path : List String)
  | assignment (path : List String) (value : Document)

def header : Parser Line := do
  Parser.char '['
  if (← Parser.optional (Parser.char '[')).isSome then
    let path ← key
    Parser.word "]]"
    return .listHeader path
  else
    let path ← key
    Parser.char ']'
    return .header path

def line : Parser Line := do
  spaces
  match ← Parser.peek? with
  | some '#' => do comment; lineEnd; return .blank
  | some '\n' | some '\r' => do newline; return .blank
  | some '[' => header <* closeLine
  | _ => do
    let (path, value) ← assignment (valueWithin maxDepth)
    closeLine
    return .assignment path value

-- The document so far, and the path of the header under which it goes on.
structure Section where
  root : Fields
  path : List String

def Section.add (s : Section) : Line → Option Section
  | .blank => some s
  | .header path => do
    return ⟨← Fields.openTable path.dropLast (path.getLastD "") s.root, path⟩
  | .listHeader path => do
    return ⟨← Fields.openListTable path.dropLast (path.getLastD "") s.root, path⟩
  | .assignment path value => do
    return ⟨← Fields.within (Fields.put path.dropLast (path.getLastD "") value) s.path s.root, s.path⟩

def lines : Parser (List Line) := do
  discard <| Parser.optional (Parser.char '\ufeff')
  Parser.many line <* spaces

-- The table that a text stands for; none, if it is not TOML.
def read? (text : String) : Option Document := do
  let lines ← lines.run? text
  let s ← lines.foldlM Section.add ⟨[], []⟩
  return .table (Fields.toDocuments s.root)

end GossipCluster.Toml
