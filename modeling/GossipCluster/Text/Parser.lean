namespace GossipCluster.Text

-- Reads from the front of a list of characters. An alternative starts where the failed one started.
abbrev Parser (α : Type) := StateT (List Char) Option α

namespace Parser

variable {α β : Type}

def peek? : Parser (Option Char) := fun cs => some (cs.head?, cs)

def satisfy (p : Char → Bool) : Parser Char
  | [] => none
  | c :: cs => if p c then some (c, cs) else none

def char (c : Char) : Parser Unit := discard <| satisfy (· == c)

def word (s : String) : Parser Unit := s.toList.forM char

def takeWhile (p : Char → Bool) : Parser (List Char) := fun cs =>
  some (cs.takeWhile p, cs.dropWhile p)

def takeWhile₁ (p : Char → Bool) : Parser (List Char) := do
  let taken ← takeWhile p
  if taken.isEmpty then failure else return taken

def optional (p : Parser α) : Parser (Option α) := fun cs =>
  match p cs with
  | some (a, rest) => some (some a, rest)
  | none => some (none, cs)

-- As many as there are, but no more than there are characters.
def many (p : Parser α) : Parser (List α) := fun cs => go cs [] cs
where
  go : List Char → List α → Parser (List α)
    | [], acc, cs => some (acc.reverse, cs)
    | _ :: left, acc, cs => match p cs with
      | some (a, rest) => go left (a :: acc) rest
      | none => some (acc.reverse, cs)

-- Items with a separator between every two of them.
def separated (separator : Parser β) (item : Parser α) : Parser (List α) := do
  match (← optional item) with
  | none => return []
  | some a => return a :: (← many (separator *> item))

def eof : Parser Unit := fun cs => if cs.isEmpty then some ((), cs) else none

def run? (p : Parser α) (s : String) : Option α := ((p <* eof) s.toList).map Prod.fst

end Parser

end GossipCluster.Text
