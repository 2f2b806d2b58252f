namespace GossipCluster.Text

def digit? (c : Char) : Option Nat :=
  if c.isDigit then some (c.toNat - '0'.toNat) else none

-- The value of a nonempty run of digits, or `none` when it holds anything else.
def digits? : List Char → Option Nat
  | [] => none
  | cs => cs.foldlM (fun n c => (n * 10 + ·) <$> digit? c) 0

-- A natural number below `limit`, with at most one plus sign in front.
def natural? (limit : Nat) (s : String) : Option Nat :=
  let digits := match s.toList with
    | '+' :: cs => cs
    | cs => cs
  (digits? digits).filter (· < limit)

-- The last `width` digits of a number, with leading zeros.
def padded (width n : Nat) : String :=
  let s := toString n
  .ofList (List.replicate (width - s.length) '0') ++ s

end GossipCluster.Text
