namespace GossipCluster.Text.Utf8

def replacement : List UInt8 := "\ufffd".toUTF8.data.toList

-- Behind the first byte of a character: the least and the greatest byte that may come next, and how
-- many come in all. Further bytes lie between 0x80 and 0xbf.
def following? (first : UInt8) : Option (UInt8 × UInt8 × Nat) :=
  if first < 0xc2 then none
  else if first < 0xe0 then some (0x80, 0xbf, 1)
  else if first = 0xe0 then some (0xa0, 0xbf, 2)
  else if first = 0xed then some (0x80, 0x9f, 2)
  else if first < 0xf0 then some (0x80, 0xbf, 2)
  else if first = 0xf0 then some (0x90, 0xbf, 3)
  else if first < 0xf4 then some (0x80, 0xbf, 3)
  else if first = 0xf4 then some (0x80, 0x8f, 3)
  else none

-- How many bytes, of those that may come next, do.
def fitting (least greatest : UInt8) : Nat → List UInt8 → Nat
  | n + 1, b :: rest => if least ≤ b && b ≤ greatest then fitting 0x80 0xbf n rest + 1 else 0
  | _, _ => 0

-- What is no part of a character gives way to a replacement character, one for each longest piece that could have begun
-- a character.
def repair : List UInt8 → List UInt8
  | [] => []
  | b :: rest =>
    if b < 0x80 then b :: repair rest
    else match following? b with
      | none => replacement ++ repair rest
      | some (least, greatest, n) =>
        let fit := fitting least greatest n rest
        (if fit = n then b :: rest.take n else replacement) ++ repair (rest.drop fit)
termination_by bytes => bytes.length
decreasing_by all_goals simp only [List.length_cons, List.length_drop]; omega

end GossipCluster.Text.Utf8
