import GossipCluster.Duration.Basic
import GossipCluster.Text.Decimal

namespace GossipCluster

-- Nanoseconds since the start of 1970.
abbrev Timestamp := Int64

namespace Timestamp

-- Where a clock that is moved by hand starts.
def usualStart : Timestamp := 1700000000000000000

def clamp (n : Int) : Int64 :=
  if n < Int64.minValue.toInt then Int64.minValue
  else if n > Int64.maxValue.toInt then Int64.maxValue
  else Int64.ofInt n

-- The nanoseconds from `past` to `now`, held at the ends of the 64 bits.
def sub (now past : Timestamp) : Int64 := clamp (now.toInt - past.toInt)

def distance (a b : Timestamp) : Nat := (sub a b).toInt.natAbs

-- The time that has passed since `past`; none, if `past` is still to come.
def elapsed (now past : Timestamp) : Duration := ⟨(sub now past).toInt.toNat⟩

-- A clock that runs beyond its range starts over at the other end.
def advance (t : Timestamp) (d : Duration) : Timestamp :=
  t + Int64.ofNat (min d.nanos Int64.maxValue.toInt.toNat)

-- The year, month and day of a day counted from the first of 1970. Years begin in March, so that a
-- leap day ends its year; 400 years are 146097 days.
def civilDate (day : Int) : Int × Nat × Nat :=
  let z := day + 719468
  let era := z / 146097
  let dayOfEra := (z % 146097).toNat
  let yearOfEra := (dayOfEra - dayOfEra / 1460 + dayOfEra / 36524 - dayOfEra / 146096) / 365
  let dayOfYear := dayOfEra - (365 * yearOfEra + yearOfEra / 4 - yearOfEra / 100)
  let m := (5 * dayOfYear + 2) / 153
  let month := if m < 10 then m + 3 else m - 9
  let year := era * 400 + yearOfEra + (if month ≤ 2 then 1 else 0)
  (year, month, dayOfYear - (153 * m + 2) / 5 + 1)

-- Date and time in UTC with nine digits for the fraction of the second.
def text (t : Timestamp) : String :=
  let nanosPerDay : Int := 86400 * Duration.nanosPerSecond
  let (year, month, day) := civilDate (t.toInt / nanosPerDay)
  let nanos := (t.toInt % nanosPerDay).toNat
  let second := nanos / Duration.nanosPerSecond
  Text.padded 4 year.toNat ++ "-" ++ Text.padded 2 month ++ "-" ++ Text.padded 2 day ++ "T" ++
    Text.padded 2 (second / 3600) ++ ":" ++ Text.padded 2 (second / 60 % 60) ++ ":" ++
    Text.padded 2 (second % 60) ++ "." ++ Text.padded 9 (nanos % Duration.nanosPerSecond) ++ "Z"

end Timestamp

end GossipCluster
