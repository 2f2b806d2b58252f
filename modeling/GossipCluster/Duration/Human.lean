import GossipCluster.Duration.Basic
import GossipCluster.Text.Blank
import GossipCluster.Text.Decimal
import GossipCluster.Text.Fault
import GossipCluster.Text.Hex

namespace GossipCluster.Duration

open Text (Fault)
open Text.Fault (need)

-- Spans as people write them are amounts with units, such as `1h 30m` or `1.5s`.
inductive TimeUnit
  | nanosecond
  | microsecond
  | millisecond
  | second
  | minute
  | hour
  | day
  | week
  | month
  | year
deriving DecidableEq, Repr

namespace TimeUnit

def all : List TimeUnit :=
  [nanosecond, microsecond, millisecond, second, minute, hour, day, week, month, year]

def names : TimeUnit → List String
  | nanosecond => ["nanos", "nsec", "ns"]
  | microsecond => ["usec", "us", "µs"]
  | millisecond => ["millis", "msec", "ms"]
  | second => ["seconds", "second", "secs", "sec", "s"]
  | minute => ["minutes", "minute", "min", "mins", "m"]
  | hour => ["hours", "hour", "hrs", "hr", "h"]
  | day => ["days", "day", "d"]
  | week => ["weeks", "week", "wks", "wk", "w"]
  | month => ["months", "month", "M"]
  | year => ["years", "year", "yrs", "yr", "y"]

def ofName? (s : String) : Option TimeUnit := all.find? (·.names.contains s)

-- A month is the twelfth part of a year, and a year 365 days and a quarter.
def nanos : TimeUnit → Nat
  | nanosecond => 1
  | microsecond => 1000
  | millisecond => 1000000
  | second => nanosPerSecond
  | minute => 60 * nanosPerSecond
  | hour => 3600 * nanosPerSecond
  | day => 86400 * nanosPerSecond
  | week => 604800 * nanosPerSecond
  | month => 2630016 * nanosPerSecond
  | year => 31557600 * nanosPerSecond

-- The smallest part of a whole amount that is reckoned with: seconds from the second on.
def wholeGrain (u : TimeUnit) : Nat := if u.nanos < nanosPerSecond then 1 else nanosPerSecond

-- The smallest part of a fraction that is reckoned with: seconds from the hour on.
def fractionGrain (u : TimeUnit) : Nat := if u.nanos < hour.nanos then 1 else nanosPerSecond

end TimeUnit

def wordLimit : Nat := UInt64.size

-- Sums are kept in two words, one for seconds and one for what is below. More than a second there is
-- carried with care, but exactly one without a look at the seconds.
def addWords (d : Duration) (grain amount : Nat) : Except Fault Duration :=
  if amount ≥ wordLimit then .error .malformed
  else if grain = 1 ∧ d.subsecond + amount ≥ wordLimit then .error .malformed
  else match d.add? ⟨amount * grain⟩ with
    | some sum => .ok sum
    | none =>
      if grain = 1 ∧ d.subsecond + amount = nanosPerSecond then .error .overflow
      else .error .malformed

-- Adds `n` units and the fraction `num / den` of one, which must come out even.
def addUnits (d : Duration) (u : TimeUnit) (n : Nat) (fraction : Option (Nat × Nat)) :
    Except Fault Duration := do
  let d ← d.addWords u.wholeGrain (n * (u.nanos / u.wholeGrain))
  match fraction with
  | none => return d
  | some (num, den) =>
    let product := num * (u.nanos / u.fractionGrain)
    if u = .nanosecond ∨ product ≥ wordLimit ∨ product % den ≠ 0 then throw .malformed
    d.addWords u.fractionGrain (product / den)

def isUnitLetter (c : Char) : Bool :=
  ('a' ≤ c && c ≤ 'z') || ('A' ≤ c && c ≤ 'Z') || c = 'µ'

-- What a number consists of; right behind a unit there is nothing else either.
def isNumeric (c : Char) : Bool := c.isDigit || Text.isBlank c

-- The digits at the front, with blanks anywhere among them.
def digitRun (cs : List Char) : List Char × List Char :=
  ((cs.takeWhile isNumeric).filter (·.isDigit), cs.dropWhile isNumeric)

def word? (digits : List Char) : Option Nat := (Text.digits? digits).filter (· < wordLimit)

-- The fraction behind a point, as a quotient.
def fraction? (digits : List Char) : Option (Nat × Nat) := do
  let den := Nat.pow 10 digits.length
  if den < wordLimit then return (← word? digits, den) else none

-- Amounts one after another, each beginning with a digit.
def amounts : (fuel : Nat) → Duration → List Char → Except Fault Duration
  | 0, _, _ => throw .malformed
  | fuel + 1, d, cs => do
    if !(cs.head?.any (·.isDigit)) then throw .malformed
    let (whole, cs) := digitRun cs
    let n ← need (word? whole)
    let (fraction, cs) ← match cs with
      | '.' :: cs => do
        let (digits, cs) := digitRun cs
        pure (some (← need (fraction? digits)), cs)
      | cs => pure (none, cs)
    let (name, cs) := (cs.takeWhile isUnitLetter, cs.dropWhile isUnitLetter)
    if !(cs.take 1).all isNumeric then throw .malformed
    let u ← need (TimeUnit.ofName? (.ofList name))
    let d ← d.addUnits u n fraction
    match Text.trimStart cs with
    | [] => return d
    | cs => amounts fuel d cs

-- A lone zero needs no unit.
def ofHuman (s : String) : Except Fault Duration :=
  if s = "0" then .ok zero else amounts s.length zero (Text.trimStart s.toList)

def toHuman (d : Duration) : String :=
  let s := d.seconds
  let n := d.subsecond
  let inMonth := s % 31557600 % 2630016
  let plural (unit : String) (amount : Nat) : List String :=
    if amount = 0 then [] else [toString amount ++ unit ++ if amount = 1 then "" else "s"]
  let item (unit : String) (amount : Nat) : List String :=
    if amount = 0 then [] else [toString amount ++ unit]
  let items :=
    plural "year" (s / 31557600) ++ plural "month" (s % 31557600 / 2630016) ++
    plural "day" (inMonth / 86400) ++ item "h" (inMonth % 86400 / 3600) ++
    item "m" (inMonth % 3600 / 60) ++ item "s" (inMonth % 60) ++ item "ms" (n / 1000000) ++
    item "us" (n / 1000 % 1000) ++ item "ns" (n % 1000)
  if items.isEmpty then "0s" else " ".intercalate items

end GossipCluster.Duration
