import GossipCluster.Number.Binary64

namespace GossipCluster

-- The number `0.d₁d₂…dₙ · 10 ^ exponent`.
structure Decimal where
  digits   : List Nat
  exponent : Int
deriving DecidableEq, Repr

namespace Binary64

-- A number as a quotient.
structure Quotient where
  num : Nat
  den : Nat

def Quotient.le (a b : Quotient) : Bool := a.num * b.den ≤ b.num * a.den

def Quotient.lt (a b : Quotient) : Bool := a.num * b.den < b.num * a.den

-- A count of units of which four make the last place of the significand.
def Finite.quarters (x : Finite) (n : Nat) : Quotient :=
  if x.exponent ≥ 2 then ⟨n <<< (x.exponent - 2).toNat, 1⟩
  else ⟨n, 1 <<< (2 - x.exponent).toNat⟩

-- The reals that are rounded to a number lie between its two ends. The gap below a power of two is
-- half as wide as the one above; the ends belong to an even significand.
def Finite.holds (x : Finite) (c : Quotient) : Bool :=
  let narrow := x.significand = leadingBit ∧ x.exponent > -1074
  let low := x.quarters (4 * x.significand - if narrow then 1 else 2)
  let high := x.quarters (4 * x.significand + 2)
  if x.significand % 2 = 0 then low.le c && c.le high else low.lt c && c.lt high

-- The decimal exponent for which the first digit stands right behind the point.
def Finite.decimalExponent (x : Finite) : Int :=
  let v := x.quarters (4 * x.significand)
  (Nat.toDigits 10 (v.num * Nat.pow 10 350 / v.den)).length - 350

def gridPoint (c : Nat) (unit : Int) : Quotient :=
  if unit ≥ 0 then ⟨c * Nat.pow 10 unit.toNat, 1⟩ else ⟨c, Nat.pow 10 (-unit).toNat⟩

-- Of the two points of a grid around the number the one that reads back; of both the nearer.
def Finite.onGrid? (x : Finite) (unit : Int) : Option Nat :=
  let v := x.quarters (4 * x.significand)
  let scaled : Quotient :=
    if unit ≥ 0 then ⟨v.num, v.den * Nat.pow 10 unit.toNat⟩
    else ⟨v.num * Nat.pow 10 (-unit).toNat, v.den⟩
  let c := scaled.num / scaled.den
  let nearest := roundQuotient scaled.num scaled.den
  [nearest, c, c + 1].find? fun c => x.holds (gridPoint c unit)

def trimZeros (digits : List Nat) : List Nat := (digits.reverse.dropWhile (· = 0)).reverse

def digitsOf (n : Nat) : List Nat := (Nat.toDigits 10 n).map fun c => c.toNat - '0'.toNat

-- Seventeen digits always suffice.
def Finite.shortest (x : Finite) : Decimal :=
  if x.significand = 0 then ⟨[0], 1⟩
  else
    let exponent := x.decimalExponent
    let found := (List.range 17).findSome? fun n => x.onGrid? (exponent - (n + 1 : Nat)) |>.map (n + 1, ·)
    match found with
    | some (n, c) =>
      let digits := digitsOf c
      ⟨trimZeros digits, exponent + (digits.length : Nat) - (n : Nat)⟩
    | none => ⟨[0], 1⟩

end Binary64

namespace Decimal

def text (digits : List Nat) : String := .ofList <| digits.map fun d => Char.ofNat ('0'.toNat + d)

def zeros (n : Nat) : String := .ofList (List.replicate n '0')

-- All places up to the last digit, and at least one behind the point.
def positional (d : Decimal) : String :=
  if d.exponent ≤ 0 then "0." ++ zeros (-d.exponent).toNat ++ text d.digits
  else
    let whole := d.exponent.toNat
    let fraction := text (d.digits.drop whole)
    text (d.digits.take whole) ++ zeros (whole - d.digits.length) ++ "." ++
      if fraction = "" then "0" else fraction

-- Positional near the point, else one digit before it and an exponent with its sign.
def compact (d : Decimal) : String :=
  if -5 < d.exponent ∧ d.exponent ≤ 16 then d.positional
  else
    let rest := text (d.digits.drop 1)
    text (d.digits.take 1) ++ (if rest = "" then "" else "." ++ rest) ++
      (if d.exponent > 0 then "e+" else "e") ++ toString (d.exponent - 1)

end Decimal

-- A float in a layout for its magnitude; infinities and NaN have names.
def Float.text (layout : Decimal → String) (x : Float) : String :=
  match Binary64.finite? x with
  | some v => (if v.negative then "-" else "") ++ layout v.shortest
  | none => (if x.toBits >>> 63 = 1 then "-" else "") ++ if x.isNaN then "nan" else "inf"

end GossipCluster
