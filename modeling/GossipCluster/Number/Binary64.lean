namespace GossipCluster.Binary64

-- The number `± significand · 2 ^ exponent`.
structure Finite where
  negative    : Bool
  significand : Nat
  exponent    : Int
deriving DecidableEq, Repr

-- The bit in front of the point of a normal significand.
def leadingBit : Nat := 1 <<< 52

-- The exact value of a float that is neither infinite nor NaN.
def finite? (x : Float) : Option Finite :=
  let bits := x.toBits.toNat
  let fraction : Nat := bits % leadingBit
  let biased : Nat := (bits >>> 52) % 2048
  let negative : Bool := bits >>> 63 = 1
  if biased = 2047 then none
  else if biased = 0 then some ⟨negative, fraction, -1074⟩
  else some ⟨negative, fraction + leadingBit, (biased : Int) - 1075⟩

-- The whole number nearest to `num / den`; halfway between two, the even one.
def roundQuotient (num den : Nat) : Nat :=
  let q := num / den
  let r := num % den
  if 2 * r < den then q
  else if 2 * r > den then q + 1
  else if q % 2 = 0 then q else q + 1

-- The magnitude of a number in units of `1 / scale`, rounded to a whole number.
def Finite.scaled (x : Finite) (scale : Nat) : Nat :=
  if 0 ≤ x.exponent then (x.significand * scale) <<< x.exponent.toNat
  else roundQuotient (x.significand * scale) (1 <<< (-x.exponent).toNat)

def Finite.toInt (x : Finite) : Int := if x.negative then -(x.scaled 1 : Int) else x.scaled 1

-- The whole number that stands for `n` among the floats.
def nearestInt (n : Int) : Int := ((finite? (Float.ofInt n)).map Finite.toInt).getD n

-- Repeated squaring: the order of the products fixes their rounding.
def power (base : Float) (n : Nat) : Float :=
  go base 1 n
where
  go (a r : Float) (n : Nat) : Float :=
    let r := if n % 2 = 1 then r * a else r
    if n < 2 then r else go (a * a) r (n / 2)
  termination_by n

end GossipCluster.Binary64
