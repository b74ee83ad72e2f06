import Rehearsal.Number.Decimal

/-!
The fewest digits that read back as the same double. The doubles' neighbours bound an interval
of reals that all round to it; the first decimal grid with a point in the interval wins, and of
its points the one nearest to the double.
-/

set_option autoImplicit false

namespace Rehearsal.Number

/-- The reals that round to a double, all three ends in quarters of its last place. -/
structure Basin where
  low : Fraction
  centre : Fraction
  high : Fraction
  /-- Whether the ends themselves round to the double. -/
  closed : Bool

/-- Below a power of two the neighbour is half as far away. -/
def Basin.ofParts (mantissa : Nat) (exponent : Int) : Basin :=
  let below := if mantissa == Nat.pow 2 52 && exponent != -1074 then 1 else 2
  { low := Fraction.scaled (4 * mantissa - below) (exponent - 2)
    centre := Fraction.scaled (4 * mantissa) (exponent - 2)
    high := Fraction.scaled (4 * mantissa + 2) (exponent - 2)
    closed := mantissa % 2 == 0 }

def Fraction.le (left right : Fraction) : Bool :=
  left.numer * right.denom <= right.numer * left.denom

def Fraction.lt (left right : Fraction) : Bool :=
  left.numer * right.denom < right.numer * left.denom

def Basin.contains (basin : Basin) (point : Fraction) : Bool :=
  if basin.closed then basin.low.le point && point.le basin.high
  else basin.low.lt point && point.lt basin.high

/-- The point of a grid with `count` digits that lies in the basin and is nearest to its centre. -/
def Basin.gridPoint? (basin : Basin) (power : Int) (count : Nat) : Option Digits :=
  let step := tenTo (power + 1 - count)
  let numer := basin.centre.numer * step.denom
  let denom := basin.centre.denom * step.numer
  let lower := numer / denom
  let nearest := roundDiv numer denom
  let other := if nearest == lower then lower + 1 else lower
  let point := fun units => ({ numer := units * step.numer, denom := step.denom } : Fraction)
  let found := [nearest, other].find? fun units => basin.contains (point units)
  found.map fun units =>
    let text := digits units
    { digits := dropZeros text, point := power + 1 + ((text.length : Int) - count) }

/-- The first grid, from one digit on, that has a point in the basin. -/
def Basin.shortest (basin : Basin) : Digits :=
  let power := leadingPower basin.centre
  ((List.range 17).findSome? fun count => basin.gridPoint? power (count + 1)).getD
    (significant 17 basin.centre)

/-- A double as documents write it. -/
def shortest (value : Float) : String :=
  match Binary.ofFloat value with
  | .nan => "nan"
  | .infinite negative => signed negative "inf".toList
  | .finite negative mantissa exponent =>
    if mantissa == 0 then signed negative "0.0".toList
    else signed negative (documentNumber.write (Basin.ofParts mantissa exponent).shortest)

end Rehearsal.Number
