/-!
Doubles taken apart, and the exact steps between doubles and integers. Everything that prints
or cuts a number works on the parts in whole-number arithmetic.
-/

set_option autoImplicit false

namespace Rehearsal.Number

/-- A double: not a number, an infinity, or a signed `mantissa * 2 ^ exponent`. -/
inductive Binary where
  | nan
  | infinite (negative : Bool)
  | finite (negative : Bool) (mantissa : Nat) (exponent : Int)
  deriving DecidableEq

def Binary.ofFloat (value : Float) : Binary :=
  let bits : Nat := value.toBits.toNat
  let negative := bits / Nat.pow 2 63 == 1
  let scale : Nat := bits / Nat.pow 2 52 % 2048
  let fraction := bits % Nat.pow 2 52
  if scale == 2047 then if fraction == 0 then infinite negative else nan
  else if scale == 0 then finite negative fraction (-1074)
  else finite negative (fraction + Nat.pow 2 52) ((scale : Int) - 1075)

/-- A fraction of whole numbers; the denominator is positive. -/
structure Fraction where
  numer : Nat
  denom : Nat

/-- The value of `mantissa * 2 ^ exponent`. -/
def Fraction.scaled (mantissa : Nat) (exponent : Int) : Fraction :=
  if exponent < 0 then { numer := mantissa, denom := Nat.pow 2 exponent.natAbs }
  else { numer := mantissa * Nat.pow 2 exponent.natAbs, denom := 1 }

/-- The whole part of a finite double. -/
def truncate? (value : Float) : Option Int :=
  match Binary.ofFloat value with
  | .finite negative mantissa exponent =>
    let size := Fraction.scaled mantissa exponent
    let whole := size.numer / size.denom
    some (if negative then -(whole : Int) else whole)
  | _ => none

/-- A finite double without a fractional part, as an integer. -/
def integral? (value : Float) : Option Int :=
  match Binary.ofFloat value with
  | .finite negative mantissa exponent =>
    let size := Fraction.scaled mantissa exponent
    if size.numer % size.denom == 0 then
      let whole := size.numer / size.denom
      some (if negative then -(whole : Int) else whole)
    else none
  | _ => none

/-- The double nearest to an integer, unless it is beyond all doubles. -/
def ofInt? (value : Int) : Option Float :=
  let image := Float.ofInt value
  if image.isFinite then some image else none

/-- The exact rational value of a finite double. -/
def toRat? (value : Float) : Option Rat :=
  match Binary.ofFloat value with
  | .finite negative mantissa exponent =>
    let size := Fraction.scaled mantissa exponent
    let quotient := mkRat size.numer size.denom
    some (if negative then -quotient else quotient)
  | _ => none

end Rehearsal.Number
