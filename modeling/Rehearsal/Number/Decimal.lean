import Rehearsal.Number.Binary

/-!
Decimal texts of numbers: a fixed count of places, six significant digits, and the fewest
digits that read back. All three round in whole-number arithmetic, a tie going to the even
neighbour.
-/

set_option autoImplicit false

namespace Rehearsal.Number

/-- The whole number nearest to `numer / denom`, of two equally near the even one. -/
def roundDiv (numer denom : Nat) : Nat :=
  let quotient := numer / denom
  let twice := 2 * (numer % denom)
  if twice < denom then quotient
  else if denom < twice then quotient + 1
  else if quotient % 2 == 0 then quotient
  else quotient + 1

def digits (value : Nat) : List Char := Nat.toDigits 10 value

def padLeft (width : Nat) (text : List Char) : List Char :=
  List.replicate (width - text.length) '0' ++ text

def signed (negative : Bool) (text : List Char) : String :=
  String.ofList (if negative then '-' :: text else text)

/-- `numer / denom` with a fixed count of places. -/
def fixedDigits (places : Nat) (size : Fraction) : List Char :=
  let units := roundDiv (size.numer * Nat.pow 10 places) size.denom
  let text := padLeft (places + 1) (digits units)
  let whole := text.take (text.length - places)
  if places == 0 then whole else whole ++ '.' :: text.drop (text.length - places)

/-- A double with a fixed count of places. -/
def fixed (places : Nat) (value : Float) : String :=
  match Binary.ofFloat value with
  | .nan => "nan"
  | .infinite negative => signed negative "inf".toList
  | .finite negative mantissa exponent =>
    signed negative (fixedDigits places (Fraction.scaled mantissa exponent))

def tenTo (power : Int) : Fraction :=
  if power < 0 then { numer := 1, denom := Nat.pow 10 power.natAbs }
  else { numer := Nat.pow 10 power.natAbs, denom := 1 }

def reaches (size : Fraction) (power : Int) : Bool :=
  let step := tenTo power
  step.numer * size.denom <= size.numer * step.denom

/-- Walks to the greatest power of ten that `size` reaches. -/
def settlePower (size : Fraction) : Nat -> Int -> Int
  | 0, power => power
  | fuel + 1, power =>
    if !reaches size power then settlePower size fuel (power - 1)
    else if reaches size (power + 1) then settlePower size fuel (power + 1)
    else power

/-- The greatest power of ten not above a positive fraction. The lengths of the two numerals
are off by one at most. -/
def leadingPower (size : Fraction) : Int :=
  settlePower size 4 (((digits size.numer).length : Int) - (digits size.denom).length)

/-- Some digits, the first of them not zero, that stand for `0.d₁d₂… * 10 ^ point`. -/
structure Digits where
  digits : List Char
  point : Int
  deriving DecidableEq, Repr

def dropZeros (text : List Char) : List Char := (text.reverse.dropWhile (· == '0')).reverse

/-- A positive fraction rounded to `count` significant digits, without the zeros at their end. -/
def significant (count : Nat) (size : Fraction) : Digits :=
  let power := leadingPower size
  let step := tenTo (power + 1 - count)
  let units := roundDiv (size.numer * step.denom) (size.denom * step.numer)
  let text := digits units
  { digits := dropZeros text, point := power + 1 + ((text.length : Int) - count) }

/-- Where a decimal text changes from positional to scientific notation, and whether a whole
number keeps its point. -/
structure Style where
  leastPoint : Int
  mostPoint : Int
  keepsPoint : Bool

def exponentText (power : Int) : List Char :=
  let size := padLeft 2 (digits power.natAbs)
  'e' :: (if power < 0 then '-' else '+') :: size

def Digits.positional (value : Digits) (keepsPoint : Bool) : List Char :=
  let whole := if keepsPoint then ['.', '0'] else []
  if value.point <= 0 then '0' :: '.' :: List.replicate value.point.natAbs '0' ++ value.digits
  else
    let place := value.point.toNat
    if value.digits.length <= place then
      value.digits ++ List.replicate (place - value.digits.length) '0' ++ whole
    else value.digits.take place ++ '.' :: value.digits.drop place

def Digits.scientific (value : Digits) : List Char :=
  let tail := value.digits.drop 1
  let part := if tail.isEmpty then [] else '.' :: tail
  value.digits.take 1 ++ part ++ exponentText (value.point - 1)

def Style.write (style : Style) (value : Digits) : List Char :=
  if style.leastPoint <= value.point && value.point <= style.mostPoint then
    value.positional style.keepsPoint
  else value.scientific

/-- Seconds in messages: six digits at most, positional from 0.0001 up to below 1000000. -/
def messageSeconds : Style := { leastPoint := -3, mostPoint := 6, keepsPoint := false }

/-- Numbers in documents: positional from 0.0001 up to below 10^16, a whole number with `.0`. -/
def documentNumber : Style := { leastPoint := -3, mostPoint := 16, keepsPoint := true }

def generalDigits (size : Fraction) : List Char :=
  if size.numer == 0 then ['0'] else messageSeconds.write (significant 6 size)

/-- A double with six significant digits. -/
def general (value : Float) : String :=
  match Binary.ofFloat value with
  | .nan => "nan"
  | .infinite negative => signed negative "inf".toList
  | .finite negative mantissa exponent =>
    signed negative (generalDigits (Fraction.scaled mantissa exponent))

/-- A rational number with six significant digits. -/
def generalRat (value : Rat) : String :=
  signed (value.num < 0) (generalDigits { numer := value.num.natAbs, denom := value.den })

end Rehearsal.Number
