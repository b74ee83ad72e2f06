import Rehearsal.Number.Decimal

/-!
Scales that clocks count in. Runs count in doubles; laws about time are stated over exact
rational seconds. Both use the same loops, and the two orders are kept apart because a double
that is not a number is neither below nor above another.
-/

set_option autoImplicit false

namespace Rehearsal

class Scale (T : Type) where
  zero : T
  add : T -> T -> T
  sub : T -> T -> T
  le : T -> T -> Bool
  lt : T -> T -> Bool
  /-- A whole number of seconds, unless the number is too large for the scale. -/
  ofInt? : Int -> Option T
  mul : T -> T -> T
  ofSeconds : Float -> T
  hundredths : Nat -> T
  /-- Seconds in thousandths. -/
  thousandfold : T -> T
  /-- The whole part, unless there is none. -/
  whole? : T -> Option Int
  /-- Seconds as messages show them. -/
  text : T -> String

namespace Scale

variable {T : Type} [Scale T]

/-- The first of two equal times, and the first where they cannot be compared. -/
def earlier (left right : T) : T := if lt right left then right else left

def later (left right : T) : T := if lt left right then right else left

instance : Scale Float where
  zero := 0.0
  add := (· + ·)
  sub := (· - ·)
  le left right := decide (left <= right)
  lt left right := decide (left < right)
  ofInt? := Number.ofInt?
  mul := (· * ·)
  ofSeconds := id
  hundredths count := Float.ofNat count / 100.0
  thousandfold value := value * 1000.0
  whole? := Number.truncate?
  text := Number.general

/-- Infinite seconds and those that are no number have no exact value and count as zero. -/
instance : Scale Rat where
  zero := 0
  add := (· + ·)
  sub := (· - ·)
  le left right := decide (left <= right)
  lt left right := decide (left < right)
  ofInt? count := some count
  mul := (· * ·)
  ofSeconds value := (Number.toRat? value).getD 0
  hundredths count := mkRat count 100
  thousandfold value := value * 1000
  whole? value := some (value.num.tdiv value.den)
  text := Number.generalRat

end Scale

/-- A number as someone gave it; whole numbers stay whole. -/
inductive Quantity (T : Type) where
  | whole (count : Int)
  | exact (amount : T)

namespace Quantity

variable {T : Type} [Scale T]

def thousandfold : Quantity T -> Quantity T
  | .whole count => .whole (count * 1000)
  | .exact amount => .exact (Scale.thousandfold amount)

/-- The quantity on its scale, unless it is a whole number too large for that. -/
def onScale? : Quantity T -> Option T
  | .whole count => Scale.ofInt? count
  | .exact amount => some amount

def next : Quantity T -> Quantity T
  | .whole count => .whole (count + 1)
  | .exact amount => .exact (Scale.add amount (Scale.hundredths 100))

/-- The product, which is whole if both are; otherwise both have to fit the scale. -/
def mul? : Quantity T -> Quantity T -> Option (Quantity T)
  | .whole left, .whole right => some (.whole (left * right))
  | left, right => do return .exact (Scale.mul (← left.onScale?) (← right.onScale?))

end Quantity

/-- A clock that is part of a state, and moves on when someone sleeps. -/
structure Clock (S T : Type) where
  now : S -> T
  sleep : T -> S -> S

end Rehearsal
