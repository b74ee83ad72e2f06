/-!
Texts of any script written with letters, digits and hyphens. The plain characters come first, and
then, in order of code point, where each of the others belongs: as the number of places that are
passed over, in digits of base 36 of which the last one of a number is below a threshold.
-/

set_option autoImplicit false

namespace Rehearsal.Text.Punycode

def isPlain (c : Char) : Bool := c.toNat < 0x80

/-! ## Numbers -/

/-- The letters stand for 0 to 25, the decimal digits for 26 to 35. -/
def digitChar (value : Nat) : Char :=
  if value < 26 then Char.ofNat ('a'.toNat + value) else Char.ofNat ('0'.toNat + (value - 26))

def digitValue? (c : Char) : Option Nat :=
  if c.isAlpha then some (c.toLower.toNat - 'a'.toNat)
  else if c.isDigit then some (c.toNat - '0'.toNat + 26)
  else none

theorem digitValue?_digitChar : ∀ value < 36, digitValue? (digitChar value) = some value := by
  decide

/-- The least digit that does not end a number, for its place: 36 for the first, 72 for the second
and so on. -/
def threshold (place bias : Nat) : Nat := max 1 (min 26 (place - bias))

/-- Halves a difference to the size that the bias is made for; `bias` counts the steps by 36. -/
def settle (delta bias : Nat) : Nat × Nat :=
  if 455 < delta then settle (delta / 35) (bias + 36) else (delta, bias)
termination_by delta
decreasing_by omega

/-- The bias for the next number: small if numbers so far were small. -/
def adapt (delta count : Nat) (isFirst : Bool) : Nat :=
  let delta := if isFirst then delta / 700 else delta / 2
  let (delta, bias) := settle (delta + delta / count) 0
  bias + 36 * delta / (delta + 38)

def writeNumber (bias place value : Nat) : List Char :=
  let least := threshold place bias
  if value < least then [digitChar value]
  else
    digitChar (least + (value - least) % (36 - least))
      :: writeNumber bias (place + 36) ((value - least) / (36 - least))
termination_by value
decreasing_by
  have low : 1 <= threshold place bias := by simp only [threshold]; omega
  have divided := Nat.div_le_self (value - threshold place bias) (36 - threshold place bias)
  omega

/-- Reads a number, of which `value` is already read; the next digit counts `weight`. -/
def readNumber? (bias : Nat) :
    (place weight value : Nat) -> List Char -> Option (Nat × List Char)
  | _, _, _, [] => none
  | place, weight, value, c :: rest =>
    match digitValue? c with
    | none => none
    | some digit =>
      let value := value + digit * weight
      let least := threshold place bias
      if digit < least then some (value, rest)
      else readNumber? bias (place + 36) (weight * (36 - least)) value rest

theorem readNumber?_length {bias place weight value : Nat} {text : List Char}
    {read : Nat × List Char} (found : readNumber? bias place weight value text = some read) :
    read.2.length < text.length := by
  fun_induction readNumber? bias place weight value text with
  | case1 => simp at found
  | case2 => simp at found
  | case3 =>
    simp only [Option.some.injEq] at found
    simp [← found]
  | case4 _ _ _ _ _ _ _ _ _ _ ih =>
    have := ih found
    simp only [List.length_cons]
    omega

/-! ## Writing -/

/-- The writer's state: what is written, the places that were passed over since the last number,
the bias, and how many characters are written in all. -/
structure Writer where
  written : List Char
  delta : Nat
  bias : Nat
  count : Nat

/-- Passes over one character while the characters of a code point are written. -/
def Writer.visit (plain code : Nat) (writer : Writer) (c : Char) : Writer :=
  if c.toNat < code then { writer with delta := writer.delta + 1 }
  else if c.toNat == code then
    { written := writer.written ++ writeNumber writer.bias 36 writer.delta
      delta := 0
      bias := adapt writer.delta (writer.count + 1) (writer.count == plain)
      count := writer.count + 1 }
  else writer

/-- Writes all characters of the code points, which stand in ascending order. -/
def Writer.run (plain : Nat) (text : List Char) (writer : Writer) :
    (due : Nat) -> List Nat -> Writer
  | _, [] => writer
  | due, code :: rest =>
    let ahead := { writer with delta := writer.delta + (code - due) * (writer.count + 1) }
    let after := text.foldl (Writer.visit plain code) ahead
    run plain text { after with delta := after.delta + 1 } (code + 1) rest

def encode (text : List Char) : List Char :=
  let plain := text.filter isPlain
  let codes := ((text.filter fun c => !isPlain c).map Char.toNat).mergeSort.eraseDups
  let start : Writer := { written := [], delta := 0, bias := 72, count := plain.length }
  let numbers := (start.run plain.length text 0x80 codes).written
  if plain.isEmpty then numbers else plain ++ '-' :: numbers

/-! ## Reading -/

/-- Puts the characters that the numbers tell of into a text. `next` is the place after the last
one that was put in, and `code` its code point. -/
def insertAll (text : List Char) (code next bias : Nat) (isFirst : Bool) (numbers : List Char) :
    Option (List Char) :=
  if numbers.isEmpty then some text
  else
    match found : readNumber? bias 36 1 0 numbers with
    | none => none
    | some (delta, rest) =>
      let count := text.length + 1
      let code := code + (next + delta) / count
      let place := (next + delta) % count
      if 0x10ffff < code then none
      else
        let text := text.take place ++ Char.ofNat code :: text.drop place
        insertAll text code (place + 1) (adapt delta count isFirst) false rest
termination_by numbers.length
decreasing_by exact readNumber?_length found

/-- The plain characters stand before the last hyphen. -/
def decode? (text : List Char) : Option (List Char) :=
  let reversed := text.reverse
  let numbers := (reversed.takeWhile (· != '-')).reverse
  let plain := ((reversed.dropWhile (· != '-')).drop 1).reverse
  insertAll plain 0x80 0 72 true numbers

end Rehearsal.Text.Punycode
