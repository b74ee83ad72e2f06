/-!
Text in seven bits: most characters of ASCII stand for themselves, and a plus sign begins a run of
units of 16 bits in base 64. Two units of a pair stand for one character.
-/

set_option autoImplicit false

namespace Rehearsal.Text.Utf7

def sextet? (byte : UInt8) : Option Nat :=
  let c := Char.ofNat byte.toNat
  if c.isUpper then some (byte.toNat - 'A'.toNat)
  else if c.isLower then some (byte.toNat - 'a'.toNat + 26)
  else if c.isDigit then some (byte.toNat - '0'.toNat + 52)
  else if c == '+' then some 62
  else if c == '/' then some 63
  else none

/-- A run of base 64: the bits that make no unit yet, and the first unit of a pair. -/
structure Run where
  bits : Nat
  count : Nat
  high : Option Nat

def Run.start : Run := { bits := 0, count := 0, high := none }

/-- Units that are no character by themselves are replaced. -/
def unitChar (unit : Nat) : Char := if unit.isValidChar then Char.ofNat unit else '\ufffd'

def isHigh (unit : Nat) : Bool := 0xd800 <= unit && unit < 0xdc00

def isLow (unit : Nat) : Bool := 0xdc00 <= unit && unit < 0xe000

/-- Takes one more unit in, and gives the characters that are complete. -/
def Run.takeUnit (run : Run) (unit : Nat) : List Char × Run :=
  let single := if isHigh unit then ([], { run with high := some unit })
    else ([unitChar unit], { run with high := none })
  match run.high with
  | none => single
  | some high =>
    if isLow unit then
      ([Char.ofNat (0x10000 + 0x400 * (high - 0xd800) + (unit - 0xdc00))],
        { run with high := none })
    else (unitChar high :: single.1, single.2)

def Run.takeSextet (run : Run) (sextet : Nat) : List Char × Run :=
  let bits := 64 * run.bits + sextet
  let count := run.count + 6
  if count < 16 then ([], { run with bits, count })
  else
    let left := count - 16
    { run with bits := bits % Nat.pow 2 left, count := left }.takeUnit (bits / Nat.pow 2 left)

/-- Whether bits are left over that cannot be what fills up the last unit. -/
def Run.isBroken (run : Run) : Bool := 6 <= run.count || (0 < run.count && run.bits != 0)

def isDirect (byte : UInt8) : Bool := byte < 0x80 && byte != '+'.toNat.toUInt8

/-- What a byte behind a run does besides ending it: the run may lack its end, and then the byte
is lost with it. -/
def endRun (run : Run) (byte : UInt8) : List Char × Bool :=
  if run.isBroken then (['\ufffd'], true)
  else
    let lone := if isDirect byte then (run.high.map unitChar).toList else []
    (lone, byte == '-'.toNat.toUInt8)

def isPlus (byte : UInt8) : Bool := byte == '+'.toNat.toUInt8

/-- Reads bytes, inside a run if there is one. A minus sign behind a plus sign stands for the plus
sign; a byte of base 64 begins a run. -/
def read : Option Run -> List UInt8 -> List Char
  | none, [] => []
  | some run, [] => if run.isBroken || run.high.isSome then ['\ufffd'] else []
  | some run, byte :: rest =>
    match sextet? byte with
    | some sextet =>
      let (chars, run) := run.takeSextet sextet
      chars ++ read (some run) rest
    | none =>
      let (chars, taken) := endRun run byte
      chars ++ (if taken then read none rest
        else if isDirect byte then Char.ofNat byte.toNat :: read none rest
        else '\ufffd' :: read none rest)
  | none, byte :: rest =>
    if isPlus byte then
      match rest with
      | [] => read (some .start) []
      | next :: after =>
        if next == '-'.toNat.toUInt8 then '+' :: read none after
        else if (sextet? next).isNone then '\ufffd' :: read none after
        else read (some .start) (next :: after)
    else if isDirect byte then Char.ofNat byte.toNat :: read none rest
    else '\ufffd' :: read none rest

def decode (bytes : List UInt8) : List Char := read none bytes

end Rehearsal.Text.Utf7
