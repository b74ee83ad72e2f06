/-!
Bytes written in base 64: three bytes become four characters, and equals signs fill up the last
group.
-/

set_option autoImplicit false

namespace Rehearsal.Text

def sextetChar (value : Nat) : Char :=
  if value < 26 then Char.ofNat ('A'.toNat + value)
  else if value < 52 then Char.ofNat ('a'.toNat + (value - 26))
  else if value < 62 then Char.ofNat ('0'.toNat + (value - 52))
  else if value == 62 then '+'
  else '/'

/-- The first characters of the four that 24 bits make. -/
def sextets (count bits : Nat) : List Char :=
  ([18, 12, 6, 0].take count).map fun shift => sextetChar (bits / Nat.pow 2 shift % 64)

def base64 : List UInt8 -> List Char
  | first :: second :: third :: rest =>
    sextets 4 (first.toNat * 65536 + second.toNat * 256 + third.toNat) ++ base64 rest
  | [first, second] => sextets 3 (first.toNat * 65536 + second.toNat * 256) ++ ['=']
  | [first] => sextets 2 (first.toNat * 65536) ++ ['=', '=']
  | [] => []

end Rehearsal.Text
