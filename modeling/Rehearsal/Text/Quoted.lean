import Rehearsal.Text.Printable

/-!
Texts inside quotes, as messages show the texts within lists and objects. Single quotes are
used unless they alone occur in the text; what is not printable is written by its code.
-/

set_option autoImplicit false

namespace Rehearsal.Text

def hexDigit (value : Nat) : Char :=
  if value < 10 then Char.ofNat ('0'.toNat + value) else Char.ofNat ('a'.toNat + (value - 10))

/-- The last `width` hexadecimal digits of a number. -/
def hexDigits : (width : Nat) -> Nat -> List Char
  | 0, _ => []
  | width + 1, value => hexDigits width (value / 16) ++ [hexDigit (value % 16)]

def hexValue (c : Char) : Nat :=
  if c.isDigit then c.toNat - '0'.toNat else c.toLower.toNat - 'a'.toNat + 10

def bytesOfHexChars : List Char -> List UInt8
  | high :: low :: rest => UInt8.ofNat (16 * hexValue high + hexValue low) :: bytesOfHexChars rest
  | _ => []

/-- The bytes that pairs of hexadecimal digits stand for. -/
def bytesOfHex (digits : String) : ByteArray := ⟨(bytesOfHexChars digits.toList).toArray⟩

def hexOfBytes (bytes : ByteArray) : String :=
  String.ofList (bytes.toList.flatMap fun byte => hexDigits 2 byte.toNat)

/-- Escapes are written with the shortest of the three fixed widths that holds the code. -/
def escapeCode (c : Char) : List Char :=
  let code := c.toNat
  if code < 0x100 then '\\' :: 'x' :: hexDigits 2 code
  else if code < 0x10000 then '\\' :: 'u' :: hexDigits 4 code
  else '\\' :: 'U' :: hexDigits 8 code

def quoteChar (quote c : Char) : List Char :=
  if c == quote || c == '\\' then ['\\', c]
  else if c == '\n' then ['\\', 'n']
  else if c == '\r' then ['\\', 'r']
  else if c == '\t' then ['\\', 't']
  else if isPrintable c then [c]
  else escapeCode c

def quoteMark (text : List Char) : Char :=
  if text.contains '\'' && !text.contains '"' then '"' else '\''

def quoted (text : String) : String :=
  let mark := quoteMark text.toList
  String.ofList (mark :: text.toList.flatMap (quoteChar mark) ++ [mark])

end Rehearsal.Text
