import Rehearsal.Text.Utf8

/-!
Texts in which some bytes are written as a percent sign and two hexadecimal digits. Percent signs
that stand for themselves are left alone, so texts that are escaped already stay as they are.
-/

set_option autoImplicit false

namespace Rehearsal.Text

def percentByte (byte : UInt8) : List Char :=
  '%' :: (hexDigits 2 byte.toNat).map Char.toUpper

/-- Characters of ASCII that can be seen, other than the excluded ones, are kept. -/
def isKept (excluded : List Char) (c : Char) : Bool :=
  0x20 <= c.toNat && c.toNat < 0x7f && !excluded.contains c

def utf8Bytes (c : Char) : List UInt8 := (String.singleton c).toUTF8.toList

def escapeChar (excluded : List Char) (c : Char) : List Char :=
  if isKept excluded c then [c] else (utf8Bytes c).flatMap percentByte

def escape (excluded text : List Char) : List Char := text.flatMap (escapeChar excluded)

theorem escape_append (excluded left right : List Char) :
    escape excluded (left ++ right) = escape excluded left ++ escape excluded right := by
  simp [escape]

theorem escape_of_kept (excluded text : List Char)
    (kept : ∀ c ∈ text, isKept excluded c = true) : escape excluded text = text := by
  induction text with
  | nil => rfl
  | cons c rest ih =>
    have first := kept c (by simp)
    have others := ih fun d member => kept d (by simp [member])
    simp only [escape, List.flatMap_cons] at others ⊢
    simp [escapeChar, first, others]

def isHexDigit (c : Char) : Bool :=
  c.isDigit || ('a'.toNat <= c.toLower.toNat && c.toLower.toNat <= 'f'.toNat)

/-- The bytes of a text, those that are written by their digits among them. -/
def percentDecoded : List Char -> List UInt8
  | '%' :: high :: low :: rest =>
    if isHexDigit high && isHexDigit low then
      UInt8.ofNat (16 * hexValue high + hexValue low) :: percentDecoded rest
    else '%'.toNat.toUInt8 :: percentDecoded (high :: low :: rest)
  | c :: rest => utf8Bytes c ++ percentDecoded rest
  | [] => []

/-- The text that an escaped one stands for; broken bytes are replaced. -/
def unescape (text : List Char) : String := decodeLossy ⟨(percentDecoded text).toArray⟩

end Rehearsal.Text
