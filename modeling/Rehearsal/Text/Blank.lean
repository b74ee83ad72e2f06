/-!
Blank characters and trimming. Unicode blanks surround templates, settings and probed texts;
numerals know a narrower set of their own.
-/

set_option autoImplicit false

namespace Rehearsal.Text

/-- White space of Unicode, and the four separators that ASCII keeps among its controls. -/
def isBlank (c : Char) : Bool :=
  let code := c.toNat
  (0x9 <= code && code <= 0xd) || (0x1c <= code && code <= 0x20) || code == 0x85 || code == 0xa0
    || code == 0x1680 || (0x2000 <= code && code <= 0x200a) || code == 0x2028 || code == 0x2029
    || code == 0x202f || code == 0x205f || code == 0x3000

/-- The blanks that may stand around a numeral written in ASCII. -/
def isAsciiBlank (c : Char) : Bool :=
  (0x9 <= c.toNat && c.toNat <= 0xd) || c == ' '

/-- White space of Unicode proper, without the four separators. -/
def isSpace (c : Char) : Bool :=
  isBlank c && !(0x1c <= c.toNat && c.toNat <= 0x1f)

/-- Drops characters that satisfy `drop` from both ends. -/
def trimChars (drop : Char -> Bool) (text : List Char) : List Char :=
  ((text.dropWhile drop).reverse.dropWhile drop).reverse

def trim (text : String) : String := String.ofList (trimChars isBlank text.toList)

theorem isBlank_of_isWhitespace (c : Char) (white : c.isWhitespace = true) : isBlank c = true := by
  simp only [Char.isWhitespace, Bool.or_eq_true, decide_eq_true_eq] at white
  rcases white with ((rfl | rfl) | rfl) | rfl <;> decide

end Rehearsal.Text
