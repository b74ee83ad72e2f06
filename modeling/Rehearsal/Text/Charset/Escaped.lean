import Rehearsal.Text.Charset.Hanja
import Rehearsal.Text.Charset.Hanzi
import Rehearsal.Text.Charset.Kanji

/-!
Charsets that only use the bytes of ASCII. Escapes say which set of characters the bytes behind
them stand for.
-/

set_option autoImplicit false

namespace Rehearsal.Text.Escaped

inductive Part where
  | ascii
  /-- As ASCII, with two signs of Japan in it. -/
  | roman
  | kanji
  | hanja
  | hanzi
  deriving DecidableEq

def Part.width : Part -> Nat
  | .ascii | .roman => 1
  | _ => 2

def roman? (byte : UInt8) : Option Char :=
  if byte == 0x5c then some '¥'
  else if byte == 0x7e then some '\u203e'
  else if byte < 0x80 then some (Char.ofNat byte.toNat)
  else none

def pairOf (table : PairTable) : List UInt8 -> Option Char
  | first :: second :: _ => table.char? (PairTable.code first second)
  | _ => none

def Part.char? (part : Part) (bytes : List UInt8) : Option Char :=
  match part with
  | .ascii => bytes.head?.map fun byte => Char.ofNat byte.toNat
  | .roman => bytes.head?.bind roman?
  | .kanji => pairOf .kanji bytes
  | .hanja => pairOf .hanja bytes
  | .hanzi => pairOf .hanzi bytes

structure Choice where
  usual : Part
  other : Part
  /-- Whether bytes stand for characters of the other set. -/
  isShifted : Bool
  /-- Whether an unknown escape is being passed through. -/
  isPassing : Bool

def Choice.start : Choice :=
  { usual := .ascii, other := .ascii, isShifted := false, isPassing := false }

def Choice.part (choice : Choice) : Part := if choice.isShifted then choice.other else choice.usual

inductive Move where
  /-- Some bytes are read, and perhaps a character is written. -/
  | go (c : Option Char) (length : Nat) (choice : Choice)
  | bad (length : Nat)
  /-- The text breaks off. -/
  | short

structure Style where
  /-- Sets of one byte for each character, by the byte that chooses them. -/
  narrow : List (UInt8 × Part)
  wide : List (UInt8 × Part)
  hasShifts : Bool

def Style.japanese : Style :=
  { narrow := [(0x42, .ascii), (0x4a, .roman)], wide := [(0x40, .kanji), (0x42, .kanji)]
    hasShifts := false }

def Style.korean : Style :=
  { narrow := [(0x42, .ascii)], wide := [(0x43, .hanja)], hasShifts := true }

/-! ## Escapes -/

def plainMove (byte : UInt8) (choice : Choice) : Move :=
  .go (some (Char.ofNat byte.toNat)) 1 choice

def escapeByte : UInt8 := 0x1b

def endsEscape (byte : UInt8) : Bool := (0x41 <= byte && byte <= 0x5a) || byte == 0x40

/-- The bytes that may follow an escape byte. -/
def beginsChoice (byte : UInt8) : Bool :=
  byte == 0x28 || byte == 0x29 || byte == 0x24 || byte == 0x2e || byte == 0x26

def mostEscapeBytes : Nat := 16

/-- Counts the bytes of an escape; a revision mark within it is passed over. None if the text
breaks off, zero if the escape does not end. -/
def escapeLength (revises : Bool) : (seen : Nat) -> (bound : Nat) -> List UInt8 -> Option Nat
  | _, 0, _ => some 0
  | seen, bound + 1, bytes =>
    if mostEscapeBytes <= seen then some 0
    else match bytes with
      | [] => none
      | byte :: rest =>
        if endsEscape byte then some (seen + 1)
        else if revises && byte == 0x26 && rest.head? == some 0x40 then
          escapeLength revises (seen + 3) bound (rest.drop 2)
        else escapeLength revises (seen + 1) bound rest

def choose (choice : Choice) (isUsual : Bool) (length : Nat) : Option Part -> Move
  | none => .bad length
  | some part =>
    let chosen := if isUsual then { choice with usual := part } else { choice with other := part }
    .go none length chosen

/-- An escape of known length, without the escape byte. -/
def chooseBy (style : Style) (choice : Choice) : List UInt8 -> Move
  | [0x24, mark] => choose choice true 3 (style.wide.lookup mark)
  | [0x28, mark] => choose choice true 3 (style.narrow.lookup mark)
  | [0x29, mark] => choose choice false 3 (style.narrow.lookup mark)
  | [0x24, 0x28, mark] => choose choice true 4 (style.wide.lookup mark)
  | [0x24, 0x29, mark] => choose choice false 4 (style.wide.lookup mark)
  | [0x26, 0x40, 0x1b, 0x24, 0x42] =>
    if style.hasShifts then .bad 6 else choose choice true 6 (style.wide.lookup 0x42)
  | marks => .bad (marks.length + 1)

def escape (style : Style) (choice : Choice) (rest : List UInt8) : Move :=
  match rest with
  | [] => .short
  | byte :: _ =>
    if !beginsChoice byte then plainMove escapeByte { choice with isPassing := true }
    else match escapeLength (!style.hasShifts) 1 mostEscapeBytes rest with
      | none => .short
      | some 0 => .bad 1
      | some length => chooseBy style choice (rest.take (length - 1))

/-! ## Bytes -/

def shift (style : Style) (choice : Choice) (byte : UInt8) (isShifted : Bool) : Move :=
  if style.hasShifts then .go none 1 { choice with isShifted } else plainMove byte choice

def Style.move (style : Style) (choice : Choice) (first : UInt8) (rest : List UInt8) : Move :=
  if choice.isPassing then plainMove first { choice with isPassing := !endsEscape first }
  else if first == escapeByte then escape style choice rest
  else if first == 0x0f then shift style choice first false
  else if first == 0x0e then shift style choice first true
  else if first == 0x0a then plainMove first { choice with isShifted := false }
  else if first < 0x20 then plainMove first choice
  else if 0x80 <= first then .bad 1
  else
    let part := choice.part
    if rest.length + 1 < part.width then .short
    else match part.char? (first :: rest) with
      | some c => .go (some c) part.width choice
      | none => .bad part.width

/-- Two signs around letters, which a tilde announces. -/
def tildeMove (choice : Choice) (first : UInt8) (rest : List UInt8) : Move :=
  if first == 0x7e then
    match rest, choice.isShifted with
    | [], _ => .short
    | 0x7e :: _, false => .go (some '~') 2 choice
    | 0x7b :: _, false => .go none 2 { choice with isShifted := true }
    | 0x0a :: _, false => .go none 2 choice
    | 0x7d :: _, true => .go none 2 { choice with isShifted := false }
    | _, _ => .bad 1
  else if 0x80 <= first then .bad 1
  else if !choice.isShifted then plainMove first choice
  else match rest with
    | [] => .short
    | _ :: _ =>
      match Part.hanzi.char? (first :: rest) with
      | some c => .go (some c) 2 choice
      | none => .bad 1

/-- Reads all bytes, some of which are replaced. -/
def decode (move : Choice -> UInt8 -> List UInt8 -> Move) (choice : Choice)
    (bytes : List UInt8) : List Char :=
  match bytes with
  | [] => []
  | first :: rest =>
    match move choice first rest with
    | .go c length choice => c.toList ++ decode move choice (rest.drop (length - 1))
    | .bad length => '\ufffd' :: decode move choice (rest.drop (length - 1))
    | .short => ['\ufffd']
termination_by bytes.length
decreasing_by
  · simp only [List.length_drop, List.length_cons]
    omega
  · simp only [List.length_drop, List.length_cons]
    omega

def decodeJapanese (bytes : List UInt8) : List Char := decode Style.japanese.move .start bytes

def decodeKorean (bytes : List UInt8) : List Char := decode Style.korean.move .start bytes

def decodeTilde (bytes : List UInt8) : List Char := decode tildeMove .start bytes

end Rehearsal.Text.Escaped
