import Rehearsal.Text.Charset.Kanji
import Rehearsal.Text.Charset.Tables

/-!
Charsets of Japanese. Kana of half width take one byte or two; kanji take two bytes, and rare ones
three.
-/

set_option autoImplicit false

namespace Rehearsal.Text.Japanese

/-- Kana of half width are in the order of their bytes. -/
def halfKana? (byte : UInt8) : Option Char :=
  if 0xa1 <= byte && byte <= 0xdf then some (Char.ofNat (0xfec0 + byte.toNat)) else none

/-- The code of a row and a cell, without the bits that set them off from ASCII. -/
def lowCode (first second : UInt8) : Nat := PairTable.code (first ^^^ 0x80) (second ^^^ 0x80)

/-! ## Rows and cells above ASCII -/

def kanjiAbove? (first second : UInt8) : Option Char :=
  PairTable.kanji.char? (lowCode first second)

def rareAbove : Taker := fun _ rest =>
  match rest with
  | second :: third :: _ => .ofChar? 3 (PairTable.rareKanji.char? (lowCode second third))
  | _ => .short

/-- Two first bytes announce kana of half width, and rare kanji. -/
def unix : Taker := .abovePlain fun first rest =>
  if first == 0x8e then Taker.ofPairs (fun _ second => halfKana? second) first rest
  else if first == 0x8f then rareAbove first rest
  else Taker.ofPairs kanjiAbove? first rest

/-! ## Shifted rows -/

/-- Two rows share a first byte; the second byte says which, and the cell. -/
def shiftedCode? (first second : UInt8) : Option Nat :=
  if second < 0x40 || second == 0x7f || 0xfc < second then none
  else
    let pair := first.toNat - (if first < 0xe0 then 0x81 else 0xc1)
    let place := second.toNat - (if second < 0x80 then 0x40 else 0x41)
    some (256 * (2 * pair + place / 94 + 0x21) + place % 94 + 0x21)

def shiftedKanji? (first second : UInt8) : Option Char :=
  (shiftedCode? first second).bind PairTable.kanji.char?

def isShiftedFirst (byte : UInt8) : Bool :=
  (0x81 <= byte && byte <= 0x9f) || (0xe0 <= byte && byte <= 0xfc)

def shifted : Taker := .abovePlain fun first rest =>
  match halfKana? first with
  | some kana => .char kana 1
  | none =>
    if isShiftedFirst first then Taker.ofPairs shiftedKanji? first rest else .bad

/-- Places for characters of one's own, in the order of their bytes. -/
def ownChar? (first second : UInt8) : Option Char :=
  if second < 0x40 || second == 0x7f || 0xfc < second then none
  else
    let place := second.toNat - (if second < 0x80 then 0x40 else 0x41)
    some (Char.ofNat (0xe000 + 188 * (first.toNat - 0xf0) + place))

def officePair? (first second : UInt8) : Option Char :=
  match PairTable.officeKanji.char? (PairTable.code first second) with
  | some c => some c
  | none =>
    if (0x81 <= first && first <= 0x9f) || (0xe0 <= first && first <= 0xea) then
      shiftedKanji? first second
    else if 0xf0 <= first && first <= 0xf9 then ownChar? first second
    else none

/-- As office computers write it: no byte is left without a character. -/
def office : Taker := fun first rest =>
  if first <= 0x80 then .char (Char.ofNat first.toNat) 1
  else if first == 0xa0 then .char '\uf8f0' 1
  else if 0xfd <= first then .char (Char.ofNat (0xf8f1 + (first.toNat - 0xfd))) 1
  else match halfKana? first with
    | some kana => .char kana 1
    | none => Taker.ofPairs officePair? first rest

end Rehearsal.Text.Japanese
