import Rehearsal.Text.Charset.Hanja
import Rehearsal.Text.Charset.Tables

/-!
Charsets of Korean. Syllables have an initial, a vowel and perhaps a final; those that the common
table lacks are spelled by their letters, or have codes of their own.
-/

set_option autoImplicit false

namespace Rehearsal.Text.Korean

def hanjaAbove? (first second : UInt8) : Option Char :=
  PairTable.hanja.char? (PairTable.code (first ^^^ 0x80) (second ^^^ 0x80))

/-! ## Spelled syllables -/

/-- The second bytes of letters that begin syllables, in the order of the syllables. -/
def initials : List UInt8 :=
  [0xa1, 0xa2, 0xa4, 0xa7, 0xa8, 0xa9, 0xb1, 0xb2, 0xb3, 0xb5, 0xb6, 0xb7, 0xb8, 0xb9, 0xba,
   0xbb, 0xbc, 0xbd, 0xbe]

/-- The second byte of the sign that begins a spelled syllable, and stands for no final. -/
def filler : UInt8 := 0xd4

/-- The second bytes of letters that end syllables, and before them the sign for none. -/
def finals : List UInt8 :=
  [filler, 0xa1, 0xa2, 0xa3, 0xa4, 0xa5, 0xa6, 0xa7, 0xa9, 0xaa, 0xab, 0xac, 0xad, 0xae, 0xaf,
   0xb0, 0xb1, 0xb2, 0xb4, 0xb5, 0xb6, 0xb7, 0xb8, 0xba, 0xbb, 0xbc, 0xbd, 0xbe]

/-- All letters have this first byte. -/
def letterByte : UInt8 := 0xa4

def syllable? (initial vowel final : UInt8) : Option Char := do
  let first ← initials.idxOf? initial
  let last ← finals.idxOf? final
  if vowel < 0xbf || 0xd3 < vowel then none
  else some (Char.ofNat (0xac00 + 588 * first + 28 * (vowel.toNat - 0xbf) + last))

/-- The sign, an initial, a vowel and a final. -/
def spelled : List UInt8 -> Taken
  | _ :: second :: initial :: third :: vowel :: fourth :: final :: _ =>
    if second == letterByte && third == letterByte && fourth == letterByte then
      .ofChar? 8 (syllable? initial vowel final)
    else .bad
  | _ => .short

def unix : Taker := .abovePlain fun first rest =>
  if first == letterByte && rest.head? == some filler then spelled rest
  else Taker.ofPairs hanjaAbove? first rest

/-! ## All syllables -/

/-- The syllables that the common table lacks, in their order. -/
def lackingSyllables : Array Char :=
  let known := PairTable.hanja.chars.filter fun c => '가' <= c && c <= '힣'
  let isKnown := known.foldl (fun (marks : Array Bool) c => marks.set! (c.toNat - 0xac00) true)
    (Array.replicate 11172 false)
  (((List.range 11172).filter fun index => !isKnown.getD index false).map fun index =>
    Char.ofNat (0xac00 + index)).toArray

/-- Where a second byte stands among those of syllables that the common table lacks. -/
def placeOf? (second : Nat) : Option Nat :=
  if 0x41 <= second && second <= 0x5a then some (second - 0x41)
  else if 0x61 <= second && second <= 0x7a then some (second - 0x61 + 26)
  else if 0x81 <= second && second <= 0xfe then some (second - 0x81 + 52)
  else none

/-- From row 0xa1 on, only the lower second bytes are free. -/
def lackingIndex? (first second : Nat) : Option Nat := do
  let place ← placeOf? second
  if 0x81 <= first && first <= 0xa0 then some (178 * (first - 0x81) + place)
  else if 0xa1 <= first && first <= 0xc6 && second <= 0xa0 then
    some (178 * 32 + 84 * (first - 0xa1) + place)
  else none

def officePair? (first second : UInt8) : Option Char :=
  (hanjaAbove? first second).or
    ((lackingIndex? first.toNat second.toNat).bind fun index => lackingSyllables[index]?)

def office : Taker := .abovePlain (.ofPairs officePair?)

end Rehearsal.Text.Korean
