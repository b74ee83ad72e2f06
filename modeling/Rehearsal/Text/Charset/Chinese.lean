import Rehearsal.Text.Charset.Hanzi
import Rehearsal.Text.Charset.Tables

/-!
Charsets of Chinese. The letters that the common table lacks follow in the order that all letters
have; the latest of the charsets can write every character there is.
-/

set_option autoImplicit false

namespace Rehearsal.Text.Chinese

/-! ## Traditional letters -/

def traditional : Taker := .abovePlain (.ofPairs fun first second =>
  PairTable.traditionalHanzi.char? (PairTable.code first second))

def traditionalOffice : Taker := .abovePlain (.ofPairs fun first second =>
  (PairTable.officeHanzi.char? (PairTable.code first second)).or
    (PairTable.traditionalHanzi.char? (PairTable.code first second)))

/-! ## Simplified letters -/

def hanziAbove? (first second : UInt8) : Option Char :=
  PairTable.hanzi.char? (PairTable.code (first ^^^ 0x80) (second ^^^ 0x80))

def simplified : Taker := .abovePlain (.ofPairs hanziAbove?)

/-- Letters that only compatibility asks for; they follow all others. -/
def lastLetters : List Char :=
  ("\uf92c\uf979\uf995\uf9e7\uf9f1\ufa0c\ufa0d\ufa0e\ufa0f\ufa11\ufa13\ufa14\ufa18\ufa1f"
    ++ "\ufa20\ufa21\ufa23\ufa24\ufa27\ufa28\ufa29").toList

/-- The letters that the common table lacks, in their order. -/
def lackingLetters : Array Char :=
  let known := PairTable.hanzi.chars.filter fun c => '\u4e00' <= c && c <= '\u9fa5'
  let isKnown := known.foldl (fun (marks : Array Bool) c => marks.set! (c.toNat - 0x4e00) true)
    (Array.replicate 20902 false)
  let lacking := ((List.range 20902).filter fun index => !isKnown.getD index false).map fun index =>
    Char.ofNat (0x4e00 + index)
  (lacking ++ lastLetters).toArray

/-- Second bytes leave one out. -/
def placeOf (second : Nat) : Nat := second - (if second < 0x7f then 0x40 else 0x41)

def isSecond (second : Nat) : Bool := 0x40 <= second && second <= 0xfe && second != 0x7f

/-- Above row 0xa9, only the lower second bytes are free. -/
def lackingIndex? (first second : Nat) : Option Nat :=
  if !isSecond second then none
  else if 0x81 <= first && first <= 0xa0 then some (190 * (first - 0x81) + placeOf second)
  else if 0xaa <= first && first <= 0xfe && second <= 0xa0 then
    some (190 * 32 + 96 * (first - 0xaa) + placeOf second)
  else none

def extendedPair? (first second : UInt8) : Option Char :=
  (PairTable.addedSigns.char? (PairTable.code first second)).or
    ((hanziAbove? first second).or
      ((lackingIndex? first.toNat second.toNat).bind fun index => lackingLetters[index]?))

def extended : Taker := .abovePlain (.ofPairs extendedPair?)

/-! ## Every character -/

/-- Places for characters of one's own are in three areas. -/
def ownChar? (first second : Nat) : Option Char :=
  if 0xaa <= first && first <= 0xaf && 0xa1 <= second && second <= 0xfe then
    some (Char.ofNat (0xe000 + 94 * (first - 0xaa) + (second - 0xa1)))
  else if 0xf8 <= first && first <= 0xfe && 0xa1 <= second && second <= 0xfe then
    some (Char.ofNat (0xe234 + 94 * (first - 0xf8) + (second - 0xa1)))
  else if 0xa1 <= first && first <= 0xa7 && isSecond second && second <= 0xa0 then
    some (Char.ofNat (0xe4c6 + 96 * (first - 0xa1) + placeOf second))
  else none

def fullPair? (first second : UInt8) : Option Char :=
  (extendedPair? first second).or
    ((PairTable.privateSigns.char? (PairTable.code first second)).or
      (ownChar? first.toNat second.toNat))

/-- Runs of characters that have no code of two bytes: the first number, the first character, and
how many there are. -/
def fourByteRuns : List (Nat × Nat × Nat) := [
  (0, 0x80, 36), (36, 0xa5, 2), (38, 0xa9, 7), (45, 0xb2, 5), (50, 0xb8, 31), (81, 0xd8, 8),
  (89, 0xe2, 6), (95, 0xeb, 1), (96, 0xee, 4), (100, 0xf4, 3), (103, 0xf8, 1), (104, 0xfb, 1),
  (105, 0xfd, 4), (109, 0x102, 17), (126, 0x114, 7), (133, 0x11c, 15), (148, 0x12c, 24),
  (172, 0x145, 3), (175, 0x149, 4), (179, 0x14e, 29), (208, 0x16c, 98), (306, 0x1cf, 1),
  (307, 0x1d1, 1), (308, 0x1d3, 1), (309, 0x1d5, 1), (310, 0x1d7, 1), (311, 0x1d9, 1),
  (312, 0x1db, 1), (313, 0x1dd, 28), (341, 0x1fa, 87), (428, 0x252, 15), (443, 0x262, 101),
  (544, 0x2c8, 1), (545, 0x2cc, 13), (558, 0x2da, 183), (741, 0x3a2, 1), (742, 0x3aa, 7),
  (749, 0x3c2, 1), (750, 0x3ca, 55), (805, 0x402, 14), (819, 0x450, 1), (820, 0x452, 7102),
  (7922, 0x2011, 2), (7924, 0x2017, 1), (7925, 0x201a, 2), (7927, 0x201e, 7), (7934, 0x2027, 9),
  (7943, 0x2031, 1), (7944, 0x2034, 1), (7945, 0x2036, 5), (7950, 0x203c, 112), (8062, 0x20ad, 86),
  (8148, 0x2104, 1), (8149, 0x2106, 3), (8152, 0x210a, 12), (8164, 0x2117, 10), (8174, 0x2122, 62),
  (8236, 0x216c, 4), (8240, 0x217a, 22), (8262, 0x2194, 2), (8264, 0x219a, 110), (8374, 0x2209, 6),
  (8380, 0x2210, 1), (8381, 0x2212, 3), (8384, 0x2216, 4), (8388, 0x221b, 2), (8390, 0x2221, 2),
  (8392, 0x2224, 1), (8393, 0x2226, 1), (8394, 0x222c, 2), (8396, 0x222f, 5), (8401, 0x2238, 5),
  (8406, 0x223e, 10), (8416, 0x2249, 3), (8419, 0x224d, 5), (8424, 0x2253, 13), (8437, 0x2262, 2),
  (8439, 0x2268, 6), (8445, 0x2270, 37), (8482, 0x2296, 3), (8485, 0x229a, 11), (8496, 0x22a6, 25),
  (8521, 0x22c0, 82), (8603, 0x2313, 333), (8936, 0x246a, 10), (8946, 0x249c, 100),
  (9046, 0x254c, 4), (9050, 0x2574, 13), (9063, 0x2590, 3), (9066, 0x2596, 10), (9076, 0x25a2, 16),
  (9092, 0x25b4, 8), (9100, 0x25be, 8), (9108, 0x25c8, 3), (9111, 0x25cc, 2), (9113, 0x25d0, 18),
  (9131, 0x25e6, 31), (9162, 0x2607, 2), (9164, 0x260a, 54), (9218, 0x2641, 1),
  (9219, 0x2643, 2110), (11329, 0x2e82, 2), (11331, 0x2e85, 3), (11334, 0x2e89, 2),
  (11336, 0x2e8d, 10), (11346, 0x2e98, 15), (11361, 0x2ea8, 2), (11363, 0x2eab, 3),
  (11366, 0x2eaf, 4), (11370, 0x2eb4, 2), (11372, 0x2eb8, 3), (11375, 0x2ebc, 14),
  (11389, 0x2ecb, 293), (11682, 0x2ffc, 4), (11686, 0x3004, 1), (11687, 0x3018, 5),
  (11692, 0x301f, 2), (11694, 0x302a, 20), (11714, 0x303f, 2), (11716, 0x3094, 7),
  (11723, 0x309f, 2), (11725, 0x30f7, 5), (11730, 0x30ff, 6), (11736, 0x312a, 246),
  (11982, 0x322a, 7), (11989, 0x3232, 113), (12102, 0x32a4, 234), (12336, 0x3390, 12),
  (12348, 0x339f, 2), (12350, 0x33a2, 34), (12384, 0x33c5, 9), (12393, 0x33cf, 2),
  (12395, 0x33d3, 2), (12397, 0x33d6, 113), (12510, 0x3448, 43), (12553, 0x3474, 298),
  (12851, 0x359f, 111), (12962, 0x360f, 11), (12973, 0x361b, 765), (13738, 0x3919, 85),
  (13823, 0x396f, 96), (13919, 0x39d1, 14), (13933, 0x39e0, 147), (14080, 0x3a74, 218),
  (14298, 0x3b4f, 287), (14585, 0x3c6f, 113), (14698, 0x3ce1, 885), (15583, 0x4057, 264),
  (15847, 0x4160, 471), (16318, 0x4338, 116), (16434, 0x43ad, 4), (16438, 0x43b2, 43),
  (16481, 0x43de, 248), (16729, 0x44d7, 373), (17102, 0x464d, 20), (17122, 0x4662, 193),
  (17315, 0x4724, 5), (17320, 0x472a, 82), (17402, 0x477d, 16), (17418, 0x478e, 441),
  (17859, 0x4948, 50), (17909, 0x497b, 2), (17911, 0x497e, 4), (17915, 0x4984, 1),
  (17916, 0x4987, 20), (17936, 0x499c, 3), (17939, 0x49a0, 22), (17961, 0x49b8, 703),
  (18664, 0x4c78, 39), (18703, 0x4ca4, 111), (18814, 0x4d1a, 148), (18962, 0x4daf, 81),
  (19043, 0x9fa6, 14426), (33469, 0xe76c, 1), (33470, 0xe7c8, 1), (33471, 0xe7e7, 13),
  (33484, 0xe815, 1), (33485, 0xe819, 5), (33490, 0xe81f, 7), (33497, 0xe827, 4),
  (33501, 0xe82d, 4), (33505, 0xe833, 8), (33513, 0xe83c, 7), (33520, 0xe844, 16),
  (33536, 0xe856, 14), (33550, 0xe865, 4295), (37845, 0xf92d, 76), (37921, 0xf97a, 27),
  (37948, 0xf996, 81), (38029, 0xf9e8, 9), (38038, 0xf9f2, 26), (38064, 0xfa10, 1),
  (38065, 0xfa12, 1), (38066, 0xfa15, 3), (38069, 0xfa19, 6), (38075, 0xfa22, 1),
  (38076, 0xfa25, 2), (38078, 0xfa2a, 1030), (39108, 0xfe32, 1), (39109, 0xfe45, 4),
  (39113, 0xfe53, 1), (39114, 0xfe58, 1), (39115, 0xfe67, 1), (39116, 0xfe6c, 149),
  (39265, 0xff5f, 129), (39394, 0xffe6, 26)]

def isDigitByte (byte : UInt8) : Bool := 0x30 <= byte && byte <= 0x39

def isHighByte (byte : UInt8) : Bool := 0x81 <= byte && byte <= 0xfe

/-- The number that four bytes stand for; digits and higher bytes take turns. -/
def fourByteNumber (first second third fourth : UInt8) : Nat :=
  (10 * (first.toNat - 0x81) + (second.toNat - 0x30)) * 1260
    + 10 * (third.toNat - 0x81) + (fourth.toNat - 0x30)

/-- The characters beyond the first plane begin at a number of their own. -/
def planesFrom : Nat := 15 * 10 * 1260

def fourByteChar? (number : Nat) : Option Char :=
  if planesFrom <= number then
    let code := 0x10000 + (number - planesFrom)
    if code <= 0x10ffff then some (Char.ofNat code) else none
  else
    let run := fourByteRuns.find? fun run => run.1 <= number && number < run.1 + run.2.2
    run.map fun run => Char.ofNat (run.2.1 + (number - run.1))

def fourBytes (first second : UInt8) : List UInt8 -> Taken
  | third :: fourth :: _ =>
    if isHighByte first && isHighByte third && isDigitByte fourth then
      .ofChar? 4 (fourByteChar? (fourByteNumber first second third fourth))
    else .bad
  | _ => .short

def full : Taker := .abovePlain fun first rest =>
  match rest with
  | [] => .short
  | second :: tail =>
    if isDigitByte second then fourBytes first second tail else .ofChar? 2 (fullPair? first second)

end Rehearsal.Text.Chinese
