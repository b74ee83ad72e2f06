import Rehearsal.Text.Charset.Alphabets
import Rehearsal.Text.Charset.Chinese
import Rehearsal.Text.Charset.Escaped
import Rehearsal.Text.Charset.Japanese
import Rehearsal.Text.Charset.Korean
import Rehearsal.Text.Charset.Utf7
import Rehearsal.Text.Charset.Wide

/-!
Charsets: how the bytes of a text stand for its characters. Bytes that stand for nothing are
replaced. A charset is known by many names, in which only letters and digits count.
-/

set_option autoImplicit false

namespace Rehearsal.Text

structure Charset where
  /-- In lower case, with low lines between their words. -/
  names : List String
  decode : List UInt8 -> Except Fault (List Char)

namespace Charset

/-- A charset in which all bytes can be read. -/
def total (names : List String) (read : List UInt8 -> List Char) : Charset :=
  { names, decode := fun bytes => .ok (read bytes) }

/-- A name of something that is no charset of texts. -/
def refusing (names : List String) (fault : Fault) : Charset :=
  { names, decode := fun _ => .error fault }

def ofTable (table : OneByte) : Charset := .total table.names fun bytes => bytes.map table.char

def plainChar (byte : UInt8) : Char := if byte < 0x80 then Char.ofNat byte.toNat else '\ufffd'

def utf8 : Charset :=
  .total ["utf_8", "utf8", "u8", "utf", "utf8_ucs2", "utf8_ucs4", "cp65001"] Wide.decode8

def oneByte : List Charset :=
  .total ["ascii", "us_ascii", "646", "us", "ansi_x3.4_1968", "ansi_x3_4_1968", "ansi_x3.4_1986",
      "cp367", "csascii", "ibm367", "iso646_us", "iso_646.irv_1991", "iso_ir_6"]
    (fun bytes => bytes.map plainChar)
  :: .total ["latin_1", "latin", "latin1", "l1", "8859", "cp819", "csisolatin1", "ibm819",
      "iso8859", "iso8859_1", "iso_8859_1", "iso_8859_1_1987", "iso_ir_100", "charmap"]
    (fun bytes => bytes.map fun byte => Char.ofNat byte.toNat)
  :: (OneByte.windows ++ OneByte.terminals ++ OneByte.standards ++ OneByte.desktops
      ++ OneByte.mainframes).map ofTable

def unicode : List Charset :=
  [utf8, .total ["utf_8_sig"] Wide.decodeMarked8,
   { names := ["utf_16", "utf16", "u16"], decode := Wide.decodeMarked16 },
   .total ["utf_16_le", "utf_16le", "unicodelittleunmarked"] (Wide.decode16 .little),
   .total ["utf_16_be", "utf_16be", "unicodebigunmarked"] (Wide.decode16 .big),
   { names := ["utf_32", "utf32", "u32"], decode := Wide.decodeMarked32 },
   .total ["utf_32_le", "utf_32le"] (Wide.decode32 .little),
   .total ["utf_32_be", "utf_32be"] (Wide.decode32 .big),
   .total ["utf_7", "utf7", "u7", "unicode_1_1_utf_7"] Utf7.decode]

def eastAsian : List Charset :=
  [.total ["shift_jis", "csshiftjis", "s_jis", "shiftjis", "sjis", "x_mac_japanese"]
     Japanese.shifted.decode,
   .total ["cp932", "932", "ms932", "ms_kanji", "mskanji"] Japanese.office.decode,
   .total ["euc_jp", "eucjp", "u_jis", "ujis"] Japanese.unix.decode,
   .total ["iso2022_jp", "csiso2022jp", "iso2022jp", "iso_2022_jp"] Escaped.decodeJapanese,
   .total ["gb2312", "chinese", "csiso58gb231280", "euc_cn", "euccn", "eucgb2312_cn",
     "gb2312_1980", "gb2312_80", "iso_ir_58", "x_mac_simp_chinese"] Chinese.simplified.decode,
   .total ["gbk", "936", "cp936", "ms936"] Chinese.extended.decode,
   .total ["gb18030", "gb18030_2000"] Chinese.full.decode,
   .total ["hz", "hz_gb", "hz_gb_2312", "hzgb"] Escaped.decodeTilde,
   .total ["big5", "big5_tw", "csbig5", "x_mac_trad_chinese"] Chinese.traditional.decode,
   .total ["cp950", "950", "ms950"] Chinese.traditionalOffice.decode,
   .total ["euc_kr", "euckr", "korean", "ks_c_5601", "ks_c_5601_1987", "ks_x_1001", "ksc5601",
     "ksx1001", "x_mac_korean"] Korean.unix.decode,
   .total ["cp949", "949", "ms949", "uhc"] Korean.office.decode,
   .total ["iso2022_kr", "csiso2022kr", "iso2022kr", "iso_2022_kr"] Escaped.decodeKorean]

/-- Names of ways to write bytes or other texts, which no text can be read in. -/
def noTexts : List Charset :=
  [.refusing ["base64_codec", "base64", "base_64", "bz2_codec", "bz2", "hex_codec", "hex",
     "quopri_codec", "quopri", "quoted_printable", "quotedprintable", "uu_codec", "uu",
     "zlib_codec", "zip", "zlib"] ⟨.unsupported, ""⟩,
   .refusing ["rot_13", "rot13"] ⟨.wrongType,
     "descriptor 'translate' for 'str' objects doesn't apply to a 'bytes' object"⟩,
   .refusing ["idna"] ⟨.badText, "Unsupported error handling replace"⟩,
   .refusing ["undefined"] ⟨.badText, "undefined encoding"⟩]

def known : List Charset := oneByte ++ unicode ++ eastAsian ++ noTexts

/-- Whether a character belongs to a word of a name. -/
def isWordChar (c : Char) : Bool := c.isAlphanum || c == '.'

/-- A name in lower case, with one low line between its words. -/
def plainName (name : String) : String :=
  let words := (name.toList.splitOnP fun c => !isWordChar c).filter fun word => !word.isEmpty
  String.ofList (List.intercalate ['_'] (words.map fun word => word.map Char.toLower))

def find? (name : String) : Option Charset :=
  let plain := plainName name
  known.find? fun charset => charset.names.contains plain

end Charset

end Rehearsal.Text
