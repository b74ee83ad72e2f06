import Rehearsal.Fault
import Rehearsal.Text.Utf8

/-!
Unicode as bytes: one to four bytes for each character, or units of two or four bytes. A mark at
the beginning may say in which order the bytes of units come.
-/

set_option autoImplicit false

namespace Rehearsal.Text.Wide

inductive ByteOrder where
  | little
  | big
  deriving DecidableEq

def replacement : Char := '\ufffd'

def charOfCode (code : Nat) : Char :=
  if code.isValidChar then Char.ofNat code else replacement

/-! ## Units of two bytes -/

def isHighSurrogate (unit : Nat) : Bool := 0xd800 <= unit && unit < 0xdc00

def isLowSurrogate (unit : Nat) : Bool := 0xdc00 <= unit && unit < 0xe000

def joinSurrogates (high low : Nat) : Char :=
  Char.ofNat (0x10000 + 0x400 * (high - 0xd800) + (low - 0xdc00))

def unit16 (order : ByteOrder) (first second : UInt8) : Nat :=
  match order with
  | .little => first.toNat + 256 * second.toNat
  | .big => 256 * first.toNat + second.toNat

/-- Surrogates come in pairs; one that stands alone is replaced. -/
def decode16 (order : ByteOrder) : List UInt8 -> List Char
  | [] => []
  | [_] => [replacement]
  | first :: second :: rest =>
    let unit := unit16 order first second
    if isHighSurrogate unit then
      match rest with
      | third :: fourth :: after =>
        let low := unit16 order third fourth
        if isLowSurrogate low then joinSurrogates unit low :: decode16 order after
        else replacement :: decode16 order (third :: fourth :: after)
      | _ => [replacement]
    else charOfCode unit :: decode16 order rest

/-! ## Units of four bytes -/

def code32 (order : ByteOrder) (bytes : List UInt8) : Nat :=
  let ordered := match order with
    | .little => bytes.reverse
    | .big => bytes
  ordered.foldl (fun code byte => 256 * code + byte.toNat) 0

def decode32 (order : ByteOrder) : List UInt8 -> List Char
  | first :: second :: third :: fourth :: rest =>
    charOfCode (code32 order [first, second, third, fourth]) :: decode32 order rest
  | [] => []
  | _ => [replacement]

/-! ## Marks -/

def noMark {A : Type} (name : String) : Except Fault A :=
  .error ⟨.badText, s!"{name} stream does not start with BOM"⟩

/-- Units need a mark; what is shorter than a unit is no text yet. -/
def decodeMarked16 (bytes : List UInt8) : Except Fault (List Char) :=
  match bytes with
  | 0xff :: 0xfe :: rest => .ok (decode16 .little rest)
  | 0xfe :: 0xff :: rest => .ok (decode16 .big rest)
  | _ :: _ :: _ => noMark "UTF-16"
  | bytes => .ok (decode16 .little bytes)

def decodeMarked32 (bytes : List UInt8) : Except Fault (List Char) :=
  match bytes with
  | 0xff :: 0xfe :: 0 :: 0 :: rest => .ok (decode32 .little rest)
  | 0 :: 0 :: 0xfe :: 0xff :: rest => .ok (decode32 .big rest)
  | _ :: _ :: _ :: _ :: _ => noMark "UTF-32"
  | bytes => .ok (decode32 .little bytes)

/-! ## Single bytes -/

def decode8 (bytes : List UInt8) : List Char := (decodeLossy ⟨bytes.toArray⟩).toList

def mark8 : List UInt8 := [0xef, 0xbb, 0xbf]

/-- A mark is dropped, also one that breaks off. -/
def decodeMarked8 (bytes : List UInt8) : List Char :=
  if mark8.isPrefixOf bytes then decode8 (bytes.drop 3)
  else if bytes.isPrefixOf mark8 then []
  else decode8 bytes

end Rehearsal.Text.Wide
