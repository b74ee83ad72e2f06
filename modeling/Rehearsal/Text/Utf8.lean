import Rehearsal.Fault
import Rehearsal.Text.Quoted

/-!
Bytes read as UTF-8. A broken sequence costs as many bytes as could still have begun a
character, so a reader that puts one replacement in its place loses nothing that follows.
-/

set_option autoImplicit false

namespace Rehearsal.Text

/-- What a first byte announces: its own bits, how many bytes follow, and the range that the
first of them must lie in. -/
structure Lead where
  bits : Nat
  tails : Nat
  low : Nat
  high : Nat

def Lead.ofByte? (byte : Nat) : Option Lead :=
  if byte < 0x80 then some { bits := byte, tails := 0, low := 0x80, high := 0xbf }
  else if byte < 0xc2 then none
  else if byte < 0xe0 then some { bits := byte - 0xc0, tails := 1, low := 0x80, high := 0xbf }
  else if byte < 0xf0 then
    some { bits := byte - 0xe0, tails := 2, low := if byte == 0xe0 then 0xa0 else 0x80,
           high := if byte == 0xed then 0x9f else 0xbf }
  else if byte < 0xf5 then
    some { bits := byte - 0xf0, tails := 3, low := if byte == 0xf0 then 0x90 else 0x80,
           high := if byte == 0xf4 then 0x8f else 0xbf }
  else none

/-- Reads the following bytes; stops before the first that does not fit. -/
def takeTails : (tails low high code : Nat) -> List UInt8 -> Option Nat × List UInt8
  | 0, _, _, code, rest => (some code, rest)
  | _ + 1, _, _, _, [] => (none, [])
  | tails + 1, low, high, code, byte :: rest =>
    if low <= byte.toNat && byte.toNat <= high then
      takeTails tails 0x80 0xbf (code * 64 + byte.toNat % 64) rest
    else (none, byte :: rest)

theorem takeTails_length_le (tails low high code : Nat) (bytes : List UInt8) :
    (takeTails tails low high code bytes).2.length <= bytes.length := by
  fun_induction takeTails tails low high code bytes <;> simp_all
  omega

/-- A character, or a broken run of bytes and whether the input ended inside it. -/
inductive Piece where
  | whole (c : Char)
  | badLead
  | broken (length : Nat) (atEnd : Bool)

def Piece.length : Piece -> Nat
  | .whole c => c.utf8Size
  | .badLead => 1
  | .broken length _ => length

def pieces (bytes : List UInt8) : List Piece :=
  match bytes with
  | [] => []
  | byte :: rest =>
    match Lead.ofByte? byte.toNat with
    | none => .badLead :: pieces rest
    | some lead =>
      let taken := takeTails lead.tails lead.low lead.high lead.bits rest
      let piece := match taken.1 with
        | some code => Piece.whole (Char.ofNat code)
        | none => .broken (1 + rest.length - taken.2.length) taken.2.isEmpty
      piece :: pieces taken.2
termination_by bytes.length
decreasing_by
  · simp
  · have := takeTails_length_le lead.tails lead.low lead.high lead.bits rest
    simp only [List.length_cons]
    omega

def Piece.char? : Piece -> Option Char
  | .whole c => some c
  | _ => none

/-- Every broken piece becomes one U+FFFD. -/
def decodeLossy (bytes : ByteArray) : String :=
  String.ofList ((pieces bytes.toList).map fun piece => piece.char?.getD '\ufffd')

/-- Says which bytes are broken, and in which of three ways. -/
def brokenMessage (bytes : List UInt8) (start length : Nat) (reason : String) : String :=
  let first := String.ofList (hexDigits 2 ((bytes.drop start).headD 0).toNat)
  let place :=
    if length == 1 then s!"byte 0x{first} in position {start}"
    else s!"bytes in position {start}-{start + length - 1}"
  s!"'utf-8' codec can't decode {place}: {reason}"

def collect (bytes : List UInt8) : Nat -> List Piece -> Except Fault (List Char)
  | _, [] => .ok []
  | start, piece :: rest =>
    match piece with
    | .whole c => (collect bytes (start + piece.length) rest).map (c :: ·)
    | .badLead => .error ⟨.badBytes, brokenMessage bytes start 1 "invalid start byte"⟩
    | .broken length atEnd =>
      let reason := if atEnd then "unexpected end of data" else "invalid continuation byte"
      .error ⟨.badBytes, brokenMessage bytes start length reason⟩

/-- Refuses the bytes at the first broken piece. -/
def decode (bytes : ByteArray) : Except Fault String :=
  (collect bytes.toList 0 (pieces bytes.toList)).map String.ofList

/-! ## Reading in chunks -/

/-- Decodes a chunk, and gives back a character that it breaks off in unless nothing follows. -/
def decodeChunk (isLast : Bool) (bytes : List UInt8) : Except Fault (List Char × List UInt8) :=
  let found := pieces bytes
  match isLast, found.getLast? with
  | false, some (.broken length true) =>
    (collect bytes 0 found.dropLast).map fun chars => (chars, bytes.drop (bytes.length - length))
  | _, _ => (collect bytes 0 found).map fun chars => (chars, [])

/-- Decodes chunk after chunk. `left` are the bytes that the chunk before broke off in; places in
messages count from them. -/
def decodeChunks (left bytes : List UInt8) (size : Nat) : Except Fault (List Char) :=
  match bytes with
  | [] => (decodeChunk true left).map (·.1)
  | byte :: rest => do
    let (chars, left) ← decodeChunk false (left ++ byte :: rest.take (size - 1))
    return chars ++ (← decodeChunks left (rest.drop (size - 1)) size)
termination_by bytes.length
decreasing_by
  simp only [List.length_drop, List.length_cons]
  omega

/-- Reads a text as it is read line by line, some thousand bytes at a time. -/
def decodeByChunks (bytes : ByteArray) : Except Fault String :=
  (decodeChunks [] bytes.toList 8192).map String.ofList

end Rehearsal.Text
