import Rehearsal.Compression.Inflate

/-!
Files of deflated data: a header, which may name the file, then the data, and at last a checksum
and the length of what the data stand for.
-/

set_option autoImplicit false

namespace Rehearsal.Compression

namespace Inflating

/-! ## Checksums -/

/-- A step of dividing a polynomial over bits, the lowest bit first. -/
def divideBit (sum : UInt32) : UInt32 :=
  if sum % 2 == 1 then (sum >>> 1) ^^^ 0xedb88320 else sum >>> 1

def divideByte (sum : UInt32) (byte : UInt8) : UInt32 :=
  Nat.repeat divideBit 8 (sum ^^^ byte.toUInt32)

/-- The remainder that files are checked by. -/
def remainder (bytes : List UInt8) : Nat :=
  (bytes.foldl divideByte 0xffffffff ^^^ 0xffffffff).toNat

/-! ## Headers -/

def skipBytes : Nat -> Inflating Unit
  | 0 => return ()
  | count + 1 => do
    discard (take 8)
    skipBytes count

/-- Passes over a text, which ends in a zero byte. -/
def skipText : (bound : Nat) -> Inflating Unit
  | 0 => throw .endOfBits
  | bound + 1 => do if (← take 8) != 0 then skipText bound

/-- A header may itself be checked; `bytes` are all that are read. -/
def fileHeader (bytes : List UInt8) : Inflating Unit := do
  if (← take 16) != 0x8b1f then refuse .header
  let marks ← take 16
  if marks % 256 != 8 then refuse .method
  let flags := marks / 256
  if 0x20 <= flags then refuse .headerFlags
  skipBytes 6
  if flags.testBit 2 then skipBytes (← take 16)
  if flags.testBit 3 then skipText (bytes.length + 1)
  if flags.testBit 4 then skipText (bytes.length + 1)
  if flags.testBit 1 then
    let left := (← get).bits.length / 8
    if (← take 16) != remainder (bytes.take (bytes.length - left)) % 65536 then
      refuse .headerChecksum

def file (bytes : List UInt8) : Inflating Unit := do
  fileHeader bytes
  allBlocks
  skipToByte
  let output := (← get).output
  if (← take 32) != remainder output.toList then refuse .checksum
  if (← take 32) != output.size % 4294967296 then refuse .length

end Inflating

/-- Reads a file; what stands behind it is left out. -/
def inflateFile (bytes : List UInt8) : Except Flaw (List UInt8) :=
  Inflating.output (Inflating.file bytes) bytes

end Rehearsal.Compression
