/-!
Data that was deflated: blocks of bytes that stand as they are, or of words of prefix codes that
stand for bytes and for repetitions of what came before. What could be read before the data ends
is kept; data that cannot be read at all is refused. A prefix code is given by the lengths of its
words alone: words of one length are in the order of their symbols, and shorter ones come first.
-/

set_option autoImplicit false

/-! ## Prefix codes -/

namespace Rehearsal.Compression

structure PrefixCode where
  /-- How many words of each length there are, from one bit on. -/
  counts : List Nat
  /-- The symbols in the order of their words. -/
  symbols : Array Nat

namespace PrefixCode

def mostBits : Nat := 15

def countsOf (lengths : List Nat) : List Nat :=
  (List.range' 1 mostBits).map fun length => lengths.count length

/-- Words that are left over, in units of the longest one; none if there are too many words. -/
def spare? (counts : List Nat) : Option Nat :=
  counts.foldl (fun left count => left.bind fun left =>
    if count <= 2 * left then some (2 * left - count) else none) (some 1)

def symbolsOf (lengths : List Nat) : List Nat :=
  (List.range' 1 mostBits).flatMap fun length =>
    (List.range lengths.length).filter fun symbol => lengths[symbol]? == some length

/-- The counts up to the longest word. A code without words still has bits. -/
def usedCounts (counts : List Nat) : List Nat :=
  match (counts.reverse.dropWhile (· == 0)).reverse with
  | [] => [0]
  | used => used

/-- A code may have a single word of one bit, or none; otherwise all words have to be used. -/
def isUsable (strict : Bool) (counts : List Nat) : Bool :=
  let used := usedCounts counts
  used == [0] || (match spare? counts with
    | none => false
    | some left => left == 0 || (!strict && used.length == 1))

def ofLengths (lengths : List Nat) : PrefixCode :=
  { counts := usedCounts (countsOf lengths), symbols := (symbolsOf lengths).toArray }

/-- The code, if it is usable; a strict one has no single word. -/
def ofLengths? (strict : Bool) (lengths : List Nat) : Option PrefixCode :=
  if isUsable strict (countsOf lengths) then some (ofLengths lengths) else none

/-- What the first bits of a text stand for. -/
inductive Found where
  | symbol (symbol : Nat) (rest : List Bool)
  /-- The bits are no word of the code. -/
  | unknown (rest : List Bool)
  | endOfBits

/-- Reads bit after bit. `word` has the bits so far, `first` is the first word of this length, and
`before` counts the shorter words. -/
def findFrom (symbols : Array Nat) (word first before : Nat) : List Nat -> List Bool -> Found
  | [], bits => .unknown bits
  | _ :: _, [] => .endOfBits
  | count :: counts, bit :: bits =>
    let word := 2 * word + bit.toNat
    if word < first + count then
      match symbols[before + (word - first)]? with
      | some symbol => .symbol symbol bits
      | none => .unknown bits
    else findFrom symbols word (2 * (first + count)) (before + count) counts bits

def find (code : PrefixCode) (bits : List Bool) : Found :=
  findFrom code.symbols 0 0 0 code.counts bits

end PrefixCode

end Rehearsal.Compression

/-! ## Deflated data -/

namespace Rehearsal.Compression

inductive Flaw where
  | blockType
  | storedLengths
  | tooManySymbols
  | codeLengths
  | lengthRepeat
  | noEndOfBlock
  | lengthCodes
  | distanceCodes
  | lengthCode
  | distanceCode
  | distance
  | header
  | method
  | windowSize
  | dictionary
  | checksum
  | headerFlags
  | headerChecksum
  | length
  deriving DecidableEq

def Flaw.message : Flaw -> String
  | .blockType => "invalid block type"
  | .storedLengths => "invalid stored block lengths"
  | .tooManySymbols => "too many length or distance symbols"
  | .codeLengths => "invalid code lengths set"
  | .lengthRepeat => "invalid bit length repeat"
  | .noEndOfBlock => "invalid code -- missing end-of-block"
  | .lengthCodes => "invalid literal/lengths set"
  | .distanceCodes => "invalid distances set"
  | .lengthCode => "invalid literal/length code"
  | .distanceCode => "invalid distance code"
  | .distance => "invalid distance too far back"
  | .header => "incorrect header check"
  | .method => "unknown compression method"
  | .windowSize => "invalid window size"
  | .dictionary => "need dictionary"
  | .checksum => "incorrect data check"
  | .headerFlags => "unknown header flags set"
  | .headerChecksum => "header crc mismatch"
  | .length => "incorrect length check"

/-- Why reading stops before the end of the data. -/
inductive Stop where
  | endOfBits
  | flaw (flaw : Flaw)
  deriving DecidableEq

/-- What is still to be read, and what was read. -/
structure Tape where
  bits : List Bool
  output : Array UInt8

/-- A step of reading; the tape is kept if it stops. -/
abbrev Inflating := ExceptT Stop (StateM Tape)

namespace Inflating

/-! ## Bits -/

def bitsOfByte (byte : UInt8) : List Bool :=
  (List.range 8).map fun place => byte.toNat.testBit place

/-- The lowest bit of a byte comes first. -/
def bitsOf (bytes : List UInt8) : List Bool := bytes.flatMap bitsOfByte

def valueOf (bits : List Bool) : Nat := bits.foldr (fun bit value => bit.toNat + 2 * value) 0

def refuse {A : Type} (flaw : Flaw) : Inflating A := throw (.flaw flaw)

def take (count : Nat) : Inflating Nat := do
  let tape ← get
  let taken := tape.bits.take count
  if taken.length < count then throw .endOfBits
  set { tape with bits := tape.bits.drop count }
  return valueOf taken

def write (byte : UInt8) : Inflating Unit :=
  modify fun tape => { tape with output := tape.output.push byte }

/-- The next symbol; bits that are no word stand for none. -/
def symbol? (code : PrefixCode) : Inflating (Option Nat) := do
  let tape ← get
  match code.find tape.bits with
  | .endOfBits => throw .endOfBits
  | .unknown rest =>
    set { tape with bits := rest }
    return none
  | .symbol symbol rest =>
    set { tape with bits := rest }
    return some symbol

/-! ## Bytes as they are -/

/-- Blocks of bytes begin at a whole byte. -/
def skipToByte : Inflating Unit :=
  modify fun tape => { tape with bits := tape.bits.drop (tape.bits.length % 8) }

def copyBytes : Nat -> Inflating Unit
  | 0 => return ()
  | count + 1 => do
    write (UInt8.ofNat (← take 8))
    copyBytes count

/-- The length is given twice, the second time with all bits turned over. -/
def storedBlock : Inflating Unit := do
  skipToByte
  let both ← take 32
  let length := both % 65536
  if both / 65536 != 65535 - length then refuse .storedLengths
  copyBytes length

/-! ## Words of codes -/

/-- The shortest length and the extra bits of each symbol from 257 on. -/
def lengthRanges : Array (Nat × Nat) :=
  #[(3, 0), (4, 0), (5, 0), (6, 0), (7, 0), (8, 0), (9, 0), (10, 0), (11, 1), (13, 1), (15, 1),
    (17, 1), (19, 2), (23, 2), (27, 2), (31, 2), (35, 3), (43, 3), (51, 3), (59, 3), (67, 4),
    (83, 4), (99, 4), (115, 4), (131, 5), (163, 5), (195, 5), (227, 5), (258, 0)]

def distanceRanges : Array (Nat × Nat) :=
  #[(1, 0), (2, 0), (3, 0), (4, 0), (5, 1), (7, 1), (9, 2), (13, 2), (17, 3), (25, 3), (33, 4),
    (49, 4), (65, 5), (97, 5), (129, 6), (193, 6), (257, 7), (385, 7), (513, 8), (769, 8),
    (1025, 9), (1537, 9), (2049, 10), (3073, 10), (4097, 11), (6145, 11), (8193, 12), (12289, 12),
    (16385, 13), (24577, 13)]

def takeRange (range : Nat × Nat) : Inflating Nat := return range.1 + (← take range.2)

/-- Writes again what was written before. -/
def copyBack (distance : Nat) : Nat -> Inflating Unit
  | 0 => return ()
  | count + 1 => do
    let output := (← get).output
    write (output.getD (output.size - distance) 0)
    copyBack distance count

def repetition (distances : PrefixCode) (range : Nat × Nat) : Inflating Unit := do
  let length ← takeRange range
  match (← symbol? distances).bind fun symbol => distanceRanges[symbol]? with
  | none => refuse .distanceCode
  | some range =>
    let distance ← takeRange range
    if (← get).output.size < distance then refuse .distance
    copyBack distance length

/-- Reads words until one ends the block. Each word has a bit, so the bits that are left bound
the words. -/
def words (lengths distances : PrefixCode) : (bound : Nat) -> Inflating Unit
  | 0 => throw .endOfBits
  | bound + 1 => do
    match ← symbol? lengths with
    | none => refuse .lengthCode
    | some symbol =>
      if symbol == 256 then return ()
      if symbol < 256 then write (UInt8.ofNat symbol)
      else match lengthRanges[symbol - 257]? with
        | none => refuse .lengthCode
        | some range => repetition distances range
      words lengths distances bound

def codedBlock (lengths distances : PrefixCode) : Inflating Unit := do
  words lengths distances ((← get).bits.length + 1)

/-! ## Codes -/

def fixedLengths : List Nat :=
  List.replicate 144 8 ++ List.replicate 112 9 ++ List.replicate 24 7 ++ List.replicate 8 8

def fixedBlock : Inflating Unit :=
  codedBlock (.ofLengths fixedLengths) (.ofLengths (List.replicate 32 5))

/-- The order in which the lengths of the words for lengths are given. -/
def lengthOrder : List Nat :=
  [16, 17, 18, 0, 8, 7, 9, 6, 10, 5, 11, 4, 12, 3, 13, 2, 14, 1, 15]

def takeMany (width : Nat) : Nat -> Inflating (List Nat)
  | 0 => return []
  | count + 1 => return (← take width) :: (← takeMany width count)

/-- Lengths in the order of their symbols; those that are not given are zero. -/
def ordered (given : List Nat) : List Nat :=
  (List.range lengthOrder.length).map fun symbol =>
    (given[lengthOrder.idxOf symbol]?).getD 0

/-- The lengths that one word stands for: one of its own, or several equal ones. -/
def lengthsOfWord (symbol : Nat) (last : Option Nat) : Inflating (List Nat) := do
  if symbol < 16 then return [symbol]
  else if symbol == 16 then
    let more ← take 2
    match last with
    | none => refuse .lengthRepeat
    | some last => return List.replicate (3 + more) last
  else if symbol == 17 then return List.replicate (3 + (← take 3)) 0
  else return List.replicate (11 + (← take 7)) 0

/-- Reads `total` lengths; `known` has those so far, the latest first. -/
def codeLengths (code : PrefixCode) (total : Nat) : (bound : Nat) -> (known : List Nat) ->
    Inflating (List Nat)
  | 0, known => return known.reverse
  | bound + 1, known => do
    if total <= known.length then return known.reverse
    let symbol := (← symbol? code).getD 0
    let more ← lengthsOfWord symbol known.head?
    if total < known.length + more.length then refuse .lengthRepeat
    codeLengths code total bound (more ++ known)

def describedBlock : Inflating Unit := do
  let lengthCount := (← take 5) + 257
  let distanceCount := (← take 5) + 1
  let given := (← take 4) + 4
  if 286 < lengthCount || 30 < distanceCount then refuse .tooManySymbols
  match PrefixCode.ofLengths? true (ordered (← takeMany 3 given)) with
  | none => refuse .codeLengths
  | some code =>
    let total := lengthCount + distanceCount
    let all ← codeLengths code total total []
    if all[256]? == some 0 then refuse .noEndOfBlock
    match PrefixCode.ofLengths? false (all.take lengthCount) with
    | none => refuse .lengthCodes
    | some lengths =>
      match PrefixCode.ofLengths? false (all.drop lengthCount) with
      | none => refuse .distanceCodes
      | some distances => codedBlock lengths distances

/-! ## Blocks -/

/-- Reads blocks up to the one that is marked as the last. -/
def blocks : (bound : Nat) -> Inflating Unit
  | 0 => throw .endOfBits
  | bound + 1 => do
    let isLast ← take 1
    match ← take 2 with
    | 0 => storedBlock
    | 1 => fixedBlock
    | 2 => describedBlock
    | _ => refuse .blockType
    if isLast == 1 then return () else blocks bound

def allBlocks : Inflating Unit := do blocks ((← get).bits.length + 1)

/-- What was written when the data ended, wherever that was. -/
def output (reading : Inflating Unit) (bytes : List UInt8) : Except Flaw (List UInt8) :=
  match reading.run.run { bits := bitsOf bytes, output := #[] } with
  | (.error (.flaw flaw), _) => .error flaw
  | (_, tape) => .ok tape.output.toList

/-! ## Framed data -/

/-- Two sums of bytes, which framed data ends in. -/
def checksum (bytes : Array UInt8) : Nat :=
  let (low, high) := bytes.foldl (fun (low, high) byte =>
    let low := (low + byte.toNat) % 65521
    (low, (high + low) % 65521)) (1, 0)
  65536 * high + low

/-- The bytes of a number, the highest first. -/
def takeHighFirst : Nat -> (value : Nat) -> Inflating Nat
  | 0, value => return value
  | count + 1, value => do takeHighFirst count (256 * value + (← take 8))

def framed : Inflating Unit := do
  let header ← take 16
  let method := header % 256
  if (256 * method + header / 256) % 31 != 0 then refuse .header
  if method % 16 != 8 then refuse .method
  if 7 < method / 16 then refuse .windowSize
  if (header / 256).testBit 5 then
    discard (take 32)
    refuse .dictionary
  allBlocks
  skipToByte
  if (← takeHighFirst 4 0) != checksum (← get).output then refuse .checksum

end Inflating

def inflate (bytes : List UInt8) : Except Flaw (List UInt8) :=
  Inflating.output Inflating.allBlocks bytes

/-- Reads data in a frame: a header before it, and a checksum behind it. -/
def inflateFramed (bytes : List UInt8) : Except Flaw (List UInt8) :=
  Inflating.output Inflating.framed bytes

end Rehearsal.Compression
