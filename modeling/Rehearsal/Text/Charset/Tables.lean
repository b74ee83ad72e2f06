/-!
Tables of characters that have codes of one byte or of two. Of one byte, the last characters are
listed; the bytes before those stand for the characters of ASCII. Of two bytes, characters whose
codes follow one another are listed together, under the first of their codes. A reader takes one
character after the other; a byte that begins none is replaced by itself, and bytes that break off
are replaced together.
-/

set_option autoImplicit false

/-! ## Tables -/

namespace Rehearsal.Text

structure OneByte where
  /-- In lower case, with low lines between their words. -/
  names : List String
  letters : Array Char

namespace OneByte

def ofRows (names rows : List String) : OneByte :=
  { names, letters := (String.join rows).toList.toArray }

/-- The byte of the first character that is listed. -/
def first (charset : OneByte) : Nat := 256 - charset.letters.size

/-- Bytes that stand for nothing are replaced. -/
def char (charset : OneByte) (byte : UInt8) : Char :=
  if byte.toNat < charset.first then Char.ofNat byte.toNat
  else charset.letters.getD (byte.toNat - charset.first) '\ufffd'

/-- A charset whose listed characters are all it has above ASCII leaves ASCII alone. -/
theorem char_of_lt (charset : OneByte) (byte : UInt8) (plain : byte.toNat < charset.first) :
    charset.char byte = Char.ofNat byte.toNat := by
  simp [char, plain]

end OneByte

structure PairTable where
  runs : Array (Nat × Array Char)

namespace PairTable

def ofRuns (runs : List (Nat × String)) : PairTable :=
  { runs := (runs.map fun run => (run.1, run.2.toList.toArray)).toArray }

def char? (table : PairTable) (code : Nat) : Option Char :=
  let run := table.runs.find? fun run => run.1 <= code && code < run.1 + run.2.size
  run.bind fun run => run.2[code - run.1]?

/-- All characters of a table, in the order of their codes. -/
def chars (table : PairTable) : List Char := table.runs.toList.flatMap fun run => run.2.toList

/-- The code of the bytes that stand for a row and a cell. -/
def code (first second : UInt8) : Nat := 256 * first.toNat + second.toNat

end PairTable

end Rehearsal.Text

/-! ## Characters of several bytes -/

namespace Rehearsal.Text

inductive Taken where
  | char (c : Char) (length : Nat)
  /-- The first byte begins no character. -/
  | bad
  /-- A character begins, and the text breaks off. -/
  | short
  deriving DecidableEq

def Taken.ofChar? (length : Nat) : Option Char -> Taken
  | some c => .char c length
  | none => .bad

/-- How a charset takes a character, given the first byte and those behind it. -/
abbrev Taker := UInt8 -> List UInt8 -> Taken

def isPlainByte (byte : UInt8) : Bool := byte < 0x80

/-- Takes characters of ASCII, and others by `other`. -/
def Taker.abovePlain (other : Taker) : Taker := fun first rest =>
  if isPlainByte first then .char (Char.ofNat first.toNat) 1 else other first rest

def Taker.ofPairs (char? : UInt8 -> UInt8 -> Option Char) : Taker := fun first rest =>
  match rest with
  | [] => .short
  | second :: _ => .ofChar? 2 (char? first second)

/-- Reads all bytes, some of which are replaced. -/
def Taker.decode (take : Taker) (bytes : List UInt8) : List Char :=
  match bytes with
  | [] => []
  | first :: rest =>
    match take first rest with
    | .char c length => c :: Taker.decode take (rest.drop (length - 1))
    | .bad => '\ufffd' :: Taker.decode take rest
    | .short => ['\ufffd']
termination_by bytes.length
decreasing_by
  · simp only [List.length_drop, List.length_cons]
    omega
  · simp

theorem Taker.decode_nil (take : Taker) : take.decode [] = [] := by
  rw [Taker.decode]

theorem Taker.decode_cons_char (take : Taker) (first : UInt8) (rest : List UInt8) (c : Char)
    (length : Nat) (taken : take first rest = .char c length) :
    take.decode (first :: rest) = c :: take.decode (rest.drop (length - 1)) := by
  rw [Taker.decode]
  simp [taken]

theorem Taker.decode_plain (other : Taker) (bytes : List UInt8)
    (plain : ∀ byte ∈ bytes, isPlainByte byte = true) :
    (Taker.abovePlain other).decode bytes = bytes.map fun byte => Char.ofNat byte.toNat := by
  induction bytes with
  | nil => rw [Taker.decode_nil]; rfl
  | cons byte rest ih =>
    have first := plain byte (by simp)
    have taken : Taker.abovePlain other byte rest = .char (Char.ofNat byte.toNat) 1 := by
      simp [Taker.abovePlain, first]
    rw [Taker.decode_cons_char _ _ _ _ _ taken]
    simp [ih fun other member => plain other (by simp [member])]

end Rehearsal.Text
