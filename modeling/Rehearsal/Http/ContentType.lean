import Rehearsal.Http.Reference
import Rehearsal.Number.Numeral
import Rehearsal.Text.Charset
import Rehearsal.Text.Percent

/-!
Types of content, such as `text/html; charset=utf-8`: behind a type stand its parameters. The value
of a parameter may come in numbered pieces, and some of its bytes may be written by their digits;
the charset that they are in then stands before them.
-/

set_option autoImplicit false

namespace Rehearsal.Http

structure Parameter where
  name : List Char
  value : List Char

namespace Parameter

/-- Splits at semicolons that stand outside of quotes. -/
def split (escaped inQuotes : Bool) : List Char -> List (List Char)
  | [] => [[]]
  | c :: rest =>
    if c == ';' && !inQuotes then [] :: split false false rest
    else
      let inQuotes := if c == '"' && !escaped then !inQuotes else inQuotes
      match split (c == '\\') inQuotes rest with
      | first :: others => (c :: first) :: others
      | [] => [[c]]

def trimmed (text : List Char) : List Char := Text.trimChars Text.isBlank text

/-- The name of a parameter with a value is in lower case. -/
def ofText (text : List Char) : Parameter :=
  let (name, value) := Reference.cut '=' text
  let name := trimmed name
  { name := if text.contains '=' then name.map Char.toLower else name, value := trimmed value }

/-- Takes quotes off a value; behind a backslash they stand for themselves. -/
def dropEscapes : List Char -> List Char
  | '\\' :: c :: rest => if c == '\\' || c == '"' then c :: dropEscapes rest
    else '\\' :: dropEscapes (c :: rest)
  | c :: rest => c :: dropEscapes rest
  | [] => []

def unquoted (value : List Char) : List Char :=
  let inside := (value.drop 1).dropLast
  if value.length <= 1 then value
  else if value.head? == some '"' && value.getLast? == some '"' then dropEscapes inside
  else if value.head? == some '<' && value.getLast? == some '>' then inside
  else value

def isNamed (parameter : Parameter) (name : String) : Bool :=
  parameter.name.map Char.toLower == name.toList

end Parameter

/-! ## Pieces of values -/

structure Piece where
  /-- The parameter whose value it is a piece of. -/
  name : List Char
  /-- A value in one piece has no number. -/
  number : Option Nat
  text : List Char
  isEncoded : Bool

namespace Piece

def isWordChar (c : Char) : Bool := c.isAlphanum || c == '_'

/-- The name of a piece is that of its parameter, a star, perhaps a number, and perhaps another
star. -/
def nameAndDigits? (name : List Char) : Option (List Char × List Char) :=
  match name.takeWhile isWordChar, name.dropWhile isWordChar with
  | [], _ => none
  | word, '*' :: mark =>
    let digits := mark.takeWhile Char.isDigit
    let behind := mark.dropWhile Char.isDigit
    if behind.isEmpty || (!digits.isEmpty && behind == ['*']) then some (word, digits) else none
  | _, _ => none

def ofParameter? (parameter : Parameter) : Except Fault (Option Piece) := do
  match nameAndDigits? parameter.name with
  | none => return none
  | some (name, digits) =>
    if Number.mostDigits < digits.length then throw (.oversizedNumeral digits.length)
    return some
      { name
        number := if digits.isEmpty then none else some (Number.digitsValue digits)
        text := Parameter.unquoted parameter.value
        isEncoded := parameter.name.getLast? == some '*' }

def le (left right : Piece) : Bool :=
  let number := fun (piece : Piece) => piece.number.getD 0
  if number left != number right then number left < number right
  else if left.text != right.text then String.ofList left.text < String.ofList right.text
  else !left.isEncoded || right.isEncoded

/-- What the missing number of a piece is called where it cannot be compared. -/
def numberType (piece : Piece) : String := if piece.number.isSome then "int" else "NoneType"

/-- Pieces with and without a number have no order. -/
def checkNumbers : List Piece -> Except Fault Unit
  | first :: second :: rest =>
    if first.number.isSome == second.number.isSome then checkNumbers (second :: rest)
    else
      let types := s!"'{second.numberType}' and '{first.numberType}'"
      .error ⟨.wrongType, s!"'<' not supported between instances of {types}"⟩
  | _ => .ok ()

/-- The text of a piece; each byte that is written by its digits becomes one character. -/
def chars (piece : Piece) : List Char :=
  if piece.isEncoded then
    (Text.percentDecoded piece.text).map fun byte => Char.ofNat byte.toNat
  else piece.text

/-- A text whose characters are the bytes of a text in `charset`, if they can be read in it. -/
def inCharset (charset text : List Char) : List Char :=
  let name := if charset.isEmpty then "us-ascii" else String.ofList charset
  let bytes := text.map fun c => UInt8.ofNat c.toNat
  match Text.Charset.find? name with
  | none => text
  | some charset =>
    match charset.decode bytes with
    | .error _ => text
    | .ok decoded => if decoded.contains '\ufffd' then text else decoded

/-- The value that pieces make up. Before a value with encoded pieces stand a charset and a
language, each with a quote behind it. -/
def value (pieces : List Piece) : List Char :=
  let text := (pieces.mergeSort le).flatMap chars
  if !pieces.any isEncoded then text
  else
    let (charset, behind) := Reference.cut '\'' text
    let (_, value) := Reference.cut '\'' behind
    if (text.filter (· == '\'')).length < 2 then inCharset [] text else inCharset charset value

end Piece

/-! ## Charsets -/

def isAscii (text : List Char) : Bool := text.all fun c => c.toNat < 0x80

/-- The charset that a type of content names. A value in one piece counts more than others. -/
def charsetName? (contentType : String) : Except Fault (Option String) := do
  let parameters := (Parameter.split false false contentType.toList).map Parameter.ofText
  let pieces ← (parameters.drop 1).filterMapM Piece.ofParameter?
  let names := (pieces.map Piece.name).eraseDups
  let groups := names.map fun name => pieces.filter fun piece => piece.name == name
  groups.forM Piece.checkNumbers
  let inOnePiece := (parameters.find? (·.isNamed "charset")).map fun parameter =>
    Parameter.unquoted parameter.value
  let inPieces := (groups.map fun group =>
    { name := (group.map Piece.name).headD [], value := Piece.value group : Parameter }).find?
      (·.isNamed "charset")
  let name := inOnePiece.or (inPieces.map Parameter.value)
  return (name.filter isAscii).map String.ofList

end Rehearsal.Http
