import Rehearsal.Datum.Json

/-!
TOML texts, version 1.0. Beside the values read so far the reader keeps a mark on each name that
may not be opened again: tables that were declared, and inline values, which are closed for
good.
-/

set_option autoImplicit false

namespace Rehearsal.Toml

open Number

inductive Flaw where
  | malformed (text : String) (left : Nat)
  | oversized (digits : Nat)

abbrev Reading (A : Type) := Except Flaw (A × List Char)

def flaw {A : Type} (text : String) (left : List Char) : Except Flaw A :=
  .error (.malformed text left.length)

def isLineBlank (c : Char) : Bool := c == ' ' || c == '\t'

def skipBlanks (text : List Char) : List Char := text.dropWhile isLineBlank

def isControl (c : Char) : Bool := c.toNat < 0x20 || c.toNat == 0x7f

def isBareKeyChar (c : Char) : Bool := c.isAlphanum || c == '-' || c == '_'

def isKeyStart (c : Char) : Bool := isBareKeyChar c || c == '"' || c == '\''

def charText (c : Char) : String := Text.quoted (String.singleton c)

/-! ## Marks -/

/-- Marks of the names below a table. -/
inductive Marks where
  | node (declared closed : Bool) (inside : List (String × Marks))

def Marks.declared : Marks -> Bool
  | .node declared _ _ => declared

def Marks.closed : Marks -> Bool
  | .node _ closed _ => closed

def Marks.inside : Marks -> List (String × Marks)
  | .node _ _ inside => inside

def Marks.empty : Marks := .node false false []

/-- A closed name closes all names below it. -/
def isClosed : List String -> Table Marks -> Bool
  | [], _ => false
  | key :: rest, marks =>
    match marks.get? key with
    | none => false
    | some found => found.closed || isClosed rest found.inside

def isDeclared : List String -> Table Marks -> Bool
  | [], _ => false
  | [key], marks => ((marks.get? key).map Marks.declared).getD false
  | key :: rest, marks =>
    match marks.get? key with
    | none => false
    | some found => isDeclared rest found.inside

def alterMarks (change : Marks -> Marks) : List String -> Table Marks -> Table Marks
  | [], marks => marks
  | key :: rest, marks =>
    let found := (marks.get? key).getD Marks.empty
    match rest with
    | [] => marks.put key (change found)
    | _ => marks.put key (.node found.declared found.closed (alterMarks change rest found.inside))

def declare (path : List String) (marks : Table Marks) : Table Marks :=
  alterMarks (fun found => .node true found.closed found.inside) path marks

def close (path : List String) (marks : Table Marks) : Table Marks :=
  alterMarks (fun found => .node found.declared true found.inside) path marks

/-- Forgets a name and all below it. -/
def forget : List String -> Table Marks -> Table Marks
  | [], marks => marks
  | [key], marks => marks.remove key
  | key :: rest, marks =>
    match marks.get? key with
    | none => marks
    | some found => marks.put key (.node found.declared found.closed (forget rest found.inside))

/-! ## Values under a path -/

/-- Changes the table under a path, making tables that are missing on the way. A path leads
through the last item of a list of tables, if lists may be entered at all. -/
def alterNest (entersLists : Bool) (change : Table Datum -> Option (Table Datum)) :
    List String -> Table Datum -> Option (Table Datum)
  | [], fields => change fields
  | key :: rest, fields =>
    match fields.get? key with
    | none => (alterNest entersLists change rest []).map fun below => fields.put key (.object below)
    | some (.object below) =>
      (alterNest entersLists change rest below).map fun below => fields.put key (.object below)
    | some (.list items) =>
      match entersLists, items.getLast? with
      | true, some (.object below) =>
        (alterNest entersLists change rest below).map fun below =>
          fields.put key (.list (items.dropLast ++ [.object below]))
      | _, _ => none
    | some _ => none

def appendNest (key : String) (fields : Table Datum) : Option (Table Datum) :=
  match fields.get? key with
  | none => some (fields.put key (.list [.object []]))
  | some (.list items) => some (fields.put key (.list (items ++ [.object []])))
  | some _ => none

/-! ## Texts and keys -/

/-- Takes characters up to `stop`; a control character on the way is refused. -/
def takeUntil (stop : List Char) (allowed : Char -> Bool) (needsStop : Bool) (text : List Char) :
    Reading (List Char) :=
  let rec find : List Char -> List Char -> Option (List Char × List Char)
    | read, rest =>
      if stop.isPrefixOf rest then some (read.reverse, rest)
      else match rest with
        | [] => none
        | c :: tail => find (c :: read) tail
  let checked := fun (found : List Char × List Char) =>
    match found.1.dropWhile allowed with
    | [] => (.ok found : Reading (List Char))
    | c :: bad =>
      flaw s!"Found invalid character {charText c}" (c :: bad ++ found.2)
  match find [] text with
  | some found => checked found
  | none =>
    if needsStop then flaw s!"Expected {Text.quoted (String.ofList stop)}" []
    else checked (text, [])

def isPlain (c : Char) : Bool := !isControl c || c == '\t'

def isPlainOrNewline (c : Char) : Bool := isPlain c || c == '\n'

def skipComment (text : List Char) : Except Flaw (List Char) :=
  match text with
  | '#' :: rest => (takeUntil ['\n'] isPlain false rest).map (·.2)
  | _ => .ok text

/-- Skips blanks, line ends and comments between the items of a list. -/
def skipGaps : Nat -> List Char -> Except Flaw (List Char)
  | 0, text => .ok text
  | fuel + 1, text =>
    match skipComment (text.dropWhile fun c => isLineBlank c || c == '\n') with
    | .error found => .error found
    | .ok rest => if rest.length == text.length then .ok rest else skipGaps fuel rest

def escapedChar? : Char -> Option Char
  | 'b' => some '\x08'
  | 't' => some '\t'
  | 'n' => some '\n'
  | 'f' => some '\x0c'
  | 'r' => some '\r'
  | '"' => some '"'
  | '\\' => some '\\'
  | _ => none

def readHexChar (count : Nat) (text : List Char) : Reading (List Char) :=
  let code? :=
    if (text.take count).length == count then Json.hexNumber? (text.take count) else none
  match code? with
  | none => flaw "Invalid hex value" text
  | some code =>
    let rest := text.drop count
    if code < 0xd800 || (0xe000 <= code && code < 0x110000) then .ok ([Char.ofNat code], rest)
    else flaw "Escaped character is not a Unicode scalar value" rest

/-- What follows a backslash. In a text of several lines a backslash before a line end swallows
the blanks up to the next character. -/
def readEscape (multiline : Bool) (text : List Char) : Reading (List Char) :=
  match text with
  | [] => flaw "Unescaped '\\' in a string" []
  | c :: rest =>
    if multiline && (isLineBlank c || c == '\n') then
      let swallow := fun (tail : List Char) =>
        tail.dropWhile fun c => isLineBlank c || c == '\n'
      if c == '\n' then .ok ([], swallow rest)
      else match skipBlanks rest with
        | [] => .ok ([], [])
        | '\n' :: tail => .ok ([], swallow tail)
        | tail => flaw "Unescaped '\\' in a string" tail
    else if c == 'u' then readHexChar 4 rest
    else if c == 'U' then readHexChar 8 rest
    else match escapedChar? c with
      | some escaped => .ok ([escaped], rest)
      | none => flaw "Unescaped '\\' in a string" rest

/-- A text in double quotes, after its opening; what is read so far stands in reverse. -/
def readBasic (multiline : Bool) : Nat -> List Char -> List Char -> Reading (List Char)
  | 0, _, text => flaw "Unterminated string" text
  | _ + 1, _, [] => flaw "Unterminated string" []
  | fuel + 1, read, '"' :: rest =>
    if !multiline then .ok (read.reverse, rest)
    else match rest with
      | '"' :: '"' :: tail => .ok (read.reverse, tail)
      | _ => readBasic multiline fuel ('"' :: read) rest
  | fuel + 1, read, '\\' :: rest =>
    match readEscape multiline rest with
    | .error found => .error found
    | .ok (chars, tail) => readBasic multiline fuel (chars.reverse ++ read) tail
  | fuel + 1, read, c :: rest =>
    if isPlain c || (multiline && c == '\n') then readBasic multiline fuel (c :: read) rest
    else flaw s!"Illegal character {charText c}" (c :: rest)

def readLiteral (text : List Char) : Reading (List Char) :=
  (takeUntil ['\''] isPlain true text).map fun (chars, rest) => (chars, rest.drop 1)

def dropNewline : List Char -> List Char
  | '\n' :: rest => rest
  | text => text

/-- One or two more quotes may stand before the three that close a text. -/
def takeExtraQuotes (quote : Char) (chars rest : List Char) : List Char × List Char :=
  match rest with
  | a :: b :: tail =>
    if a == quote then
      if b == quote then (chars ++ [quote, quote], tail) else (chars ++ [quote], b :: tail)
    else (chars, rest)
  | [a] => if a == quote then (chars ++ [quote], []) else (chars, rest)
  | [] => (chars, [])

def readLongBasic (text : List Char) : Reading (List Char) :=
  let text := dropNewline text
  (readBasic true (text.length + 1) [] text).map fun (chars, rest) => takeExtraQuotes '"' chars rest

def readLongLiteral (text : List Char) : Reading (List Char) :=
  (takeUntil ['\'', '\'', '\''] isPlainOrNewline true (dropNewline text)).map
    fun (chars, rest) => takeExtraQuotes '\'' chars (rest.drop 3)

def readKeyPart (text : List Char) : Reading String :=
  match text with
  | '\'' :: rest => (readLiteral rest).map fun (chars, rest) => (String.ofList chars, rest)
  | '"' :: rest =>
    (readBasic false (rest.length + 1) [] rest).map fun (chars, rest) => (String.ofList chars, rest)
  | text =>
    let part := text.takeWhile isBareKeyChar
    if part.isEmpty then flaw "Invalid initial character for a key part" text
    else .ok (String.ofList part, text.dropWhile isBareKeyChar)

/-- A dotted key; blanks may stand around each dot and after the key. -/
def readKey : Nat -> List String -> List Char -> Reading (List String)
  | 0, _, text => flaw "Invalid initial character for a key part" text
  | fuel + 1, read, text =>
    match readKeyPart text with
    | .error found => .error found
    | .ok (part, rest) =>
      match skipBlanks rest with
      | '.' :: rest => readKey fuel (part :: read) (skipBlanks rest)
      | rest => .ok ((part :: read).reverse, rest)

/-! ## Numbers, dates and times -/

/-- Digits of a class, single underscores between them allowed; at least one. -/
def takeGrouped (isDigit : Char -> Bool) (text : List Char) : List Char × List Char :=
  let rec go : List Char -> List Char -> List Char × List Char
    | read, '_' :: c :: rest =>
      if isDigit c then go (c :: read) rest else (read.reverse, '_' :: c :: rest)
    | read, c :: rest => if isDigit c then go (c :: read) rest else (read.reverse, c :: rest)
    | read, [] => (read.reverse, [])
  match text with
  | c :: rest => if isDigit c then go [c] rest else ([], text)
  | [] => ([], [])

def valueInBase (base : Nat) (digits : List Char) : Nat :=
  digits.foldl (fun value c => base * value + (Json.hexValue? c).getD 0) 0

/-- The bases that a letter after a zero announces. -/
def basedDigits? : Char -> Option (Nat × (Char -> Bool))
  | 'x' => some (16, fun c => (Json.hexValue? c).isSome)
  | 'b' => some (2, fun c => c == '0' || c == '1')
  | 'o' => some (8, fun c => '0' <= c && c <= '7')
  | _ => none

def readBased? (text : List Char) : Option (Datum × List Char) :=
  match text with
  | '0' :: letter :: rest =>
    (basedDigits? letter).bind fun (base, isDigit) =>
      let (digits, rest) := takeGrouped isDigit rest
      if digits.isEmpty then none else some (.int (valueInBase base digits), rest)
  | _ => none

def takeGroupedFraction : List Char -> List Char × List Char
  | '.' :: rest =>
    let (part, after) := takeGrouped Char.isDigit rest
    if part.isEmpty then ([], '.' :: rest) else (part, after)
  | text => ([], text)

def takeGroupedPower (text : List Char) : Option Int × List Char :=
  match text with
  | mark :: rest =>
    if mark == 'e' || mark == 'E' then
      let (negative, unsigned) := takeSign rest
      let (power, after) := takeGrouped Char.isDigit unsigned
      if power.isEmpty then (none, text)
      else (some (if negative then -(digitsValue power : Int) else digitsValue power), after)
    else (none, text)
  | [] => (none, text)

def readDecimal? (start : List Char) : Option (Reading Datum) :=
  let (negative, text) := takeSign start
  let (whole, rest) := match text with
    | '0' :: rest => (['0'], rest)
    | text => takeGrouped Char.isDigit text
  if whole.isEmpty then none
  else
    let (part, rest) := takeGroupedFraction rest
    let (power, rest) := takeGroupedPower rest
    if part.isEmpty && power.isNone then
      if mostDigits < whole.length then some (.error (.oversized whole.length))
      else
        let value : Int := digitsValue whole
        some (.ok (.int (if negative then -value else value), rest))
    else
      let decimal : Decimal :=
        { negative, digits := digitsValue (whole ++ part), power := power.getD 0 - part.length }
      some (.ok (.real decimal.toFloat, rest))

def specialReals : List (String × Float) :=
  [("inf", 1.0 / 0.0), ("nan", 0.0 / 0.0), ("-inf", -1.0 / 0.0), ("+inf", 1.0 / 0.0),
   ("-nan", 0.0 / 0.0), ("+nan", 0.0 / 0.0)]

def readSpecial? (text : List Char) : Option (Datum × List Char) :=
  specialReals.findSome? fun (word, value) =>
    if word.toList.isPrefixOf text then some (.real value, text.drop word.length) else none

/-- Exactly `count` digits, as a number between two bounds. -/
def takeNumber? (count low high : Nat) (text : List Char) : Option (Nat × List Char) :=
  let chars := text.take count
  let value := digitsValue chars
  if chars.length == count && chars.all Char.isDigit && low <= value && value <= high then
    some (value, text.drop count)
  else none

def takeChar? (expected : Char) : List Char -> Option (List Char)
  | c :: rest => if c == expected then some rest else none
  | [] => none

/-- Six digits of the fraction of a second count, more are dropped. -/
def takeMicroseconds (text : List Char) : Nat × List Char :=
  match text with
  | '.' :: rest =>
    let (chars, after) := takeDigits rest
    if chars.isEmpty then (0, text)
    else
      let kept := chars.take 6
      (digitsValue (kept ++ List.replicate (6 - kept.length) '0'), after)
  | _ => (0, text)

def takeTime? (text : List Char) : Option (TimeOfDay × List Char) := do
  let (hour, text) <- takeNumber? 2 0 23 text
  let text <- takeChar? ':' text
  let (minute, text) <- takeNumber? 2 0 59 text
  let text <- takeChar? ':' text
  let (second, text) <- takeNumber? 2 0 59 text
  let (microsecond, text) := takeMicroseconds text
  some ({ hour, minute, second, microsecond }, text)

def takeDate? (text : List Char) : Option (Date × List Char) := do
  let (year, text) <- takeNumber? 4 0 9999 text
  let text <- takeChar? '-' text
  let (month, text) <- takeNumber? 2 1 12 text
  let text <- takeChar? '-' text
  let (day, text) <- takeNumber? 2 1 31 text
  some ({ year, month, day }, text)

def takeOffset? (text : List Char) : Option (Int × List Char) := do
  match text with
  | [] => none
  | c :: rest =>
    if c == 'Z' || c == 'z' then some (0, rest)
    else if c == '+' || c == '-' then
      let (hours, rest) <- takeNumber? 2 0 23 rest
      let rest <- takeChar? ':' rest
      let (minutes, rest) <- takeNumber? 2 0 59 rest
      let size : Int := hours * 60 + minutes
      some (if c == '-' then -size else size, rest)
    else none

/-- A day may stand alone, or be followed by a time, and that by an offset. -/
def readMoment? (start : List Char) : Option (Reading Datum) :=
  match takeDate? start with
  | some (date, rest) =>
    let timed := match rest with
      | c :: tail => if c == 'T' || c == 't' || c == ' ' then takeTime? tail else none
      | [] => none
    let found : Moment × List Char := match timed with
      | none => (.day date, rest)
      | some (time, rest) =>
        match takeOffset? rest with
        | none => (.instant date time none, rest)
        | some (ahead, rest) => (.instant date time (some ahead), rest)
    if date.valid then some (.ok (.moment found.1, found.2))
    else some (flaw "Invalid date or datetime" start)
  | none => (takeTime? start).map fun (time, rest) => .ok (.moment (.clock time), rest)

/-! ## Values -/

/-- Puts one pair of an inline table; its tables may not pass through lists. -/
def putInline (path : List String) (value : Datum) (left : List Char) (fields : Table Datum) :
    Except Flaw (Table Datum) :=
  let key := path.getLastD ""
  match alterNest false (fun nest => some nest) path.dropLast fields with
  | none => flaw "Cannot overwrite a value" left
  | some _ =>
    match alterNest false (fun nest => if nest.has key then none else some (nest.put key value))
        path.dropLast fields with
    | none => flaw s!"Duplicate inline table key {Text.quoted key}" left
    | some fields => .ok fields

def isContainer : Datum -> Bool
  | .list _ | .object _ => true
  | _ => false

def pathText (path : List String) : String :=
  match path with
  | [key] => s!"({Text.quoted key},)"
  | _ => s!"({commaSeparated (path.map Text.quoted)})"

def startsWith (word : String) (text : List Char) : Bool := word.toList.isPrefixOf text

mutual

def readValue : Nat -> List Char -> Reading Datum
  | 0, text => flaw "Invalid value" text
  | fuel + 1, text =>
    let asText := fun (reading : Reading (List Char)) =>
      reading.map fun (chars, rest) => (Datum.text (String.ofList chars), rest)
    match text with
    | '"' :: '"' :: '"' :: rest => asText (readLongBasic rest)
    | '"' :: rest => asText (readBasic false (rest.length + 1) [] rest)
    | '\'' :: '\'' :: '\'' :: rest => asText (readLongLiteral rest)
    | '\'' :: rest => asText (readLiteral rest)
    | '[' :: rest =>
      match skipGaps (rest.length + 1) rest with
      | .error found => .error found
      | .ok (']' :: rest) => .ok (.list [], rest)
      | .ok rest => readItems fuel [] rest
    | '{' :: rest =>
      match skipBlanks rest with
      | '}' :: rest => .ok (.object [], rest)
      | rest => readPairs fuel [] [] rest
    | text =>
      if startsWith "true" text then .ok (.bool true, text.drop 4)
      else if startsWith "false" text then .ok (.bool false, text.drop 5)
      else match readMoment? text with
        | some reading => reading
        | none =>
          match readBased? text with
          | some found => .ok found
          | none =>
            match readDecimal? text with
            | some reading => reading
            | none =>
              match readSpecial? text with
              | some found => .ok found
              | none => flaw "Invalid value" text

def readItems : Nat -> List Datum -> List Char -> Reading Datum
  | 0, _, text => flaw "Invalid value" text
  | fuel + 1, read, text =>
    match readValue fuel text with
    | .error found => .error found
    | .ok (item, rest) =>
      match skipGaps (rest.length + 1) rest with
      | .error found => .error found
      | .ok (']' :: rest) => .ok (.list (item :: read).reverse, rest)
      | .ok (',' :: rest) =>
        match skipGaps (rest.length + 1) rest with
        | .error found => .error found
        | .ok (']' :: rest) => .ok (.list (item :: read).reverse, rest)
        | .ok rest => readItems fuel (item :: read) rest
      | .ok rest => flaw "Unclosed array" rest

def readPairs : Nat -> Table Datum -> Table Marks -> List Char -> Reading Datum
  | 0, _, _, text => flaw "Invalid value" text
  | fuel + 1, fields, marks, text =>
    match readKey (text.length + 1) [] text with
    | .error found => .error found
    | .ok (path, rest) =>
      match rest with
      | '=' :: rest =>
        match readValue fuel (skipBlanks rest) with
        | .error found => .error found
        | .ok (value, rest) =>
          if isClosed path marks then
            flaw s!"Cannot mutate immutable namespace {pathText path}" rest
          else match putInline path value rest fields with
            | .error found => .error found
            | .ok fields =>
              match skipBlanks rest with
              | '}' :: rest => .ok (.object fields, rest)
              | ',' :: rest =>
                let marks := if isContainer value then close path marks else marks
                readPairs fuel fields marks (skipBlanks rest)
              | rest => flaw "Unclosed inline table" rest
      | rest => flaw "Expected '=' after a key in a key/value pair" rest

end

/-! ## Statements -/

/-- What the statements read so far amount to. `header` is the table that pairs go to; dotted
keys mark the tables on their way as declared once the next header comes. -/
structure Draft where
  fields : Table Datum
  marks : Table Marks
  pending : List (List String)
  header : List String

def Draft.settle (draft : Draft) : Draft :=
  { draft with marks := draft.pending.foldl (fun marks path => declare path marks) draft.marks
               pending := [] }

def openTable (draft : Draft) (text : List Char) : Reading Draft :=
  let text := skipBlanks text
  match readKey (text.length + 1) [] text with
  | .error found => .error found
  | .ok (path, rest) =>
    if isDeclared path draft.marks || isClosed path draft.marks then
      flaw s!"Cannot declare {pathText path} twice" rest
    else match alterNest true some path draft.fields with
      | none => flaw "Cannot overwrite a value" rest
      | some fields =>
        match rest with
        | ']' :: rest =>
          .ok ({ draft with fields, marks := declare path draft.marks, header := path }, rest)
        | rest => flaw "Expected ']' at the end of a table declaration" rest

def openListItem (draft : Draft) (text : List Char) : Reading Draft :=
  let text := skipBlanks text
  match readKey (text.length + 1) [] text with
  | .error found => .error found
  | .ok (path, rest) =>
    if isClosed path draft.marks then
      flaw s!"Cannot mutate immutable namespace {pathText path}" rest
    else match alterNest true (appendNest (path.getLastD "")) path.dropLast draft.fields with
      | none => flaw "Cannot overwrite a value" rest
      | some fields =>
        match rest with
        | ']' :: ']' :: rest =>
          let marks := declare path (forget path draft.marks)
          .ok ({ draft with fields, marks, header := path }, rest)
        | rest => flaw "Expected ']]' at the end of an array declaration" rest

/-- The proper beginnings of a path, shortest first. -/
def beginnings (path : List String) : List (List String) :=
  (List.range (path.length - 1)).map fun count => path.take (count + 1)

def readPair (draft : Draft) (text : List Char) : Reading Draft :=
  match readKey (text.length + 1) [] text with
  | .error found => .error found
  | .ok (key, '=' :: rest) =>
    let rest := skipBlanks rest
    match readValue (2 * rest.length + 2) rest with
    | .error found => .error found
    | .ok (value, rest) =>
      let onTheWay := (beginnings key).map (draft.header ++ ·)
      let parent := draft.header ++ key.dropLast
      let name := key.getLastD ""
      match onTheWay.find? (isDeclared · draft.marks) with
      | some path => flaw s!"Cannot redefine namespace {pathText path}" rest
      | none =>
        if isClosed parent draft.marks then
          flaw s!"Cannot mutate immutable namespace {pathText parent}" rest
        else match alterNest true
            (fun nest => if nest.has name then none else some (nest.put name value))
            parent draft.fields with
          | none => flaw "Cannot overwrite a value" rest
          | some fields =>
            let marks := if isContainer value then close (draft.header ++ key) draft.marks
              else draft.marks
            .ok ({ draft with fields, marks, pending := draft.pending ++ onTheWay }, rest)
  | .ok (_, rest) => flaw "Expected '=' after a key in a key/value pair" rest

def readStatement (draft : Draft) (text : List Char) : Reading Draft :=
  match text with
  | '[' :: '[' :: rest => openListItem draft.settle rest
  | '[' :: rest => openTable draft.settle rest
  | '#' :: _ => .ok (draft, text)
  | c :: _ => if isKeyStart c then readPair draft text else flaw "Invalid statement" text
  | [] => .ok (draft, [])

/-- Statements end with their line. -/
def readStatements : Nat -> Draft -> List Char -> Except Flaw (Table Datum)
  | 0, draft, _ => .ok draft.fields
  | fuel + 1, draft, text =>
    match skipBlanks text with
    | [] => .ok draft.fields
    | '\n' :: rest => readStatements fuel draft rest
    | text =>
      match readStatement draft text with
      | .error found => .error found
      | .ok (draft, rest) =>
        match skipComment (skipBlanks rest) with
        | .error found => .error found
        | .ok [] => .ok draft.fields
        | .ok ('\n' :: rest) => readStatements fuel draft rest
        | .ok rest => flaw "Expected newline or end of document after a statement" rest

def joinLineEnds : List Char -> List Char
  | '\r' :: '\n' :: rest => '\n' :: joinLineEnds rest
  | c :: rest => c :: joinLineEnds rest
  | [] => []

def Flaw.fault (text : List Char) : Flaw -> Fault
  | .oversized digits => Fault.oversizedNumeral digits
  | .malformed message left =>
    let index := text.length - left
    let (line, column) := Json.placeOf (text.take index)
    let place := if left == 0 then "end of document" else s!"line {line}, column {column}"
    ⟨.badToml, s!"{message} (at {place})"⟩

def read (text : String) : Except Fault (Table Datum) :=
  let chars := joinLineEnds text.toList
  let draft : Draft := { fields := [], marks := [], pending := [], header := [] }
  (readStatements (chars.length + 1) draft chars).mapError (·.fault chars)

end Rehearsal.Toml
