import Rehearsal.Domain.Direction
import Rehearsal.Domain.Letters
import Rehearsal.Domain.Script
import Rehearsal.Fault
import Rehearsal.Text.Composition
import Rehearsal.Text.Punycode
import Rehearsal.Text.Quoted

/-!
Domain names and their labels. A label is shown in its own script and sent in plain letters; the one
form is the other in punycode behind a mark. Which labels there are is a matter of the shown form.
A name is made of labels between dots; four characters count as dots, and a dot at the end belongs
to the name.
-/

set_option autoImplicit false

namespace Rehearsal.Domain

def refuse {A : Type} (message : String) : Except Fault A := .error ⟨.badDomain, message⟩

/-! ## Characters that need others around them -/

def isArabicDigit (c : Char) : Bool := 0x660 <= c.toNat && c.toNat <= 0x669

def isExtendedArabicDigit (c : Char) : Bool := 0x6f0 <= c.toNat && c.toNat <= 0x6f9

/-- Whether the first letter that is not transparent is one of the runs. -/
def reaches (runs : Text.Runs) (letters : List Char) : Bool :=
  (letters.find? fun c => !transparentRuns.contains c).any runs.contains

def followsVowelKiller (before : List Char) : Bool :=
  before.head?.any fun c => Text.markRank c == Text.vowelKillerRank

/-- Whether a joiner may stand where it does; `before` has the nearest letter first. -/
def isJoinerSound (c : Char) (before after : List Char) : Bool :=
  followsVowelKiller before
    || (c == '\u200c' && reaches joinsAfterRuns before && reaches joinsBeforeRuns after)

def isJoiner (c : Char) : Bool := c == '\u200c' || c == '\u200d'

/-- Characters that are valid in some places only, and whether this is one. -/
def soundInContext? (c : Char) (before after : List Char) : Option Bool :=
  if c == '\u00b7' then some (before.head? == some 'l' && after.head? == some 'l')
  else if c == '\u0375' then some (after.head?.any greekRuns.contains)
  else if c == '\u05f3' || c == '\u05f4' then some (before.head?.any hebrewRuns.contains)
  else if c == '\u30fb' then
    some ((before ++ after).any fun other => other != c && japaneseRuns.contains other)
  else if isArabicDigit c then some (!(before ++ after).any isExtendedArabicDigit)
  else if isExtendedArabicDigit c then some (!(before ++ after).any isArabicDigit)
  else none

def shownCode (c : Char) : String :=
  let code := c.toNat
  let width := if code < 0x10000 then 4 else if code < 0x100000 then 5 else 6
  "U+" ++ String.ofList ((Text.hexDigits width code).map Char.toUpper)

def checkChar (label c : String) (position : Nat) (char : Char) (before after : List Char) :
    Except Fault Unit :=
  if isLetter char then .ok ()
  else if isJoiner char then
    if isJoinerSound char before after then .ok ()
    else refuse s!"Unknown codepoint adjacent to joiner {c} at position {position} in {label}"
  else
    match soundInContext? char before after with
    | some true => .ok ()
    | some false =>
      .error ⟨.badDomainContext, s!"Codepoint {c} not allowed at position {position} in {label}"⟩
    | none =>
      .error ⟨.badDomainLetter, s!"Codepoint {c} at position {position} of {label} not allowed"⟩

def checkChars (shown : String) (before : List Char) : List Char -> Except Fault Unit
  | [] => .ok ()
  | c :: after => do
    checkChar shown (shownCode c) (before.length + 1) c before after
    checkChars shown (c :: before) after

/-! ## Whole labels -/

def checkHyphens (label : List Char) : Except Fault Unit := do
  if (label.drop 2).take 2 == ['-', '-'] then
    refuse "Label has disallowed hyphens in 3rd and 4th position"
  if label.head? == some '-' || label.getLast? == some '-' then
    refuse "Label must not start or end with a hyphen"

def directionMessage (shown : String) : Direction.Flaw -> String
  | .unknown position => s!"Unknown directionality in label {shown} at position {position}"
  | .beginning => s!"First codepoint in label {shown} must be directionality L, R or AL"
  | .misplaced position fromRight =>
    let kind := if fromRight then "right-to-left" else "left-to-right"
    s!"Invalid direction for codepoint at position {position} in a {kind} label"
  | .mixedNumerals => "Can not mix numeral types in a right-to-left label"
  | .ending => "Label ends with illegal codepoint directionality"

/-- The longest name, with the dot that may end it. -/
def mostNameChars : Nat := 254

def mostLabelChars : Nat := 63

/-- The rules for labels in their own script. -/
def checkLabel (label : List Char) : Except Fault Unit := do
  if mostNameChars < label.length then refuse "Label too long"
  if label.isEmpty then refuse "Empty Label"
  if !Text.isComposed label then refuse "Label must be in Normalization Form C"
  checkHyphens label
  if label.head?.any Text.isCombining then
    refuse "Label begins with an illegal combining character"
  let shown := Text.quoted (String.ofList label)
  checkChars shown [] label
  (Direction.check (label.map Direction.ofChar)).mapError fun flaw =>
    { kind := .badDomainDirection, message := directionMessage shown flaw }

/-- Begins labels that stand for labels in other scripts. -/
def punycodeMark : List Char := "xn--".toList

/-- A label in its own script. -/
def decodeLabel (label : List Char) : Except Fault (List Char) := do
  if !label.all Text.Punycode.isPlain then
    checkLabel label
    return label
  let label := label.map Char.toLower
  if punycodeMark.isPrefixOf label then
    let numbers := label.drop punycodeMark.length
    if numbers.isEmpty then refuse "Malformed A-label, no Punycode eligible content found"
    if numbers.getLast? == some '-' then refuse "A-label must not end with a hyphen"
    match Text.Punycode.decode? numbers with
    | none => refuse "Invalid A-label"
    | some decoded =>
      checkLabel decoded
      return decoded
  else
    checkLabel label
    return label

/-- A label in plain letters; one that is plain already has to stand for a label. -/
def encodeLabel (label : List Char) : Except Fault (List Char) := do
  let encoded ←
    if label.all Text.Punycode.isPlain then do
      discard (decodeLabel label)
      pure label
    else do
      checkLabel label
      pure (punycodeMark ++ Text.Punycode.encode label)
  if mostLabelChars < encoded.length then refuse "Label too long" else return encoded

/-! ## Names -/

def isDot (c : Char) : Bool := c == '.' || c == '\u3002' || c == '\uff0e' || c == '\uff61'

/-- The labels of a name, and whether a dot ends it. -/
def labelsOf (name : List Char) : Except Fault (List (List Char) × Bool) :=
  if mostNameChars < name.length then refuse "Domain too long"
  else if name.isEmpty then refuse "Empty domain"
  else
    let labels := name.splitOnP isDot
    if labels.getLast? == some [] then .ok (labels.dropLast, true) else .ok (labels, false)

def joinLabels (labels : List (List Char)) (dotAtEnd : Bool) : List Char :=
  List.intercalate ['.'] (if dotAtEnd then labels ++ [[]] else labels)

/-- A name as it is sent. -/
def encodeName (name : List Char) : Except Fault (List Char) := do
  let (labels, dotAtEnd) ← labelsOf name
  let encoded := joinLabels (← labels.mapM encodeLabel) dotAtEnd
  let most := if dotAtEnd then mostNameChars else mostNameChars - 1
  if most < encoded.length then refuse "Domain too long" else return encoded

/-- A name as it is shown. -/
def decodeName (name : List Char) : Except Fault (List Char) := do
  let (labels, dotAtEnd) ← labelsOf name
  return joinLabels (← labels.mapM decodeLabel) dotAtEnd

end Rehearsal.Domain
