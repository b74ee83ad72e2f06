import Rehearsal.Table
import Rehearsal.Text.Digit
import Rehearsal.Text.Quoted

/-!
Options of a command line. An option is known by its name, by a beginning of a long name that no
other option shares, and its value follows it or stands behind an equals sign. All words are
sorted into options and others before the first option is taken.
-/

set_option autoImplicit false

namespace Rehearsal.CommandLine

inductive OptionKind where
  | help
  | flag
  | value (choices : List String)
  deriving DecidableEq

structure OptionSpec where
  /-- All names, with their dashes. -/
  names : List String
  kind : OptionKind
  required : Bool

namespace OptionSpec

def takesValue (spec : OptionSpec) : Bool :=
  match spec.kind with
  | .value _ => true
  | _ => false

/-- The name that messages use. -/
def shown (spec : OptionSpec) : String := "/".intercalate spec.names

/-- The name that results use. -/
def key (spec : OptionSpec) : String := spec.names.getLastD ""

end OptionSpec

/-- How a command line ends before there is anything to run. -/
inductive Usage where
  | help
  | wrong (message : String)
  deriving DecidableEq

inductive Word where
  | other (text : String)
  /-- Two dashes, after which there are no options. -/
  | dashes
  | unknown (text : String)
  | option (spec : OptionSpec) (value : Option String)
  /-- A short option with letters attached to it, at least one. -/
  | cluster (spec : OptionSpec) (letters : List Char)

def Word.ofOther : String -> Word := .other

def commas (texts : List String) : String := ", ".intercalate texts

/-! ## Sorting -/

def namesOf (specs : List OptionSpec) : List (String × OptionSpec) :=
  specs.flatMap fun spec => spec.names.map fun name => (name, spec)

/-- Splits at the first equals sign. -/
def splitEquals? (text : String) : Option (String × String) :=
  let chars := text.toList
  match chars.dropWhile (· != '=') with
  | _ :: value => some (String.ofList (chars.takeWhile (· != '=')), String.ofList value)
  | [] => none

def startsWith (text start : String) : Bool := start.toList.isPrefixOf text.toList

/-- The options whose long names begin as the text does. -/
def abbreviated (specs : List OptionSpec) (text : String) : List Word × List String :=
  let (start, value) := match splitEquals? text with
    | some (start, value) => (start, some value)
    | none => (text, none)
  let found := (namesOf specs).filter fun entry => startsWith entry.1 start
  (found.map fun entry => .option entry.2 value, found.map (·.1))

/-- A short name may have more short names attached to it. -/
def attached (specs : List OptionSpec) (text : String) : List Word × List String :=
  let short := String.ofList (text.toList.take 2)
  let found := (namesOf specs).filter fun entry => entry.1 == short
  (found.map fun entry => .cluster entry.2 (text.toList.drop 2), found.map (·.1))

def isDigit (c : Char) : Bool := (Text.digitValue? c).isSome

/-- Digits after a dash, with at most one point that digits follow. -/
def isNegativeNumber (text : String) : Bool :=
  let body := text.toList.drop 1
  let body := if body.getLast? == some '\n' then body.dropLast else body
  let part := body.dropWhile isDigit
  match part with
  | [] => !body.isEmpty
  | '.' :: digits => !digits.isEmpty && digits.all isDigit
  | _ => false

/-- An option with what stands behind its equals sign; behind a short one these are letters. -/
def Word.equated (name : String) (spec : OptionSpec) (value : String) : Word :=
  if startsWith name "--" || value.isEmpty then .option spec (some value)
  else .cluster spec value.toList

def sortWord (specs : List OptionSpec) (text : String) : Except Usage Word :=
  if text.toList.head? != some '-' || text.length == 1 then .ok (.other text)
  else
    let exact := fun (name : String) => (namesOf specs).find? fun entry => entry.1 == name
    match exact text, (splitEquals? text).bind fun parts => (exact parts.1).map (·, parts.2) with
    | some (_, spec), _ => .ok (.option spec none)
    | none, some ((name, spec), value) => .ok (.equated name spec value)
    | none, none =>
      let found := if startsWith text "--" then abbreviated specs text else attached specs text
      match found with
      | ([word], _) => .ok word
      | ([], _) =>
        if isNegativeNumber text || text.toList.contains ' ' then .ok (.other text)
        else .ok (.unknown text)
      | (_, names) =>
        .error (.wrong s!"ambiguous option: {text} could match {commas names}")

def sortWords (specs : List OptionSpec) : List String -> Except Usage (List Word)
  | [] => .ok []
  | "--" :: rest => .ok (.dashes :: rest.map Word.ofOther)
  | text :: rest => do
    let word ← sortWord specs text
    return word :: (← sortWords specs rest)

/-! ## Taking -/

/-- What was given for an option. Two dashes behind an equals sign are as good as no word. -/
inductive Given where
  | word (text : String)
  | dashes
  deriving DecidableEq

def Given.word? : Given -> Option String
  | .word text => some text
  | .dashes => none

structure Taken where
  values : Table Given
  flags : List String
  /-- Words that no option took. -/
  strays : List String

def Taken.none : Taken := { values := [], flags := [], strays := [] }

def complain {A : Type} (spec : OptionSpec) (message : String) : Except Usage A :=
  .error (.wrong s!"argument {spec.shown}: {message}")

def takeValue (spec : OptionSpec) (value : String) (taken : Taken) : Except Usage Taken :=
  match spec.kind with
  | .value choices =>
    if value == "--" then .ok { taken with values := taken.values.put spec.key .dashes }
    else if choices.isEmpty || choices.contains value then
      .ok { taken with values := taken.values.put spec.key (.word value) }
    else
      let shown := commas (choices.map Text.quoted)
      complain spec s!"invalid choice: {Text.quoted value} (choose from {shown})"
  | _ => .ok taken

def ignored {A : Type} (spec : OptionSpec) (value : List Char) : Except Usage A :=
  complain spec s!"ignored explicit argument {Text.quoted (String.ofList value)}"

/-- The options that letters stand for. Letters that stand for none would have to be the value of
the option before them, which takes none. -/
def readLetters (specs : List OptionSpec) (spec : OptionSpec) :
    List Char -> Except Usage (List OptionSpec)
  | [] => .ok [spec]
  | c :: rest =>
    match (namesOf specs).find? fun entry => entry.1 == String.ofList ['-', c] with
    | none => ignored spec (c :: rest)
    | some (_, next) => do return spec :: (← readLetters specs next rest)

def takeBare (taken : Taken) (spec : OptionSpec) : Except Usage Taken :=
  match spec.kind with
  | .help => .error .help
  | _ => .ok { taken with flags := taken.flags ++ [spec.key] }

def takeCluster (specs : List OptionSpec) (spec : OptionSpec) (letters : List Char)
    (taken : Taken) : Except Usage Taken := do
  (← readLetters specs spec letters).foldlM takeBare taken

def take (specs : List OptionSpec) : Taken -> List Word -> Except Usage Taken
  | taken, [] => .ok taken
  | taken, .option spec (some value) :: rest => do
    if spec.takesValue then take specs (← takeValue spec value taken) rest
    else ignored spec value.toList
  | taken, .option spec none :: rest => do
    if spec.takesValue then
      match rest with
      | .other value :: rest => take specs (← takeValue spec value taken) rest
      | _ => complain spec "expected one argument"
    else take specs (← takeBare taken spec) rest
  | taken, .cluster spec letters :: rest => do
    take specs (← takeCluster specs spec letters taken) rest
  | taken, .other text :: rest | taken, .unknown text :: rest =>
    take specs { taken with strays := taken.strays ++ [text] } rest
  | taken, .dashes :: rest => take specs { taken with strays := taken.strays ++ ["--"] } rest

def Taken.has (taken : Taken) (spec : OptionSpec) : Bool :=
  taken.values.has spec.key || taken.flags.contains spec.key

/-- Reads a command line: options that are missing are reported before words that are too many. -/
def readOptions (specs : List OptionSpec) (words : List String) : Except Usage Taken := do
  let taken ← take specs .none (← sortWords specs words)
  let missing := specs.filter fun spec => spec.required && !taken.has spec
  if !missing.isEmpty then
    let names := commas (missing.map OptionSpec.shown)
    throw (.wrong s!"the following arguments are required: {names}")
  if !taken.strays.isEmpty then
    let strays := " ".intercalate taken.strays
    throw (.wrong s!"unrecognized arguments: {strays}")
  return taken

end Rehearsal.CommandLine
