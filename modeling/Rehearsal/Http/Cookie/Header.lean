import Rehearsal.Http.Cookie.Date
import Rehearsal.Text.Casing

/-!
Cookies as replies set them: a name, perhaps with a value, and attributes behind semicolons. Of
an attribute that is given more than once the first one counts, and an age counts more than a
date.
-/

set_option autoImplicit false

namespace Rehearsal.Http.Cookie

/-- A cookie as it is set, before it is known who sets it. -/
structure Setting where
  name : String
  value : Option String
  version : Option String
  /-- The second at which it expires. -/
  expires : Option Int
  domain : Option String
  path : Option String
  /-- A port may be asked for without saying which. -/
  port : Option (Option String)
  secure : Option String

def trimmed (text : List Char) : List Char := Text.trimChars Text.isBlank text

/-- A key and what follows the equals sign, if there is one. -/
def splitPair (param : List Char) : List Char × Option (List Char) :=
  let key := trimmed (param.takeWhile (· != '='))
  match param.dropWhile (· != '=') with
  | _ :: value => (key, some (trimmed value))
  | [] => (key, none)

def dropQuotes (text : List Char) : List Char :=
  let text := if text.head? == some '"' then text.drop 1 else text
  if text.getLast? == some '"' then text.dropLast else text

inductive Attribute where
  | version (value : Option String)
  /-- The date may be missing, or stand for no second. -/
  | expires (second : Option Int)
  | maxAge (value : Option String)
  | domain (value : Option String)
  | path (value : Option String)
  | port (value : Option String)
  /-- An attribute without a value is set as well. -/
  | secure (value : Option String)
  | other

def Attribute.ofPair (today : Int) (key : List Char) (value : Option (List Char)) :
    Except Unreadable Attribute :=
  let text := value.map String.ofList
  match Text.lowercase (String.ofList key) with
  | "version" => .ok (.version (value.map fun value => String.ofList (dropQuotes value)))
  | "expires" =>
    match value with
    | some value => (readDate today (String.ofList (dropQuotes value))).map .expires
    | none => .ok (.expires none)
  | "max-age" => .ok (.maxAge text)
  | "domain" => .ok (.domain text)
  | "path" => .ok (.path text)
  | "port" => .ok (.port text)
  | "secure" => .ok (.secure text)
  | _ => .ok .other

structure Parts where
  name : String
  value : Option String
  attributes : List Attribute

/-- A header that does not begin with a name sets nothing. -/
def readParts (today : Int) (header : String) : Except Unreadable (Option Parts) := do
  let pairs := (header.toList.splitOn ';').map fun param => splitPair (trimmed param)
  match pairs with
  | ([], _) :: _ | [] => return none
  | (name, value) :: rest =>
    let named := rest.filter fun pair => !pair.1.isEmpty
    let attributes ← named.mapM fun pair => Attribute.ofPair today pair.1 pair.2
    return some { name := String.ofList name, value := value.map String.ofList, attributes }

structure Reading where
  setting : Setting
  hasAge : Bool

/-- Takes one attribute in; a cookie with an attribute that lacks its value is not set. -/
def Reading.take (today : Int) (reading : Reading) : Attribute ->
    Except Unreadable (Option Reading)
  | .version value =>
    if reading.setting.version.isSome then .ok (some reading)
    else .ok (value.map fun value =>
      { reading with setting := { reading.setting with version := some value } })
  | .expires second =>
    if reading.setting.expires.isSome || reading.hasAge then .ok (some reading)
    else .ok (some { reading with setting := { reading.setting with expires := second } })
  | .maxAge none => .error {}
  | .maxAge (some value) =>
    match Number.readInt value with
    | .error _ => .ok none
    | .ok age => .ok (some
      { hasAge := true, setting := { reading.setting with expires := some (today + age) } })
  | .domain value =>
    if reading.setting.domain.isSome then .ok (some reading)
    else .ok (value.map fun value =>
      { reading with setting := { reading.setting with domain := some (Text.lowercase value) } })
  | .path value =>
    if reading.setting.path.isSome then .ok (some reading)
    else .ok (value.map fun value =>
      { reading with setting := { reading.setting with path := some value } })
  | .port value =>
    if reading.setting.port.isSome then .ok (some reading)
    else .ok (some { reading with setting := { reading.setting with port := some value } })
  | .secure value =>
    if reading.setting.secure.isSome then .ok (some reading)
    else .ok (some
      { reading with setting := { reading.setting with secure := some (value.getD "secure") } })
  | .other => .ok (some reading)

def Reading.takeAll (today : Int) : Reading -> List Attribute ->
    Except Unreadable (Option Reading)
  | reading, [] => .ok (some reading)
  | reading, first :: rest => do
    match ← reading.take today first with
    | some reading => takeAll today reading rest
    | none => return none

def Parts.setting? (today : Int) (parts : Parts) : Except Unreadable (Option Setting) := do
  let bare : Setting :=
    { name := parts.name, value := parts.value, version := none, expires := none, domain := none
      path := none, port := none, secure := none }
  let reading ← Reading.takeAll today { setting := bare, hasAge := false } parts.attributes
  return reading.map Reading.setting

/-- The cookies that the headers of one reply set, in their order. -/
def readSettings (today : Int) (headers : List String) : Except Unreadable (List Setting) := do
  let parts ← headers.filterMapM (readParts today)
  parts.filterMapM (Parts.setting? today)

end Rehearsal.Http.Cookie
