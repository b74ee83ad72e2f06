import Rehearsal.Http.Url

/-!
Sites: what a request says about the server and the place that it goes to, as far as cookies are
kept and sent by it.
-/

set_option autoImplicit false

namespace Rehearsal.Http.Cookie

structure Site where
  scheme : String
  /-- The server as the address names it, with its user and without its port. -/
  host : String
  path : String
  /-- Left out if it cannot be read. -/
  port : Option String
  deriving DecidableEq

/-- Characters that are escaped in paths of cookies. -/
def pathExcluded : List Char :=
  [' ', '"', '#', '<', '>', '?', '[', '\\', ']', '^', '\x60', '\x7b', '|', '\x7d']

/-- Writes the digits of escapes in upper case. -/
def raiseEscapes : List Char -> List Char
  | '%' :: high :: low :: rest =>
    if Text.isHexDigit high && Text.isHexDigit low then
      '%' :: high.toUpper :: low.toUpper :: raiseEscapes rest
    else '%' :: raiseEscapes (high :: low :: rest)
  | c :: rest => c :: raiseEscapes rest
  | [] => []

def escapePath (path : String) : String :=
  String.ofList (raiseEscapes (Text.escape pathExcluded path.toList))

def endsInDigits (mark : Char) (text : List Char) : Bool :=
  let reversed := text.reverse
  reversed.head?.any Char.isDigit && (reversed.dropWhile Char.isDigit).head? == some mark

/-- Drops a port from the end of an authority. -/
def dropPort (authority : List Char) : List Char :=
  if endsInDigits ':' authority then
    ((authority.reverse.dropWhile Char.isDigit).drop 1).reverse
  else authority

/-- The first colon of an authority ends the server's name. -/
def readPort (authority : String) : Option String :=
  let shown := (Text.unescape authority.toList).toList
  if shown.contains ':' then
    let port := String.ofList (Http.Reference.cut ':' shown).2
    if (Number.readInt port).toOption.isSome then some port else none
  else some "80"

def beginsWithSlash (path : String) : Bool := path.toList.head? == some '/'

/-- Drops the mark of a fragment that is empty. -/
def dropEmptyFragment (text : List Char) : List Char :=
  if text.getLast? == some '#' then text.dropLast else text

/-- Only addresses that begin with a word and a colon belong to a site. -/
def Site.ofUrl? (url : Url) : Except Fault Site :=
  let text := dropEmptyFragment url.text.toList
  let scheme := text.takeWhile fun c => c != '/' && c != ':'
  if scheme.isEmpty || (text.drop scheme.length).head? != some ':' then
    .error ⟨.badValue, s!"unknown url type: {Text.quoted (String.ofList text)}"⟩
  else
    let path := escapePath url.path
    .ok {
      scheme := String.ofList (scheme.map Char.toLower)
      host := Text.lowercase (String.ofList (dropPort url.authority.toList))
      path := if beginsWithSlash path then path else "/" ++ path
      port := readPort url.authority }

/-- A server without a domain counts as a local one. -/
def Site.fullHost (site : Site) : String :=
  if site.host.toList.contains '.' then site.host else site.host ++ ".local"

end Rehearsal.Http.Cookie
