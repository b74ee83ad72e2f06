import Rehearsal.Domain.Label
import Rehearsal.Domain.Numeric
import Rehearsal.Http.Reference
import Rehearsal.Text.Casing
import Rehearsal.Text.Percent

/-!
Addresses of requests. An address is read into its parts, and each part is checked and brought
into a normal form. Characters that a part cannot hold are written as percent signs with the
hexadecimal digits of their bytes; the names of hosts are written as they are sent.
-/

set_option autoImplicit false

namespace Rehearsal

structure Url where
  /-- Lower case; empty if the address has none. -/
  scheme : String
  user : String
  /-- As it is sent; without the brackets that stand around colons. -/
  host : String
  /-- Left out where it is the one that the scheme stands for. -/
  port : Option Int
  path : String
  query : Option String
  fragment : Option String
  deriving DecidableEq

namespace Url

/-! ## Characters -/

def fragmentExcluded : List Char := [' ', '"', '<', '>', '\x60']

def queryExcluded : List Char := [' ', '"', '#', '<', '>']

def pathExcluded : List Char := queryExcluded ++ ['?', '\x60', '\x7b', '\x7d']

def userExcluded : List Char :=
  pathExcluded ++ ['/', ';', '=', '@', '[', '\\', ']', '^', '|']

def hostExcluded : List Char := [' ', '#', '/', ':', '<', '>', '?', '@', '[', ']', '^']

def escaped (excluded text : List Char) : String := String.ofList (Text.escape excluded text)

def invalid {A : Type} (message : String) : Except Fault A := .error ⟨.invalidUrl, message⟩

/-- The most characters of an address, and of each of its parts. -/
def mostChars : Nat := 65536

def isControl (c : Char) : Bool := c.toNat < 0x20 || c.toNat == 0x7f

def checkSeen (place : String) (text : List Char) : Except Fault Unit :=
  match text.find? isControl with
  | none => .ok ()
  | some c =>
    let shown := Text.quoted (String.singleton c)
    invalid s!"Invalid non-printable ASCII character in {place} {shown} at position {text.idxOf c}."

/-- The rules for a text that an address is read from. -/
def checkText (text : List Char) : Except Fault Unit := do
  if mostChars < text.length then invalid "URL too long"
  checkSeen "URL," text

/-- The rules for a part that an address is put together from. -/
def checkPart (name : String) (part : List Char) : Except Fault Unit := do
  if mostChars < part.length then invalid s!"URL component '{name}' too long"
  checkSeen s!"URL {name} component," part

/-! ## Parts as they are written -/

/-- An address that is cut into parts, none of which is looked into. -/
structure Draft where
  scheme : List Char
  user : List Char
  host : List Char
  port : List Char
  path : List Char
  query : Option (List Char)
  fragment : Option (List Char)

/-- Splits at the first character that `stops`; the rest begins with it. -/
def upTo (stops : Char -> Bool) (text : List Char) : List Char × List Char :=
  (text.takeWhile fun c => !stops c, text.dropWhile fun c => !stops c)

def isSchemeChar (c : Char) : Bool := c.isAlphanum || c == '+' || c == '.' || c == '-'

/-- A scheme ends in a colon and begins with a letter. A colon may stand alone. -/
def takeScheme (text : List Char) : List Char × List Char :=
  match upTo (fun c => !isSchemeChar c) text with
  | ([], ':' :: rest) => ([], rest)
  | (c :: scheme, ':' :: rest) => if c.isAlpha then (c :: scheme, rest) else ([], text)
  | _ => ([], text)

def takeAuthority (text : List Char) : List Char × List Char :=
  match text with
  | '/' :: '/' :: rest => upTo (fun c => c == '/' || c == '?' || c == '#') rest
  | _ => ([], text)

/-- What stands behind a mark, if the text begins with it. -/
def takeMarked (mark : Char) (stops : Char -> Bool) (text : List Char) :
    Option (List Char) × List Char :=
  match text with
  | [] => (none, [])
  | c :: rest => if c == mark then ((upTo stops rest).map some id) else (none, text)

/-- The part before the last at sign names a user. -/
def takeUser (authority : List Char) : List Char × List Char :=
  let reversed := authority.reverse
  match reversed.dropWhile (· != '@') with
  | _ :: before => (before.reverse, (reversed.takeWhile (· != '@')).reverse)
  | [] => ([], authority)

/-- A host in brackets may hold colons. -/
def takeHost (text : List Char) : List Char × List Char :=
  match text with
  | '[' :: _ =>
    let tail := (text.reverse.takeWhile (· != ']')).reverse
    if text.contains ']' then (text.take (text.length - tail.length), tail)
    else upTo (· == ':') text
  | _ => upTo (· == ':') text

/-- The user, the host and the port; a port may lack its colon. -/
def splitAuthority (authority : List Char) : List Char × List Char × List Char :=
  let (user, authority) := takeUser authority
  let (host, port) := takeHost authority
  (user, host, if port.head? == some ':' then port.drop 1 else port)

def Draft.ofText (text : List Char) : Draft :=
  let (scheme, rest) := takeScheme text
  let (authority, rest) := takeAuthority rest
  let (path, rest) := upTo (fun c => c == '?' || c == '#') rest
  let (query, rest) := takeMarked '?' (· == '#') rest
  let (fragment, _) := takeMarked '#' (fun _ => false) rest
  let (user, host, port) := splitAuthority authority
  { scheme, user, host, port, path, query, fragment }

/-! ## Normal form -/

def defaultPorts : List (String × Int) :=
  [("ftp", 21), ("http", 80), ("https", 443), ("ws", 80), ("wss", 443)]

def readPort (scheme : String) (text : List Char) : Except Fault (Option Int) :=
  if text.isEmpty then .ok none
  else match Number.readInt (String.ofList text) with
    | .ok port => .ok (if defaultPorts.contains (scheme, port) then none else some port)
    | .error _ => invalid s!"Invalid port: {Text.quoted (String.ofList text)}"

/-- A host that is not plain is a domain name, in letters of any case. -/
def readDomain (text : List Char) : Except Fault String :=
  match Domain.encodeName (Text.lowercase (String.ofList text)).toList with
  | .ok name => .ok (String.ofList name)
  | .error _ => invalid s!"Invalid IDNA hostname: {Text.quoted (String.ofList text)}"

def isBracketed (text : List Char) : Bool :=
  text.head? == some '[' && text.getLast? == some ']' && 2 <= text.length

/-- A host is checked if it is a number or looks like one. -/
def readHost (text : List Char) : Except Fault String :=
  let shown := Text.quoted (String.ofList text)
  let inside := (text.drop 1).dropLast
  if Domain.looksNumeric text then
    if Domain.isFourGroups text then .ok (String.ofList text)
    else invalid s!"Invalid IPv4 address: {shown}"
  else if isBracketed text then
    if Domain.isScopedAddress inside then .ok (String.ofList inside)
    else invalid s!"Invalid IPv6 address: {shown}"
  else if text.all fun c => c.toNat < 0x80 then
    .ok (escaped hostExcluded (text.map Char.toLower))
  else readDomain text

def dropDots (parts : List (List Char)) : List (List Char) :=
  parts.foldl (fun kept part =>
    if part == ['.'] then kept
    else if part == ['.', '.'] then
      if kept.isEmpty || kept == [[]] then kept else kept.dropLast
    else kept ++ [part]) []

/-- Resolves single and double dots among the parts of a path. -/
def normalPath (path : List Char) : List Char :=
  let parts := path.splitOn '/'
  if parts.any Http.Reference.isDots then List.intercalate ['/'] (dropDots parts) else path

def checkPath (hasScheme hasAuthority : Bool) (path : List Char) : Except Fault Unit :=
  match path with
  | [] => .ok ()
  | c :: rest =>
    if hasAuthority && c != '/' then
      invalid "For absolute URLs, path must be empty or begin with '/'"
    else if hasScheme || hasAuthority then .ok ()
    else if c == '/' && rest.head? == some '/' then
      invalid "Relative URLs cannot have a path starting with '//'"
    else if c == ':' then invalid "Relative URLs cannot have a path starting with ':'"
    else .ok ()

/-- Which port a scheme stands for is asked of the scheme as it is written. -/
def ofDraft (draft : Draft) : Except Fault Url := do
  let scheme := String.ofList (draft.scheme.map Char.toLower)
  let user := escaped userExcluded draft.user
  let host ← readHost draft.host
  let port ← readPort (String.ofList draft.scheme) draft.port
  let hasScheme := !scheme.isEmpty
  let hasAuthority := !user.isEmpty || !host.isEmpty || port.isSome
  checkPath hasScheme hasAuthority draft.path
  let path := if hasScheme || hasAuthority then normalPath draft.path else draft.path
  return {
    scheme, user, host, port
    path := escaped pathExcluded path
    query := draft.query.map (escaped queryExcluded)
    fragment := draft.fragment.map (escaped fragmentExcluded) }

def read (text : String) : Except Fault Url := do
  checkText text.toList
  ofDraft (.ofText text.toList)

/-! ## Text -/

def bracketed (host : String) : String :=
  if host.toList.contains ':' then "[" ++ host ++ "]" else host

/-- The host and the port. -/
def location (url : Url) : String :=
  let port := match url.port with
    | some port => s!":{port}"
    | none => ""
  bracketed url.host ++ port

def authority (url : Url) : String :=
  let user := if url.user.isEmpty then "" else url.user ++ "@"
  user ++ url.location

def marked (mark : String) : Option String -> String
  | some text => mark ++ text
  | none => ""

def text (url : Url) : String :=
  let scheme := if url.scheme.isEmpty then "" else url.scheme ++ ":"
  let authority := if url.authority.isEmpty then "" else "//" ++ url.authority
  scheme ++ authority ++ url.path ++ marked "?" url.query ++ marked "#" url.fragment

def isAbsolute (url : Url) : Bool := !url.scheme.isEmpty && !url.host.isEmpty

/-! ## Views -/

def shownHost (url : Url) : Except Fault String :=
  if Domain.punycodeMark.isPrefixOf url.host.toList then
    (Domain.decodeName url.host.toList).map String.ofList
  else .ok url.host

def shownFragment (url : Url) : String := Text.unescape (url.fragment.getD "").toList

/-- The name and the word that an address gives of a user. -/
def login (url : Url) : String × String :=
  let (name, word) := Http.Reference.cut ':' url.user.toList
  (Text.unescape name, Text.unescape word)

/-- The port that is meant where none is given. -/
def effectivePort (url : Url) : Option Int :=
  match url.port with
  | some port => some port
  | none => ([("http", 80), ("https", 443)] : List (String × Int)).lookup url.scheme

/-! ## Changes -/

/-- The parts that another address is put together from. -/
def draft (url : Url) : Draft :=
  let (user, host, port) := splitAuthority url.authority.toList
  { scheme := url.scheme.toList, user, host, port
    path := url.path.toList
    query := url.query.map String.toList
    fragment := url.fragment.map String.toList }

def checkParts (url : Url) : Except Fault Unit := do
  checkPart "scheme" url.scheme.toList
  checkPart "authority" url.authority.toList
  checkPart "path" url.path.toList
  checkPart "query" (url.query.getD "").toList

def withHost (url : Url) (host : String) : Except Fault Url := do
  let host := (bracketed host).toList
  checkParts url
  checkPart "fragment" (url.fragment.getD "").toList
  checkPart "host" host
  ofDraft { url.draft with host }

def withFragment (url : Url) (fragment : String) : Except Fault Url := do
  checkParts url
  checkPart "fragment" fragment.toList
  ofDraft { url.draft with fragment := some fragment.toList }

/-- An address without scheme or host, as a path from the root. -/
def rooted (url : Url) : Except Fault Url := do
  let path := '/' :: url.path.toList.dropWhile (· == '/')
  checkPart "path" path
  checkPart "query" (url.query.getD "").toList
  ofDraft {
    scheme := [], user := [], host := [], port := [], path
    query := url.query.map String.toList, fragment := none }

def join (base relative : Url) : Except Fault Url :=
  read (String.ofList (Http.Reference.join base.text.toList relative.text.toList))

def sameOrigin (left right : Url) : Except Fault Bool := do
  if left.scheme != right.scheme then return false
  let sameHost := (← left.shownHost) == (← right.shownHost)
  return sameHost && left.effectivePort == right.effectivePort

/-- Whether `after` is a plain address asked for again over a secure connection. -/
def isUpgrade (before after : Url) : Except Fault Bool := do
  let sameHost := (← before.shownHost) == (← after.shownHost)
  return sameHost && before.scheme == "http" && before.effectivePort == some 80
    && after.scheme == "https" && after.effectivePort == some 443

end Url

end Rehearsal
