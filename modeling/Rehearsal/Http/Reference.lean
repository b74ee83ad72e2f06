/-!
References: texts that lead to a resource, cut at the marks that such texts have in common and
put together again. A reference that leaves out its first parts is completed by another one.
-/

set_option autoImplicit false

namespace Rehearsal.Http

structure Reference where
  scheme : List Char
  authority : List Char
  path : List Char
  /-- What follows a semicolon in the last part of the path. -/
  params : List Char
  query : List Char
  fragment : List Char

namespace Reference

/-! ## Schemes -/

/-- Schemes whose references can be completed. -/
def relativeSchemes : List String :=
  ["", "ftp", "http", "gopher", "nntp", "imap", "wais", "file", "https", "shttp", "mms",
   "prospero", "rtsp", "rtsps", "rtspu", "sftp", "svn", "svn+ssh", "ws", "wss"]

/-- Schemes whose references name an authority. -/
def authoritySchemes : List String :=
  ["", "ftp", "http", "gopher", "nntp", "telnet", "imap", "wais", "file", "mms", "https", "shttp",
   "snews", "prospero", "rtsp", "rtsps", "rtspu", "rsync", "svn", "svn+ssh", "sftp", "nfs", "git",
   "git+ssh", "ws", "wss"]

/-- Schemes whose paths have parameters. -/
def paramSchemes : List String :=
  ["", "ftp", "hdl", "prospero", "http", "imap", "https", "shttp", "rtsp", "rtsps", "rtspu", "sip",
   "sips", "mms", "sftp", "tel"]

def listed (schemes : List String) (scheme : List Char) : Bool :=
  schemes.contains (String.ofList scheme)

def isSchemeChar (c : Char) : Bool := c.isAlphanum || c == '+' || c == '-' || c == '.'

/-! ## Cutting -/

/-- What stands before a mark and what behind it; all of it before if the mark is missing. -/
def cut (mark : Char) (text : List Char) : List Char × List Char :=
  (text.takeWhile (· != mark), (text.dropWhile (· != mark)).drop 1)

/-- A scheme begins with a letter; without one, the inherited scheme holds. -/
def takeScheme (inherited text : List Char) : List Char × List Char :=
  let (scheme, rest) := cut ':' text
  if text.contains ':' && scheme.head?.any Char.isAlpha && scheme.all isSchemeChar then
    (scheme.map Char.toLower, rest)
  else (inherited, text)

def endsAuthority (c : Char) : Bool := c == '/' || c == '?' || c == '#'

def takeAuthority : List Char -> List Char × List Char
  | '/' :: '/' :: rest =>
    (rest.takeWhile fun c => !endsAuthority c, rest.dropWhile fun c => !endsAuthority c)
  | text => ([], text)

/-- Only the last part of a path has parameters. -/
def takeParams (path : List Char) : List Char × List Char :=
  let last := (path.reverse.takeWhile (· != '/')).reverse
  let (name, params) := cut ';' last
  (path.take (path.length - last.length) ++ name, params)

def ofText (inherited text : List Char) : Reference :=
  let (scheme, rest) := takeScheme inherited text
  let (authority, rest) := takeAuthority rest
  let (rest, fragment) := cut '#' rest
  let (path, query) := cut '?' rest
  let (path, params) := if listed paramSchemes scheme then takeParams path else (path, [])
  { scheme, authority, path, params, query, fragment }

/-! ## Putting together -/

/-- A part behind its mark; an empty part has none. -/
def marked (mark : Char) (part : List Char) : List Char :=
  if part.isEmpty then [] else mark :: part

def hasAuthority (reference : Reference) (path : List Char) : Bool :=
  !reference.authority.isEmpty
    || (!reference.scheme.isEmpty && listed authoritySchemes reference.scheme)
    || ['/', '/'].isPrefixOf path

def text (reference : Reference) : List Char :=
  let path := reference.path ++ marked ';' reference.params
  let path :=
    if reference.hasAuthority path then
      let rooted := if path.isEmpty || path.head? == some '/' then path else '/' :: path
      '/' :: '/' :: reference.authority ++ rooted
    else path
  let scheme := if reference.scheme.isEmpty then [] else reference.scheme ++ [':']
  scheme ++ path ++ marked '?' reference.query ++ marked '#' reference.fragment

/-! ## Completing -/

/-- Drops empty parts other than the first and the last. -/
def dropEmptyInner (parts : List (List Char)) : List (List Char) :=
  match parts with
  | [] => []
  | first :: rest =>
    first :: rest.dropLast.filter (fun part => !part.isEmpty) ++ rest.getLast?.toList

def isDots (part : List Char) : Bool := part == ['.'] || part == ['.', '.']

/-- A single dot stays where it is, and two dots go back by one part. -/
def resolveDots (parts : List (List Char)) : List (List Char) :=
  parts.foldl (fun kept part =>
    if part == ['.', '.'] then kept.dropLast else if part == ['.'] then kept else kept ++ [part]) []

/-- The path that a path leads to from another one. -/
def completePath (base path : List Char) : List Char :=
  let parts :=
    if path.head? == some '/' then path.splitOn '/'
    else
      let before := base.splitOn '/'
      let folder := if before.getLast? == some [] then before else before.dropLast
      dropEmptyInner (folder ++ path.splitOn '/')
  let resolved := resolveDots parts
  let joined :=
    List.intercalate ['/'] (if parts.getLast?.any isDots then resolved ++ [[]] else resolved)
  if joined.isEmpty then ['/'] else joined

/-- Takes from `base` what `reference` leaves out. -/
def complete (base reference : Reference) : Reference :=
  if listed authoritySchemes reference.scheme && !reference.authority.isEmpty then reference
  else
    let hosted :=
      if listed authoritySchemes reference.scheme then
        { reference with authority := base.authority }
      else reference
    if reference.path.isEmpty && reference.params.isEmpty then
      { hosted with
        path := base.path, params := base.params
        query := if reference.query.isEmpty then base.query else reference.query }
    else { hosted with path := completePath base.path reference.path }

/-- The text of a reference that is seen from another one. -/
def join (base reference : List Char) : List Char :=
  if base.isEmpty then reference
  else if reference.isEmpty then base
  else
    let start := ofText [] base
    let goal := ofText start.scheme reference
    if goal.scheme != start.scheme || !listed relativeSchemes goal.scheme then reference
    else (complete start goal).text

end Reference

end Rehearsal.Http
