import Rehearsal.Http.Cookie.Header
import Rehearsal.Http.Cookie.Site
import Rehearsal.Table

/-!
Jars of cookies. A reply puts cookies into the jar, each under its domain, its path and its name;
a request takes those along that were set for its site, those of longer paths first.
-/

set_option autoImplicit false

namespace Rehearsal.Http

structure Cookie where
  name : String
  value : Option String
  version : Int
  domain : String
  domainGiven : Bool
  path : String
  ports : Option String
  portsGiven : Bool
  secure : Bool
  expires : Option Int

namespace Cookie

/-! ## Cookies of a reply -/

/-- Without a path of its own a cookie is for the folder that the request asked for. -/
def defaultPath (site : Site) (version : Int) : String :=
  let folder := (site.path.toList.reverse.dropWhile (· != '/')).reverse
  let path := if version == 0 then folder.dropLast else folder
  if path.isEmpty then "/" else String.ofList path

def withDot (domain : String) : String :=
  if domain.toList.head? == some '.' then domain else "." ++ domain

/-- Unknown versions set no cookie. -/
def Setting.version? (setting : Setting) : Option Int :=
  match setting.version with
  | some version => (Number.readInt version).toOption
  | none => some 0

/-- A cookie of the first version is kept as one without a version. -/
def ofSetting (site : Site) (setting : Setting) (version : Int) : Cookie :=
  { name := setting.name, value := setting.value
    version := if version == 1 then 0 else version
    domain := match setting.domain with
      | some domain => withDot domain
      | none => site.fullHost
    domainGiven := setting.domain.isSome
    path := match setting.path with
      | some path => if path.isEmpty then defaultPath site version else escapePath path
      | none => defaultPath site version
    ports := match setting.port with
      | some (some ports) => some (String.ofList (ports.toList.filter fun c => !Text.isBlank c))
      | some none => site.port
      | none => none
    portsGiven := (setting.port.bind id).isSome
    secure := setting.secure.any fun value => !value.isEmpty
    expires := setting.expires }

/-! ## Rules -/

def endsWith (text ending : String) : Bool := ending.toList.isSuffixOf text.toList

def beginsWithDot (text : String) : Bool := text.toList.head? == some '.'

/-- A domain that a reply names has a dot inside and is one that the server belongs to. -/
def acceptsDomain (site : Site) (cookie : Cookie) : Bool :=
  let host := site.fullHost
  let bare := String.ofList (cookie.domain.toList.drop 1)
  !cookie.domainGiven
    || ((bare.toList.contains '.' || endsWith host ".local")
      && (cookie.version != 0 || endsWith host cookie.domain || endsWith host (bare ++ ".local")
        || beginsWithDot host || endsWith ("." ++ host) cookie.domain))

/-- Looks for a port in a list; before it, there may only be numbers. -/
def listsPort (port : String) : List (List Char) -> Bool
  | [] => false
  | entry :: rest =>
    let text := String.ofList entry
    (Number.readInt text).toOption.isSome && (text == port || listsPort port rest)

def acceptsPort (site : Site) (cookie : Cookie) : Bool :=
  !cookie.portsGiven
    || listsPort (site.port.getD "80") ((cookie.ports.getD "").toList.splitOn ',')

def accepts (site : Site) (cookie : Cookie) : Bool :=
  cookie.version <= 0 && acceptsDomain site cookie && acceptsPort site cookie

def matchesDomain (site : Site) (domain : String) : Bool :=
  let dotted := if domain.isEmpty then domain else withDot domain
  endsWith (withDot site.host) dotted || endsWith (withDot site.fullHost) dotted

/-- A path stands for itself and for all that lies below it. -/
def matchesPath (site : Site) (path : String) : Bool :=
  let whole := site.path.toList
  let start := path.toList
  site.path == path
    || (start.isPrefixOf whole
      && (start.getLast? == some '/' || (whole.drop start.length).head? == some '/'))

def isExpired (today : Int) (cookie : Cookie) : Bool := cookie.expires.any (· <= today)

def sendsToPort (site : Site) (cookie : Cookie) : Bool :=
  match cookie.ports with
  | none => true
  | some ports =>
    ports.isEmpty || (ports.toList.splitOn ',').contains (site.port.getD "80").toList

/-- Whether a cookie whose path fits is sent to a site. -/
def sendsTo (today : Int) (site : Site) (cookie : Cookie) : Bool :=
  (!cookie.secure || ["https", "wss"].contains site.scheme)
    && !isExpired today cookie && sendsToPort site cookie
    && (cookie.version != 0
      || endsWith ("." ++ site.fullHost)
        (if cookie.domain.isEmpty then "" else withDot cookie.domain))

/-- A cookie without a value is sent by its name alone. -/
def text (cookie : Cookie) : String :=
  match cookie.value with
  | some value => cookie.name ++ "=" ++ value
  | none => cookie.name

end Cookie

/-! ## Jars -/

/-- Cookies by their domain, their path and their name. -/
abbrev CookieJar := Table (Table (Table Cookie))

namespace CookieJar

def cookies (jar : CookieJar) : List Cookie :=
  jar.flatMap fun domain => domain.2.flatMap fun path => path.2.map (·.2)

def put (jar : CookieJar) (cookie : Cookie) : CookieJar :=
  let paths := (Table.get? jar cookie.domain).getD []
  let names := (Table.get? paths cookie.path).getD []
  Table.put jar cookie.domain (Table.put paths cookie.path (Table.put names cookie.name cookie))

/-- Takes one cookie out; its domain and its path keep their places. -/
def remove (jar : CookieJar) (domain path name : String) : CookieJar :=
  match Table.get? jar domain with
  | none => jar
  | some paths =>
    match Table.get? paths path with
    | none => jar
    | some names => Table.put jar domain (Table.put paths path (Table.remove names name))

/-- The least number of seconds that is too large for a double. -/
def tooLate : Int := Nat.pow 2 1024 - Nat.pow 2 970

/-- Takes out the cookies that are set to expire, and gives back the others. Nothing is given back
if one of them expires too late to be counted. -/
def sift (today : Int) (site : Cookie.Site) : List Cookie.Setting -> CookieJar ->
    Option (List Cookie) × CookieJar
  | [], jar => (some [], jar)
  | setting :: rest, jar =>
    match setting.version? with
    | none => sift today site rest jar
    | some version =>
      let cookie := Cookie.ofSetting site setting version
      if cookie.isExpired today then
        sift today site rest (jar.remove cookie.domain cookie.path cookie.name)
      else if cookie.expires.any (tooLate <= ·) then (none, jar)
      else
        let (others, jar) := sift today site rest jar
        (others.map (cookie :: ·), jar)

/-- Keeps the cookies that a reply sets, as far as its site may set them. -/
def keep (jar : CookieJar) (today : Int) (site : Cookie.Site) (headers : List String) :
    CookieJar :=
  match Cookie.readSettings today headers with
  | .error _ => jar
  | .ok settings =>
    let (kept, jar) := sift today site settings jar
    ((kept.getD []).filter (Cookie.accepts site)).foldl put jar

/-- The cookies for a site, those of longer paths first. -/
def forSite (jar : CookieJar) (today : Int) (site : Cookie.Site) : List Cookie :=
  let domains := jar.filter fun domain => Cookie.matchesDomain site domain.1
  let paths := domains.flatMap fun domain =>
    domain.2.filter fun path => Cookie.matchesPath site path.1
  let found := (paths.flatMap fun path => path.2.map (·.2)).filter (Cookie.sendsTo today site)
  found.mergeSort fun left right => right.path.length <= left.path.length

/-- What a request to a site says of the cookies in a jar. -/
def header? (jar : CookieJar) (today : Int) (site : Cookie.Site) : Option String :=
  match jar.forSite today site with
  | [] => none
  | found => some ("; ".intercalate (found.map Cookie.text))

end CookieJar

end Rehearsal.Http
