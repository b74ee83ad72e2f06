import Rehearsal.Http.Content
import Rehearsal.Scene
import Rehearsal.Text.Base64

/-!
Requests to servers. Redirects are followed; only replies between 200 and 299 count as success.
-/

set_option autoImplicit false

namespace Rehearsal

namespace Http

def mostRedirects : Nat := 20

/-- A body without a stated type is a document in JSON. -/
def withContentType (headers : Headers) (body : Option String) : Headers :=
  if body.isSome && !headers.any fun header => Text.lowercase header.1 == "content-type" then
    headers ++ [("Content-Type", "application/json")]
  else headers

/-- What an address that names a user adds to a request. -/
def authorization (url : Url) : Headers :=
  let (name, word) := url.login
  if name.isEmpty && word.isEmpty then []
  else
    let login := (name ++ ":" ++ word).toUTF8.toList
    [("Authorization", "Basic " ++ String.ofList (Text.base64 login))]

/-- The name and the word of an address take the place of other credentials. -/
def withCredentials (url : Url) (headers : Headers) : Headers :=
  match authorization url with
  | [] => headers
  | own => dropHeader headers "Authorization" ++ own

/-- Cookies are sent along unless the request has some of its own. Once there are any, requests
have to belong to a site. -/
def withCookies (jar : CookieJar) (today : Int) (url : Url) (headers : Headers) :
    Except Fault Headers := do
  if jar.cookies.isEmpty then return headers
  match jar.header? today (← Cookie.Site.ofUrl? url), header? headers "Cookie" with
  | some cookies, none => return headers ++ [("Cookie", cookies)]
  | _, _ => return headers

/-- Requests name the server that they are for, unless they do so by themselves. -/
def checkServer (url : Url) (headers : Headers) : Except Fault Unit :=
  if (header? headers "Host").isSome then .ok () else checkAscii url.location

/-- A request as it is first sent. Addresses without a server are paths from the root. -/
def prepare (jar : CookieJar) (today : Int) (method url : String) (body : Option String)
    (headers : Headers) : Except Fault Request := do
  let url ← Url.read url
  let url ← if url.isAbsolute then pure url else url.rooted
  checkHeaders headers
  let headers ← withCookies jar today url headers
  checkServer url headers
  return { method, url, headers, body }

/-- After some redirects a request becomes a GET. -/
def redirectMethod (status : Nat) (method : String) : String :=
  let isHead := method == "HEAD"
  if (status == 303 || status == 302) && !isHead then "GET"
  else if status == 301 && method == "POST" then "GET"
  else method

/-- Credentials stay with the server that they were meant for. -/
def redirectHeaders (request : Request) (url : Url) (method : String) : Except Fault Headers := do
  let headers ←
    if ← Url.sameOrigin url request.url then pure request.headers
    else do
      let trusted ← Url.isUpgrade request.url url
      checkAscii url.location
      pure (if trusted then request.headers else dropHeader request.headers "Authorization")
  let headers :=
    if method != request.method && method == "GET" then
      dropHeader (dropHeader headers "Content-Length") "Transfer-Encoding"
    else headers
  return dropHeader headers "Cookie"

/-- The address that a reply sends on to. The server and the fragment are kept where the reply
leaves them out. -/
def redirectUrl (request : Request) (location : String) : Except Fault Url := do
  let url ← (Url.read location).mapError fun fault =>
    { kind := .protocol, message := s!"Invalid URL in location header: {fault.message}." : Fault }
  let withoutHost ← if url.scheme.isEmpty then pure false else (·.isEmpty) <$> url.shownHost
  let url ← if withoutHost then url.withHost (← request.url.shownHost) else pure url
  let url ← if url.isAbsolute then pure url else request.url.join url
  let fragment := request.url.shownFragment
  if !fragment.isEmpty && url.shownFragment.isEmpty then url.withFragment fragment else return url

def redirected (jar : CookieJar) (today : Int) (request : Request) (status : Nat)
    (location : String) : Except Fault Request := do
  let method := redirectMethod status request.method
  let url ← redirectUrl request location
  let headers ← redirectHeaders request url method
  let body := if method != request.method && method == "GET" then none else request.body
  return { method, url, headers := ← withCookies jar today url headers, body }

end Http

namespace Scenario

variable {W T : Type}

def liftFault {A : Type} (result : Except Fault A) : Activity (Scene W) A :=
  Activity.ofExcept (Failure.lift result)

/-- Keeps the cookies of a reply; only requests to sites have replies that can be used. -/
def keepCookies (scenario : Scenario W T) (request : Http.Request) (reply : Http.Reply) :
    Activity (Scene W) Unit := do
  let site ← liftFault (Http.Cookie.Site.ofUrl? request.url)
  let headers := Http.headersNamed reply.headers "Set-Cookie"
  Activity.change fun scene =>
    { scene with cookieJar := scene.cookieJar.keep scenario.world.today site headers }

/-- Sends a request and follows redirects until a reply asks for none. -/
def exchange (scenario : Scenario W T) : (redirects : Nat) -> Http.Request ->
    Activity (Scene W) Http.Reply
  | 0, _ => throw (.fault ⟨.tooManyRedirects, "Exceeded maximum allowed redirects."⟩)
  | redirects + 1, request => do
    let reply ← scenario.call (.exchange request)
    scenario.keepCookies request reply
    match reply.location? with
    | none => return reply
    | some location =>
      let jar ← Activity.look Scene.cookieJar
      let next := Http.redirected jar scenario.world.today request reply.status location
      exchange scenario redirects (← liftFault next)

def sendRequest (scenario : Scenario W T) (method url : String) (body : Option String)
    (headers : Http.Headers) : Activity (Scene W) Http.Reply := do
  let jar ← Activity.look Scene.cookieJar
  let request ← liftFault
    (Http.prepare jar scenario.world.today method url body (Http.withContentType headers body))
  if ← Activity.look fun scene => scene.requestsClosed then
    throw (.fault ⟨.runtime, "Cannot send a request, as the client has been closed."⟩)
  let headers := Http.withCredentials request.url request.headers
  scenario.exchange (Http.mostRedirects + 1) { request with headers }

/-- One request; faults of the network and replies other than success are its failures. -/
def request (scenario : Scenario W T) (method url : String) (body : Option String)
    (headers : Http.Headers) : Activity (Scene W) Http.Reply := do
  let method := Text.uppercase method
  match ← (scenario.sendRequest method url body headers).attempt with
  | .error (.fault fault) =>
    if fault.kind.isNetwork then throw (.requestFailed method url fault) else throw (.fault fault)
  | .error failure => throw failure
  | .ok reply =>
    if reply.isSuccess then return reply
    else
      let text ← liftFault reply.text
      let shown := String.ofList (text.toList.take 500)
      throw (.requestRefused method url reply.status shown)

end Scenario

end Rehearsal
