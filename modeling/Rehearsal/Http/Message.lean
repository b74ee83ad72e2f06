import Rehearsal.Http.Url
import Rehearsal.Table

/-!
Requests and replies. The names of headers do not depend on the case of their letters; a header
that is given more than once has one value, its parts joined by commas.
-/

set_option autoImplicit false

namespace Rehearsal.Http

abbrev Headers := List (String × String)

/-- A name in lower case; only letters of ASCII can occur in it. -/
def lowered (name : String) : String := String.ofList (name.toList.map Char.toLower)

def joinValue (headers : Table String) (name value : String) : Table String :=
  match headers.get? name with
  | some before => headers.put name (before ++ ", " ++ value)
  | none => headers.put name value

/-- One entry for each name, in lower case. -/
def joined (headers : Headers) : Table String :=
  headers.foldl (fun table header => joinValue table (lowered header.1) header.2) []

def header? (headers : Headers) (name : String) : Option String :=
  (joined headers).get? (lowered name)

/-- The values of all headers of a name, one after the other. -/
def headersNamed (headers : Headers) (name : String) : List String :=
  (headers.filter fun header => lowered header.1 == lowered name).map (·.2)

def dropHeader (headers : Headers) (name : String) : Headers :=
  headers.filter fun header => lowered header.1 != lowered name

structure Request where
  method : String
  url : Url
  headers : Headers
  body : Option String

structure Reply where
  status : Nat
  headers : Headers
  body : List UInt8

def Reply.isSuccess (reply : Reply) : Bool := 200 <= reply.status && reply.status <= 299

def Reply.location? (reply : Reply) : Option String :=
  if [301, 302, 303, 307, 308].contains reply.status then header? reply.headers "Location" else none

/-! ## ASCII -/

/-- Where the first run of characters beyond ASCII begins, and how long it is. -/
def foreignRun? (text : List Char) : Option (Nat × List Char) :=
  let isForeign := fun (c : Char) => 0x80 <= c.toNat
  let run := (text.dropWhile fun c => !isForeign c).takeWhile isForeign
  if run.isEmpty then none else some ((text.takeWhile fun c => !isForeign c).length, run)

/-- Headers hold only characters of ASCII. -/
def checkAscii (text : String) : Except Fault Unit :=
  match foreignRun? text.toList with
  | none => .ok ()
  | some (start, run) =>
    let place := match run with
      | [c] => s!"character '{String.ofList (Text.escapeCode c)}' in position {start}"
      | run => s!"characters in position {start}-{start + run.length - 1}"
    .error ⟨.unencodable, s!"'ascii' codec can't encode {place}: ordinal not in range(128)"⟩

def checkHeaders (headers : Headers) : Except Fault Unit :=
  headers.forM fun (name, value) => do
    checkAscii name
    checkAscii value

end Rehearsal.Http
