import Rehearsal.Compression.Gzip
import Rehearsal.Http.ContentType
import Rehearsal.Http.Message

/-!
The content of replies: bytes that may be packed, and that stand for a text in one of many
charsets. The headers of a reply say which; what they do not say, or say in unknown words, is
left out.
-/

set_option autoImplicit false

namespace Rehearsal.Http

/-! ## Packed bodies -/

inductive Packing where
  | plain
  | gzip
  | deflate
  deriving DecidableEq

def Packing.ofName? (name : List Char) : Option Packing :=
  match String.ofList ((Text.trimChars Text.isBlank name).map Char.toLower) with
  | "identity" => some .plain
  | "gzip" => some .gzip
  | "deflate" => some .deflate
  | _ => none

/-- How a body was packed, the last way first. -/
def packings (headers : Headers) : List Packing :=
  let values := headersNamed headers "Content-Encoding"
  ((values.flatMap fun value => value.toList.splitOn ',').filterMap Packing.ofName?).reverse

def unpackable {A : Type} (flaw : Compression.Flaw) : Except Fault A :=
  .error ⟨.decoding, s!"Error -3 while decompressing data: {flaw.message}"⟩

def unpackGzip (body : List UInt8) : Except Fault (List UInt8) :=
  match Compression.inflateFile body with
  | .ok bytes => .ok bytes
  | .error flaw => unpackable flaw

/-- Deflated bodies may come without their frame. -/
def unpackDeflated (body : List UInt8) : Except Fault (List UInt8) :=
  match Compression.inflateFramed body with
  | .ok bytes => .ok bytes
  | .error _ =>
    match Compression.inflate body with
    | .ok bytes => .ok bytes
    | .error flaw => unpackable flaw

def Packing.unpack (body : List UInt8) : Packing -> Except Fault (List UInt8)
  | .plain => .ok body
  | .gzip => unpackGzip body
  | .deflate => unpackDeflated body

/-- A reply with the body that was packed into it. -/
def Reply.unpacked (reply : Reply) : Except Fault Reply := do
  return { reply with body := ← (packings reply.headers).foldlM Packing.unpack reply.body }

/-! ## Texts -/

/-- Texts are in UTF-8 unless the headers name another charset that is known. -/
def Reply.charset (reply : Reply) : Except Fault Text.Charset := do
  match header? reply.headers "Content-Type" with
  | none => return .utf8
  | some contentType => return ((← charsetName? contentType).bind Text.Charset.find?).getD .utf8

def Reply.text (reply : Reply) : Except Fault String := do
  if reply.body.isEmpty then return ""
  return String.ofList (← (← reply.charset).decode reply.body)

end Rehearsal.Http
