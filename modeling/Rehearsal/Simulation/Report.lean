import Rehearsal.Simulation.Basic

/-!
Reports on simulated calls: a call as a name and a list of arguments.
-/

set_option autoImplicit false

namespace Rehearsal.Simulation

variable {T : Type}

def limitDatum (real : T -> Datum) : Quantity T -> Datum
  | .whole count => .int count
  | .exact amount => real amount

def limitField (real : T -> Datum) (limit : Quantity T) : Table Datum :=
  [("timeout", limitDatum real limit)]

def forceField (force : Bool) : Table Datum := if force then [("force", .bool true)] else []

def presenceText : Presence -> String
  | .attached => "attached"
  | .visible => "visible"

def keyText : OptionKey -> String
  | .label => "label"
  | .value => "value"

def deedOptions (real : T -> Datum) : Deed T -> Table Datum
  | .waitFor presence limit => ("state", .text (presenceText presence)) :: limitField real limit
  | .scrollIntoView limit => limitField real limit
  | .click _ force limit => limitField real limit ++ forceField force
  | .hover force limit => limitField real limit ++ forceField force
  | .fill value limit => ("value", .text value) :: limitField real limit
  | .clear limit => limitField real limit
  | .select key wanted limit => (keyText key, .text wanted) :: limitField real limit
  | .setFiles path limit => ("files", .text path) :: limitField real limit
  | .press key limit => ("key", .text key) :: limitField real limit

def targetArguments (target : Target) (options : Table Datum) : List Datum :=
  [.text target.selector, (target.index.map fun index => Datum.int index).getD .null,
   .object options]

def bytesDatum (bytes : Option ByteArray) : Datum := .ofOption (bytes.map Text.hexOfBytes)

/-- Headers that every client adds by itself. -/
def ownHeaders : List String :=
  ["host", "accept", "accept-encoding", "connection", "user-agent", "content-length"]

def shownHeaders (headers : Http.Headers) : Table Datum :=
  let shown := (Http.joined headers).filter fun header => !ownHeaders.contains header.1
  Table.mapValues Datum.text shown

def textsDatum (texts : List String) : Datum := .list (texts.map .text)

/-- The arguments of a call, with limits shown by `real`. -/
def arguments (real : T -> Datum) : Call T -> List Datum
  | .launch headless given => [.bool headless, textsDatum given]
  | .setPatience _ limit => [limitDatum real limit]
  | .addCookies _ cookies => [.list cookies]
  | .visit _ url limit => [.text url, .text "domcontentloaded", limitDatum real limit]
  | .screenshot _ => [.bool true]
  | .act target deed => targetArguments target (deedOptions real deed)
  | .submitForm target => targetArguments target []
  | .newProducer servers => [.text servers]
  | .send _ message => [.text message.topic, bytesDatum message.key, bytesDatum message.value]
  | .newConsumer servers group => [.text servers, .text group, .text "latest"]
  | .subscribe _ topics => [textsDatum topics]
  | .exchange request =>
    [.text request.method, .text request.url.text, .object (shownHeaders request.headers),
     .text (request.body.getD "")]
  | _ => []

/-- A call with the time at which it was made. -/
def entry (real : T -> Datum) (time : T) (call : Call T) : Datum :=
  .list (real time :: .text (callName call) :: arguments real call)

end Rehearsal.Simulation
