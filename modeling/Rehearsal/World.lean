import Rehearsal.Datum.Basic
import Rehearsal.Http.Message
import Rehearsal.Time.Scale

/-!
The world around a scenario: a browser and its pages, a message broker, servers for requests, and
a clock. A scenario acts on it by calls, each of which may fail; how the world answers is left
open.
-/

set_option autoImplicit false

namespace Rehearsal

structure BrowserId where
  number : Nat
  deriving DecidableEq

structure ContextId where
  number : Nat
  deriving DecidableEq

structure PageId where
  number : Nat
  deriving DecidableEq

structure ProducerId where
  number : Nat
  deriving DecidableEq

structure ConsumerId where
  number : Nat
  deriving DecidableEq

/-- One element of a page, whatever its selector matches later. -/
structure Handle where
  element : Nat
  selector : String
  deriving DecidableEq

/-- All matches of a selector on a page, or the one at an index. -/
structure Target where
  page : PageId
  selector : String
  index : Option Nat
  deriving DecidableEq

def Target.nth (target : Target) (index : Nat) : Target := { target with index := some index }

def Target.first (target : Target) : Target := target.nth 0

inductive Presence where
  | attached
  | visible
  deriving DecidableEq

inductive OptionKey where
  | label
  | value
  deriving DecidableEq

inductive Query where
  | count
  /-- A handle of the first match, if the browser gives one. -/
  | handle
  | isVisible
  | isEnabled
  | innerText
  | inputValue
  | attributeValue (name : String)
  /-- Label and value of the option that is selected, or nothing. -/
  | selection
  deriving DecidableEq

@[reducible] def Query.Answer : Query -> Type
  | .count => Nat
  | .handle => Option Handle
  | .isVisible => Bool
  | .isEnabled => Bool
  | .innerText => String
  | .inputValue => String
  | .attributeValue _ => Option String
  | .selection => List String

/-- What can be done to a target; limits are in thousandths of a second. -/
inductive Deed (T : Type) where
  | waitFor (presence : Presence) (limit : Quantity T)
  | scrollIntoView (limit : Quantity T)
  | click (double force : Bool) (limit : Quantity T)
  | hover (force : Bool) (limit : Quantity T)
  | fill (value : String) (limit : Quantity T)
  | clear (limit : Quantity T)
  | select (key : OptionKey) (wanted : String) (limit : Quantity T)
  | setFiles (path : String) (limit : Quantity T)
  | press (key : String) (limit : Quantity T)

structure Message where
  topic : String
  key : Option ByteArray
  value : Option ByteArray

inductive Call (T : Type) where
  | startDriver
  | stopDriver
  | launch (headless : Bool) (arguments : List String)
  | newContext (browser : BrowserId)
  | newPage (context : ContextId)
  | setPatience (page : PageId) (limit : Quantity T)
  | closeBrowser (browser : BrowserId)
  | cookies (context : ContextId)
  | clearCookies (context : ContextId)
  | addCookies (context : ContextId) (cookies : List Datum)
  | visit (page : PageId) (url : String) (limit : Quantity T)
  | reload (page : PageId)
  | screenshot (page : PageId)
  | evaluate (page : PageId) (script : String)
  | query (target : Target) (asked : Query)
  | act (target : Target) (deed : Deed T)
  /-- Submits the form around a target, and says whether there is one. -/
  | submitForm (target : Target)
  | isDetached (handle : Handle)
  | newProducer (servers : String)
  | startProducer (producer : ProducerId)
  | send (producer : ProducerId) (message : Message)
  | flush (producer : ProducerId)
  | stopProducer (producer : ProducerId)
  /-- A consumer begins with the latest messages. -/
  | newConsumer (servers group : String)
  | startConsumer (consumer : ConsumerId)
  | subscribe (consumer : ConsumerId) (topics : List String)
  | fetch (consumer : ConsumerId) (milliseconds : Int)
  | stopConsumer (consumer : ConsumerId)
  | exchange (request : Http.Request)

@[reducible] def Call.Answer {T : Type} : Call T -> Type
  | .launch _ _ => BrowserId
  | .newContext _ => ContextId
  | .newPage _ => PageId
  | .cookies _ => List Datum
  | .screenshot _ => ByteArray
  | .evaluate _ _ => Datum
  | .query _ asked => asked.Answer
  | .submitForm _ => Bool
  | .isDetached _ => Bool
  | .newProducer _ => ProducerId
  | .newConsumer _ _ => ConsumerId
  | .fetch _ _ => List Message
  | .exchange _ => Http.Reply
  | _ => Unit

structure World (W T : Type) where
  clock : Clock W T
  isClosed : W -> PageId -> Bool
  url : W -> PageId -> String
  /-- The second of the calendar at which the world begins; cookies expire by it. -/
  today : Int
  perform : (call : Call T) -> W -> Except Fault call.Answer × W

end Rehearsal
