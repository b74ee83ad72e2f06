import Rehearsal.Http.Content
import Rehearsal.Simulation.Element
import Rehearsal.Text.Utf8
import Rehearsal.Time.Calendar
import Rehearsal.World

/-!
Simulated worlds: pages with elements, a broker and a server as values, and a clock that only
moves when someone sleeps. A simulation writes down every call that is made on it.
-/

set_option autoImplicit false

namespace Rehearsal

namespace Simulation

structure SimulatedPage where
  url : String
  closed : Bool
  /-- Whether the page is open and does not answer. -/
  dead : Bool

/-- Effects that come about by themselves at a time. -/
structure Scheduled (T : Type) where
  time : T
  effects : List Effect

inductive ScriptedReply where
  | reply (reply : Http.Reply)
  | fault (fault : Fault)

end Simulation

open Simulation

structure Simulation (T : Type) where
  now : T
  /-- The address of the first page. -/
  firstUrl : String
  pages : List SimulatedPage
  elements : List Element
  /-- The elements that a selector matches, by their numbers. -/
  dom : Table (List Nat)
  scripts : Table Datum
  redirects : Table String
  /-- For each call the messages that it fails with, one after the other. -/
  errors : Table (List (Option String))
  cookies : List Datum
  scheduled : List (Scheduled T)
  replies : List ScriptedReply
  batches : List (List Datum)
  /-- How many browsers, contexts and clients were made. -/
  made : Nat
  /-- Calls that change something, the latest first. -/
  trace : List (T × Call T)
  probes : Table Nat
  /-- Spans that were slept, the latest first. -/
  sleeps : List T

namespace Simulation

variable {T : Type}

/-! ## Effects -/

def setAt {A : Type} (update : A -> A) (index : Nat) (items : List A) : List A :=
  items.modify index update

def matching (simulation : Simulation T) (selector : String) : List Nat :=
  (simulation.dom.get? selector).getD []

def updateElement (number : Nat) (update : Element -> Element) (simulation : Simulation T) :
    Simulation T :=
  { simulation with elements := setAt update number simulation.elements }

/-- The page that was opened last. -/
def updateCurrent (update : SimulatedPage -> SimulatedPage) (simulation : Simulation T) :
    Simulation T :=
  { simulation with pages := setAt update (simulation.pages.length - 1) simulation.pages }

def addElement (simulation : Simulation T) (selector : String) (fields : Table Datum) :
    Simulation T :=
  let numbers := simulation.matching selector ++ [simulation.elements.length]
  { simulation with
    elements := simulation.elements ++ [Element.ofFields fields]
    dom := simulation.dom.put selector numbers }

def removeAll (simulation : Simulation T) (selector : String) : Simulation T :=
  let gone := (simulation.matching selector).foldl (fun simulation number =>
    simulation.updateElement number fun element => { element with connected := false }) simulation
  { gone with dom := gone.dom.remove selector }

def apply (simulation : Simulation T) : Effect -> Simulation T
  | .goTo url => simulation.updateCurrent fun page => { page with url }
  | .set selector index fields =>
    match (simulation.matching selector)[index]? with
    | some number => simulation.updateElement number fun element => element.setFields fields
    | none => simulation
  | .add selector fields => simulation.addElement selector fields
  | .remove selector => simulation.removeAll selector
  | .crash true => simulation.updateCurrent fun page => { page with closed := true }
  | .crash false => simulation.updateCurrent fun page => { page with dead := true }
  | .script script value => { simulation with scripts := simulation.scripts.put script value }
  | .deliver messages => { simulation with batches := simulation.batches ++ [messages] }

def applyAll (simulation : Simulation T) (effects : List Effect) : Simulation T :=
  effects.foldl apply simulation

/-! ## Time -/

/-- Applies what is due, in the order in which it is scheduled. -/
def applyDue [Scale T] : List (Scheduled T) -> Simulation T -> Simulation T
  | [], simulation => { simulation with scheduled := [] }
  | next :: rest, simulation =>
    if Scale.le next.time simulation.now then applyDue rest (simulation.applyAll next.effects)
    else { simulation with scheduled := next :: rest }

def sleep [Scale T] (span : T) (simulation : Simulation T) : Simulation T :=
  let later := { simulation with
    now := Scale.add simulation.now span, sleeps := span :: simulation.sleeps }
  applyDue later.scheduled later

/-! ## What a call leaves behind -/

def Query.name : Query -> String
  | .count => "count"
  | .handle => "element_handle"
  | .isVisible => "is_visible"
  | .isEnabled => "is_enabled"
  | .innerText => "inner_text"
  | .inputValue => "input_value"
  | .attributeValue _ => "get_attribute"
  | .selection => "read_selection"

def Deed.name : Deed T -> String
  | .waitFor _ _ => "wait_for"
  | .scrollIntoView _ => "scroll_into_view_if_needed"
  | .click double _ _ => if double then "dblclick" else "click"
  | .hover _ _ => "hover"
  | .fill _ _ => "fill"
  | .clear _ => "clear"
  | .select _ _ _ => "select_option"
  | .setFiles _ _ => "set_input_files"
  | .press _ _ => "press"

def callName : Call T -> String
  | .startDriver => "driver_start"
  | .stopDriver => "driver_stop"
  | .launch _ _ => "launch"
  | .newContext _ => "new_context"
  | .newPage _ => "new_page"
  | .setPatience _ _ => "set_default_timeout"
  | .closeBrowser _ => "browser_close"
  | .cookies _ => "cookies"
  | .clearCookies _ => "clear_cookies"
  | .addCookies _ _ => "add_cookies"
  | .visit _ _ _ => "goto"
  | .reload _ => "reload"
  | .screenshot _ => "screenshot"
  | .evaluate _ _ => "page.evaluate"
  | .query _ asked => Query.name asked
  | .act _ deed => Deed.name deed
  | .submitForm _ => "submit_form"
  | .isDetached _ => "handle.evaluate"
  | .newProducer _ => "producer"
  | .startProducer _ => "producer_start"
  | .send _ _ => "send"
  | .flush _ => "flush"
  | .stopProducer _ => "producer_stop"
  | .newConsumer _ _ => "consumer"
  | .startConsumer _ => "consumer_start"
  | .subscribe _ _ => "subscribe"
  | .fetch _ _ => "getmany"
  | .stopConsumer _ => "consumer_stop"
  | .exchange _ => "http"

/-- What a question is asked about; the other calls change something. -/
def subject? : Call T -> Option String
  | .query target _ => some target.selector
  | .isDetached handle => some handle.selector
  | .evaluate _ script => some script
  | .fetch _ milliseconds => some (toString milliseconds)
  | _ => none

def record (simulation : Simulation T) (call : Call T) : Simulation T :=
  match subject? call with
  | some subject =>
    let key := callName call ++ " " ++ subject
    let before := (simulation.probes.get? key).getD 0
    { simulation with probes := simulation.probes.put key (before + 1) }
  | none => { simulation with trace := (simulation.now, call) :: simulation.trace }

/-! ## Refusals -/

/-- The page that a call goes through. -/
def pageOf? : Call T -> Option PageId
  | .visit page _ _ | .reload page | .screenshot page | .evaluate page _ => some page
  | .query target _ | .act target _ | .submitForm target => some target.page
  | _ => none

def isGone (simulation : Simulation T) (page : PageId) : Bool :=
  simulation.pages[page.number]?.any fun page => page.closed || page.dead

/-- The key under which a call's errors are scripted, if they can be. -/
def errorKey? (call : Call T) : Option String :=
  match call with
  | .query target _ | .act target _ | .submitForm target =>
    some (callName call ++ " " ++ target.selector)
  | .isDetached handle => some (callName call ++ " " ++ handle.selector)
  | .setPatience _ _ | .newProducer _ | .flush _ | .stopProducer _ | .newConsumer _ _
  | .subscribe _ _ | .stopConsumer _ | .exchange _ => none
  | call => some (callName call)

def lostFault : Fault := ⟨.browser, "Target page, context or browser has been closed"⟩

/-- The next scripted error of a key, which is then used up. -/
def takeError (simulation : Simulation T) (key : String) : Option Fault × Simulation T :=
  match simulation.errors.get? key with
  | some (message :: rest) =>
    (message.map fun message => ⟨.browser, message⟩,
      { simulation with errors := simulation.errors.put key rest })
  | _ => (none, simulation)

def refusal (simulation : Simulation T) (call : Call T) : Option Fault × Simulation T :=
  if (pageOf? call).any simulation.isGone then (some lostFault, simulation)
  else
    match errorKey? call with
    | some key => simulation.takeError key
    | none => (none, simulation)

/-! ## Answers -/

def matchesOf (simulation : Simulation T) (target : Target) : List Nat :=
  let numbers := simulation.matching target.selector
  match target.index with
  | some index => numbers[index]?.toList
  | none => numbers

/-- The first element that a target stands for, with its number. -/
def element? (simulation : Simulation T) (target : Target) : Option (Nat × Element) := do
  let number ← (simulation.matchesOf target).head?
  return (number, ← simulation.elements[number]?)

def missing (target : Target) : Fault := ⟨.timeout, s!"Timeout waiting for {target.selector}"⟩

def need (simulation : Simulation T) (target : Target) : Except Fault (Nat × Element) :=
  match simulation.element? target with
  | some found => .ok found
  | none => .error (missing target)

def handleOf (target : Target) (found : Nat × Element) : Option Handle :=
  if found.2.withoutHandle then none
  else some { element := found.1, selector := target.selector }

def attributeText : Datum -> Option String
  | .null => none
  | value => some value.display

def answerQuery (simulation : Simulation T) (target : Target) : (asked : Query) ->
    Except Fault asked.Answer
  | .count => .ok (simulation.matchesOf target).length
  | .handle => (simulation.need target).map (handleOf target)
  | .isVisible => .ok ((simulation.element? target).any fun found => found.2.visible)
  | .isEnabled => (simulation.need target).map fun found => found.2.enabled
  | .innerText => (simulation.need target).map fun found => found.2.text
  | .inputValue => (simulation.need target).map fun found => found.2.value
  | .attributeValue name =>
    (simulation.need target).map fun found => (found.2.attributes.get? name).bind attributeText
  | .selection => (simulation.need target).map fun found => found.2.selection

def chosen? (element : Element) (key : OptionKey) (wanted : String) : Option Nat :=
  element.options.findIdx? fun option =>
    (match key with
     | .label => option.1
     | .value => option.2) == wanted

def behave (simulation : Simulation T) (target : Target) (number : Nat) (element : Element) :
    Deed T -> Except Fault (Simulation T)
  | .waitFor .visible _ =>
    if element.visible then .ok simulation
    else .error ⟨.timeout, s!"{target.selector} is not visible"⟩
  | .click _ _ _ =>
    let (effects, clicked) := element.click
    .ok ((simulation.updateElement number fun _ => clicked).applyAll effects)
  | .fill value _ => .ok (simulation.updateElement number (Element.setValue · value))
  | .clear _ => .ok (simulation.updateElement number (Element.setValue · ""))
  | .select key wanted _ =>
    match chosen? element key wanted with
    | none => .error ⟨.browser, s!"No option {wanted}"⟩
    | some index =>
      if element.ignoresInput then .ok simulation
      else .ok (simulation.updateElement number fun element =>
        { element with selected := some index })
  | _ => .ok simulation

def answerDeed (simulation : Simulation T) (target : Target) (deed : Deed T) :
    Except Fault Unit × Simulation T :=
  match simulation.element? target with
  | none => (.error (missing target), simulation)
  | some (number, element) =>
    match simulation.behave target number element deed with
    | .ok simulation => (.ok (), simulation)
    | .error fault => (.error fault, simulation)

def answerSubmit (simulation : Simulation T) (target : Target) :
    Except Fault Bool × Simulation T :=
  match simulation.element? target with
  | none => (.error (missing target), simulation)
  | some (_, element) =>
    if element.inForm then (.ok true, simulation.applyAll element.onSubmit)
    else (.ok false, simulation)

/-- A new page; only the first one has the address that the world begins with. -/
def openPage (simulation : Simulation T) : PageId × Simulation T :=
  let url := if simulation.pages.isEmpty then simulation.firstUrl else "about:blank"
  ({ number := simulation.pages.length },
    { simulation with pages := simulation.pages ++ [{ url, closed := false, dead := false }] })

def urlOf (simulation : Simulation T) (page : PageId) : String :=
  (simulation.pages[page.number]?.map SimulatedPage.url).getD ""

def visit (simulation : Simulation T) (page : PageId) (url : String) : Simulation T :=
  let url := (simulation.redirects.get? url).getD url
  { simulation with pages := setAt (fun page => { page with url }) page.number simulation.pages }

/-- Bytes as a document gives them: a text, or hexadecimal digits. -/
def readBytes : Datum -> Option ByteArray
  | .text text => some text.toUTF8
  | .object [("hex", .text digits)] => some (Text.bytesOfHex digits)
  | _ => none

def readMessage (value : Datum) : Message :=
  let fields := fieldsOf value
  { topic := textOf ((fields.get? "topic").getD .null)
    key := (fields.get? "key").bind readBytes, value := (fields.get? "value").bind readBytes }

/-- Messages of one partition come together, in the order in which the partitions first appear. -/
def partitionOf (value : Datum) : String × Int :=
  let fields := fieldsOf value
  let number := ((fields.get? "partition").bind fun value => value.toInt.toOption).getD 0
  (textOf ((fields.get? "topic").getD .null), number)

def grouped (messages : List Datum) : List Datum :=
  let partitions := (messages.map partitionOf).eraseDups
  partitions.flatMap fun partition =>
    messages.filter fun message => partitionOf message == partition

def takeBatch (simulation : Simulation T) : List Message × Simulation T :=
  match simulation.batches with
  | [] => ([], simulation)
  | batch :: rest => ((grouped batch).map readMessage, { simulation with batches := rest })

def emptyReply : Http.Reply := { status := 200, headers := [], body := [] }

/-- The next scripted reply; the last one is given again and again. -/
def takeReply (simulation : Simulation T) : Except Fault Http.Reply × Simulation T :=
  let answer := fun (scripted : ScriptedReply) =>
    match scripted with
    | .reply reply => (Http.checkHeaders reply.headers).bind fun _ => reply.unpacked
    | .fault fault => .error fault
  match simulation.replies with
  | [] => (.ok emptyReply, simulation)
  | [last] => (answer last, simulation)
  | next :: rest => (answer next, { simulation with replies := rest })

def make (simulation : Simulation T) : Nat × Simulation T :=
  (simulation.made, { simulation with made := simulation.made + 1 })

def screenshotBytes (simulation : Simulation T) (page : PageId) : ByteArray :=
  ("PNG:" ++ simulation.urlOf page).toUTF8

def answer (simulation : Simulation T) : (call : Call T) -> Except Fault call.Answer × Simulation T
  | .launch _ _ => let (number, made) := simulation.make; (.ok ⟨number⟩, made)
  | .newContext _ => let (number, made) := simulation.make; (.ok ⟨number⟩, made)
  | .newPage _ => let (page, opened) := simulation.openPage; (.ok page, opened)
  | .cookies _ => (.ok simulation.cookies, simulation)
  | .clearCookies _ => (.ok (), { simulation with cookies := [] })
  | .addCookies _ cookies => (.ok (), { simulation with cookies := simulation.cookies ++ cookies })
  | .visit page url _ => (.ok (), simulation.visit page url)
  | .screenshot page => (.ok (simulation.screenshotBytes page), simulation)
  | .evaluate _ script => (.ok ((simulation.scripts.get? script).getD .null), simulation)
  | .query target asked => (simulation.answerQuery target asked, simulation)
  | .act target deed => simulation.answerDeed target deed
  | .submitForm target => simulation.answerSubmit target
  | .isDetached handle =>
    (.ok (!simulation.elements[handle.element]?.any Element.connected), simulation)
  | .newProducer _ => let (number, made) := simulation.make; (.ok ⟨number⟩, made)
  | .newConsumer _ _ => let (number, made) := simulation.make; (.ok ⟨number⟩, made)
  | .fetch _ _ => let (messages, rest) := simulation.takeBatch; (.ok messages, rest)
  | .exchange _ => simulation.takeReply
  | .startDriver => (.ok (), simulation)
  | .stopDriver => (.ok (), simulation)
  | .setPatience _ _ => (.ok (), simulation)
  | .closeBrowser _ => (.ok (), simulation)
  | .reload _ => (.ok (), simulation)
  | .startProducer _ => (.ok (), simulation)
  | .send _ _ => (.ok (), simulation)
  | .flush _ => (.ok (), simulation)
  | .stopProducer _ => (.ok (), simulation)
  | .startConsumer _ => (.ok (), simulation)
  | .subscribe _ _ => (.ok (), simulation)
  | .stopConsumer _ => (.ok (), simulation)

/-- A browser closes its page even if it reports an error then. -/
def closing (simulation : Simulation T) : Call T -> Simulation T
  | .closeBrowser _ => simulation.updateCurrent fun page => { page with closed := true }
  | _ => simulation

/-- Writes the call down, refuses it if there is a reason to, and else answers it. -/
def perform (call : Call T) (simulation : Simulation T) :
    Except Fault call.Answer × Simulation T :=
  match ((simulation.record call).closing call).refusal call with
  | (some fault, simulation) => (.error fault, simulation)
  | (none, simulation) => simulation.answer call

/-- All simulations take place on one day. -/
def today : Int := Calendar.second 2026 11 19 0 0 0

def world [Scale T] : World (Simulation T) T :=
  { clock := { now := Simulation.now, sleep := Simulation.sleep }
    isClosed := fun simulation page => simulation.pages[page.number]?.any SimulatedPage.closed
    url := urlOf
    today
    perform }

/-! ## Reading -/

def readErrors (value : Datum) : Table (List (Option String)) :=
  (fieldsOf value).mapValues fun messages => (listOf messages).map Datum.text?

def readScheduled [Scale T] (value : Datum) : Scheduled T :=
  let fields := fieldsOf value
  let time := ((fields.get? "at").bind fun value => value.toReal.toOption).getD 0.0
  { time := Scale.ofSeconds time, effects := readEffects ((fields.get? "do").getD .null) }

def faultKind : String -> FaultKind
  | "connect" => .connect
  | "read_timeout" => .readTimeout
  | "protocol" => .protocol
  | _ => .runtime

def readReply (value : Datum) : ScriptedReply :=
  let fields := fieldsOf value
  let get := fun key => (fields.get? key).getD .null
  match fields.get? "error" with
  | some kind => .fault ⟨faultKind (textOf kind), textOf (get "message")⟩
  | none =>
    let status := (fields.get? "status").elim 200 natOf
    let headers := (fieldsOf (get "headers")).mapValues textOf
    .reply { status, headers, body := (textOf (get "body")).toUTF8.toList }

def addElements (simulation : Simulation T) (entry : String × Datum) : Simulation T :=
  let named := { simulation with dom := simulation.dom.put entry.1 [] }
  (listOf entry.2).foldl (fun simulation element =>
    simulation.addElement entry.1 (fieldsOf element)) named

/-- A world as a document describes it, before anything has happened. -/
def ofFields [Scale T] (fields : Table Datum) : Simulation T :=
  let get := fun key => (fields.get? key).getD .null
  let bare : Simulation T :=
    { now := Scale.zero
      firstUrl := ((fields.get? "url").bind Datum.text?).getD "about:blank"
      pages := [], elements := [], dom := []
      scripts := fieldsOf (get "scripts")
      redirects := (fieldsOf (get "redirects")).mapValues textOf
      errors := readErrors (get "errors")
      cookies := listOf (get "cookies")
      scheduled := (listOf (get "events")).map readScheduled
      replies := (listOf (get "http")).map readReply
      batches := (listOf (get "batches")).map listOf
      made := 0, trace := [], probes := [], sleeps := [] }
  (fieldsOf (get "dom")).foldl addElements bare

/-- What was written down since the last time, oldest first, and the simulation without it. -/
def takeRecords (simulation : Simulation T) :
    (List (T × Call T) × Table Nat × List T) × Simulation T :=
  ((simulation.trace.reverse, simulation.probes, simulation.sleeps.reverse),
    { simulation with trace := [], probes := [], sleeps := [] })

end Simulation

end Rehearsal
