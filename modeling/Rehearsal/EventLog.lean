import Rehearsal.Datum.Json
import Rehearsal.Datum.Reading
import Rehearsal.Files.Basic
import Rehearsal.Text.Utf8

/-!
Event logs: one line for each step that was taken, in a file of the run's folder. A log numbers
its events from one, also where it adds to a file that an earlier log has begun.
-/

set_option autoImplicit false

namespace Rehearsal

structure RunFolders where
  base : Path
  shots : Path
  deriving DecidableEq

namespace RunFolders

def under (base : Path) : RunFolders := { base, shots := base.child "shots" }

def eventsFile (folders : RunFolders) : Path := folders.base.child "events.jsonl"

def failureShot (folders : RunFolders) : Path := folders.shots.child "failure.png"

def make (folders : RunFolders) (files : Files) : Except Fault Files := do
  (← files.makeFolder folders.base).makeFolder folders.shots

end RunFolders

structure Event where
  test : String
  row : Option Int
  record : Table Datum
  description : String
  ok : Bool
  attempts : Int
  /-- The selector and the strategy that found the element. -/
  selector : Datum
  result : Datum
  warnings : List String
  error : Option String
  errorCode : Option String

namespace Event

def numberOrNull (number : Option Int) : Datum := (number.map Datum.int).getD .null

def fields (event : Event) (run : String) (step : Nat) : Table Datum :=
  [("run_id", .text run), ("step", .int step), ("test_id", .text event.test),
   ("row", numberOrNull event.row), ("index", (event.record.get? "index").getD .null),
   ("record", .object event.record), ("description", .text event.description),
   ("ok", .bool event.ok), ("attempts", .int event.attempts),
   ("resolved_selector", event.selector), ("result", event.result),
   ("warnings", .list (event.warnings.map .text)), ("error", .ofOption event.error),
   ("error_code", .ofOption event.errorCode)]

def line (event : Event) (run : String) (step : Nat) : String :=
  Json.write (.object (event.fields run step)) ++ "\n"

end Event

structure EventLog where
  run : String
  file : Path
  steps : Nat
  deriving DecidableEq

namespace EventLog

/-- Opens a log; its file exists from then on. -/
def start (run : String) (folders : RunFolders) (files : Files) :
    Except Fault (EventLog × Files) := do
  let file := folders.eventsFile
  return ({ run, file, steps := 0 }, ← files.append file ByteArray.empty)

/-- Gives an event the next number and adds its line. A number too long to be written keeps the
line out, and the number of the event is used up all the same. -/
def add (log : EventLog) (event : Event) (files : Files) : EventLog × Except Fault Files :=
  let log := { log with steps := log.steps + 1 }
  (log, do
    (Datum.object (event.fields log.run log.steps)).checkWritable
    files.append log.file (event.line log.run log.steps).toUTF8)

/-- The events in a file, oldest first. -/
def readEvents (files : Files) (file : Path) : Except Fault (List Datum) := do
  let text ← Text.decode (← files.read file)
  ((text.splitOn "\n").filter fun line => !line.isEmpty).mapM Json.read

end EventLog

end Rehearsal
