import Rehearsal.Datum.Basic
import Rehearsal.Failure.Violation
import Rehearsal.Fault
import Rehearsal.Text.Casing
import Rehearsal.Text.Search

/-!
The library's errors. A failure is kept as its cause; kind, message, code and details are
functions of it. A failure may rest on an earlier one: the last probe behind a timeout, the
step behind a script.
-/

set_option autoImplicit false

namespace Rehearsal

inductive FailureKind where
  | execution
  | configuration
  | unsupportedOperation
  | unsupportedCondition
  | unsupportedWait
  | unsupportedAssertion
  | unsupportedStrategy
  | invalidBranchTarget
  | fileNotFound
  | elementNotFound
  | waitTimeout
  | sessionUnreachable
  | brokerTimeout
  | httpCallFailed
  | assertionMismatch
  | stepFailed
  | scriptFailed
  | datasetRunFailed
  | mutationNotConfirmed
  deriving DecidableEq

namespace FailureKind

def name : FailureKind -> String
  | .execution => "ExecutionError"
  | .configuration => "ConfigurationError"
  | .unsupportedOperation => "UnsupportedOperation"
  | .unsupportedCondition => "UnsupportedCondition"
  | .unsupportedWait => "UnsupportedWait"
  | .unsupportedAssertion => "UnsupportedAssertion"
  | .unsupportedStrategy => "UnsupportedLocatorStrategy"
  | .invalidBranchTarget => "InvalidBranchTarget"
  | .fileNotFound => "FileNotFound"
  | .elementNotFound => "ElementNotFound"
  | .waitTimeout => "WaitTimeout"
  | .sessionUnreachable => "SessionUnreachable"
  | .brokerTimeout => "BrokerConsumeTimeout"
  | .httpCallFailed => "HttpCallFailed"
  | .assertionMismatch => "AssertionMismatch"
  | .stepFailed => "StepFailed"
  | .scriptFailed => "ScriptFailed"
  | .datasetRunFailed => "DatasetRunFailed"
  | .mutationNotConfirmed => "MutationNotConfirmed"

def code : FailureKind -> String
  | .execution => "EXECUTION_ERROR"
  | .configuration => "CONFIGURATION"
  | .unsupportedOperation => "UNSUPPORTED_OPERATION"
  | .unsupportedCondition => "UNSUPPORTED_CONDITION"
  | .unsupportedWait => "UNSUPPORTED_WAIT"
  | .unsupportedAssertion => "UNSUPPORTED_ASSERTION"
  | .unsupportedStrategy => "UNSUPPORTED_LOCATOR"
  | .invalidBranchTarget => "INVALID_BRANCH_TARGET"
  | .fileNotFound => "FILE_NOT_FOUND"
  | .elementNotFound => "ELEMENT_NOT_FOUND"
  | .waitTimeout => "WAIT_TIMEOUT"
  | .sessionUnreachable => "SESSION_UNREACHABLE"
  | .brokerTimeout => "BROKER_CONSUME_TIMEOUT"
  | .httpCallFailed => "HTTP_CALL_FAILED"
  | .assertionMismatch => "ASSERTION_MISMATCH"
  | .stepFailed => "STEP_FAILED"
  | .scriptFailed => "SCRIPT_FAILED"
  | .datasetRunFailed => "DATASET_RUN_FAILED"
  | .mutationNotConfirmed => "MUTATION_NOT_CONFIRMED"

/-- Errors in the catalog or the settings; no retry mends them. -/
def isConfiguration : FailureKind -> Bool
  | .configuration | .unsupportedOperation | .unsupportedCondition | .unsupportedWait
  | .unsupportedAssertion | .unsupportedStrategy | .invalidBranchTarget | .fileNotFound => true
  | _ => false

def all : List FailureKind :=
  [.execution, .configuration, .unsupportedOperation, .unsupportedCondition, .unsupportedWait,
   .unsupportedAssertion, .unsupportedStrategy, .invalidBranchTarget, .fileNotFound,
   .elementNotFound, .waitTimeout, .sessionUnreachable, .brokerTimeout, .httpCallFailed,
   .assertionMismatch, .stepFailed, .scriptFailed, .datasetRunFailed, .mutationNotConfirmed]

def ofName? (name : String) : Option FailureKind := all.find? fun kind => kind.name == name

end FailureKind

inductive StepEnding where
  /-- Its configuration is wrong. -/
  | refused
  /-- Its time is up, after some error. -/
  | exhausted
  /-- Its time is up, and every attempt only lost the session. -/
  | silent
  deriving DecidableEq

inductive Stage where
  | actions
  | assertion (index : Nat)
  deriving DecidableEq

inductive Failure where
  /-- A fault that came through from outside. -/
  | fault (fault : Fault)
  /-- A failure of which only kind and message are known. -/
  | stated (kind : FailureKind) (message : String)
  /-- An object that does not fit its model, not yet tied to a record. -/
  | misfit (model : String) (violations : List Violation)
  | badRowPolicy (policy : String)
  | untagged (tag : String) (record : List (String × Datum))
  | unsupportedTag (kind : FailureKind) (tag name : String)
  | unsupportedWait (name : String)
  | unsupportedCondition (name : String)
  | unsupportedStrategy (name : String)
  | invalidRecord (name model : String) (record : List (String × Datum))
      (violations : List Violation)
  | invalidCandidate (entry : List (String × Datum)) (violations : List Violation)
  | indexGap (test records : String) (expected found : Nat)
  | noLocators (page element : String)
  | unknownPage (page : String)
  | unknownElement (page element : String)
  | unknownTest (test : String)
  | aimlessCheck (index : Nat)
  | missingDataset (path : String)
  | misshapenDataset (path : String)
  | unsupportedDataset (path : String)
  | missingCatalog (path : String)
  | branchBelowOne (target : Int)
  | missingUpload (path : String)
  | noHttpClient
  /-- One selector and error for each candidate that was tried. -/
  | notFound (page element : String) (attempts : List (String × String))
  | timedOut (kind : FailureKind) (seconds awaited : String) (cause : Option Failure)
  | stepTimedOut (step seconds : String)
  | noPage
  | noContext
  | launchFailed (attempts : Nat) (cause : Failure)
  | sessionLost (cause : Failure)
  | elementDisabled
  | mismatch (actual : String) (expected : Datum) (shown operator : String)
  | notBoolean (value : String)
  | notNumeric (role value : String)
  | requestFailed (method url : String) (cause : Fault)
  | requestRefused (method url : String) (status : Nat) (body : String)
  | step (description : String) (attempts : Nat) (ending : StepEnding) (cause : Failure)
  | script (test : String) (row : Option Nat) (stage : Stage) (step : Failure)
  | dataset (test : String) (rows : List Nat) (failures : List Failure)

namespace Failure

instance : Inhabited Failure := ⟨.noPage⟩

/-- Nothing for faults and misfits, which are not of the library's own kinds. -/
def kind? : Failure -> Option FailureKind
  | .fault _ | .misfit _ _ | .badRowPolicy _ => none
  | .stated kind _ => some kind
  | .unsupportedTag kind _ _ => some kind
  | .unsupportedWait _ => some .unsupportedWait
  | .unsupportedCondition _ => some .unsupportedCondition
  | .unsupportedStrategy _ => some .unsupportedStrategy
  | .untagged _ _ | .invalidRecord _ _ _ _ | .invalidCandidate _ _ | .indexGap _ _ _ _
  | .noLocators _ _ | .unknownPage _ | .unknownElement _ _ | .unknownTest _ | .aimlessCheck _
  | .missingDataset _ | .misshapenDataset _ | .unsupportedDataset _ | .missingCatalog _
  | .noHttpClient => some .configuration
  | .branchBelowOne _ => some .invalidBranchTarget
  | .missingUpload _ => some .fileNotFound
  | .notFound _ _ _ => some .elementNotFound
  | .timedOut kind _ _ _ => some kind
  | .stepTimedOut _ _ => some .waitTimeout
  | .noPage | .noContext | .launchFailed _ _ | .sessionLost _ => some .sessionUnreachable
  | .elementDisabled => some .execution
  | .mismatch _ _ _ _ | .notBoolean _ | .notNumeric _ _ => some .assertionMismatch
  | .requestFailed _ _ _ | .requestRefused _ _ _ _ => some .httpCallFailed
  | .step _ _ _ _ => some .stepFailed
  | .script _ _ _ _ => some .scriptFailed
  | .dataset _ _ _ => some .datasetRunFailed

def name (failure : Failure) : String :=
  match failure, failure.kind? with
  | _, some kind => kind.name
  | .fault origin, none => origin.kind.name
  | .misfit _ _, none => "ValidationError"
  | _, none => "ValueError"

def code? : Failure -> Option String
  | .elementDisabled => some "ELEMENT_DISABLED"
  | failure => failure.kind?.map FailureKind.code

def isConfiguration (failure : Failure) : Bool := failure.kind?.any FailureKind.isConfiguration

/-- Values of the right type that could not be used, the library's own refusals included. -/
def isBadValue : Failure -> Bool
  | .fault origin => origin.kind.isBadValue
  | .misfit _ _ | .badRowPolicy _ => true
  | _ => false

def indexText (record : Table Datum) : String := ((record.get? "index").getD .null).display

def message : Failure -> String
  | .fault origin => origin.message
  | .stated _ message => message
  | .misfit model violations => violationsHeading model violations
  | .badRowPolicy policy =>
    s!"on_row_failure must be one of ['abort', 'continue'], got {Text.quoted policy}"
  | .untagged tag record => s!"Record is missing '{tag}': {(Datum.object record).inner}"
  | .unsupportedTag _ tag name => s!"Unsupported {tag}: {name}"
  | .unsupportedWait name => s!"Unsupported wait: {name}"
  | .unsupportedCondition name => s!"Unsupported condition: {name}"
  | .unsupportedStrategy name => s!"Unsupported locator type: {name}"
  | .invalidRecord name model record violations =>
    s!"Invalid {name} record at index {indexText record}: {violationsHeading model violations}"
  | .invalidCandidate entry _ => s!"Invalid locator candidate: {(Datum.object entry).inner}"
  | .indexGap test records expected found =>
    s!"Test '{test}' {records} indices must be contiguous from 1; " ++
      s!"expected {expected}, found {found}"
  | .noLocators page element => s!"Element '{element}' on page '{page}' has no locators"
  | .unknownPage page => s!"Unknown page '{page}'"
  | .unknownElement page element => s!"Unknown element '{element}' on page '{page}'"
  | .unknownTest test => s!"Unknown test '{test}'"
  | .aimlessCheck index => s!"Check at index {index} has no element"
  | .missingDataset path => s!"Dataset file not found: {path}"
  | .misshapenDataset path => s!"JSON dataset must be a list of objects: {path}"
  | .unsupportedDataset path => s!"Unsupported data file format: {path}"
  | .missingCatalog path => s!"Catalog file not found: {path}"
  | .branchBelowOne target => s!"Branch target {target} is below 1"
  | .missingUpload path => s!"File not found: {path}"
  | .noHttpClient => "No HTTP client configured"
  | .notFound page element _ => s!"No valid locator found for {element} on page {page}"
  | .timedOut _ seconds awaited _ => s!"Timed out after {seconds}s waiting for {awaited}"
  | .stepTimedOut description seconds => s!"Step '{description}' timed out after {seconds} seconds"
  | .noPage => "Browser page is not available"
  | .noContext => "Browser context is not available"
  | .launchFailed attempts _ => s!"Browser initialization failed after {attempts} attempts"
  | .sessionLost cause => cause.message
  | .elementDisabled => "Element is not enabled for interaction"
  | .mismatch actual _ shown operator => s!"Expected '{actual}' {operator} '{shown}'"
  | .notBoolean value => s!"Value '{value}' is not a boolean"
  | .notNumeric role value => s!"{role} value '{value}' is not numeric"
  | .requestFailed method url cause => s!"HTTP {method} {url} failed: {cause.message}"
  | .requestRefused method url status _ => s!"HTTP {method} {url} returned status {status}"
  | .step description attempts ending cause =>
    match ending with
    | .refused => s!"Failed step '{description}': {cause.message}"
    | .exhausted => s!"Failed step '{description}' after {attempts} attempts: {cause.message}"
    | .silent => cause.message
  | .script test row stage failed =>
    match stage, row with
    | .assertion index, _ => s!"Assertion {index} of test '{test}' failed: {failed.message}"
    | .actions, some row => s!"Test '{test}' failed with data row {row}: {failed.message}"
    | .actions, none => s!"Test '{test}' failed: {failed.message}"
  | .dataset test rows _ =>
    s!"Test '{test}' failed for dataset row(s) {commaSeparated (rows.map toString)}"

def rowDatum (row : Option Nat) : Datum := (row.map fun number => Datum.int number).getD .null

def details : Failure -> Table Datum
  | .stated .stepFailed _ => [("attempts", .int 0)]
  | .invalidRecord _ _ record _ => [("record", .object record)]
  | .notFound _ _ attempts =>
    [("attempts", .list (attempts.map fun attempt =>
      .object [("selector", .text attempt.1), ("error", .text attempt.2)]))]
  | .mismatch actual expected _ operator =>
    [("actual", .text actual), ("expected", expected), ("operator", .text operator)]
  | .requestFailed method url _ => [("method", .text method), ("url", .text url)]
  | .requestRefused method url status body =>
    [("method", .text method), ("url", .text url), ("status", .int status), ("body", .text body)]
  | .step _ attempts _ _ => [("attempts", .int attempts)]
  | .script test row _ _ => [("test_id", .text test), ("row", rowDatum row)]
  | .dataset test rows _ =>
    [("test_id", .text test), ("rows", .list (rows.map fun (row : Nat) => .int row))]
  | _ => []

def cause? : Failure -> Option Failure
  | .timedOut _ _ _ cause => cause
  | .launchFailed _ cause => some cause
  | .sessionLost cause => some cause
  | .requestFailed _ _ cause => some (.fault cause)
  | .step _ _ _ cause => some cause
  | .script _ _ _ failed => some failed
  | .dataset _ _ failures => failures.head?
  | _ => none

def violations? : Failure -> Option (List Violation)
  | .misfit _ violations => some violations
  | .invalidRecord _ _ _ violations => some violations
  | .invalidCandidate _ violations => if violations.isEmpty then none else some violations
  | _ => none

/-- Phrases by which a browser says that the session is gone, in lower case. -/
def lostMarkers : List String :=
  ["target page, context or browser has been closed", "browser has been closed", "target closed",
   "connection closed", "browser has disconnected"]

def saysLost (message : String) : Bool :=
  let lowered := (Text.lowercase message).toList
  lostMarkers.any fun marker => Text.occursIn marker.toList lowered

/-- Whether a failure means that the browser session itself is gone: by its kind, or by a phrase
anywhere in its message. -/
def isSessionLost (failure : Failure) : Bool :=
  failure.kind? == some .sessionUnreachable || saysLost failure.message

/-- A fault of a reader, seen as a failure of what was to be read. -/
def lift {A : Type} (result : Except Fault A) : Except Failure A := result.mapError .fault

/-- The code of a failure, or the name of a fault, which has none. -/
def codeOrName (failure : Failure) : String := failure.code?.getD failure.name

end Failure

/-- A step that did not pass within its time. -/
structure StepFailure where
  description : String
  attempts : Nat
  ending : StepEnding
  cause : Failure

def StepFailure.toFailure (failure : StepFailure) : Failure :=
  .step failure.description failure.attempts failure.ending failure.cause

structure ScriptFailure where
  test : String
  row : Option Nat
  stage : Stage
  step : StepFailure

def ScriptFailure.toFailure (failure : ScriptFailure) : Failure :=
  .script failure.test failure.row failure.stage failure.step.toFailure

/-- The failures of the rows of one run, in the order of the rows. -/
structure DatasetFailure where
  test : String
  failures : List ScriptFailure

def DatasetFailure.rows (failure : DatasetFailure) : List Nat := failure.failures.filterMap (·.row)

def DatasetFailure.toFailure (failure : DatasetFailure) : Failure :=
  .dataset failure.test failure.rows (failure.failures.map ScriptFailure.toFailure)

end Rehearsal
