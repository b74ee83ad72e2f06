import Rehearsal.Dataset
import Rehearsal.Datum.Toml
import Rehearsal.Locator
import Rehearsal.Script

/-!
Catalogs: the pages with their elements, the tests with their scripts and datasets, and the
parameters. A catalog that is accepted names only pages and elements that it has.
-/

set_option autoImplicit false

namespace Rehearsal

open Failure (lift)

/-! ## Candidates -/

/-- The strategy under one of its two keys; a false value under the first counts as missing. -/
def Candidate.strategyOf (entry : Table Datum) : Datum :=
  match entry.get? "strategy" with
  | some value => if value.truthy then value else (entry.get? "type").getD .null
  | none => (entry.get? "type").getD .null

/-- The ordinal under one of its two keys, zero if both are missing. -/
def Candidate.ordinalOf (entry : Table Datum) : Datum :=
  match entry.get? "ordinal", entry.get? "index" with
  | some value, _ => value
  | none, some value => value
  | none, none => .int 0

/-- What is wrong with a candidate; it is shown with all that it holds. -/
def Candidate.refuse {A : Type} (entry : Table Datum) (broken : List Violation) :
    Except Failure A := do
  lift (Datum.object entry).checkWritable
  throw (.invalidCandidate entry broken)

def Candidate.parse (entry : Table Datum) : Except Failure Candidate := do
  let given := strategyOf entry
  match given.text?.bind Strategy.ofLabel? with
  | none => throw (.unsupportedStrategy (← lift given.written))
  | some strategy =>
    match (ordinalOf entry).toInt with
    | .error fault =>
      if fault.kind.isBadValue then refuse entry [] else throw (.fault fault)
    | .ok ordinal =>
      match (entry.get? "value").map Datum.written with
      | none | some (.error _) => refuse entry []
      | some (.ok value) =>
        if ordinal < 0 then refuse entry [Violation.at "ordinal" .atLeastBound]
        else return { ordinal := ordinal.toNat, strategy, value }

/-! ## Pages -/

structure Page where
  name : String
  path : String
  elements : Table (List Candidate)

namespace Page

def candidates (page : Page) (element : String) : Except Failure (List Candidate) :=
  match page.elements.get? element with
  | some candidates => .ok candidates
  | none => .error (.unknownElement page.name element)

/-- Candidates without an ordinal take their position in the list. -/
def readCandidate (position : Nat) (entry : Datum) : Except Failure Candidate := do
  let fields ← lift entry.toFields
  let fields := if fields.has "ordinal" then fields else fields.put "ordinal" (.int position)
  Candidate.parse fields

def readCandidates : Nat -> List Datum -> Except Failure (List Candidate)
  | _, [] => .ok []
  | position, entry :: rest => do
    let candidate ← readCandidate position entry
    return candidate :: (← readCandidates (position + 1) rest)

def sortCandidates (candidates : List Candidate) : List Candidate :=
  candidates.mergeSort fun left right => left.ordinal <= right.ordinal

/-- An element is an object with a list of locators, or that list itself. -/
def locatorsOf (element : Datum) : Datum :=
  match element with
  | .object fields => (Table.get? fields "locators").getD .null
  | value => value

def readElement (page name : String) (element : Datum) : Except Failure (List Candidate) := do
  let locators := locatorsOf element
  if !locators.truthy then throw (.noLocators page name)
  return sortCandidates (← readCandidates 0 (← lift locators.items))

def readElements (page : String) : Table Datum -> Except Failure (Table (List Candidate))
  | [] => .ok []
  | (name, element) :: rest => do
    let candidates ← readElement page name element
    return (name, candidates) :: (← readElements page rest)

def ofDatum (name : String) (value : Datum) : Except Failure Page := do
  let fields ← lift value.members
  let elements ← readElements name (← lift (Datum.membersOrNone (fields.get? "elements")))
  let path ← lift ((fields.get? "path").getD (.text "")).written
  return { name, path, elements }

end Page

/-! ## Tests -/

structure Test where
  name : String
  script : Script
  dataFile : Option String
  rows : Option (List Row)
  startPage : Option String
  resetsSession : Bool

namespace Test

def optionalText (key : String) : Form (Option String) :=
  Form.defaulted [key] none (Form.optional Form.text)

def textsForm : Form (Option String × Option String) :=
  Prod.mk <$> optionalText "data_file" <*> optionalText "start_page"

def loadRows (files : Files) (base : Path) (file : Option Datum) :
    Except Failure (Option (List Row)) :=
  match file with
  | none => .ok none
  | some (.text name) =>
    if name.isEmpty then .ok none else (Dataset.load files (base.child name)).map some
  | some value =>
    if value.truthy then .error (.fault ⟨.wrongType, "a file name was wanted"⟩) else .ok none

def ofDatum (files : Files) (base : Path) (name : String) (value : Datum) :
    Except Failure Test := do
  let fields ← lift value.members
  let actions ← lift (Datum.itemsOrNone (fields.get? "actions"))
  let assertions ← lift (Datum.itemsOrNone (fields.get? "assertions"))
  let script ← Script.ofDatum (.object
    [("test_id", .text name), ("actions", .list actions), ("assertions", .list assertions)])
  let rows ← loadRows files base (fields.get? "data_file")
  match textsForm.read fields with
  | .error broken => throw (.misfit "TestDefinition" broken)
  | .ok (dataFile, startPage) =>
    let resets := ((fields.get? "reset_session_per_row").getD (.bool false)).truthy
    return { name, script, dataFile, rows, startPage, resetsSession := resets }

end Test

/-! ## Catalogs -/

structure Catalog where
  pages : Table Page
  tests : Table Test
  params : Table String

namespace Catalog

def page (catalog : Catalog) (name : String) : Except Failure Page :=
  match catalog.pages.get? name with
  | some page => .ok page
  | none => .error (.unknownPage name)

def test (catalog : Catalog) (name : String) : Except Failure Test :=
  match catalog.tests.get? name with
  | some test => .ok test
  | none => .error (.unknownTest name)

def candidates (catalog : Catalog) (page element : String) : Except Failure (List Candidate) := do
  (← catalog.page page).candidates element

def pagePath (catalog : Catalog) (name : String) : Except Failure String :=
  (catalog.page name).map (·.path)

def rows (catalog : Catalog) (name : String) : Except Failure (Option (List Row)) :=
  (catalog.test name).map (·.rows)

/-- Looks up a page that is named, and its element if one is named too. -/
def checkTarget (catalog : Catalog) (header : Header) : Except Failure Unit :=
  match header.page with
  | some name =>
    if name.isEmpty then .ok ()
    else do
      let page ← catalog.page name
      match header.element with
      | some element => if element.isEmpty then return () else discard (page.candidates element)
      | none => return ()
  | none => .ok ()

def checkAction (catalog : Catalog) (action : Action) : Except Failure Unit := do
  catalog.checkTarget action.header
  match action.operation with
  | .navigate target => discard (catalog.page target)
  | .check _ _ _ =>
    if action.header.element.isNone then throw (.aimlessCheck action.header.index)
  | _ => return ()

def checkTest (catalog : Catalog) (test : Test) : Except Failure Unit := do
  match test.startPage with
  | some name => if !name.isEmpty then discard (catalog.page name)
  | none => pure ()
  test.script.actions.forM catalog.checkAction
  test.script.assertions.forM fun assertion => catalog.checkTarget assertion.header

def checkReferences (catalog : Catalog) : Except Failure Unit :=
  catalog.tests.forM fun entry => catalog.checkTest entry.2

def readAll {A : Type} (read : String -> Datum -> Except Failure A) :
    Table Datum -> Except Failure (Table A)
  | [] => .ok []
  | (name, value) :: rest => do
    let first ← read name value
    return (name, first) :: (← readAll read rest)

/-- Paths of datasets start at `base`. -/
def ofFields (files : Files) (base : Path) (fields : Table Datum) : Except Failure Catalog := do
  let pages ← readAll Page.ofDatum (← lift (Datum.membersOrNone (fields.get? "pages")))
  let tests ← lift (Datum.membersOrNone (fields.get? "tests"))
  let tests ← readAll (Test.ofDatum files base) tests
  let params ← lift (Datum.membersOrNone (fields.get? "params"))
  let params ← readAll (fun _ value => lift value.written) params
  let catalog : Catalog := { pages, tests, params }
  catalog.checkReferences
  return catalog

/-- Reads a catalog file; its datasets are looked for beside it. -/
def load (files : Files) (path : Path) : Except Failure Catalog := do
  if !(← lift (files.contains path)) then throw (.missingCatalog path.text)
  let bytes ← lift (files.read path)
  let fields ← lift (Toml.read (← lift (Text.decode bytes)))
  ofFields files path.parent fields

end Catalog

end Rehearsal
