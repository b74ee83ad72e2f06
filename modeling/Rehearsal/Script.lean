import Rehearsal.Record.Registry

/-!
Scripts: the actions and the assertions of one test, each numbered from one without gaps and
put in order.
-/

set_option autoImplicit false

namespace Rehearsal

structure Script where
  test : String
  actions : List Action
  assertions : List Assertion

open Failure (lift)

namespace Script

/-- The first place where an index is not the one that is due. -/
def gap? (indices : List Nat) (due : Nat) : Option (Nat × Nat) :=
  match indices with
  | [] => none
  | index :: rest => if index == due then gap? rest (due + 1) else some (due, index)

/-- Sorts records by their indices, which must run from one without a gap. -/
def inOrder {A : Type} (index : A -> Nat) (test records : String) (items : List A) :
    Except Failure (List A) :=
  let sorted := items.mergeSort fun left right => index left <= index right
  match gap? (sorted.map index) 1 with
  | none => .ok sorted
  | some (expected, found) => do
    lift (Datum.int found).checkWritable
    throw (.indexGap test records expected found)

def ofRecords (test : String) (actions : List Action) (assertions : List Assertion) :
    Except Failure Script := do
  let actions ← inOrder (·.header.index) test "action" actions
  let assertions ← inOrder (·.header.index) test "assertion" assertions
  return { test, actions, assertions }

def branchTargets (script : Script) : List Nat := script.actions.flatMap Action.targets

/-- A bad value inside a script makes the whole script unfit. -/
def unfit : Failure -> Failure
  | .fault origin =>
    if origin.kind.isBadValue then
      .misfit "TestScript" [{ place := [], rule := .coherent, note := none }]
    else .fault origin
  | failure => failure

def parseRecords {A : Type} (registry : Registry A) (value : Option Datum) :
    Except Failure (List A) := do
  let entries ← lift (value.getD (.list [])).items
  entries.mapM fun entry => do registry.parse (← lift entry.toFields)

/-- The fields of a script other than its records. -/
def testForm : Form String :=
  (fun test _ _ => test) <$> Form.required ["test_id"] Form.text <*> Wait.tagForm "actions"
    <*> Wait.tagForm "assertions"

def readParts (fields : Table Datum) : Except Failure (List Action × List Assertion) := do
  let shown ← lift ((fields.get? "test_id").getD (.text "?")).written
  let actions ← parseRecords Rehearsal.operations (fields.get? "actions")
  let assertions ← parseRecords Rehearsal.assertions (fields.get? "assertions")
  let script ← ofRecords shown actions assertions
  return (script.actions, script.assertions)

/-- The records are read and put in order before the other fields are looked at. -/
def ofDatum (value : Datum) : Except Failure Script :=
  match value with
  | .object fields => do
    let (actions, assertions) ← (readParts fields).mapError unfit
    match testForm.run fields with
    | .ok test => return { test, actions, assertions }
    | .error broken => throw (.misfit "TestScript" broken)
  | _ => .error (.misfit "TestScript" [{ place := [], rule := .isObject, note := none }])

end Script

end Rehearsal
