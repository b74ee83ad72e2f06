import Rehearsal.Fault

/-!
Comma separated texts. A field in quotes may hold commas, line ends and doubled quotes; after
its closing quote the field goes on plainly. An end of input closes whatever is open.
-/

set_option autoImplicit false

namespace Rehearsal.Csv

inductive Place where
  | recordStart
  | fieldStart
  | plain
  | quoted
  /-- After a quote inside a quoted field: the end of the field, or the first of two quotes. -/
  | quoteSeen
  deriving DecidableEq

/-- The record being read; `field` and `fields` stand in reverse. -/
structure Draft where
  place : Place
  field : List Char
  fields : List String
  records : List (List String)

def Draft.start : Draft := { place := .recordStart, field := [], fields := [], records := [] }

def Draft.endField (draft : Draft) : Draft :=
  { draft with field := [], fields := String.ofList draft.field.reverse :: draft.fields }

def Draft.endRecord (draft : Draft) : Draft :=
  { draft with
    place := .recordStart, fields := [], records := draft.fields.reverse :: draft.records }

def Draft.add (draft : Draft) (c : Char) (place : Place) : Draft :=
  { draft with place, field := c :: draft.field }

/-- A line end; an empty line makes an empty record. -/
def Draft.endLine (draft : Draft) (ending : List Char) : Draft :=
  match draft.place with
  | .recordStart => draft.endRecord
  | .quoted => ending.foldl (fun draft c => draft.add c .quoted) draft
  | .fieldStart | .plain | .quoteSeen => draft.endField.endRecord

def Draft.step (draft : Draft) (c : Char) : Draft :=
  match draft.place with
  | .recordStart | .fieldStart =>
    if c == '"' then { draft with place := .quoted }
    else if c == ',' then { draft.endField with place := .fieldStart }
    else draft.add c .plain
  | .plain => if c == ',' then { draft.endField with place := .fieldStart } else draft.add c .plain
  | .quoted => if c == '"' then { draft with place := .quoteSeen } else draft.add c .quoted
  | .quoteSeen =>
    if c == '"' then draft.add c .quoted
    else if c == ',' then { draft.endField with place := .fieldStart }
    else draft.add c .plain

def run (draft : Draft) : List Char -> Draft
  | '\r' :: '\n' :: rest => run (draft.endLine ['\r', '\n']) rest
  | '\r' :: rest => run (draft.endLine ['\r']) rest
  | '\n' :: rest => run (draft.endLine ['\n']) rest
  | c :: rest => run (draft.step c) rest
  | [] => draft

def Draft.finish (draft : Draft) : List (List String) :=
  let closed := match draft.place with
    | .recordStart => draft
    | _ => draft.endField.endRecord
  closed.records.reverse

def mostChars : Nat := 131072

def tooLarge : Fault := ⟨.badTable, s!"field larger than field limit ({mostChars})"⟩

/-- All records of a text, the empty ones of blank lines included. -/
def records (text : String) : Except Fault (List (List String)) :=
  let found := (run Draft.start text.toList).finish
  if found.any fun fields => fields.any fun field => mostChars < field.length then
    .error tooLarge
  else .ok found

end Rehearsal.Csv
