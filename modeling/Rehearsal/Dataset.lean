import Rehearsal.Dataset.Csv
import Rehearsal.Datum.Json
import Rehearsal.Failure
import Rehearsal.Files.Basic
import Rehearsal.Text.Utf8

/-!
Datasets: the rows that a test is replayed with. Every value becomes a text. A table in CSV has
a header row; cells beyond it are gathered under one more column, and missing cells are empty.
-/

set_option autoImplicit false

namespace Rehearsal

open Failure (lift)

abbrev Row := Table String

namespace Dataset

/-- The column for the cells that have none. -/
def surplusColumn : String := "None"

/-- Pairs the header with the cells of one record. -/
def rowOf (header cells : List String) : Row :=
  let paired := Table.ofList (header.zip cells)
  let filled := (header.drop cells.length).foldl (fun row column => row.put column "") paired
  let surplus := cells.drop header.length
  if surplus.isEmpty then filled
  else filled.put surplusColumn (Datum.list (surplus.map .text)).inner

/-- Blank lines are no rows; a blank first line is a header without columns. -/
def ofCsv (text : String) : Except Fault (List Row) := do
  match ← Csv.records text with
  | [] => return []
  | header :: records => return (records.filter fun cells => !cells.isEmpty).map (rowOf header)

def ofJson (path : String) (value : Datum) : Except Failure (List Row) :=
  match value.list?.bind fun items => items.mapM Datum.object? with
  | some rows => .ok (rows.map fun fields => fields.mapValues Datum.display)
  | none => .error (.misshapenDataset path)

/-- Every line end as one character. -/
def plainLineEnds : List Char -> List Char
  | '\r' :: '\n' :: rest => '\n' :: plainLineEnds rest
  | '\r' :: rest => '\n' :: plainLineEnds rest
  | c :: rest => c :: plainLineEnds rest
  | [] => []

def joinLineEnds (text : String) : String := String.ofList (plainLineEnds text.toList)

def load (files : Files) (path : Path) : Except Failure (List Row) := do
  if !(← lift (files.contains path)) then throw (.missingDataset path.text)
  let suffix := Text.lowercase path.suffix
  if suffix == ".csv" || suffix == ".json" then
    let bytes ← lift (files.read path)
    if suffix == ".csv" then lift (ofCsv (← lift (Text.decodeByChunks bytes)))
    else
      let text := joinLineEnds (← lift (Text.decode bytes))
      ofJson path.text (← lift (Json.read text))
  else throw (.unsupportedDataset path.text)

end Dataset

end Rehearsal
