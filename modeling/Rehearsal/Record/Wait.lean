import Rehearsal.Record.Form

/-!
Wait conditions: what a record waits for before its step is taken.
-/

set_option autoImplicit false

namespace Rehearsal

inductive WaitCondition where
  | visible
  | clickable
  | present
  | invisible
  | stale
  | urlContains (fragment : String)
  | textPresent (text : String)
  /-- A script of the page that must answer with true. -/
  | custom (script : String)
  deriving DecidableEq

structure Wait where
  condition : WaitCondition
  timeout : Option Float

namespace WaitCondition

def kind : WaitCondition -> String
  | .visible => "visible"
  | .clickable => "clickable"
  | .present => "present"
  | .invisible => "invisible"
  | .stale => "stale"
  | .urlContains _ => "url_contains"
  | .textPresent _ => "text_present"
  | .custom _ => "custom"

/-- Conditions on an element; the other two are conditions on the page. -/
def needsElement : WaitCondition -> Bool
  | .urlContains _ | .custom _ => false
  | _ => true

def ownField : WaitCondition -> Table Datum
  | .urlContains fragment => [("fragment", .text fragment)]
  | .textPresent text => [("text", .text text)]
  | .custom script => [("script", .text script)]
  | _ => []

/-- Older spellings of the kinds. -/
def oldKinds : Table String :=
  [("url.contains", "url_contains"), ("text.present", "text_present"), ("staleness", "stale")]

def form? (kind : String) : Option (Form WaitCondition) :=
  match kind with
  | "visible" => some (pure .visible)
  | "clickable" => some (pure .clickable)
  | "present" => some (pure .present)
  | "invisible" => some (pure .invisible)
  | "stale" => some (pure .stale)
  | "url_contains" =>
    some (.urlContains <$> Form.required ["fragment", "contains", "url"] Form.text)
  | "text_present" => some (.textPresent <$> Form.required ["text"] Form.text)
  | "custom" => some (.custom <$> Form.required ["script"] Form.text)
  | _ => none

end WaitCondition

namespace Wait

/-- The field that a form only has to know, since its value was looked at before. -/
def tagForm (tag : String) : Form Unit := Form.defaulted [tag] () fun _ _ => .ok ()

def ofParts (timeout : Option Float) (_ : Unit) (condition : WaitCondition) : Wait :=
  { condition, timeout }

def form (condition : Form WaitCondition) : Form Wait :=
  ofParts <$> Form.defaulted ["timeout"] none (Form.optional Form.positive) <*> tagForm "kind"
    <*> condition

/-- An object is read by the form of its kind; nothing else is a wait. -/
def reader : Form.Reader Wait := fun key value =>
  match value with
  | .object fields =>
    let kind := ((Table.get? fields "kind").bind Datum.text?).getD ""
    match WaitCondition.form? kind with
    | some condition =>
      match (form condition).run fields with
      | .ok wait => .ok wait
      | .error broken => .error (broken.map (Violation.under [key, kind]))
    | none => .error [Violation.at key .isWait]
  | _ => .error [Violation.at key .isWait]

def payload (wait : Wait) : Datum :=
  .object ((wait.timeout.map fun seconds => ("timeout", Datum.real seconds)).toList
    ++ [("kind", .text wait.condition.kind)] ++ wait.condition.ownField)

end Wait

end Rehearsal
