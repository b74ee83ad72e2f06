import Rehearsal.Record.Header
import Rehearsal.Text.Casing

/-!
Actions: the steps of a script. All but the check lead to the next index.
-/

set_option autoImplicit false

namespace Rehearsal

inductive Condition where
  | visible
  | enabled
  | present
  deriving DecidableEq

def Condition.label : Condition -> String
  | .visible => "visible"
  | .enabled => "enabled"
  | .present => "present"

def Condition.all : List Condition := [.visible, .enabled, .present]

def Condition.ofLabel? (label : String) : Option Condition :=
  all.find? fun condition => condition.label == label

inductive Operation where
  | enterText
  | click
  | selectOption
  | hover
  | clear
  | submit
  | doubleClick
  | uploadFile
  | navigate (targetPage : String)
  | check (condition : Condition) (ifTrueNext ifFalseNext : Nat)
  | saveState (key : String)
  | loadState (key : String)
  | produce (topic : String) (key message : Option String)
  | consume (topic key : String) (valueContains : Option String)
  | httpCall (method url : String) (body : Option String) (headers : Table String)

def Operation.name : Operation -> String
  | .enterText => "enter_text"
  | .click => "click"
  | .selectOption => "select_option"
  | .hover => "hover"
  | .clear => "clear"
  | .submit => "submit"
  | .doubleClick => "double_click"
  | .uploadFile => "upload_file"
  | .navigate _ => "navigate"
  | .check _ _ _ => "check"
  | .saveState _ => "save_state"
  | .loadState _ => "load_state"
  | .produce _ _ _ => "produce"
  | .consume _ _ _ => "consume"
  | .httpCall _ _ _ _ => "http_call"

open Header in
def Operation.ownFields : Operation -> Table Datum
  | .navigate targetPage => [("target_page", .text targetPage)]
  | .check condition ifTrueNext ifFalseNext =>
    [("condition", .text condition.label), ("if_true_next", .int ifTrueNext),
     ("if_false_next", .int ifFalseNext)]
  | .saveState key | .loadState key => [("state_key", .text key)]
  | .produce topic key message =>
    ("topic", .text topic) :: textField "key" key ++ textField "message" message
  | .consume topic key valueContains =>
    ("topic", .text topic) :: ("key", .text key) :: textField "value_contains" valueContains
  | .httpCall method url body headers =>
    ("method", .text method) :: ("url", .text url) :: textField "body" body
      ++ [("headers", .object (headers.mapValues Datum.text))]
  | _ => []

structure Action where
  header : Header
  /-- What is typed, selected or uploaded; other operations only show it. -/
  value : Option String
  operation : Operation

namespace Action

def describe (action : Action) : String :=
  let header := action.header
  match action.operation with
  | .httpCall method url _ _ =>
    s!"Action {header.index} 'http_call' {Text.uppercase method} {url}"
  | operation =>
    let subject := s!"Action {header.index} '{operation.name}' on page '{header.pageName}'"
    let value := match action.value with
      | some value => s!" with value '{value}'"
      | none => ""
    let target := match operation with
      | .navigate page => s!", target page '{page}'"
      | _ => ""
    subject ++ header.elementPart ++ value ++ target

def payload (action : Action) : Table Datum :=
  action.header.payload ++ Header.textField "value" action.value
    ++ [("operation", .text action.operation.name)] ++ action.operation.ownFields

/-- The index that a check goes on with. -/
def branch (ifTrueNext ifFalseNext : Nat) (met : Bool) : Nat :=
  if met then ifTrueNext else ifFalseNext

/-- The indices that a check may go on with. -/
def targets (action : Action) : List Nat :=
  match action.operation with
  | .check _ ifTrueNext ifFalseNext => [ifTrueNext, ifFalseNext]
  | _ => []

end Action

end Rehearsal
