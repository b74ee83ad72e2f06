import Rehearsal.Datum.Reading
import Rehearsal.Failure
import Rehearsal.Record.Action
import Rehearsal.Record.Assertion

/-!
The two registries of records. A registry finds the form of a record by its tag; before the form
reads the record, older spellings of tags, wait kinds and operators are replaced, and words
outside their closed sets are refused.
-/

set_option autoImplicit false

namespace Rehearsal

open Failure (lift)

structure Variant (A : Type) where
  name : String
  /-- The name that reports give to the variant. -/
  model : String
  description : String
  needsElement : Bool
  form : Form A

structure Registry (A : Type) where
  tag : String
  unsupported : FailureKind
  oldNames : Table String
  variants : List (Variant A)
  header : A -> Header

namespace Registry

variable {A : Type}

def find? (registry : Registry A) (name : String) : Option (Variant A) :=
  let current := (registry.oldNames.get? name).getD name
  registry.variants.find? fun variant => variant.name == current

def get (registry : Registry A) (name : String) : Except Failure (Variant A) :=
  match registry.find? name with
  | some variant => .ok variant
  | none => .error (.unsupportedTag registry.unsupported registry.tag name)

/-- A word in its current spelling; lists and objects are no words. -/
def current (oldWords : Table String) (value : Datum) : Except Failure Datum :=
  match value with
  | .text word => .ok (.text ((oldWords.get? word).getD word))
  | .list _ | .object _ => .error (.fault ⟨.wrongType, "a word was wanted"⟩)
  | value => .ok value

def isWord (words : List String) (value : Datum) : Bool :=
  value.text?.any fun word => words.contains word

def waitKinds : List String :=
  ["visible", "clickable", "present", "invisible", "stale", "url_contains", "text_present",
   "custom"]

def normalizeWaitFields (record wait : Table Datum) : Except Failure (Table Datum) := do
  let given := (wait.get? "kind").getD .null
  let kind ← current WaitCondition.oldKinds given
  if isWord waitKinds kind then return record.put "wait" (.object (wait.put "kind" kind))
  else throw (.unsupportedWait (← lift given.written))

/-- A bare text is the kind of a wait. -/
def normalizeWait (record : Table Datum) : Except Failure (Table Datum) :=
  match record.get? "wait" with
  | some (.text kind) => normalizeWaitFields record [("kind", .text kind)]
  | some (.object fields) => normalizeWaitFields record fields
  | _ => .ok record

/-- Conditions belong to actions; any other word is refused even where none is wanted. -/
def checkCondition (record : Table Datum) : Except Failure Unit := do
  match record.get? "condition" with
  | some condition =>
    if record.has "operation" && !isWord (Condition.all.map Condition.label) condition then
      throw (.unsupportedCondition (← lift condition.written))
  | none => return ()

def normalizeOperator (record : Table Datum) (key : String) : Except Failure (Table Datum) :=
  match record.get? key with
  | some given =>
    if record.has "assertion_type" then do
      let operator ← current Operator.oldLabels given
      if isWord (Operator.all.map Operator.label) operator then return record.put key operator
      else throw (.unsupportedCondition (← lift given.written))
    else .ok record
  | none => .ok record

def normalizeIndex (record : Table Datum) : Except Failure (Table Datum) :=
  match record.get? "index" with
  | none | some .null => .ok record
  | some given =>
    match given.toInt with
    | .ok index => .ok (record.put "index" (.int index))
    | .error fault => .error (.fault fault)

def normalize (record : Table Datum) : Except Failure (Table Datum) := do
  let record ← normalizeWait record
  checkCondition record
  let record ← normalizeOperator record "operator"
  let record ← normalizeOperator record "condition"
  normalizeIndex record

/-- Reads the fields, and then looks at how they fit together. -/
def validate (registry : Registry A) (variant : Variant A) (record : Table Datum) : Checked A :=
  match variant.form.run record with
  | .error broken => .error broken
  | .ok value =>
    match (registry.header value).conflict? variant.name variant.needsElement with
    | some note =>
      .error [{ place := [], rule := .coherent, note := some ("Value error, " ++ note) }]
    | none => .ok value

def parse (registry : Registry A) (record : Table Datum) : Except Failure A := do
  match record.get? registry.tag with
  | none | some .null =>
    lift (Datum.object record).checkWritable
    throw (.untagged registry.tag record)
  | some tag =>
    let variant ← registry.get (← lift tag.written)
    let record ← normalize (record.put registry.tag (.text variant.name))
    match registry.validate variant record with
    | .ok value => return value
    | .error broken =>
      lift ((record.get? "index").getD .null).checkWritable
      throw (.invalidRecord variant.name variant.model record broken)

end Registry

/-! ## Actions -/

namespace Action

def ofParts (header : Header) (value : Option String) (_ : Unit) (operation : Operation) : Action :=
  { header, value, operation }

def form (value : Form (Option String)) (operation : Form Operation) : Form Action :=
  ofParts <$> Header.form <*> value <*> Wait.tagForm "operation" <*> operation

def optionalText (keys : List String) : Form (Option String) :=
  Form.defaulted keys none (Form.optional Form.text)

/-- A value that may be missing, but not be null. -/
def ownedValue : Form (Option String) := some <$> Form.defaulted ["value"] "" Form.text

def neededValue (keys : List String) : Form (Option String) := some <$> Form.required keys Form.text

def anyValue : Form (Option String) := optionalText ["value"]

def checkForm : Form Operation :=
  .check <$> Form.required ["condition"] (Form.word Condition.ofLabel?)
    <*> Form.required ["if_true_next", "ifTrueNext"] (Form.intFrom 1)
    <*> Form.required ["if_false_next", "ifFalseNext"] (Form.intFrom 1)

def produceForm : Form Operation :=
  .produce <$> Form.required ["topic"] Form.text <*> optionalText ["key"]
    <*> optionalText ["message", "payload"]

def consumeForm : Form Operation :=
  .consume <$> Form.required ["topic"] Form.text <*> Form.required ["key"] Form.text
    <*> optionalText ["value_contains", "valueContains"]

def httpCallForm : Form Operation :=
  .httpCall <$> Form.defaulted ["method"] "GET" Form.text <*> Form.required ["url"] Form.text
    <*> optionalText ["body"] <*> Form.defaulted ["headers"] [] Form.texts

def onElement (name model : String) (value : Form (Option String)) (operation : Form Operation)
    (description : String) : Variant Action :=
  { name, model, description, needsElement := true, form := form value operation }

/-- An operation that may do without an element. -/
def onPage (name model : String) (operation : Form Operation) : Variant Action :=
  { name, model, description := "", needsElement := false, form := form anyValue operation }

def stateKey : Form String := Form.required ["state_key", "stateKey"] Form.text

def targetPage : Form String := Form.required ["target_page", "targetPage"] Form.text

def variants : List (Variant Action) :=
  [onElement "enter_text" "EnterTextAction" ownedValue (pure .enterText)
     "Type text into a field and confirm its value",
   onElement "click" "ClickAction" anyValue (pure .click) "",
   onElement "select_option" "SelectOptionAction" (neededValue ["value"]) (pure .selectOption)
     "Select an option by visible text",
   onElement "hover" "HoverAction" anyValue (pure .hover) "",
   onElement "clear" "ClearAction" anyValue (pure .clear) "",
   onElement "submit" "SubmitAction" anyValue (pure .submit) "",
   onElement "double_click" "DoubleClickAction" anyValue (pure .doubleClick) "",
   onElement "upload_file" "UploadFileAction" (neededValue ["value", "path"]) (pure .uploadFile) "",
   onPage "navigate" "NavigateAction" (.navigate <$> targetPage),
   onElement "check" "CheckAction" anyValue checkForm "Conditional jump",
   onPage "save_state" "SaveStateAction" (.saveState <$> stateKey),
   onPage "load_state" "LoadStateAction" (.loadState <$> stateKey),
   onPage "produce" "ProduceAction" produceForm,
   onPage "consume" "ConsumeAction" consumeForm,
   onPage "http_call" "HttpCallAction" httpCallForm]

def oldNames : Table String :=
  [("enter", "enter_text"), ("type", "enter_text"), ("select", "select_option"),
   ("doubleClick", "double_click"), ("uploadFile", "upload_file"), ("saveState", "save_state"),
   ("loadState", "load_state"), ("kafkaProduce", "produce"), ("kafkaConsume", "consume"),
   ("restCall", "http_call")]

end Action

def operations : Registry Action :=
  { tag := "operation", unsupported := .unsupportedOperation, oldNames := Action.oldNames
    variants := Action.variants, header := Action.header }

/-! ## Assertions -/

namespace Assertion

def ofParts (header : Header) (expected : Option String) (operator : Operator) (_ : Unit)
    (aspect : Aspect) : Assertion :=
  { header, expected, operator, aspect }

def form (aspect : Form Aspect) : Form Assertion :=
  ofParts <$> Header.form <*> Action.optionalText ["expected", "value"]
    <*> Form.required ["operator", "condition"] (Form.word Operator.ofLabel?)
    <*> Wait.tagForm "assertion_type" <*> aspect

def variant (name model : String) (needsElement : Bool) (aspect : Form Aspect) :
    Variant Assertion :=
  { name, model, description := "", needsElement, form := form aspect }

def attributeName : Form String := Form.required ["attribute_name", "attributeName"] Form.text

def variants : List (Variant Assertion) :=
  [variant "url" "UrlAssertion" false (pure .url),
   variant "visible" "VisibleAssertion" true (pure .visible),
   variant "enabled" "EnabledAssertion" true (pure .enabled),
   variant "text" "TextAssertion" true (pure .text),
   variant "attribute" "AttributeAssertion" true (.attributeValue <$> attributeName),
   variant "count" "CountAssertion" true (pure .count)]

end Assertion

def assertions : Registry Assertion :=
  { tag := "assertion_type", unsupported := .unsupportedAssertion, oldNames := []
    variants := Assertion.variants, header := Assertion.header }

end Rehearsal
