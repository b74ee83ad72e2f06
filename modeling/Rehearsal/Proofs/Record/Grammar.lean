import Rehearsal.Proofs.Record.Restoring

/-!
The grammar of records, told apart from the forms that read them: which fields a variant has,
under which keys they may stand, what they hold, and what a record holds in place of a field
that is not given. Words are looked up in their closed set after an older spelling of them has
been replaced by the current one.
-/

set_option autoImplicit false

namespace Rehearsal

namespace Grammar

/-- A type of values, those of its values that a field allows, and how a record shows one. -/
structure Holding where
  HasType : Datum -> Prop
  Allows : Datum -> Prop
  shown : Datum -> Datum

inductive Presence where
  | required
  | optional
  | defaulted (value : Datum)

structure Field where
  /-- The keys that the field may stand under, the preferred one first. -/
  spellings : List String
  holding : Holding
  presence : Presence

namespace Field

def name (field : Field) : String := field.spellings.headD ""

def given? (field : Field) (table : Table Datum) : Option Datum :=
  field.spellings.findSome? table.get?

/-- Null stands for a value that is not given. -/
def value? (field : Field) (table : Table Datum) : Option Datum :=
  match field.given? table with
  | some .null => none
  | given => given

/-- What stands under a key of the field has the field's type, which only where there is a
default excludes null. -/
def Typed (field : Field) (table : Table Datum) : Prop :=
  ∀ key ∈ field.spellings, ∀ value, table.get? key = some value →
    field.holding.HasType value ∨ value = .null ∧ ∀ fallback, field.presence ≠ .defaulted fallback

def Filled (field : Field) (table : Table Datum) : Prop :=
  match field.value? table with
  | some value => field.holding.Allows value
  | none => field.presence ≠ .required

/-- The value of the field that a record holds, if it holds any. -/
def shown? (field : Field) (table : Table Datum) : Option Datum :=
  match field.value? table, field.presence with
  | some value, _ => some (field.holding.shown value)
  | none, .defaulted value => some value
  | none, _ => none

section

variable {field : Field} {table : Table Datum} {value : Datum}

theorem value?_eq_some :
    field.value? table = some value ↔ field.given? table = some value ∧ value ≠ .null := by
  unfold value?
  split
  next given =>
    rw [given]
    exact iff_of_false nofun fun ⟨null, present⟩ => present (Option.some.inj null).symm
  next other =>
    refine iff_self_and.mpr fun given null => ?_
    exact other (null ▸ given)

theorem filled_given (given : field.value? table = some value) :
    field.Filled table ↔ field.holding.Allows value := by
  simp only [Filled, given]

theorem filled_missing (missing : field.value? table = none) :
    field.Filled table ↔ field.presence ≠ .required := by
  simp only [Filled, missing]

theorem shown?_given (given : field.value? table = some value) :
    field.shown? table = some (field.holding.shown value) := by
  simp only [shown?, given]

theorem shown?_missing (missing : field.value? table = none)
    (plain : ∀ fallback, field.presence ≠ .defaulted fallback) : field.shown? table = none := by
  cases presence : field.presence with
  | defaulted value => exact absurd presence (plain value)
  | _ => simp only [shown?, missing, presence]

theorem shown?_fallback (missing : field.value? table = none)
    (fallback : field.presence = .defaulted value) : field.shown? table = some value := by
  simp only [shown?, missing, fallback]

end

end Field

def Typed (fields : List Field) (table : Table Datum) : Prop := ∀ field ∈ fields, field.Typed table

/-- Every key is one of a field's, and no field is spelled in two ways at once. -/
structure Declares (fields : List Field) (table : Table Datum) : Prop where
  known : ∀ key ∈ table.keys, ∃ field ∈ fields, key ∈ field.spellings
  once : ∀ field ∈ fields, ∀ key ∈ field.spellings, ∀ other ∈ field.spellings,
    key ∈ table.keys → other ∈ table.keys → key = other

theorem declares_congr {fields : List Field} {table other : Table Datum}
    (same : other.keys = table.keys) : Declares fields other ↔ Declares fields table := by
  constructor
  · rintro ⟨known, once⟩
    exact ⟨same ▸ known, same ▸ once⟩
  · rintro ⟨known, once⟩
    exact ⟨same ▸ known, same ▸ once⟩

def Fills (fields : List Field) (table : Table Datum) : Prop :=
  ∀ field ∈ fields, field.Filled table

/-- The fields of a record in their order, those left out that hold nothing. -/
def shown (fields : List Field) (table : Table Datum) : Table Datum :=
  fields.filterMap fun field => (field.shown? table).map fun value => (field.name, value)

section

variable (field : Field) (fields others : List Field) (table : Table Datum)

@[simp] theorem shown_nil : shown [] table = [] := rfl

theorem shown_append : shown (fields ++ others) table = shown fields table ++ shown others table :=
  List.filterMap_append

theorem shown_cons : shown (field :: fields) table =
    ((field.shown? table).map fun value => (field.name, value)).toList ++ shown fields table := by
  rw [shown, List.filterMap_cons]
  cases field.shown? table <;> rfl

end

/-! ## What fields hold -/

namespace Holding

def text : Holding where
  HasType value := ∃ text, value = .text text
  Allows _ := True
  shown value := value

def texts : Holding where
  HasType value := ∃ entries : Table String, value = .object (entries.mapValues Datum.text)
  Allows _ := True
  shown value := value

/-- Whole numbers from one on. -/
def whole : Holding where
  HasType value := ∃ number, value = .int number
  Allows value := ∃ number, value = .int number ∧ 1 ≤ number
  shown value := value

/-- Numbers above zero. -/
def seconds : Holding where
  HasType value := ∃ number, value = .real number
  Allows value := ∃ number, value = .real number ∧ 0.0 < number
  shown value := value

def current (older : Table String) (word : String) : String := (older.get? word).getD word

/-- The words of a closed set, some of which have an older spelling. -/
def word (words : List String) (older : Table String) : Holding where
  HasType value := ∃ word, value = .text word
  Allows value := ∃ word, value = .text word ∧ current older word ∈ words
  shown
    | .text word => .text (current older word)
    | value => value

end Holding

def required (spellings : List String) (holding : Holding) : Field :=
  { spellings, holding, presence := .required }

def optional (spellings : List String) (holding : Holding) : Field :=
  { spellings, holding, presence := .optional }

def defaulted (spellings : List String) (holding : Holding) (value : Datum) : Field :=
  { spellings, holding, presence := .defaulted value }

theorem value?_required {key text : String} {table : Table Datum}
    (held : table.get? key = some (.text text)) (holding : Holding) :
    (required [key] holding).value? table = some (.text text) := by
  simp [Field.value?, Field.given?, required, held]

/-! ## Waits -/

def olderKinds : Table String :=
  [("url.contains", "url_contains"), ("text.present", "text_present"), ("staleness", "stale")]

/-- The kinds of waits with the field that is a kind's own. -/
def kinds : Table (List Field) :=
  [("visible", []), ("clickable", []), ("present", []), ("invisible", []), ("stale", []),
   ("url_contains", [required ["fragment", "contains", "url"] .text]),
   ("text_present", [required ["text"] .text]), ("custom", [required ["script"] .text])]

def kindField : Field := required ["kind"] (.word kinds.keys olderKinds)

def waitFields (own : List Field) : List Field :=
  [optional ["timeout"] .seconds, kindField] ++ own

/-- The fields of a wait, by its kind. -/
def fieldsOfWait? (wait : Table Datum) : Option (List Field) :=
  match wait.get? "kind" with
  | some (.text kind) => (kinds.get? (Holding.current olderKinds kind)).map waitFields
  | _ => none

def Holding.wait : Holding where
  HasType value := ∃ wait, value = .object wait ∧ ∀ fields ∈ fieldsOfWait? wait, Typed fields wait
  Allows value := ∃ wait, value = .object wait ∧
    ∃ fields ∈ fieldsOfWait? wait, Declares fields wait ∧ Fills fields wait
  shown
    | .object wait => .object (Grammar.shown ((fieldsOfWait? wait).getD []) wait)
    | value => value

/-- What is shown of a wait has the kind of the wait. -/
theorem kind_of_shown {wait : Table Datum} {kind : String}
    (told : (shown ((fieldsOfWait? wait).getD []) wait).get? "kind" = some (.text kind)) :
    ∃ given, wait.get? "kind" = some (.text given) ∧ kind = Holding.current olderKinds given := by
  unfold fieldsOfWait? at told
  split at told
  next given held =>
    cases own : kinds.get? (Holding.current olderKinds given) with
    | none => simp [own] at told
    | some own =>
      have kinded : kindField.value? wait = some (.text given) := value?_required held _
      -- A time-out is shown before the kind, but under a key of its own.
      have untimed : Table.get? (((optional ["timeout"] .seconds).shown? wait).map
          fun value => ((optional ["timeout"] .seconds).name, value)).toList "kind" = none := by
        cases (optional ["timeout"] .seconds).shown? wait <;> rfl
      refine ⟨given, held, ?_⟩
      simp only [own, Option.map_some, Option.getD_some, waitFields, shown_append, shown_cons,
        Table.get?_append, untimed, Field.shown?_given kinded] at told
      exact (Datum.text.inj (Option.some.inj told)).symm
  · simp at told

/-- The kinds that wait for an element. -/
def elementKinds : List String :=
  ["visible", "clickable", "present", "invisible", "stale", "text_present"]

def WaitsForElement (table : Table Datum) : Prop :=
  ∃ (wait : Table Datum) (kind : String), table.get? "wait" = some (.object wait) ∧
    wait.get? "kind" = some (.text kind) ∧ Holding.current olderKinds kind ∈ elementKinds

/-! ## Records -/

def page : Field := optional ["page", "page_id"] .text

def element : Field := optional ["element", "element_id"] .text

def header : List Field :=
  [required ["index"] .whole, page, element, optional ["wait"] .wait,
   optional ["timeout"] .seconds]

/-- The field is given a text that is not empty. -/
def Field.IsNamed (field : Field) (table : Table Datum) : Prop :=
  ∃ name, field.given? table = some (.text name) ∧ name ≠ ""

end Grammar

open Grammar (Field)

/-- The grammar of one variant. -/
structure Grammar where
  name : String
  needsElement : Bool
  fields : List Field

namespace Grammar

def Coherent (grammar : Grammar) (table : Table Datum) : Prop :=
  (grammar.needsElement = true ∨ WaitsForElement table →
    page.IsNamed table ∧ element.IsNamed table) ∧
  (element.IsNamed table → page.IsNamed table)

structure Accepts (grammar : Grammar) (table : Table Datum) : Prop where
  declares : Declares grammar.fields table
  fills : Fills grammar.fields table
  coherent : grammar.Coherent table

/-! ## Actions -/

def text (key : String) : Field := required [key] .text

def ofAction (name : String) (needsElement : Bool) (value : Field) (own : List Field) : Grammar :=
  { name, needsElement, fields := header ++ [value, text "operation"] ++ own }

def value : Field := optional ["value"] .text

def onElement (name : String) : Grammar := ofAction name true value []

def onPage (name : String) (own : List Field) : Grammar := ofAction name false value own

def checkFields : List Field :=
  [required ["condition"] (.word ["visible", "enabled", "present"] []),
   required ["if_true_next", "ifTrueNext"] .whole, required ["if_false_next", "ifFalseNext"] .whole]

def produceFields : List Field :=
  [text "topic", optional ["key"] .text, optional ["message", "payload"] .text]

def consumeFields : List Field :=
  [text "topic", text "key", optional ["value_contains", "valueContains"] .text]

def httpCallFields : List Field :=
  [defaulted ["method"] .text (.text "GET"), text "url", optional ["body"] .text,
   defaulted ["headers"] .texts (.object [])]

def actions : List Grammar :=
  [ofAction "enter_text" true (defaulted ["value"] .text (.text "")) [],
   onElement "click",
   ofAction "select_option" true (text "value") [],
   onElement "hover", onElement "clear", onElement "submit", onElement "double_click",
   ofAction "upload_file" true (required ["value", "path"] .text) [],
   onPage "navigate" [required ["target_page", "targetPage"] .text],
   ofAction "check" true value checkFields,
   onPage "save_state" [required ["state_key", "stateKey"] .text],
   onPage "load_state" [required ["state_key", "stateKey"] .text],
   onPage "produce" produceFields, onPage "consume" consumeFields,
   onPage "http_call" httpCallFields]

theorem header_of_action : ∀ grammar ∈ actions, header <+: grammar.fields := by
  simp only [actions, List.forall_mem_cons]
  and_intros
  all_goals first | exact ⟨_, rfl⟩ | nofun

/-! ## Assertions -/

def operators : List String := ["equals", "contains", "true", "false", "greaterThan", "lessThan"]

def olderOperators : Table String := [("greater_than", "greaterThan"), ("less_than", "lessThan")]

/-- What the page is compared with, and how. -/
def compared : List Field :=
  [optional ["expected", "value"] .text,
   required ["operator", "condition"] (.word operators olderOperators), text "assertion_type"]

def ofAssertion (name : String) (needsElement : Bool) (own : List Field) : Grammar :=
  { name, needsElement, fields := header ++ compared ++ own }

def assertions : List Grammar :=
  [ofAssertion "url" false [], ofAssertion "visible" true [], ofAssertion "enabled" true [],
   ofAssertion "text" true [],
   ofAssertion "attribute" true [required ["attribute_name", "attributeName"] .text],
   ofAssertion "count" true []]

theorem header_of_assertion : ∀ grammar ∈ assertions, header ++ compared <+: grammar.fields := by
  simp only [assertions, List.forall_mem_cons]
  and_intros
  all_goals first | exact ⟨_, rfl⟩ | nofun

end Grammar

end Rehearsal
