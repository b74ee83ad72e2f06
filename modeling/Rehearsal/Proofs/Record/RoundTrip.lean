import Rehearsal.Proofs.Record.Restoring

/-!
Records survive being written. The payload of a record is in order already, so that
normalization leaves it as it is, and the form that has read the record reads it again.
-/

set_option autoImplicit false

namespace Rehearsal

open Failure (lift)

/-! ## Waits -/

namespace WaitCondition

/-- The form of a kind reads only conditions of that kind. -/
theorem restores_of_read {kind : String} {form : Form WaitCondition} {table : Table Datum}
    {condition : WaitCondition} (known : form? kind = some form)
    (read : form.read table = .ok condition) :
    condition.kind = kind ∧ form.Restores condition condition.ownField := by
  unfold form? at known
  split at known <;> cases known
  case h_6 =>
    obtain ⟨fragment, -, rfl⟩ := (Form.read_map ..).mp read
    exact ⟨rfl, .map _ (.required rfl)⟩
  case h_7 =>
    obtain ⟨text, -, rfl⟩ := (Form.read_map ..).mp read
    exact ⟨rfl, .map _ (.required rfl)⟩
  case h_8 =>
    obtain ⟨script, -, rfl⟩ := (Form.read_map ..).mp read
    exact ⟨rfl, .map _ (.required rfl)⟩
  all_goals
    cases read
    exact ⟨rfl, .constant _⟩

theorem apart_of_form {kind : String} {form : Form WaitCondition} (known : form? kind = some form) :
    ∀ key ∈ ["timeout", "kind"], key ∉ form.fields.flatten := by
  unfold form? at known
  split at known <;> cases known <;> decide

end WaitCondition

namespace Wait

theorem reader_eq_ok {key : String} {given : Datum} {wait : Wait} :
    reader key given = .ok wait ↔ ∃ fields form, given = .object fields ∧
      WaitCondition.form? (((Table.get? fields "kind").bind Datum.text?).getD "") = some form ∧
      (Wait.form form).run fields = .ok wait := by
  constructor
  · intro reading
    unfold reader at reading
    split at reading
    next fields =>
      dsimp only at reading
      split at reading
      next form known =>
        split at reading
        next read ran =>
          cases reading
          exact ⟨fields, form, rfl, known, ran⟩
        · cases reading
      · cases reading
    · cases reading
  · rintro ⟨fields, form, rfl, known, ran⟩
    simp only [reader, known, ran]

def written (wait : Wait) : Table Datum :=
  Header.realField "timeout" wait.timeout ++ [("kind", .text wait.condition.kind)]
    ++ wait.condition.ownField

theorem get?_kind (wait : Wait) :
    wait.written.get? "kind" = some (.text wait.condition.kind) := by
  obtain ⟨condition, timeout⟩ := wait
  cases timeout <;> rfl

theorem restores_of_read {kind : String} {condition : Form WaitCondition} {table : Table Datum}
    {wait : Wait} (known : WaitCondition.form? kind = some condition)
    (read : (form condition).read table = .ok wait) :
    wait.condition.kind = kind ∧ (form condition).Restores wait wait.written := by
  simp only [form, Form.read_seq, Form.read_map] at read
  obtain ⟨_, held, ⟨_, _, ⟨timeout, seconds, rfl⟩, -, rfl⟩, own, rfl⟩ := read
  obtain ⟨named, owned⟩ := WaitCondition.restores_of_read known own
  have above : ∀ number ∈ timeout, 0.0 < number := by
    intro number held
    obtain ⟨_, _, passed⟩ := Form.read_optional seconds number held
    exact Form.positive_bound passed
  exact ⟨named, ((((Header.restores_seconds "timeout" above).map ofParts).seq (.defaulted rfl)
    (by decide)).seq owned (WaitCondition.apart_of_form known))⟩

theorem reader_payload {key : String} {given : Datum} {wait : Wait}
    (reading : reader key given = .ok wait) (other : String) :
    reader other wait.payload = .ok wait := by
  obtain ⟨fields, form, rfl, known, ran⟩ := reader_eq_ok.mp reading
  obtain ⟨named, restores⟩ := restores_of_read known (Form.read_of_run ran)
  refine reader_eq_ok.mpr ⟨wait.written, form, rfl, ?_, restores.run⟩
  rw [get?_kind, named]
  exact known

end Wait

/-! ## Headers -/

namespace Header

theorem restores_of_read {table : Table Datum} {header : Header}
    (read : form.read table = .ok header) : form.Restores header header.payload := by
  simp only [form, Form.read_seq, Form.read_map] at read
  obtain ⟨_, timeout, ⟨_, wait, ⟨_, element, ⟨_, page, ⟨index, whole, rfl⟩, -, rfl⟩, -, rfl⟩,
    waits, rfl⟩, seconds, rfl⟩ := read
  obtain ⟨_, _, -, high⟩ := Form.read_required whole
  have least := Form.intFrom_least high
  have above : ∀ number ∈ timeout, 0.0 < number := by
    intro number held
    obtain ⟨_, _, passed⟩ := Form.read_optional seconds number held
    exact Form.positive_bound passed
  have waiting : ∀ given ∈ wait, Wait.reader "wait" given.payload = .ok given ∧
      given.payload ≠ .null := by
    intro given held
    obtain ⟨_, _, passed⟩ := Form.read_optional waits given held
    exact ⟨Wait.reader_payload passed "wait", by simp [Wait.payload]⟩
  exact (((((Form.Restores.required (Form.intFrom_int "index" least)).map ofParts).seq
    (restores_text "page") (by decide)).seq (restores_text "element") (by decide)).seq
    (.optional waiting) (by decide)).seq (restores_seconds "timeout" above) (by decide)

end Header

/-! ## Actions -/

namespace Action

theorem nodup_fields : ∀ variant ∈ variants, variant.form.fields.flatten.Nodup := by decide

/-- The form reads values that it restores from the field of that name. -/
def RestoresValue (form : Form (Option String)) : Prop :=
  ∀ table value, form.read table = .ok value →
    form.Restores value (Header.textField "value" value)

theorem restoresValue_owned : RestoresValue ownedValue := by
  intro table value read
  obtain ⟨text, -, rfl⟩ := (Form.read_map ..).mp read
  exact .map some (.defaulted rfl)

theorem restoresValue_needed (others : List String) :
    RestoresValue (neededValue ("value" :: others)) := by
  intro table value read
  obtain ⟨text, -, rfl⟩ := (Form.read_map ..).mp read
  exact .map some (.required rfl)

theorem restoresValue_any : RestoresValue anyValue := fun _ _ _ => Header.restores_text "value"

/-- The form reads operations of one name and restores each from its own fields. -/
def RestoresOperation (name : String) (form : Form Operation) : Prop :=
  ∀ table operation, form.read table = .ok operation →
    operation.name = name ∧ form.Restores operation operation.ownFields

theorem restoresOperation_bare (operation : Operation) (bare : operation.ownFields = []) :
    RestoresOperation operation.name (pure operation) := by
  intro table given read
  cases read
  exact ⟨rfl, bare ▸ .constant operation⟩

theorem restoresOperation_text {name key : String} {others : List String}
    {make : String -> Operation} (named : ∀ text, (make text).name = name)
    (owned : ∀ text, (make text).ownFields = [(key, .text text)]) :
    RestoresOperation name (make <$> Form.required (key :: others) Form.text) := by
  intro table operation read
  obtain ⟨text, -, rfl⟩ := (Form.read_map ..).mp read
  exact ⟨named text, owned text ▸ .map make (.required rfl)⟩

theorem restoresOperation_check : RestoresOperation "check" checkForm := by
  intro table operation read
  simp only [checkForm, Form.read_seq, Form.read_map] at read
  obtain ⟨_, ifFalse, ⟨_, ifTrue, ⟨condition, -, rfl⟩, first, rfl⟩, second, rfl⟩ := read
  obtain ⟨_, _, -, first⟩ := Form.read_required first
  obtain ⟨_, _, -, second⟩ := Form.read_required second
  have labelled : Form.word Condition.ofLabel? "condition" (.text condition.label)
      = .ok condition := by cases condition <;> rfl
  exact ⟨rfl, (((Form.Restores.required labelled).map Operation.check).seq
    (.required (Form.intFrom_int _ (Form.intFrom_least first))) (by decide)).seq
    (.required (Form.intFrom_int _ (Form.intFrom_least second))) (by decide)⟩

theorem restoresOperation_produce : RestoresOperation "produce" produceForm := by
  intro table operation read
  simp only [produceForm, Form.read_seq, Form.read_map] at read
  obtain ⟨_, message, ⟨_, key, ⟨topic, -, rfl⟩, -, rfl⟩, -, rfl⟩ := read
  exact ⟨rfl, (((Form.Restores.required rfl).map Operation.produce).seq
    (Header.restores_text "key") (by decide)).seq (Header.restores_text "message") (by decide)⟩

theorem restoresOperation_consume : RestoresOperation "consume" consumeForm := by
  intro table operation read
  simp only [consumeForm, Form.read_seq, Form.read_map] at read
  obtain ⟨_, contains, ⟨_, key, ⟨topic, -, rfl⟩, -, rfl⟩, -, rfl⟩ := read
  exact ⟨rfl, (((Form.Restores.required rfl).map Operation.consume).seq
    (.required rfl) (by decide)).seq (Header.restores_text "value_contains") (by decide)⟩

theorem restoresOperation_httpCall : RestoresOperation "http_call" httpCallForm := by
  intro table operation read
  simp only [httpCallForm, Form.read_seq, Form.read_map] at read
  obtain ⟨_, headers, ⟨_, body, ⟨_, url, ⟨method, -, rfl⟩, -, rfl⟩, -, rfl⟩, -, rfl⟩ := read
  exact ⟨rfl, ((((Form.Restores.defaulted rfl).map Operation.httpCall).seq (.required rfl)
    (by decide)).seq (Header.restores_text "body") (by decide)).seq
    (.defaulted (Form.texts_object "headers" headers)) (by decide)⟩

theorem parts_of_variant : ∀ variant ∈ variants, ∃ value operation,
    variant.form = form value operation ∧ RestoresValue value ∧
      RestoresOperation variant.name operation := by
  simp only [variants, List.forall_mem_cons]
  exact ⟨⟨_, _, rfl, restoresValue_owned, restoresOperation_bare .enterText rfl⟩,
    ⟨_, _, rfl, restoresValue_any, restoresOperation_bare .click rfl⟩,
    ⟨_, _, rfl, restoresValue_needed [], restoresOperation_bare .selectOption rfl⟩,
    ⟨_, _, rfl, restoresValue_any, restoresOperation_bare .hover rfl⟩,
    ⟨_, _, rfl, restoresValue_any, restoresOperation_bare .clear rfl⟩,
    ⟨_, _, rfl, restoresValue_any, restoresOperation_bare .submit rfl⟩,
    ⟨_, _, rfl, restoresValue_any, restoresOperation_bare .doubleClick rfl⟩,
    ⟨_, _, rfl, restoresValue_needed ["path"], restoresOperation_bare .uploadFile rfl⟩,
    ⟨_, _, rfl, restoresValue_any, restoresOperation_text (fun _ => rfl) fun _ => rfl⟩,
    ⟨_, _, rfl, restoresValue_any, restoresOperation_check⟩,
    ⟨_, _, rfl, restoresValue_any, restoresOperation_text (fun _ => rfl) fun _ => rfl⟩,
    ⟨_, _, rfl, restoresValue_any, restoresOperation_text (fun _ => rfl) fun _ => rfl⟩,
    ⟨_, _, rfl, restoresValue_any, restoresOperation_produce⟩,
    ⟨_, _, rfl, restoresValue_any, restoresOperation_consume⟩,
    ⟨_, _, rfl, restoresValue_any, restoresOperation_httpCall⟩, nofun⟩

theorem restores_of_read {variant : Variant Action} (member : variant ∈ variants)
    {table : Table Datum} {action : Action} (read : variant.form.read table = .ok action) :
    action.operation.name = variant.name ∧ variant.form.Restores action action.payload := by
  have distinct := nodup_fields variant member
  obtain ⟨value, operation, same, values, operations⟩ := parts_of_variant variant member
  rw [same] at read distinct ⊢
  simp only [form, Form.read_seq, Form.read_map] at read
  obtain ⟨_, operation, ⟨_, _, ⟨_, value, ⟨header, headed, rfl⟩, valued, rfl⟩, -, rfl⟩,
    operated, rfl⟩ := read
  obtain ⟨distinct, last⟩ := Form.apart_of_nodup distinct
  obtain ⟨distinct, tagged⟩ := Form.apart_of_nodup distinct
  obtain ⟨distinct, first⟩ := Form.apart_of_nodup distinct
  obtain ⟨named, owned⟩ := operations table operation operated
  exact ⟨named, ((((Header.restores_of_read headed).map ofParts).seq (values table value valued)
    first).seq (.defaulted rfl) tagged).seq owned last⟩

end Action

/-! ## Assertions -/

namespace Assertion

theorem nodup_fields : ∀ variant ∈ variants, variant.form.fields.flatten.Nodup := by decide

def RestoresAspect (name : String) (form : Form Aspect) : Prop :=
  ∀ table aspect, form.read table = .ok aspect →
    aspect.name = name ∧ form.Restores aspect aspect.ownFields

theorem restoresAspect_bare (aspect : Aspect) (bare : aspect.ownFields = []) :
    RestoresAspect aspect.name (pure aspect) := by
  intro table given read
  cases read
  exact ⟨rfl, bare ▸ .constant aspect⟩

theorem restoresAspect_attribute :
    RestoresAspect "attribute" (.attributeValue <$> attributeName) := by
  intro table aspect read
  obtain ⟨name, -, rfl⟩ := (Form.read_map ..).mp read
  exact ⟨rfl, .map Aspect.attributeValue (.required rfl)⟩

theorem parts_of_variant : ∀ variant ∈ variants, ∃ aspect,
    variant.form = form aspect ∧ RestoresAspect variant.name aspect := by
  simp only [variants, List.forall_mem_cons]
  exact ⟨⟨_, rfl, restoresAspect_bare .url rfl⟩, ⟨_, rfl, restoresAspect_bare .visible rfl⟩,
    ⟨_, rfl, restoresAspect_bare .enabled rfl⟩, ⟨_, rfl, restoresAspect_bare .text rfl⟩,
    ⟨_, rfl, restoresAspect_attribute⟩, ⟨_, rfl, restoresAspect_bare .count rfl⟩, nofun⟩

theorem restores_of_read {variant : Variant Assertion} (member : variant ∈ variants)
    {table : Table Datum} {assertion : Assertion}
    (read : variant.form.read table = .ok assertion) :
    assertion.aspect.name = variant.name ∧
      variant.form.Restores assertion assertion.payload := by
  have distinct := nodup_fields variant member
  obtain ⟨aspect, same, aspects⟩ := parts_of_variant variant member
  rw [same] at read distinct ⊢
  simp only [form, Form.read_seq, Form.read_map] at read
  obtain ⟨_, aspect, ⟨_, _, ⟨_, operator, ⟨_, expected, ⟨header, headed, rfl⟩, -, rfl⟩, -, rfl⟩,
    -, rfl⟩, judged, rfl⟩ := read
  obtain ⟨distinct, last⟩ := Form.apart_of_nodup distinct
  obtain ⟨distinct, tagged⟩ := Form.apart_of_nodup distinct
  obtain ⟨distinct, second⟩ := Form.apart_of_nodup distinct
  obtain ⟨distinct, first⟩ := Form.apart_of_nodup distinct
  obtain ⟨named, owned⟩ := aspects table aspect judged
  have labelled : Form.word Operator.ofLabel? "operator" (.text operator.label)
      = .ok operator := by cases operator <;> rfl
  -- The payload in the order in which the form combines its parts.
  have written : payload (ofParts header expected operator () aspect) =
      header.payload ++ Header.textField "expected" expected
        ++ [("operator", .text operator.label)] ++ [("assertion_type", .text aspect.name)]
        ++ aspect.ownFields := by
    simp only [payload, ofParts, List.append_assoc, List.cons_append, List.nil_append]
  exact ⟨named, written ▸ (((((Header.restores_of_read headed).map ofParts).seq
    (Header.restores_text "expected") first).seq (.required labelled) second).seq
    (.defaulted rfl) tagged).seq owned last⟩

end Assertion

/-! ## Parsing what was written -/

namespace Header

theorem get?_textField (key other : String) (value : Option String) :
    Table.get? (textField key value) other =
      if key == other then value.map Datum.text else none := by
  cases value <;> simp [textField, Table.get?_cons]

theorem get?_realField (key other : String) (value : Option Float) :
    Table.get? (realField key value) other =
      if key == other then value.map Datum.real else none := by
  cases value <;> simp [realField, Table.get?_cons]

theorem get?_payload_index (header : Header) :
    header.payload.get? "index" = some (.int header.index) := by
  simp [payload, Table.get?_cons]

theorem get?_payload_wait (header : Header) :
    header.payload.get? "wait" = header.wait.map Wait.payload := by
  cases waiting : header.wait <;>
    simp [payload, Table.get?_append, get?_textField, get?_realField, Table.get?_cons, waiting]

theorem get?_payload_foreign (header : Header) {key : String}
    (foreign : key ∉ ["index", "page", "element", "wait", "timeout"]) :
    header.payload.get? key = none := by
  simp only [List.mem_cons, List.not_mem_nil, or_false, not_or, ← ne_eq] at foreign
  obtain ⟨index, page, element, wait, timeout⟩ := foreign
  cases waiting : header.wait <;>
    simp [payload, Table.get?_append, get?_textField, get?_realField, Table.get?_cons, waiting,
      index.symm, page.symm, element.symm, wait.symm, timeout.symm]

end Header

namespace Registry

/-- Normalization finds nothing to do: the words of the record are in their current spelling. -/
structure Settled (record : Table Datum) : Prop where
  wait : ∀ given, record.get? "wait" = some given → ∃ wait : Wait, given = wait.payload
  index : ∃ index, record.get? "index" = some (.int index)
  condition : ∀ given, record.get? "condition" = some given →
    record.has "assertion_type" = false ∧ ∃ condition : Condition, given = .text condition.label
  operator : ∀ given, record.get? "operator" = some given →
    ∃ operator : Operator, given = .text operator.label

theorem normalize_settled {record : Table Datum} (settled : Settled record) :
    normalize record = .ok record := by
  have waits : normalizeWait record = .ok record := by
    unfold normalizeWait
    cases held : record.get? "wait" with
    | none => rfl
    | some given =>
      obtain ⟨wait, rfl⟩ := settled.wait given held
      have kind : current WaitCondition.oldKinds (.text wait.condition.kind)
          = .ok (.text wait.condition.kind) := by
        cases wait.condition <;> rfl
      have known : isWord waitKinds (.text wait.condition.kind) = true := by
        cases wait.condition <;> rfl
      change normalizeWaitFields record wait.written = .ok record
      simp only [normalizeWaitFields, Wait.get?_kind, Option.getD_some, kind, known, if_true,
        Table.put_same (Wait.get?_kind wait), bind, Except.bind]
      exact congrArg Except.ok (Table.put_same held)
  have conditions : checkCondition record = .ok () := by
    unfold checkCondition
    cases held : record.get? "condition" with
    | none => rfl
    | some given =>
      obtain ⟨-, condition, rfl⟩ := settled.condition given held
      cases condition <;> simp [isWord, Condition.all, Condition.label, Datum.text?] <;> rfl
  have operators : normalizeOperator record "operator" = .ok record := by
    unfold normalizeOperator
    cases held : record.get? "operator" with
    | none => rfl
    | some given =>
      obtain ⟨operator, rfl⟩ := settled.operator given held
      have same : current Operator.oldLabels (.text operator.label)
          = .ok (.text operator.label) := by
        cases operator <;> rfl
      have known : isWord (Operator.all.map Operator.label) (.text operator.label) = true := by
        cases operator <;> rfl
      simp only [same, known, if_true, Table.put_same held, bind, Except.bind]
      split <;> rfl
  have words : normalizeOperator record "condition" = .ok record := by
    unfold normalizeOperator
    cases held : record.get? "condition" with
    | none => rfl
    | some given =>
      obtain ⟨untagged, -⟩ := settled.condition given held
      simp only [untagged, Bool.false_eq_true, if_false]
  have indices : normalizeIndex record = .ok record := by
    obtain ⟨index, held⟩ := settled.index
    simp only [normalizeIndex, held, Datum.toInt, Table.put_same held]
  simp only [normalize, waits, conditions, operators, words, indices, bind, Except.bind]

end Registry

namespace Action

theorem get?_payload_wait (action : Action) :
    action.payload.get? "wait" = action.header.wait.map Wait.payload := by
  have unowned : action.operation.ownFields.get? "wait" = none := by
    cases action.operation <;>
      simp [Operation.ownFields, Table.get?_append, Table.get?_cons, Header.get?_textField]
  simp [payload, Table.get?_append, Header.get?_payload_wait, Header.get?_textField,
    Table.get?_cons, unowned]

theorem get?_payload_operation (action : Action) :
    action.payload.get? "operation" = some (.text action.operation.name) := by
  simp [payload, Table.get?_append, Header.get?_payload_foreign, Header.get?_textField,
    Table.get?_cons]

theorem settled_payload {variant : Variant Action} (member : variant ∈ variants)
    {action : Action} (restores : variant.form.Restores action action.payload) :
    Registry.Settled action.payload := by
  have foreign : ∀ variant ∈ variants, "operator" ∉ variant.form.fields.flatten ∧
      "assertion_type" ∉ variant.form.fields.flatten := by decide
  obtain ⟨operator, tag⟩ := foreign variant member
  refine ⟨fun given held => ?_, ⟨action.header.index, ?_⟩, fun given held => ⟨?_, ?_⟩,
    fun given held => ?_⟩
  · rw [get?_payload_wait, Option.map_eq_some_iff] at held
    obtain ⟨wait, -, same⟩ := held
    exact ⟨wait, same.symm⟩
  · simp [payload, Table.get?_append, Header.get?_payload_index]
  · exact Table.has_eq_false (mt (restores.mem_flatten _) tag)
  · -- Only a check has a field of its own by that name, and there it is a label.
    have owned : action.operation.ownFields.get? "condition" = some given := by
      simpa [payload, Table.get?_append, Header.get?_payload_foreign, Header.get?_textField,
        Table.get?_cons] using held
    cases operation : action.operation <;>
      simp [operation, Operation.ownFields, Table.get?_append, Table.get?_cons,
        Header.get?_textField] at owned
    exact ⟨_, owned.symm⟩
  · have absent := Table.get?_eq_none (mt (restores.mem_flatten "operator") operator)
    rw [absent] at held
    cases held

end Action

namespace Assertion

theorem get?_payload_wait (assertion : Assertion) :
    assertion.payload.get? "wait" = assertion.header.wait.map Wait.payload := by
  have unowned : assertion.aspect.ownFields.get? "wait" = none := by
    cases assertion.aspect <;> simp [Aspect.ownFields, Table.get?_cons]
  simp [payload, Table.get?_append, Header.get?_payload_wait, Header.get?_textField,
    Table.get?_cons, unowned]

theorem get?_payload_type (assertion : Assertion) :
    assertion.payload.get? "assertion_type" = some (.text assertion.aspect.name) := by
  simp [payload, Table.get?_append, Header.get?_payload_foreign, Header.get?_textField,
    Table.get?_cons]

theorem settled_payload (assertion : Assertion) : Registry.Settled assertion.payload := by
  have unowned : assertion.aspect.ownFields.get? "condition" = none := by
    cases assertion.aspect <;> simp [Aspect.ownFields, Table.get?_cons]
  refine ⟨fun given held => ?_, ⟨assertion.header.index, ?_⟩, fun given held => ?_,
    fun given held => ⟨assertion.operator, ?_⟩⟩
  · rw [get?_payload_wait, Option.map_eq_some_iff] at held
    obtain ⟨wait, -, same⟩ := held
    exact ⟨wait, same.symm⟩
  · simp [payload, Table.get?_append, Header.get?_payload_index]
  · simp [payload, Table.get?_append, Header.get?_payload_foreign, Header.get?_textField,
      Table.get?_cons, unowned] at held
  · simpa [payload, Table.get?_append, Header.get?_payload_foreign, Header.get?_textField,
      Table.get?_cons, eq_comm] using held

end Assertion

namespace Registry

variable {A : Type} {registry : Registry A} {variant : Variant A}

theorem validate_eq_ok {record : Table Datum} {value : A} :
    registry.validate variant record = .ok value ↔ variant.form.run record = .ok value ∧
      (registry.header value).conflict? variant.name variant.needsElement = none := by
  unfold validate
  cases variant.form.run record with
  | error broken => simp
  | ok given =>
    cases conflict : (registry.header given).conflict? variant.name variant.needsElement with
    | none =>
      simp only [conflict, Except.ok.injEq, iff_self_and]
      rintro rfl
      exact conflict
    | some note =>
      simp only [conflict, reduceCtorEq, Except.ok.injEq, false_iff, not_and]
      rintro rfl
      simp [conflict]

section

variable {record : Table Datum} (found : registry.find? variant.name = some variant)
  (tagged : record.get? registry.tag = some (.text variant.name))

include found tagged

/-- A record with a current tag is normalized and then validated. -/
theorem parse_of_tagged :
    registry.parse record = normalize record >>= fun later =>
      match registry.validate variant later with
      | .ok value => pure value
      | .error broken =>
        lift ((later.get? "index").getD .null).checkWritable >>= fun _ =>
          throw (.invalidRecord variant.name variant.model later broken) := by
  have got : registry.get variant.name = .ok variant := by simp only [get, found]
  have written : lift (Datum.written (.text variant.name)) = .ok variant.name := rfl
  simp only [parse, tagged, written, bind, Except.bind, got, Table.put_same tagged] <;> rfl

theorem parse_tagged {value : A} :
    registry.parse record = .ok value ↔ ∃ later, normalize record = .ok later ∧
      registry.validate variant later = .ok value := by
  rw [parse_of_tagged found tagged, bind_eq_ok]
  refine exists_congr fun later => and_congr_right fun _ => ?_
  cases validated : registry.validate variant later with
  | ok given => simp [pure, Except.pure]
  | error broken => exact iff_of_false (then_throw_ne_ok _ _ _) (by simp)

theorem parse_settled {value : A} (settled : Settled record)
    (ran : variant.form.run record = .ok value) {other : Table Datum}
    (valid : registry.validate variant other = .ok value) :
    registry.parse record = .ok value :=
  (parse_tagged found tagged).mpr ⟨record, normalize_settled settled,
    validate_eq_ok.mpr ⟨ran, (validate_eq_ok.mp valid).2⟩⟩

end

theorem find_operation : ∀ variant ∈ operations.variants,
    operations.find? variant.name = some variant := by
  simp only [operations, Action.variants, List.forall_mem_cons]
  and_intros
  all_goals first | rfl | nofun

theorem find_assertion : ∀ variant ∈ assertions.variants,
    assertions.find? variant.name = some variant := by
  simp only [assertions, Assertion.variants, List.forall_mem_cons]
  and_intros
  all_goals first | rfl | nofun

/-- A record that a registry has accepted is read back from its own payload, and so the payload
is the one it was read from. -/
theorem parse_payload :
    (∀ raw action, operations.parse raw = .ok action →
      operations.parse action.payload = .ok action) ∧
    (∀ raw assertion, assertions.parse raw = .ok assertion →
      assertions.parse assertion.payload = .ok assertion) := by
  constructor
  · intro raw action parsed
    obtain ⟨variant, member, table, valid⟩ := validate_of_parse parsed
    obtain ⟨named, restores⟩ := Action.restores_of_read member (read_of_validate valid)
    exact parse_settled (find_operation variant member)
      (named ▸ action.get?_payload_operation) (Action.settled_payload member restores)
      restores.run valid
  · intro raw assertion parsed
    obtain ⟨variant, member, table, valid⟩ := validate_of_parse parsed
    obtain ⟨named, restores⟩ := Assertion.restores_of_read member (read_of_validate valid)
    exact parse_settled (find_assertion variant member)
      (named ▸ assertion.get?_payload_type) assertion.settled_payload restores.run valid

theorem parse_payload_of_old_spellings :
    ∃ action assertion,
      operations.parse [("operation", .text "enter"), ("index", .int 1), ("page_id", .text "login"),
        ("element_id", .text "user"), ("wait", .text "staleness")] = .ok action ∧
      operations.parse action.payload = .ok action ∧
      assertions.parse [("condition", .text "greater_than"), ("index", .int 2),
        ("assertion_type", .text "url"), ("value", .text "1")] = .ok assertion ∧
      assertions.parse assertion.payload = .ok assertion := by
  have entering : operations.parse [("operation", .text "enter"), ("index", .int 1),
      ("page_id", .text "login"), ("element_id", .text "user"), ("wait", .text "staleness")]
      = .ok { header := ⟨1, "login", "user", some ⟨.stale, none⟩, none⟩, value := "",
              operation := .enterText } := rfl
  have comparing : assertions.parse [("condition", .text "greater_than"), ("index", .int 2),
      ("assertion_type", .text "url"), ("value", .text "1")]
      = .ok { header := ⟨2, none, none, none, none⟩, expected := "1", operator := .greaterThan,
              aspect := .url } := rfl
  exact ⟨_, _, entering, parse_payload.1 _ _ entering, comparing, parse_payload.2 _ _ comparing⟩

end Registry

end Rehearsal
