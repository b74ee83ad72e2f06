import Rehearsal.Proofs.Record.Normalizing

/-!
Which records the registries accept: those of their grammar, and each with the fields that its
grammar shows.
-/

set_option autoImplicit false

namespace Rehearsal

open Grammar (Field Holding Declares Fills Typed)

/-! ## Forms of records -/

theorem Renews.plain {words keys : List String} {raw later : Table Datum}
    (renews : Renews words raw later) (foreign : ∀ key ∈ keys, key ∉ "wait" :: words) :
    ∀ key ∈ keys, later.get? key = (raw.get? key).map id := by
  intro key member
  obtain ⟨wait, words⟩ := not_or.mp (mt List.mem_cons.mpr (foreign key member))
  rw [renews.same key wait words, Option.map_id_fun, id]

theorem Renews.unwaited {keys : List String} {raw later : Table Datum}
    (renews : Renews [] raw later) (foreign : "wait" ∉ keys) :
    ∀ key ∈ keys, later.get? key = (raw.get? key).map id :=
  renews.plain fun _ member waits => foreign (List.mem_singleton.mp waits ▸ member)

namespace Header

variable {words : List String} {raw later : Table Datum}

structure Told (header : Header) (raw : Table Datum) : Prop where
  payload : header.payload = Grammar.shown Grammar.header raw
  page : header.page.map Datum.text = Grammar.page.shown? raw
  element : header.element.map Datum.text = Grammar.element.shown? raw
  wait : header.wait.map Wait.payload = (Grammar.optional ["wait"] .wait).shown? raw

theorem meets_form (renews : Renews words raw later) (known : ∀ key ∈ words, key ∈ operatorKeys)
    (typed : Typed Grammar.header raw) :
    form.Meets Grammar.header (fun header => header.Told raw) raw later := by
  have plain : ∀ {keys : List String}, (∀ key ∈ keys, key ∉ "wait" :: operatorKeys) →
      ∀ key ∈ keys, later.get? key = (raw.get? key).map id := fun foreign =>
    renews.plain fun key member =>
      mt (List.cons_subset_cons _ known ·) (foreign key member)
  simp only [Typed, Grammar.header, List.forall_mem_cons] at typed
  obtain ⟨whole, paged, elemental, waits, timed, -⟩ := typed
  have index := Form.meets_required rfl Form.reads_whole whole (plain (by decide))
  have page := Form.meets_optional rfl Form.reads_text paged (plain (by decide))
  have element := Form.meets_optional rfl Form.reads_text elemental (plain (by decide))
  have wait := Form.meets_optional rfl Wait.reads_wait waits
    (List.forall_mem_singleton.mpr renews.wait)
  have timeout := Form.meets_optional rfl Form.reads_seconds timed (plain (by decide))
  refine ((((index.map (f := ofParts) ?_).seq page).seq element).seq wait).seq timeout
  intro number indexed pageName paged elementName named waiting waits seconds timed
  refine ⟨?_, paged, named, waits⟩
  simp only [Grammar.header, Grammar.shown_cons, ← indexed, ← paged, ← named, ← waits, ← timed]
  cases pageName <;> cases elementName <;> cases waiting <;> cases seconds <;> rfl

end Header

/-! ## How the fields of a record fit together -/

namespace Header

theorem conflict?_eq_none_iff {header : Header} {name : String} {needsElement : Bool} :
    header.conflict? name needsElement = none ↔
      ((needsElement = true ∨
          (header.wait.any fun wait => wait.condition.needsElement) = true →
        named header.page = true ∧ named header.element = true) ∧
      (named header.element = true → named header.page = true)) := by
  unfold conflict? hasTarget
  cases header.wait with
  | none =>
    cases needsElement <;> cases named header.page <;> cases named header.element <;> simp
  | some wait =>
    cases needsElement <;> cases named header.page <;> cases named header.element <;>
      cases wait.condition.needsElement <;> simp

variable {raw : Table Datum}

theorem named_iff {field : Field} (plain : field.presence = .optional)
    (texts : field.holding = .text) {name : Option String}
    (told : name.map Datum.text = field.shown? raw) : named name = true ↔ field.IsNamed raw := by
  have shown : field.shown? raw = field.value? raw := by
    cases value : field.value? raw with
    | none => exact Field.shown?_missing value (by simp [plain])
    | some given => rw [Field.shown?_given value, texts]; rfl
  have given : ∀ text, field.given? raw = some (.text text) ↔ name = some text := by
    intro text
    have value := @Field.value?_eq_some field raw (.text text)
    rw [← shown, ← told, Option.map_eq_some_iff] at value
    simpa using value.symm
  simp only [Field.IsNamed, given]
  cases name <;> simp [named]

theorem needsElement_iff (condition : WaitCondition) :
    condition.needsElement = true ↔ condition.kind ∈ Grammar.elementKinds := by
  cases condition <;> simp [WaitCondition.needsElement, WaitCondition.kind, Grammar.elementKinds]

theorem waits_iff {wait : Option Wait} (typed : (Grammar.optional ["wait"] .wait).Typed raw)
    (told : wait.map Wait.payload = (Grammar.optional ["wait"] .wait).shown? raw) :
    (wait.any fun wait => wait.condition.needsElement) = true ↔
      Grammar.WaitsForElement raw := by
  have given : (Grammar.optional ["wait"] .wait).given? raw = raw.get? "wait" := by
    simp only [Field.given?, Grammar.optional, List.findSome?_cons, List.findSome?_nil]
    cases raw.get? "wait" <;> rfl
  cases value : (Grammar.optional ["wait"] .wait).value? raw with
  | none =>
    rw [Field.shown?_missing value (by simp [Grammar.optional]), Option.map_eq_none_iff] at told
    subst told
    refine iff_of_false (by simp) ?_
    rintro ⟨fields, kind, held, -⟩
    rw [Field.value?_eq_some.mpr ⟨given.trans held, by simp⟩] at value
    cases value
  | some value =>
    obtain ⟨held, present⟩ := Field.value?_eq_some.mp value
    rw [given] at held
    obtain ⟨fields, rfl, -⟩ | ⟨null, -⟩ := typed "wait" List.mem_cons_self _ held
    · rw [Field.shown?_given value, Option.map_eq_some_iff] at told
      obtain ⟨wait, rfl, same⟩ := told
      -- The kind of the wait that was read is the one it shows, in the current spelling.
      have kind := wait.get?_kind
      rw [show wait.written = _ from Datum.object.inj same] at kind
      obtain ⟨word, named, current⟩ := Grammar.kind_of_shown kind
      rw [Option.any_some, needsElement_iff, current]
      constructor
      · exact fun known => ⟨fields, word, held, named, known⟩
      · rintro ⟨other, again, given, kinded, known⟩
        rw [held] at given
        cases given
        rw [named] at kinded
        cases kinded
        exact known
    · exact absurd null present

theorem conflict?_of_told {header : Header} {grammar : Grammar} {name : String}
    (told : header.Told raw) (typed : (Grammar.optional ["wait"] .wait).Typed raw) :
    header.conflict? name grammar.needsElement = none ↔ grammar.Coherent raw := by
  rw [conflict?_eq_none_iff, waits_iff typed told.wait, named_iff rfl rfl told.page,
    named_iff rfl rfl told.element]
  rfl

end Header

/-! ## Acceptance -/

namespace Registry

variable {A : Type} {registry : Registry A} {variant : Variant A} {payload : A -> Table Datum}
  {words : List String} {grammar : Grammar} {raw : Table Datum}

/-- What is known of a value that was read from a record of its grammar. -/
structure Told (registry : Registry A) (payload : A -> Table Datum) (grammar : Grammar)
    (raw : Table Datum) (value : A) : Prop where
  header : (registry.header value).Told raw
  payload : payload value = Grammar.shown grammar.fields raw

/-- The form reads the records of a grammar, given their later version. -/
def MeetsGrammar (registry : Registry A) (payload : A -> Table Datum) (words : List String)
    (form : Form A) (grammar : Grammar) : Prop :=
  ∀ raw later, Renews words raw later → Typed grammar.fields raw →
    raw.get? registry.tag = some (.text grammar.name) →
    form.Meets grammar.fields (registry.Told payload grammar raw) raw later

/-- The variant of a grammar: the registry finds it, and its form reads the grammar's records. -/
structure Implements (registry : Registry A) (payload : A -> Table Datum) (words : List String)
    (variant : Variant A) (grammar : Grammar) : Prop where
  found : registry.find? grammar.name = some variant
  name : variant.name = grammar.name
  needsElement : variant.needsElement = grammar.needsElement
  spelled : variant.form.fields = grammar.fields.map Field.spellings
  meets : registry.MeetsGrammar payload words variant.form grammar

theorem shaped_of_typed (headed : ∀ field ∈ Grammar.header, field ∈ grammar.fields)
    (typed : Typed grammar.fields raw) : Shaped raw where
  wait given held := by
    have wait := typed (Grammar.optional ["wait"] .wait) (headed _ (by simp [Grammar.header]))
    rcases wait "wait" List.mem_cons_self given held with ⟨fields, rfl, -⟩ | ⟨null, -⟩
    · exact .inr ⟨fields, rfl⟩
    · exact .inl null
  index given held := by
    have index := typed (Grammar.required ["index"] .whole) (headed _ (by simp [Grammar.header]))
    rcases index "index" List.mem_cons_self given held with ⟨number, rfl⟩ | ⟨null, -⟩
    · exact .inr ⟨number, rfl⟩
    · exact .inl null

theorem accepts_iff (implements : registry.Implements payload words variant grammar)
    (distinct : (grammar.fields.map Field.spellings).flatten.Nodup)
    (headed : ∀ field ∈ Grammar.header, field ∈ grammar.fields)
    (renews : Declares grammar.fields raw → ∀ later, normalize raw = .ok later →
      Renews words raw later)
    (worded : Declares grammar.fields raw → Fills grammar.fields raw → Worded raw)
    (tagged : raw.get? registry.tag = some (.text grammar.name))
    (typed : Typed grammar.fields raw) :
    ((∃ value, registry.parse raw = .ok value) ↔ grammar.Accepts raw) ∧
      ∀ value, registry.parse raw = .ok value →
        payload value = Grammar.shown grammar.fields raw := by
  obtain ⟨found, name, needsElement, spelled, meets⟩ := implements
  have parsed (value : A) : registry.parse raw = .ok value ↔ ∃ later,
      normalize raw = .ok later ∧ registry.validate variant later = .ok value :=
    parse_tagged (name ▸ found) (name ▸ tagged)
  have read : ∀ value later, normalize raw = .ok later →
      registry.validate variant later = .ok value →
      Declares grammar.fields raw ∧ variant.form.read later = .ok value ∧
        (registry.header value).conflict? variant.name grammar.needsElement = none := by
    intro value later normal valid
    obtain ⟨ran, coherent⟩ := validate_eq_ok.mp valid
    obtain ⟨read, strays⟩ := Form.run_eq_ok.mp ran
    exact ⟨(strays_of_normalize distinct spelled normal).mp strays, read,
      needsElement ▸ coherent⟩
  have waits : (Grammar.optional ["wait"] .wait).Typed raw :=
    typed _ (headed _ (by simp [Grammar.header]))
  refine ⟨⟨?_, ?_⟩, ?_⟩
  · rintro ⟨value, parses⟩
    obtain ⟨later, normal, valid⟩ := (parsed value).mp parses
    obtain ⟨declares, reads, coherent⟩ := read value later normal valid
    have met := meets raw later (renews declares later normal) typed tagged
    have told := met.tells value reads
    exact ⟨declares, met.fills.mp ⟨value, reads⟩,
      (Header.conflict?_of_told told.header waits).mp coherent⟩
  · rintro ⟨declares, fills, coherent⟩
    obtain ⟨later, normal⟩ := exists_normalize (shaped_of_typed headed typed)
      (worded declares fills)
    have met := meets raw later (renews declares later normal) typed tagged
    obtain ⟨value, reads⟩ := met.fills.mpr fills
    have told := met.tells value reads
    have strays := (strays_of_normalize distinct spelled normal).mpr declares
    refine ⟨value, (parsed value).mpr ⟨later, normal, validate_eq_ok.mpr
      ⟨Form.run_eq_ok.mpr ⟨reads, strays⟩, ?_⟩⟩⟩
    rw [needsElement]
    exact (Header.conflict?_of_told told.header waits).mpr coherent
  · intro value parses
    obtain ⟨later, normal, valid⟩ := (parsed value).mp parses
    obtain ⟨declares, reads, -⟩ := read value later normal valid
    exact ((meets raw later (renews declares later normal) typed tagged).tells value reads).payload

end Registry

/-! ## Actions -/

namespace Action

open Grammar (ofAction)

/-- The form reads the value of an action from that field. -/
def MeetsValue (form : Form (Option String)) (field : Field) : Prop :=
  ∀ raw later, Renews [] raw later → field.Typed raw → form.Meets [field]
    (fun value => Header.textField "value" value = Grammar.shown [field] raw) raw later

theorem meetsValue_any : MeetsValue anyValue Grammar.value := by
  intro raw later renews typed
  refine (Form.meets_optional rfl Form.reads_text typed (renews.plain (by decide))).imp ?_
  intro value _ told
  rw [Grammar.shown_cons, ← told]
  cases value <;> rfl

theorem meetsValue_needed {others : List String} (foreign : "wait" ∉ "value" :: others) :
    MeetsValue (neededValue ("value" :: others)) (Grammar.required ("value" :: others) .text) := by
  intro raw later renews typed
  refine (Form.meets_required rfl Form.reads_text typed (renews.unwaited foreign)).map ?_
  intro value told
  rw [Grammar.shown_cons, ← told]
  rfl

theorem meetsValue_owned :
    MeetsValue ownedValue (Grammar.defaulted ["value"] .text (.text "")) := by
  intro raw later renews typed
  refine (Form.meets_defaulted Form.reads_text "" rfl typed (renews.plain (by decide))).map ?_
  intro value told
  rw [Grammar.shown_cons, ← told]
  rfl

/-- What is known of an operation that was read from fields of its own. -/
structure Owns (name : String) (own : List Field) (raw : Table Datum) (operation : Operation) :
    Prop where
  name : operation.name = name
  fields : operation.ownFields = Grammar.shown own raw

def MeetsOperation (form : Form Operation) (name : String) (own : List Field) : Prop :=
  ∀ raw later, Renews [] raw later → Typed own raw → form.Meets own (Owns name own raw) raw later

theorem meetsOperation_bare (operation : Operation) (bare : operation.ownFields = []) :
    MeetsOperation (pure operation) operation.name [] :=
  fun _ _ _ _ => .constant ⟨rfl, bare⟩

theorem meetsOperation_text {make : String -> Operation} {name key : String}
    {others : List String} (named : ∀ text, (make text).name = name)
    (owned : ∀ text, (make text).ownFields = [(key, .text text)])
    (foreign : "wait" ∉ key :: others) :
    MeetsOperation (make <$> Form.required (key :: others) Form.text) name
      [Grammar.required (key :: others) .text] := by
  intro raw later renews typed
  refine (Form.meets_required rfl Form.reads_text (typed _ List.mem_cons_self)
    (renews.unwaited foreign)).map fun text told => ⟨named text, ?_⟩
  rw [owned, Grammar.shown_cons, ← told]
  rfl

theorem reads_condition : Form.Reads (Form.word Condition.ofLabel?) id
    (.word ["visible", "enabled", "present"] []) fun condition => .text condition.label := by
  have current : (Holding.word ["visible", "enabled", "present"] []).shown = id := by
    funext value
    cases value <;> rfl
  exact current ▸ Form.reads_label Condition.all Condition.label []

theorem meetsOperation_check : MeetsOperation checkForm "check" Grammar.checkFields := by
  intro raw later renews typed
  simp only [Typed, Grammar.checkFields, List.forall_mem_cons] at typed
  obtain ⟨worded, first, second, -⟩ := typed
  have condition := Form.meets_required rfl reads_condition worded (renews.plain (by decide))
  have ifTrue := Form.meets_required rfl Form.reads_whole first (renews.plain (by decide))
  have ifFalse := Form.meets_required rfl Form.reads_whole second (renews.plain (by decide))
  refine ((condition.map (f := Operation.check) ?_).seq ifTrue).seq ifFalse
  intro condition told trueNext trueTold falseNext falseTold
  refine ⟨rfl, ?_⟩
  simp only [Grammar.checkFields, Grammar.shown_cons, ← told, ← trueTold, ← falseTold]
  rfl

theorem meetsOperation_produce : MeetsOperation produceForm "produce" Grammar.produceFields := by
  intro raw later renews typed
  simp only [Typed, Grammar.produceFields, List.forall_mem_cons] at typed
  obtain ⟨topical, keyed, messaged, -⟩ := typed
  have topic := Form.meets_required rfl Form.reads_text topical (renews.plain (by decide))
  have key := Form.meets_optional rfl Form.reads_text keyed (renews.plain (by decide))
  have message := Form.meets_optional rfl Form.reads_text messaged (renews.plain (by decide))
  refine ((topic.map (f := Operation.produce) ?_).seq key).seq message
  intro topic told key keyTold message messageTold
  refine ⟨rfl, ?_⟩
  simp only [Grammar.produceFields, Grammar.shown_cons, ← told, ← keyTold, ← messageTold]
  cases key <;> cases message <;> rfl

theorem meetsOperation_consume : MeetsOperation consumeForm "consume" Grammar.consumeFields := by
  intro raw later renews typed
  simp only [Typed, Grammar.consumeFields, List.forall_mem_cons] at typed
  obtain ⟨topical, keyed, contained, -⟩ := typed
  have topic := Form.meets_required rfl Form.reads_text topical (renews.plain (by decide))
  have key := Form.meets_required rfl Form.reads_text keyed (renews.plain (by decide))
  have contains := Form.meets_optional rfl Form.reads_text contained (renews.plain (by decide))
  refine ((topic.map (f := Operation.consume) ?_).seq key).seq contains
  intro topic told key keyTold contains containsTold
  refine ⟨rfl, ?_⟩
  simp only [Grammar.consumeFields, Grammar.shown_cons, ← told, ← keyTold, ← containsTold]
  cases contains <;> rfl

theorem meetsOperation_httpCall :
    MeetsOperation httpCallForm "http_call" Grammar.httpCallFields := by
  intro raw later renews typed
  simp only [Typed, Grammar.httpCallFields, List.forall_mem_cons] at typed
  obtain ⟨methodical, located, embodied, headed, -⟩ := typed
  have method := Form.meets_defaulted Form.reads_text "GET" rfl methodical
    (renews.plain (by decide))
  have url := Form.meets_required rfl Form.reads_text located (renews.plain (by decide))
  have body := Form.meets_optional rfl Form.reads_text embodied (renews.plain (by decide))
  have headers := Form.meets_defaulted Form.reads_texts [] rfl headed (renews.plain (by decide))
  refine (((method.map (f := Operation.httpCall) ?_).seq url).seq body).seq headers
  intro method told url urlTold body bodyTold headers headersTold
  refine ⟨rfl, ?_⟩
  simp only [Grammar.httpCallFields, Grammar.shown_cons, ← told, ← urlTold, ← bodyTold,
    ← headersTold]
  cases body <;> rfl

abbrev MeetsGrammar (form : Form Action) (grammar : Grammar) : Prop :=
  operations.MeetsGrammar payload [] form grammar

theorem meetsGrammar_form {name : String} {needsElement : Bool} {given : Field}
    {own : List Field} {value : Form (Option String)} {operation : Form Operation}
    (values : MeetsValue value given) (operates : MeetsOperation operation name own) :
    MeetsGrammar (form value operation) (ofAction name needsElement given own) := by
  intro raw later renews typed tagged
  obtain ⟨early, owned⟩ := List.forall_mem_append.mp typed
  obtain ⟨headed, middle⟩ := List.forall_mem_append.mp early
  have header := Header.meets_form renews nofun headed
  have valued := values raw later renews (middle given List.mem_cons_self)
  have operated := operates raw later renews owned
  have tag : (Grammar.text "operation").value? raw = some (.text name) :=
    Grammar.value?_required tagged .text
  have tagForm : (Wait.tagForm "operation").Meets [Grammar.text "operation"] (fun _ => True)
      raw later := Form.meets_tag rfl ((Field.filled_given tag).mpr trivial)
  refine (((header.map (f := ofParts) ?_).seq valued).seq tagForm).seq operated
  rintro header told value valued _ - operation ⟨named, owned⟩
  have middle : Grammar.shown [given, Grammar.text "operation"] raw =
      Header.textField "value" value ++ [("operation", .text operation.name)] := by
    rw [← List.singleton_append, Grammar.shown_append, ← valued, Grammar.shown_cons,
      Field.shown?_given tag, named]
    rfl
  refine ⟨told, ?_⟩
  rw [ofAction, Grammar.shown_append, Grammar.shown_append, ← told.payload, ← owned, middle,
    ← List.append_assoc]
  rfl

/-- Every grammar of an action has a variant, whose form meets its fields. -/
theorem variant_of_grammar : ∀ grammar ∈ Grammar.actions, ∃ variant,
    operations.Implements payload [] variant grammar := by
  simp only [Grammar.actions, List.forall_mem_cons]
  exact
    ⟨⟨_, rfl, rfl, rfl, rfl, meetsGrammar_form meetsValue_owned
       (meetsOperation_bare .enterText rfl)⟩,
     ⟨_, rfl, rfl, rfl, rfl, meetsGrammar_form meetsValue_any (meetsOperation_bare .click rfl)⟩,
     ⟨_, rfl, rfl, rfl, rfl, meetsGrammar_form (meetsValue_needed (by decide))
       (meetsOperation_bare .selectOption rfl)⟩,
     ⟨_, rfl, rfl, rfl, rfl, meetsGrammar_form meetsValue_any (meetsOperation_bare .hover rfl)⟩,
     ⟨_, rfl, rfl, rfl, rfl, meetsGrammar_form meetsValue_any (meetsOperation_bare .clear rfl)⟩,
     ⟨_, rfl, rfl, rfl, rfl, meetsGrammar_form meetsValue_any (meetsOperation_bare .submit rfl)⟩,
     ⟨_, rfl, rfl, rfl, rfl, meetsGrammar_form meetsValue_any
       (meetsOperation_bare .doubleClick rfl)⟩,
     ⟨_, rfl, rfl, rfl, rfl, meetsGrammar_form (meetsValue_needed (by decide))
       (meetsOperation_bare .uploadFile rfl)⟩,
     ⟨_, rfl, rfl, rfl, rfl, meetsGrammar_form meetsValue_any
       (meetsOperation_text (fun _ => rfl) (fun _ => rfl) (by decide))⟩,
     ⟨_, rfl, rfl, rfl, rfl, meetsGrammar_form meetsValue_any meetsOperation_check⟩,
     ⟨_, rfl, rfl, rfl, rfl, meetsGrammar_form meetsValue_any
       (meetsOperation_text (fun _ => rfl) (fun _ => rfl) (by decide))⟩,
     ⟨_, rfl, rfl, rfl, rfl, meetsGrammar_form meetsValue_any
       (meetsOperation_text (fun _ => rfl) (fun _ => rfl) (by decide))⟩,
     ⟨_, rfl, rfl, rfl, rfl, meetsGrammar_form meetsValue_any meetsOperation_produce⟩,
     ⟨_, rfl, rfl, rfl, rfl, meetsGrammar_form meetsValue_any meetsOperation_consume⟩,
     ⟨_, rfl, rfl, rfl, rfl, meetsGrammar_form meetsValue_any meetsOperation_httpCall⟩,
     fun _ member => absurd member List.not_mem_nil⟩

end Action

/-! ## Assertions -/

namespace Assertion

open Grammar (ofAssertion)

structure Owns (name : String) (own : List Field) (raw : Table Datum) (aspect : Aspect) : Prop where
  name : aspect.name = name
  fields : aspect.ownFields = Grammar.shown own raw

def MeetsAspect (form : Form Aspect) (name : String) (own : List Field) : Prop :=
  ∀ raw later, Renews operatorKeys raw later → Typed own raw →
    form.Meets own (Owns name own raw) raw later

theorem meetsAspect_bare (aspect : Aspect) (bare : aspect.ownFields = []) :
    MeetsAspect (pure aspect) aspect.name [] :=
  fun _ _ _ _ => .constant ⟨rfl, bare⟩

theorem meetsAspect_attribute : MeetsAspect (.attributeValue <$> attributeName) "attribute"
    [Grammar.required ["attribute_name", "attributeName"] .text] := by
  intro raw later renews typed
  refine (Form.meets_required rfl Form.reads_text (typed _ List.mem_cons_self)
    (renews.plain (by decide))).map fun name told => ⟨rfl, ?_⟩
  rw [Grammar.shown_cons, ← told]
  rfl

abbrev MeetsGrammar (form : Form Assertion) (grammar : Grammar) : Prop :=
  assertions.MeetsGrammar payload operatorKeys form grammar

theorem meetsGrammar_form {name : String} {needsElement : Bool} {own : List Field}
    {aspect : Form Aspect} (judges : MeetsAspect aspect name own) :
    MeetsGrammar (form aspect) (ofAssertion name needsElement own) := by
  intro raw later renews typed tagged
  obtain ⟨early, owned⟩ := List.forall_mem_append.mp typed
  obtain ⟨headed, middle⟩ := List.forall_mem_append.mp early
  simp only [Grammar.compared, List.forall_mem_cons] at middle
  obtain ⟨expects, operates, -⟩ := middle
  have header := Header.meets_form renews (fun _ member => member) headed
  have expected := Form.meets_optional rfl Form.reads_text expects (renews.plain (by decide))
  have operator := Form.meets_required rfl
    (Form.reads_label Operator.all Operator.label Grammar.olderOperators) operates renews.operator
  have judged := judges raw later renews owned
  have tag : (Grammar.text "assertion_type").value? raw = some (.text name) :=
    Grammar.value?_required tagged .text
  have tagForm : (Wait.tagForm "assertion_type").Meets [Grammar.text "assertion_type"]
      (fun _ => True) raw later := Form.meets_tag rfl ((Field.filled_given tag).mpr trivial)
  refine ((((header.map (f := ofParts) ?_).seq expected).seq operator).seq tagForm).seq judged
  rintro header told expected expectedTold operator operatorTold _ - aspect ⟨named, owned⟩
  have middle : Grammar.shown Grammar.compared raw = Header.textField "expected" expected ++
      [("operator", .text operator.label), ("assertion_type", .text aspect.name)] := by
    simp only [Grammar.compared, Grammar.shown_cons, ← expectedTold, ← operatorTold,
      Field.shown?_given tag, ← named]
    cases expected <;> rfl
  refine ⟨told, ?_⟩
  rw [ofAssertion, Grammar.shown_append, Grammar.shown_append, ← told.payload, ← owned, middle,
    ← List.append_assoc]
  rfl

theorem variant_of_grammar : ∀ grammar ∈ Grammar.assertions, ∃ variant,
    assertions.Implements payload operatorKeys variant grammar := by
  simp only [Grammar.assertions, List.forall_mem_cons]
  exact ⟨⟨_, rfl, rfl, rfl, rfl, meetsGrammar_form (meetsAspect_bare .url rfl)⟩,
    ⟨_, rfl, rfl, rfl, rfl, meetsGrammar_form (meetsAspect_bare .visible rfl)⟩,
    ⟨_, rfl, rfl, rfl, rfl, meetsGrammar_form (meetsAspect_bare .enabled rfl)⟩,
    ⟨_, rfl, rfl, rfl, rfl, meetsGrammar_form (meetsAspect_bare .text rfl)⟩,
    ⟨_, rfl, rfl, rfl, rfl, meetsGrammar_form meetsAspect_attribute⟩,
    ⟨_, rfl, rfl, rfl, rfl, meetsGrammar_form (meetsAspect_bare .count rfl)⟩,
    fun _ member => absurd member List.not_mem_nil⟩

end Assertion

/-! ## The two registries -/

namespace Registry

variable {grammar : Grammar} {raw : Table Datum}

theorem wait_of_fills (headed : ∀ field ∈ Grammar.header, field ∈ grammar.fields)
    (fills : Fills grammar.fields raw) {wait : Table Datum}
    (held : raw.get? "wait" = some (.object wait)) :
    ∃ kind, wait.get? "kind" = some (.text kind) ∧
      Holding.current Grammar.olderKinds kind ∈ Grammar.kinds.keys := by
  have filled := fills (Grammar.optional ["wait"] .wait) (headed _ (by simp [Grammar.header]))
  have value : (Grammar.optional ["wait"] .wait).value? raw = some (.object wait) :=
    Field.value?_eq_some.mpr ⟨by simp [Field.given?, Grammar.optional, held], nofun⟩
  obtain ⟨fields, same, own, found, -⟩ := (Field.filled_given value).mp filled
  cases same
  unfold Grammar.fieldsOfWait? at found
  split at found
  next kind named =>
    obtain ⟨own, known, -⟩ := Option.map_eq_some_iff.mp found
    exact ⟨kind, named, Table.mem_keys known⟩
  · cases found

/-- A required field that is given under one of its keys has an allowed value. -/
theorem allows_of_fills {field : Field} (member : field ∈ grammar.fields)
    (needed : field.presence = .required) (declares : Declares grammar.fields raw)
    (fills : Fills grammar.fields raw) {key : String} (spelled : key ∈ field.spellings)
    {given : Datum} (held : raw.get? key = some given) : field.holding.Allows given := by
  obtain ⟨⟨other, value⟩, found⟩ := Form.present?_exists spelled (Table.mem_keys held)
  obtain ⟨alternative, stands⟩ := Form.present?_member found
  obtain rfl := declares.once field member key spelled other alternative (Table.mem_keys held)
    (Table.mem_keys stands)
  rw [held] at stands
  cases stands
  have first : field.given? raw = some given := by rw [Form.given?_eq, found]; rfl
  have filled := fills field member
  -- Null counts as missing, which a required field may not be.
  by_cases null : given = .null
  · have missing : field.value? raw = none := by simp only [Field.value?, first, null]
    exact absurd needed ((Field.filled_missing missing).mp filled)
  · exact (Field.filled_given (Field.value?_eq_some.mpr ⟨first, null⟩)).mp filled

theorem foreign_of_declares (declares : Declares grammar.fields raw) {key : String}
    (foreign : key ∉ (grammar.fields.map Field.spellings).flatten) : key ∉ raw.keys := by
  intro member
  obtain ⟨field, among, spelled⟩ := declares.known key member
  exact foreign (List.mem_flatten.mpr ⟨_, List.mem_map_of_mem among, spelled⟩)

theorem worded_of_action (member : grammar ∈ Grammar.actions)
    (declares : Declares grammar.fields raw) (fills : Fills grammar.fields raw) : Worded raw := by
  have untagged : ∀ grammar ∈ Grammar.actions,
      "assertion_type" ∉ (grammar.fields.map Field.spellings).flatten := by decide
  have checked : ∀ grammar ∈ Grammar.actions,
      "condition" ∈ (grammar.fields.map Field.spellings).flatten →
        Grammar.required ["condition"] (.word ["visible", "enabled", "present"] [])
          ∈ grammar.fields := by
    simp only [Grammar.actions, List.forall_mem_cons]
    and_intros
    all_goals first
      | exact fun given => absurd given (by decide)
      | exact fun _ => by simp [Grammar.ofAction, Grammar.checkFields]
  have headed := (Grammar.header_of_action grammar member).subset
  refine ⟨fun wait held => wait_of_fills headed fills held, fun _ given held => ?_,
    fun tagged => ?_⟩
  · have conditioned : "condition" ∈ (grammar.fields.map Field.spellings).flatten :=
      Decidable.of_not_not fun foreign =>
        foreign_of_declares declares foreign (Table.mem_keys held)
    obtain ⟨word, rfl, known⟩ := allows_of_fills (checked grammar member conditioned) rfl declares
      fills List.mem_cons_self held
    exact List.contains_iff_mem.mpr known
  · exact absurd tagged (foreign_of_declares declares (untagged grammar member))

theorem worded_of_assertion (member : grammar ∈ Grammar.assertions)
    (declares : Declares grammar.fields raw) (fills : Fills grammar.fields raw) : Worded raw := by
  have untagged : ∀ grammar ∈ Grammar.assertions,
      "operation" ∉ (grammar.fields.map Field.spellings).flatten := by decide
  have fields := (Grammar.header_of_assertion grammar member).subset
  refine ⟨fun wait held => wait_of_fills (fun field early => fields (by simp [early])) fills held,
    fun tagged => ?_, fun _ key among given held => ?_⟩
  · exact absurd tagged (foreign_of_declares declares (untagged grammar member))
  · have operator : Grammar.required operatorKeys
        (.word Grammar.operators Grammar.olderOperators) ∈ grammar.fields :=
      fields (by simp [Grammar.compared, operatorKeys])
    exact allows_of_fills operator rfl declares fills among held

/-- A registry accepts a record with a current tag and typed fields exactly if the grammar of the
tag does, and what it reads shows every field as given or its default. -/
theorem parse_iff_accepts :
    (Grammar.actions.map Grammar.name = operations.variants.map Variant.name ∧
      ∀ grammar ∈ Grammar.actions, ∀ raw, raw.get? "operation" = some (.text grammar.name) →
        Typed grammar.fields raw →
        ((∃ action, operations.parse raw = .ok action) ↔ grammar.Accepts raw) ∧
        ∀ action, operations.parse raw = .ok action →
          action.payload = Grammar.shown grammar.fields raw) ∧
    (Grammar.assertions.map Grammar.name = assertions.variants.map Variant.name ∧
      ∀ grammar ∈ Grammar.assertions, ∀ raw,
        raw.get? "assertion_type" = some (.text grammar.name) → Typed grammar.fields raw →
        ((∃ assertion, assertions.parse raw = .ok assertion) ↔ grammar.Accepts raw) ∧
        ∀ assertion, assertions.parse raw = .ok assertion →
          assertion.payload = Grammar.shown grammar.fields raw) := by
  refine ⟨⟨rfl, fun grammar member raw tagged typed => ?_⟩,
    ⟨rfl, fun grammar member raw tagged typed => ?_⟩⟩
  · have distinct : ∀ grammar ∈ Grammar.actions,
        (grammar.fields.map Field.spellings).flatten.Nodup := by decide
    have untagged : ∀ grammar ∈ Grammar.actions,
        "assertion_type" ∉ (grammar.fields.map Field.spellings).flatten := by decide
    obtain ⟨variant, implements⟩ := Action.variant_of_grammar grammar member
    have headed := (Grammar.header_of_action grammar member).subset
    exact accepts_iff implements (distinct grammar member) headed
      (fun declares later => renews_of_action (shaped_of_typed headed typed)
        (foreign_of_declares declares (untagged grammar member)))
      (worded_of_action member) tagged typed
  · have distinct : ∀ grammar ∈ Grammar.assertions,
        (grammar.fields.map Field.spellings).flatten.Nodup := by decide
    obtain ⟨variant, implements⟩ := Assertion.variant_of_grammar grammar member
    have headed : ∀ field ∈ Grammar.header, field ∈ grammar.fields := fun field early =>
      (Grammar.header_of_assertion grammar member).subset (List.mem_append_left _ early)
    exact accepts_iff implements (distinct grammar member) headed
      (fun _ later => renews_of_assertion (shaped_of_typed headed typed) (Table.mem_keys tagged))
      (worded_of_assertion member) tagged typed

theorem click_and_comparison_are_accepted :
    let click : Table Datum := [("operation", .text "click"), ("index", .int 1),
      ("page_id", .text "login"), ("element", .text "user"), ("value", .null)]
    let comparison : Table Datum := [("assertion_type", .text "url"), ("index", .int 2),
      ("condition", .text "less_than"), ("value", .text "1")]
    (Grammar.onElement "click").Accepts click ∧
    (∀ action, operations.parse click = .ok action → action.payload =
      [("index", .int 1), ("page", .text "login"), ("element", .text "user"),
       ("operation", .text "click")]) ∧
    (Grammar.ofAssertion "url" false []).Accepts comparison ∧
    (∀ assertion, assertions.parse comparison = .ok assertion → assertion.payload =
      [("index", .int 2), ("expected", .text "1"), ("operator", .text "lessThan"),
       ("assertion_type", .text "url")]) := by
  intro click comparison
  have clicks : Typed (Grammar.onElement "click").fields click := by
    simp [Typed, Field.Typed, Grammar.onElement, Grammar.ofAction, Grammar.header, Grammar.page,
      Grammar.element, Grammar.value, Grammar.text, Grammar.required, Grammar.optional, click,
      Table.get?_cons, Holding.whole, Holding.text]
  have compares : Typed (Grammar.ofAssertion "url" false []).fields comparison := by
    simp [Typed, Field.Typed, Grammar.ofAssertion, Grammar.compared, Grammar.header, Grammar.page,
      Grammar.element, Grammar.text, Grammar.required, Grammar.optional, comparison,
      Table.get?_cons, Holding.whole, Holding.text, Holding.word]
  obtain ⟨accepted, shown⟩ := parse_iff_accepts.1.2 (Grammar.onElement "click")
    (by simp [Grammar.actions]) click rfl clicks
  obtain ⟨alike, told⟩ := parse_iff_accepts.2.2 (Grammar.ofAssertion "url" false [])
    (by simp [Grammar.assertions]) comparison rfl compares
  exact ⟨accepted.mp ⟨_, rfl⟩, shown, alike.mp ⟨_, rfl⟩, told⟩

/-- An operator in its older spelling is accepted, and held in the current one. -/
theorem older_operator_is_accepted :
    let given : Table Datum := [("index", .int 1), ("assertion_type", .text "url"),
      ("operator", .text "greater_than"), ("expected", .text "1")]
    let operator := Grammar.required ["operator", "condition"] (.word Grammar.operators [])
    Typed (Grammar.ofAssertion "url" false []).fields given ∧ ¬ operator.Filled given ∧
      ∃ assertion, assertions.parse given = .ok assertion ∧
        operator.given? given ≠ some (.text assertion.operator.label) := by
  intro given operator
  refine ⟨?_, ?_, _, rfl, ?_⟩
  · simp [Typed, Field.Typed, Grammar.ofAssertion, Grammar.compared, Grammar.header, Grammar.page,
      Grammar.element, Grammar.text, Grammar.required, Grammar.optional, given,
      Table.get?_cons, Holding.whole, Holding.text, Holding.word]
  · rw [Field.filled_given (show operator.value? given = some (.text "greater_than") from rfl)]
    simp [operator, Grammar.required, Holding.word, Holding.current, Grammar.operators]
  · simp [operator, Field.given?, Grammar.required, given, Table.get?_cons, Assertion.ofParts,
      Operator.label]

end Registry

end Rehearsal
