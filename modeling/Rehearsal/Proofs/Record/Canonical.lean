import Rehearsal.Proofs.Record.Acceptance
import Rehearsal.Proofs.Record.CanonicalWait

/-!
Older spellings mean what the current ones do. A registry accepts a record that spells each field
once exactly if it accepts the record in its current spelling, and reads the same from both.
-/

set_option autoImplicit false

namespace Rehearsal

open Grammar (Field Holding Declares Distinct SpellsOnce reword)
open Form (present? held? Matches)

/-! ## Tables that are normalized alike -/

namespace Registry

section

variable {stage : Renewal} {fields : List Field} {keys : List String}
  {first second later after : Table Datum}

theorem held?_of_yields (yields : stage.Yields first later) (keys : List String) :
    held? later keys = (present? first keys).bind fun entry => stage entry.1 entry.2 := by
  induction keys with
  | nil => rfl
  | cons key rest ih =>
    simp only [held?, present?, List.findSome?_cons] at ih ⊢
    cases held : first.get? key with
    | none =>
      have absent : later.get? key = none := Table.get?_eq_none fun member => by
        obtain ⟨given, found⟩ := Table.exists_get? (yields.keys ▸ member)
        rw [held] at found
        cases found
      simpa [absent] using ih
    | some given =>
      obtain ⟨value, renews, stands⟩ := yields.each key given held
      simp [stands, renews]

/-- Two tables lack a field, or what becomes of its values makes no difference. -/
inductive AlikeAt (stage : Renewal) (keys : List String) :
    Option (String × Datum) → Option (String × Datum) → Prop where
  | missing : AlikeAt stage keys none none
  | held {one two : String × Datum} (same : Matches keys (stage one.1 one.2) (stage two.1 two.2)) :
      AlikeAt stage keys (some one) (some two)

theorem AlikeAt.symm {one two : Option (String × Datum)} (alike : AlikeAt stage keys one two) :
    AlikeAt stage keys two one := by
  cases alike with
  | missing => exact .missing
  | held same => exact .held same.symm

structure Alike (stage : Renewal) (fields : List Field) (first second : Table Datum) : Prop where
  declares : Declares fields first ↔ Declares fields second
  each : ∀ field ∈ fields, AlikeAt stage field.spellings (present? first field.spellings)
    (present? second field.spellings)

namespace Alike

variable (alike : Alike stage fields first second)

include alike

theorem symm : Alike stage fields second first where
  declares := alike.declares.symm
  each field member := (alike.each field member).symm

/-- A value that is refused in one of the tables is refused in the other. -/
theorem admits (yields : stage.Yields first later) (declares : Declares fields second) :
    stage.Admits second := by
  intro key given held
  obtain ⟨field, member, spelled⟩ := declares.known key (Table.mem_keys held)
  have present := Grammar.present?_of_once declares.once member spelled held
  have each := alike.each field member
  rw [present] at each
  cases found : present? first field.spellings with
  | none =>
    rw [found] at each
    cases each
  | some entry =>
    rw [found] at each
    cases each with
    | held same =>
      obtain ⟨value, renews, -⟩ := yields.each entry.1 entry.2 (Form.present?_member found).2
      rw [renews] at same
      exact same.exists_value

theorem held?_matches (yields : stage.Yields first later) (again : stage.Yields second after)
    {field : Field} (member : field ∈ fields) :
    Matches field.spellings (held? later field.spellings) (held? after field.spellings) := by
  rw [held?_of_yields yields, held?_of_yields again]
  have each := alike.each field member
  generalize present? first field.spellings = one, present? second field.spellings = two at each ⊢
  cases each with
  | missing => exact .inl rfl
  | held same => exact same

/-- What a variant reads from one table it reads from the other. -/
theorem validates {A : Type} {registry : Registry A} {variant : Variant A} {value : A}
    (distinct : Distinct fields) (spelled : variant.form.fields = fields.map Field.spellings)
    (blind : variant.form.Blind)
    (early : Declares fields first →
      stage.Describes first.keys fun record later => normalize record = .ok later)
    (late : Declares fields second →
      stage.Describes second.keys fun record later => normalize record = .ok later)
    (valid : ∃ later, normalize first = .ok later ∧ registry.validate variant later = .ok value) :
    ∃ later, normalize second = .ok later ∧ registry.validate variant later = .ok value := by
  obtain ⟨later, normal, valid⟩ := valid
  obtain ⟨ran, coherent⟩ := validate_eq_ok.mp valid
  obtain ⟨read, strays⟩ := Form.run_eq_ok.mp ran
  have declared := (strays_of_normalize distinct.apart spelled normal).mp strays
  have declares := alike.declares.mp declared
  have yields := (early declared).yields first later rfl normal
  have admitted := alike.admits yields declares
  obtain ⟨after, renormal⟩ := (late declares).admits second rfl admitted
  have again := (late declares).yields second after rfl renormal
  have same : ∀ keys ∈ variant.form.fields, Matches keys (held? later keys) (held? after keys) := by
    rw [spelled, List.forall_mem_map]
    exact fun field member => alike.held?_matches yields again member
  have clean := (strays_of_normalize distinct.apart spelled renormal).mpr declares
  have reread := (blind later after same value).mp read
  exact ⟨after, renormal, validate_eq_ok.mpr ⟨Form.run_eq_ok.mpr ⟨reread, clean⟩, coherent⟩⟩

end Alike

end

/-! ## What normalization makes of single values -/

section

variable {isAction isAssertion : Bool} {key : String} {given : Datum}

def renewedKeys : List String := ["wait", "condition", "operator", "index"]

theorem renewal_foreign (foreign : key ∉ renewedKeys) :
    renewal isAction isAssertion key given = some given := by
  simp only [renewedKeys, List.mem_cons, List.not_mem_nil, or_false, not_or] at foreign
  obtain ⟨wait, condition, operator, index⟩ := foreign
  simp [renewal, Renewal.andThen, Renewal.only, wait, condition, operator, index]

theorem renewal_wait : renewal isAction isAssertion "wait" given = renewWait? given := by
  cases renews : renewWait? given <;> simp [renewal, Renewal.andThen, Renewal.only, renews]

theorem renewal_operator (operates : key ∈ operatorKeys) :
    renewal false true key given = renewOperator? true given := by
  have either : key = "operator" ∨ key = "condition" := by simpa [operatorKeys] using operates
  rcases either with rfl | rfl <;> cases renews : renewOperator? true given <;>
    simp [renewal, Renewal.andThen, Renewal.only, checked?, renews]

theorem renewOperator?_reword :
    renewOperator? true (reword Grammar.olderOperators given) = renewOperator? true given := by
  cases given with
  | text word =>
    have last : Holding.current Grammar.olderOperators
        (Holding.current Grammar.olderOperators word) =
          Holding.current Grammar.olderOperators word := Grammar.current_current (by decide) word
    simp [reword, renewOperator?, last]
  | _ => rfl

end

/-! ## Parsing -/

variable {A : Type} {registry : Registry A} {record : Table Datum} {value : A}

theorem get_eq_ok {name : String} {variant : Variant A} :
    registry.get name = .ok variant ↔ registry.find? name = some variant := by
  unfold get
  cases registry.find? name <;> simp

theorem parse_eq_ok : registry.parse record = .ok value ↔ ∃ tag word variant,
    record.get? registry.tag = some tag ∧ tag ≠ .null ∧ tag.written = .ok word ∧
      registry.find? word = some variant ∧
      ∃ later, normalize (record.put registry.tag (.text variant.name)) = .ok later ∧
        registry.validate variant later = .ok value := by
  unfold parse
  split
  next missing =>
    refine iff_of_false (then_throw_ne_ok _ _ _) ?_
    rintro ⟨tag, -, -, held, -⟩
    rw [missing] at held
    cases held
  next null =>
    refine iff_of_false (then_throw_ne_ok _ _ _) ?_
    rintro ⟨tag, -, -, held, present, -⟩
    rw [null] at held
    exact present (Option.some.inj held).symm
  next tag present held =>
    constructor
    · intro parsed
      obtain ⟨word, written, parsed⟩ := (bind_eq_ok ..).mp parsed
      obtain ⟨variant, found, parsed⟩ := (bind_eq_ok ..).mp parsed
      obtain ⟨later, normal, parsed⟩ := (bind_eq_ok ..).mp parsed
      refine ⟨tag, word, variant, held, present, (mapError_eq_ok ..).mp written,
        get_eq_ok.mp found, later, normal, ?_⟩
      split at parsed
      next valid =>
        cases parsed
        exact valid
      · exact absurd parsed (then_throw_ne_ok _ _ _)
    · rintro ⟨own, word, variant, found, -, written, among, later, normal, valid⟩
      rw [held] at found
      cases found
      refine (bind_eq_ok ..).mpr ⟨word, (mapError_eq_ok ..).mpr written, ?_⟩
      refine (bind_eq_ok ..).mpr ⟨variant, get_eq_ok.mpr among, ?_⟩
      refine (bind_eq_ok ..).mpr ⟨later, normal, ?_⟩
      rw [valid]
      rfl

end Registry

/-! ## Languages -/

namespace Grammar.Language

open Registry (Alike AlikeAt renewal renewedKeys)

/-- What the current spelling of a record changes in a field, normalization undoes. -/
inductive Fits (language : Language) (field : Field) : Prop where
  | wait (spelled : field.spellings = ["wait"])
  | operator (spelled : field.spellings = operatorKeys) (named : language.tag = "assertion_type")
      (older : language.older "operator" = olderOperators)
  | lone (spelled : field.spellings = [field.name]) (plain : field.name ≠ "wait")
      (older : language.older field.name = [])
  | foreign (spelled : ∀ key ∈ field.spellings, key ∉ renewedKeys) (plain : field.name ≠ "wait")
      (older : language.older field.name = [])

structure Sound (language : Language) : Prop where
  waitless : language.tag ≠ "wait"
  settled : Settled (language.older language.tag)
  distinct : ∀ grammar ∈ language.grammars, Distinct grammar.fields
  tagged : ∀ grammar ∈ language.grammars, ∀ field ∈ grammar.fields,
    language.tag ∈ field.spellings → field.spellings = [language.tag]
  untagged : ∀ grammar ∈ language.grammars, ∀ field ∈ grammar.fields,
    ∀ tag ∈ ["operation", "assertion_type"], tag ∈ field.spellings → tag = language.tag
  fits : ∀ grammar ∈ language.grammars, ∀ field ∈ grammar.fields,
    language.tag ∉ field.spellings → language.Fits field

def renewal (language : Language) : Registry.Renewal :=
  Registry.renewal (decide ("operation" = language.tag)) (decide ("assertion_type" = language.tag))

section

variable {language : Language} {field : Field} {key : String} {given : Datum}

theorem fits_iff : language.Fits field ↔ field.spellings = ["wait"] ∨
    (field.spellings = operatorKeys ∧ language.tag = "assertion_type" ∧
      language.older "operator" = olderOperators) ∨
    (field.spellings = [field.name] ∨ ∀ key ∈ field.spellings, key ∉ renewedKeys) ∧
      field.name ≠ "wait" ∧ language.older field.name = [] := by
  constructor
  · rintro (waits | ⟨operates, tagged, older⟩ | ⟨single, plain, older⟩ | ⟨apart, plain, older⟩)
    · exact .inl waits
    · exact .inr (.inl ⟨operates, tagged, older⟩)
    · exact .inr (.inr ⟨.inl single, plain, older⟩)
    · exact .inr (.inr ⟨.inr apart, plain, older⟩)
  · rintro (waits | ⟨operates, tagged, older⟩ | ⟨single | apart, plain, older⟩)
    · exact .wait waits
    · exact .operator operates tagged older
    · exact .lone single plain older
    · exact .foreign apart plain older

instance (language : Language) (field : Field) : Decidable (language.Fits field) :=
  decidable_of_iff' _ fits_iff

theorem variantName?_eq_some {record : Table Datum} {name : String} :
    language.variantName? record = some name ↔ ∃ tag word,
      record.get? language.tag = some tag ∧ tag ≠ .null ∧ tag.written = .ok word ∧
        name = Holding.current (language.older language.tag) word := by
  unfold variantName?
  split
  next missing => simp [missing]
  next null => simp [null]
  next tag present held =>
    have real : tag ≠ .null := present
    cases written : tag.written <;> simp [held, real, written, Except.toOption, eq_comm]

theorem matches_of_fits (fits : language.Fits field) (own : field.name ∈ field.spellings)
    (spelled : key ∈ field.spellings) (once : ∀ wait, key = "wait" → given = .object wait →
      ∀ fields ∈ fieldsOfWait? wait, SpellsOnce fields wait) :
    Matches field.spellings (language.renewal key given)
      (language.renewal field.name (language.value field.name given)) := by
  cases fits with
  | wait waits =>
    have named : field.name = "wait" := by rw [Field.name, waits]; rfl
    rw [waits, List.mem_singleton] at spelled
    subst spelled
    rw [waits, named, value, if_pos rfl, Language.renewal, Registry.renewal_wait,
      Registry.renewal_wait]
    exact Wait.renewWait?_restated fun wait => once wait rfl
  | operator operates tagged older =>
    have named : field.name = "operator" := by rw [Field.name, operates]; rfl
    have assertion : language.renewal = Registry.renewal false true := by
      rw [Language.renewal, tagged]
      rfl
    refine .inl ?_
    rw [named, value, if_neg (by decide), older, assertion,
      Registry.renewal_operator (operates ▸ spelled), Registry.renewal_operator (by decide),
      Registry.renewOperator?_reword]
  | lone single plain older =>
    rw [single, List.mem_singleton] at spelled
    rw [spelled, value, if_neg plain, older, reword_nil]
    exact .inl rfl
  | foreign apart plain older =>
    refine .inl ?_
    rw [value, if_neg plain, older, reword_nil, Language.renewal,
      Registry.renewal_foreign (apart key spelled), Registry.renewal_foreign (apart _ own)]

end

namespace Sound

variable {language : Language} {grammar : Grammar} {raw table : Table Datum}
  (sound : language.Sound)

include sound

theorem tag_canonical : (language.canonical raw).get? language.tag =
    (raw.get? language.tag).map (reword (language.older language.tag)) := by
  have value : language.value language.tag = reword (language.older language.tag) := by
    funext given
    rw [Language.value, if_neg sound.waitless]
  rw [canonical, fieldsOf, ← value]
  cases found : language.grammar? raw with
  | none => exact get?_restated ⟨List.nodup_nil, nofun⟩ nofun
  | some grammar =>
    have member : grammar ∈ language.grammars := by
      obtain ⟨name, -, among⟩ := Option.bind_eq_some_iff.mp found
      exact List.mem_of_find?_eq_some among
    exact get?_restated (sound.distinct grammar member) (sound.tagged grammar member)

theorem variantName?_canonical :
    language.variantName? (language.canonical raw) = language.variantName? raw := by
  have written : ∀ word, (Datum.text word).written = .ok word := fun _ => rfl
  unfold variantName?
  rw [sound.tag_canonical]
  cases raw.get? language.tag with
  | none => rfl
  | some tag =>
    cases tag with
    | text word =>
      have last := current_current sound.settled word
      simp [reword, written, Except.toOption, last]
    | _ => rfl

/-- Normalization tells actions from assertions by keys that only their own tags have. -/
theorem describes (member : grammar ∈ language.grammars) (declares : Declares grammar.fields table)
    (tagged : language.tag ∈ table.keys) : language.renewal.Describes table.keys
      fun record later => Registry.normalize record = .ok later := by
  have flag : ∀ tag ∈ ["operation", "assertion_type"],
      decide (tag ∈ table.keys) = decide (tag = language.tag) := by
    intro tag among
    rw [decide_eq_decide]
    constructor
    · intro listed
      obtain ⟨field, given, spelled⟩ := declares.known tag listed
      exact sound.untagged grammar member field given tag among spelled
    · rintro rfl
      exact tagged
  rw [Language.renewal, ← flag "operation" (by simp), ← flag "assertion_type" (by simp)]
  exact Registry.renewal_describes table.keys

theorem alike_canonical (member : grammar ∈ language.grammars)
    (found : language.grammar? raw = some grammar) (once : language.Once raw)
    (held : language.tag ∈ raw.keys) (kept : language.tag ∈ (language.canonical raw).keys)
    (name : String) : Alike language.renewal grammar.fields (raw.put language.tag (.text name))
      ((language.canonical raw).put language.tag (.text name)) := by
  have distinct := sound.distinct grammar member
  have fields : language.fieldsOf raw = grammar.fields := by rw [fieldsOf, found]; rfl
  have single := fields ▸ once.fields
  refine ⟨?_, fun field among => ?_⟩
  · rw [declares_congr (Table.keys_put _ held), declares_congr (Table.keys_put _ kept), canonical,
      fields, declares_restated distinct single]
  · by_cases tagged : language.tag ∈ field.spellings
    · rw [sound.tagged grammar member field among tagged, Form.present?_put_own,
        Form.present?_put_own]
      exact .held (.inl rfl)
    · rw [Form.present?_put_foreign tagged, Form.present?_put_foreign tagged, canonical, fields,
        present?_restated distinct single among]
      cases present : present? raw field.spellings with
      | none => exact .missing
      | some entry =>
        obtain ⟨spelled, given⟩ := Form.present?_member present
        refine .held (matches_of_fits (sound.fits grammar member field among tagged)
          (distinct.named field among) spelled fun wait waits same => ?_)
        exact once.wait wait (by rw [← waits, given, same])

end Sound

theorem sound_ofActions : ofActions.Sound where
  waitless := by decide
  settled := by decide
  distinct := by decide
  tagged := by decide
  untagged := by decide
  fits := by decide

theorem sound_ofAssertions : ofAssertions.Sound where
  waitless := by decide
  settled := by decide
  distinct := by decide
  tagged := by decide
  untagged := by decide
  fits := by decide

end Grammar.Language

/-! ## Registries and their languages -/

namespace Registry

open Grammar (Language)

variable {A : Type} {registry : Registry A} {language : Language} {record raw : Table Datum}
  {value : A}

/-- The records of the registry are those of the language. -/
structure Speaks (registry : Registry A) (language : Language) : Prop where
  tag : registry.tag = language.tag
  oldNames : registry.oldNames = language.older language.tag
  names : language.grammars.map Grammar.name = registry.variants.map Variant.name
  spelled : ∀ grammar ∈ language.grammars, ∀ variant ∈ registry.variants,
    variant.name = grammar.name → variant.form.fields = grammar.fields.map Field.spellings
  blind : ∀ variant ∈ registry.variants, variant.form.Blind

theorem Speaks.parse_eq_ok (speaks : registry.Speaks language) :
    registry.parse record = .ok value ↔ ∃ name variant,
      language.variantName? record = some name ∧
      registry.variants.find? (fun variant => variant.name == name) = some variant ∧
      ∃ later, normalize (record.put language.tag (.text variant.name)) = .ok later ∧
        registry.validate variant later = .ok value := by
  simp only [Registry.parse_eq_ok, Language.variantName?_eq_some, speaks.tag, find?,
    speaks.oldNames]
  constructor
  · rintro ⟨tag, word, variant, held, present, written, found, parsed⟩
    exact ⟨_, variant, ⟨tag, word, held, present, written, rfl⟩, found, parsed⟩
  · rintro ⟨_, variant, ⟨tag, word, held, present, written, rfl⟩, found, parsed⟩
    exact ⟨tag, word, variant, held, present, written, found, parsed⟩

theorem Speaks.grammar_of_variant (speaks : registry.Speaks language) {name : String}
    {variant : Variant A} (named : language.variantName? record = some name)
    (found : registry.variants.find? (fun variant => variant.name == name) = some variant) :
    ∃ grammar ∈ language.grammars, language.grammar? record = some grammar ∧
      variant.form.fields = grammar.fields.map Field.spellings ∧ variant.form.Blind := by
  have member := List.mem_of_find?_eq_some found
  have same : variant.name = name := by simpa using List.find?_some found
  have listed : name ∈ language.grammars.map Grammar.name :=
    speaks.names ▸ same ▸ List.mem_map_of_mem member
  obtain ⟨other, known, rfl⟩ := List.mem_map.mp listed
  obtain ⟨grammar, first⟩ := Option.isSome_iff_exists.mp
    (List.find?_isSome (p := fun grammar => grammar.name == other.name) |>.mpr
      ⟨other, known, beq_self_eq_true other.name⟩)
  have again : grammar.name = other.name := by simpa using List.find?_some first
  have among := List.mem_of_find?_eq_some first
  exact ⟨grammar, among, by rw [Language.grammar?, named, Option.bind_some, first],
    speaks.spelled grammar among variant member (same.trans again.symm),
    speaks.blind variant member⟩

/-- A record and its current spelling are refused together, or read alike. -/
theorem Speaks.parse_canonical (speaks : registry.Speaks language) (sound : language.Sound)
    (once : language.Once raw) :
    registry.parse raw = .ok value ↔ registry.parse (language.canonical raw) = .ok value := by
  rw [speaks.parse_eq_ok, speaks.parse_eq_ok, sound.variantName?_canonical]
  refine exists_congr fun name => exists_congr fun variant => and_congr_right fun named =>
    and_congr_right fun found => ?_
  obtain ⟨grammar, member, ruled, spelled, blind⟩ := speaks.grammar_of_variant named found
  obtain ⟨tag, _, held, -⟩ := Language.variantName?_eq_some.mp named
  have tagged := Table.mem_keys held
  have kept : language.tag ∈ (language.canonical raw).keys :=
    Table.mem_keys (by rw [sound.tag_canonical, held, Option.map_some])
  have alike := sound.alike_canonical member ruled once tagged kept variant.name
  have distinct := sound.distinct grammar member
  have describes : ∀ table : Table Datum, language.tag ∈ table.keys →
      Declares grammar.fields (table.put language.tag (.text variant.name)) →
      language.renewal.Describes (table.put language.tag (.text variant.name)).keys
        fun record later => normalize record = .ok later := fun table given declares =>
    sound.describes member declares (Table.keys_put _ given ▸ given)
  have early := describes raw tagged
  have late := describes (language.canonical raw) kept
  exact ⟨alike.validates distinct spelled blind early late,
    alike.symm.validates distinct spelled blind late early⟩

/-! ## The two registries -/

theorem Implements.spelled_of_name {payload : A -> Table Datum} {words : List String}
    {own variant : Variant A} {grammar : Grammar}
    (implements : registry.Implements payload words own grammar)
    (found : registry.find? variant.name = some variant) (same : variant.name = grammar.name) :
    variant.form.fields = grammar.fields.map Field.spellings := by
  rw [same, implements.found] at found
  cases found
  exact implements.spelled

theorem speaks_ofActions : operations.Speaks Grammar.ofActions where
  tag := rfl
  oldNames := rfl
  names := rfl
  spelled grammar member variant among same := by
    obtain ⟨_, implements⟩ := Action.variant_of_grammar grammar member
    exact implements.spelled_of_name (find_operation variant among) same
  blind := Action.blind_of_variant

theorem speaks_ofAssertions : assertions.Speaks Grammar.ofAssertions where
  tag := rfl
  oldNames := rfl
  names := rfl
  spelled grammar member variant among same := by
    obtain ⟨_, implements⟩ := Assertion.variant_of_grammar grammar member
    exact implements.spelled_of_name (find_assertion variant among) same
  blind := Assertion.blind_of_variant

/-- A record that spells each field once is read exactly if its current spelling is, and then as
the same action or assertion. -/
theorem older_spellings_parse_alike :
    (∀ raw, Grammar.ofActions.Once raw → ∀ action, operations.parse raw = .ok action ↔
      operations.parse (Grammar.ofActions.canonical raw) = .ok action) ∧
    (∀ raw, Grammar.ofAssertions.Once raw → ∀ assertion, assertions.parse raw = .ok assertion ↔
      assertions.parse (Grammar.ofAssertions.canonical raw) = .ok assertion) :=
  ⟨fun _ once _ => speaks_ofActions.parse_canonical Language.sound_ofActions once,
    fun _ once _ => speaks_ofAssertions.parse_canonical Language.sound_ofAssertions once⟩

theorem older_spellings_of_typing_and_comparison :
    let typing : Table Datum := [("operation", .text "enter"), ("index", .int 1),
      ("page_id", .text "login"), ("element_id", .text "user"), ("value", .text "ann"),
      ("wait", .object [("kind", .text "url.contains"), ("url", .text "/login")])]
    let comparison : Table Datum := [("assertion_type", .text "attribute"), ("index", .int 2),
      ("page_id", .text "login"), ("element_id", .text "user"), ("wait", .text "staleness"),
      ("value", .text "1"), ("condition", .text "greater_than"), ("attributeName", .text "size")]
    Grammar.ofActions.Once typing ∧ Grammar.ofActions.canonical typing =
      [("operation", .text "enter_text"), ("index", .int 1), ("page", .text "login"),
       ("element", .text "user"), ("value", .text "ann"),
       ("wait", .object [("kind", .text "url_contains"), ("fragment", .text "/login")])] ∧
    (∃ action, operations.parse typing = .ok action ∧
      operations.parse (Grammar.ofActions.canonical typing) = .ok action) ∧
    Grammar.ofAssertions.Once comparison ∧ Grammar.ofAssertions.canonical comparison =
      [("assertion_type", .text "attribute"), ("index", .int 2), ("page", .text "login"),
       ("element", .text "user"), ("wait", .object [("kind", .text "stale")]),
       ("expected", .text "1"), ("operator", .text "greaterThan"),
       ("attribute_name", .text "size")] ∧
    ∃ assertion, assertions.parse comparison = .ok assertion ∧
      assertions.parse (Grammar.ofAssertions.canonical comparison) = .ok assertion := by
  intro typing comparison
  have types : Grammar.ofActions.Once typing := by
    refine ⟨by decide, fun wait held => ?_⟩
    cases held
    decide
  have compares : Grammar.ofAssertions.Once comparison := by
    refine ⟨by decide, fun wait held => ?_⟩
    cases held
  exact ⟨types, rfl, ⟨_, rfl, (older_spellings_parse_alike.1 typing types _).mp rfl⟩, compares, rfl,
    _, rfl, (older_spellings_parse_alike.2 comparison compares _).mp rfl⟩

end Registry

end Rehearsal
