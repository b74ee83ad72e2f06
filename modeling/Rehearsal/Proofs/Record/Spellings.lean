import Rehearsal.Proofs.Record.FormGrammar

/-!
Records in their current spelling. Every key is replaced by the name of the field that it spells,
and older words by those that are current; a record that spells each field once keeps the fields
that it has.
-/

set_option autoImplicit false

namespace Rehearsal

namespace Grammar

/-- No field is given under two of its keys. -/
def SpellsOnce (fields : List Field) (table : Table Datum) : Prop :=
  ∀ field ∈ fields, ∀ key ∈ field.spellings, ∀ other ∈ field.spellings,
    key ∈ table.keys → other ∈ table.keys → key = other

instance (fields : List Field) (table : Table Datum) : Decidable (SpellsOnce fields table) :=
  inferInstanceAs (Decidable (∀ field ∈ fields, ∀ key ∈ field.spellings,
    ∀ other ∈ field.spellings, key ∈ table.keys → other ∈ table.keys → key = other))

/-- The name of the field that a key spells; any other key stands for itself. -/
def respell (fields : List Field) (key : String) : String :=
  ((fields.find? fun field => field.spellings.contains key).map Field.name).getD key

/-- Every field under its name, and with what its value becomes. -/
def restated (fields : List Field) (value : String -> Datum -> Datum) (table : Table Datum) :
    Table Datum :=
  table.map fun entry => (respell fields entry.1, value (respell fields entry.1) entry.2)

def reword (older : Table String) : Datum -> Datum
  | .text word => .text (Holding.current older word)
  | value => value

/-! ## Keys -/

section

variable {fields : List Field} {field : Field} {table : Table Datum} {key other : String}
  {value : String -> Datum -> Datum}

/-- The fields of a grammar: each has a name, and no key belongs to two of them. -/
structure Distinct (fields : List Field) : Prop where
  apart : (fields.map Field.spellings).flatten.Nodup
  named : ∀ field ∈ fields, field.name ∈ field.spellings

instance (fields : List Field) : Decidable (Distinct fields) :=
  decidable_of_iff ((fields.map Field.spellings).flatten.Nodup ∧
    ∀ field ∈ fields, field.name ∈ field.spellings)
    ⟨fun ⟨apart, named⟩ => ⟨apart, named⟩, fun distinct => ⟨distinct.apart, distinct.named⟩⟩

theorem respell_of_member (distinct : Distinct fields) (member : field ∈ fields)
    (spelled : key ∈ field.spellings) : respell fields key = field.name := by
  have found : fields.find? (fun field => field.spellings.contains key) = some field := by
    cases first : fields.find? fun field => field.spellings.contains key with
    | none => simpa [spelled] using List.find?_eq_none.mp first field member
    | some other =>
      have listed : key ∈ other.spellings := by simpa using List.find?_some first
      rw [Form.spellings_unique distinct.apart (List.mem_of_find?_eq_some first) member listed
        spelled]
  rw [respell, found]
  rfl

theorem respell_foreign (foreign : ∀ field ∈ fields, key ∉ field.spellings) :
    respell fields key = key := by
  have none : fields.find? (fun field => field.spellings.contains key) = none := by
    simpa [List.find?_eq_none] using foreign
  rw [respell, none]
  rfl

/-- A key comes out as a spelling of a field only if it was one, and then as the field's name. -/
theorem respell_mem_spellings (distinct : Distinct fields) (member : field ∈ fields) :
    respell fields key ∈ field.spellings ↔ key ∈ field.spellings := by
  by_cases owned : ∃ owner ∈ fields, key ∈ owner.spellings
  · obtain ⟨owner, among, spelled⟩ := owned
    rw [respell_of_member distinct among spelled]
    constructor
    · intro named
      exact Form.spellings_unique distinct.apart among member (distinct.named owner among) named ▸
        spelled
    · intro listed
      exact Form.spellings_unique distinct.apart among member spelled listed ▸
        distinct.named owner among
  · rw [respell_foreign fun field among spelled => owned ⟨field, among, spelled⟩]

theorem get?_map_entries {name given : String} (rename : String -> String)
    (renamed : rename given = name)
    (only : ∀ key ∈ table.keys, rename key = name → key = given) :
    Table.get? (table.map fun entry => (rename entry.1, value (rename entry.1) entry.2)) name =
      (table.get? given).map (value name) := by
  induction table with
  | nil => rfl
  | cons entry rest ih =>
    obtain ⟨first, others⟩ := List.forall_mem_cons.mp only
    rw [List.map_cons, Table.get?_cons, Table.get?_cons]
    by_cases here : entry.1 = given
    · simp [here, renamed]
    · have elsewhere : ¬ rename entry.1 = name := fun same => here (first same)
      simpa [here, elsewhere] using ih others

/-- A key that has no other spelling keeps its place. -/
theorem get?_restated (distinct : Distinct fields)
    (lone : ∀ field ∈ fields, key ∈ field.spellings → field.spellings = [key]) :
    (restated fields value table).get? key = (table.get? key).map (value key) := by
  have named : ∀ owner ∈ fields, key ∈ owner.spellings → owner.name = key := by
    intro owner among spelled
    rw [Field.name, lone owner among spelled]
    rfl
  rw [restated]
  refine get?_map_entries (respell fields) ?_ fun given _ same => ?_
  · by_cases owned : ∃ owner ∈ fields, key ∈ owner.spellings
    · obtain ⟨owner, among, spelled⟩ := owned
      rw [respell_of_member distinct among spelled, named owner among spelled]
    · exact respell_foreign fun field among spelled => owned ⟨field, among, spelled⟩
  · by_cases owned : ∃ owner ∈ fields, given ∈ owner.spellings
    · obtain ⟨owner, among, spelled⟩ := owned
      rw [respell_of_member distinct among spelled] at same
      have own := lone owner among (same ▸ distinct.named owner among)
      exact List.mem_singleton.mp (own ▸ spelled)
    · rwa [respell_foreign fun field among spelled => owned ⟨field, among, spelled⟩] at same

theorem mem_keys_restated :
    key ∈ (restated fields value table).keys ↔
      ∃ given ∈ table.keys, respell fields given = key := by
  simp [restated, Table.keys]

theorem present?_of_once (once : SpellsOnce fields table) (member : field ∈ fields)
    (spelled : key ∈ field.spellings) {held : Datum} (found : table.get? key = some held) :
    Form.present? table field.spellings = some (key, held) := by
  obtain ⟨⟨other, given⟩, present⟩ := Form.present?_exists spelled (Table.mem_keys found)
  obtain ⟨alternative, stands⟩ := Form.present?_member present
  obtain rfl := once field member key spelled other alternative (Table.mem_keys found)
    (Table.mem_keys stands)
  rw [present, Option.some.inj (found.symm.trans stands)]

theorem spellsOnce_restated (distinct : Distinct fields) :
    SpellsOnce fields (restated fields value table) := by
  -- What a key of the field comes from was one of its keys, and comes out under its name.
  have named : ∀ field ∈ fields, ∀ key ∈ field.spellings,
      key ∈ (restated fields value table).keys → key = field.name := by
    intro field member key spelled listed
    obtain ⟨given, -, rfl⟩ := mem_keys_restated.mp listed
    exact respell_of_member distinct member ((respell_mem_spellings distinct member).mp spelled)
  intro field member key spelled other alternative listed again
  rw [named field member key spelled listed, named field member other alternative again]

/-- Each field comes out under its name, with what its value becomes. -/
theorem present?_restated (distinct : Distinct fields) (once : SpellsOnce fields table)
    (member : field ∈ fields) :
    Form.present? (restated fields value table) field.spellings =
      (Form.present? table field.spellings).map fun entry =>
        (field.name, value field.name entry.2) := by
  cases found : Form.present? table field.spellings with
  | none =>
    refine List.findSome?_eq_none_iff.mpr fun key spelled => ?_
    have absent : key ∉ (restated fields value table).keys := by
      intro listed
      obtain ⟨given, stands, rfl⟩ := mem_keys_restated.mp listed
      obtain ⟨entry, present⟩ :=
        Form.present?_exists ((respell_mem_spellings distinct member).mp spelled) stands
      rw [found] at present
      cases present
    simp [Table.get?_eq_none absent]
  | some entry =>
    obtain ⟨spelled, held⟩ := Form.present?_member found
    have stands : (restated fields value table).get? field.name =
        some (value field.name entry.2) := by
      rw [restated, get?_map_entries (respell fields) (respell_of_member distinct member spelled),
        held]
      · rfl
      · intro key listed named
        have own := distinct.named field member
        rw [← named, respell_mem_spellings distinct member] at own
        exact once field member key own entry.1 spelled listed (Table.mem_keys held)
    exact present?_of_once (spellsOnce_restated distinct) member (distinct.named field member)
      stands

theorem declares_restated (distinct : Distinct fields) (once : SpellsOnce fields table) :
    Declares fields (restated fields value table) ↔ Declares fields table := by
  constructor
  · rintro ⟨known, -⟩
    refine ⟨fun key listed => ?_, once⟩
    obtain ⟨field, member, spelled⟩ := known _ (mem_keys_restated.mpr ⟨key, listed, rfl⟩)
    exact ⟨field, member, (respell_mem_spellings distinct member).mp spelled⟩
  · rintro ⟨known, -⟩
    refine ⟨fun key listed => ?_, spellsOnce_restated distinct⟩
    obtain ⟨given, stands, rfl⟩ := mem_keys_restated.mp listed
    obtain ⟨field, member, spelled⟩ := known given stands
    exact ⟨field, member, (respell_mem_spellings distinct member).mpr spelled⟩

end

/-! ## Records -/

def kindReworded (name : String) (value : Datum) : Datum :=
  if name = "kind" then reword olderKinds value else value

/-- A wait with its fields under their names and its kind in the current spelling. -/
def canonicalWait (wait : Table Datum) : Table Datum :=
  restated ((fieldsOfWait? wait).getD []) kindReworded wait

/-- A bare kind becomes the wait that it stands for. -/
def restatedWait : Datum -> Datum
  | .text kind => .object [("kind", .text (Holding.current olderKinds kind))]
  | .object wait => .object (canonicalWait wait)
  | value => value

/-- The records of a registry: the field that tells their grammar, the grammars, and the older
spellings of words by the names of the fields that hold them. -/
structure Language where
  tag : String
  grammars : List Grammar
  olderWords : Table (Table String)

namespace Language

def older (language : Language) (name : String) : Table String :=
  (language.olderWords.get? name).getD []

/-- The name of a record's variant, which its tag tells in whatever spelling; null is no tag. -/
def variantName? (language : Language) (record : Table Datum) : Option String :=
  match record.get? language.tag with
  | none | some .null => none
  | some tag => tag.written.toOption.map (Holding.current (language.older language.tag))

def grammar? (language : Language) (record : Table Datum) : Option Grammar :=
  (language.variantName? record).bind fun name =>
    language.grammars.find? fun grammar => grammar.name == name

def fieldsOf (language : Language) (record : Table Datum) : List Field :=
  ((language.grammar? record).map Grammar.fields).getD []

def value (language : Language) (name : String) (given : Datum) : Datum :=
  if name = "wait" then restatedWait given else reword (language.older name) given

/-- The record in its current spelling. -/
def canonical (language : Language) (record : Table Datum) : Table Datum :=
  restated (language.fieldsOf record) language.value record

/-- A record that spells each field once, and so does its wait. -/
structure Once (language : Language) (record : Table Datum) : Prop where
  fields : SpellsOnce (language.fieldsOf record) record
  wait : ∀ wait, record.get? "wait" = some (.object wait) →
    ∀ fields ∈ fieldsOfWait? wait, SpellsOnce fields wait

end Language

def olderOperations : Table String :=
  [("enter", "enter_text"), ("type", "enter_text"), ("select", "select_option"),
   ("doubleClick", "double_click"), ("uploadFile", "upload_file"), ("saveState", "save_state"),
   ("loadState", "load_state"), ("kafkaProduce", "produce"), ("kafkaConsume", "consume"),
   ("restCall", "http_call")]

def ofActions : Language :=
  { tag := "operation", grammars := actions, olderWords := [("operation", olderOperations)] }

def ofAssertions : Language :=
  { tag := "assertion_type", grammars := assertions, olderWords := [("operator", olderOperators)] }

end Grammar

end Rehearsal
