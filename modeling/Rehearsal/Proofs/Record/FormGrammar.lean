import Rehearsal.Proofs.Record.Grammar
import Rehearsal.Proofs.Record.RoundTrip

/-!
Forms that keep to a grammar. A form meets a list of fields on a given table if it reads a value
exactly when the fields are filled; the table that it reads may be a later version of the given
one, in which the older spellings of words have been replaced.
-/

set_option autoImplicit false

namespace Rehearsal

open Grammar (Field Holding Declares Fills Typed)

namespace Form

variable {A B : Type}

theorem run_eq_ok {form : Form A} {table : Table Datum} {value : A} :
    form.run table = .ok value ↔
      form.read table = .ok value ∧ strays form.fields table = [] := by
  unfold run
  split <;> simp_all

/-! ## Keys -/

theorem present?_member {table : Table Datum} {keys : List String} {key : String} {value : Datum}
    (found : present? table keys = some (key, value)) :
    key ∈ keys ∧ table.get? key = some value := by
  obtain ⟨other, member, held⟩ := List.exists_of_findSome?_eq_some found
  obtain ⟨given, held, same⟩ := Option.map_eq_some_iff.mp held
  cases same
  exact ⟨member, held⟩

theorem present?_exists {table : Table Datum} {keys : List String} {key : String}
    (spelled : key ∈ keys) (member : key ∈ table.keys) :
    ∃ entry, present? table keys = some entry := by
  obtain ⟨given, held⟩ := Table.exists_get? member
  refine Option.isSome_iff_exists.mp (List.findSome?_isSome_iff.mpr ⟨key, spelled, ?_⟩)
  simp [held]

/-- A key belongs to one field only. -/
theorem spellings_unique {fields : List Field}
    (distinct : (fields.map Field.spellings).flatten.Nodup) {field other : Field}
    (member : field ∈ fields) (among : other ∈ fields) {key : String}
    (spelled : key ∈ field.spellings) (listed : key ∈ other.spellings) : field = other := by
  induction fields with
  | nil => cases member
  | cons first rest ih =>
    rw [List.map_cons, List.flatten_cons, List.nodup_append] at distinct
    obtain ⟨-, later, apart⟩ := distinct
    -- A key of the first field and of a later one would stand twice among all spellings.
    have elsewhere : ∀ field ∈ rest, key ∈ field.spellings →
        key ∈ (rest.map Field.spellings).flatten := fun field member spelled =>
      List.mem_flatten.mpr ⟨_, List.mem_map_of_mem member, spelled⟩
    rcases List.mem_cons.mp member with rfl | behind <;>
      rcases List.mem_cons.mp among with rfl | behindToo
    · rfl
    · exact absurd rfl (apart key spelled key (elsewhere other behindToo listed))
    · exact absurd rfl (apart key listed key (elsewhere field behind spelled))
    · exact ih later behind behindToo

theorem strays_eq_nil_iff {fields : List Field} {table : Table Datum}
    (distinct : (fields.map Field.spellings).flatten.Nodup) :
    strays (fields.map Field.spellings) table = [] ↔ Declares fields table := by
  have used : strays (fields.map Field.spellings) table = [] ↔ ∀ key ∈ table.keys,
      ∃ field ∈ fields, ∃ value, present? table field.spellings = some (key, value) := by
    simp [strays, List.filter_eq_nil_iff]
  rw [used]
  constructor
  · intro used
    refine ⟨fun key member => ?_, fun field among key spelled other alternative member listed => ?_⟩
    · obtain ⟨field, among, value, found⟩ := used key member
      exact ⟨field, among, (present?_member found).1⟩
    · -- Each key belongs to one field only, and that field is found under one key.
      have owner : ∀ key ∈ field.spellings, key ∈ table.keys →
          ∃ value, present? table field.spellings = some (key, value) := by
        intro key spelled member
        obtain ⟨holder, held, value, found⟩ := used key member
        have same := spellings_unique distinct held among (present?_member found).1 spelled
        exact same ▸ ⟨value, found⟩
      obtain ⟨first, found⟩ := owner key spelled member
      obtain ⟨second, again⟩ := owner other alternative listed
      rw [found] at again
      cases again
      rfl
  · intro declares key member
    obtain ⟨field, among, spelled⟩ := declares.known key member
    obtain ⟨⟨other, value⟩, found⟩ := present?_exists spelled member
    obtain ⟨alternative, held⟩ := present?_member found
    have same := declares.once field among key spelled other alternative member
      (Table.mem_keys held)
    exact ⟨field, among, value, same ▸ found⟩

/-! ## Forms and fields -/

structure Meets (form : Form A) (fields : List Field) (tells : A -> Prop)
    (raw table : Table Datum) : Prop where
  spelled : form.fields = fields.map Field.spellings
  fills : (∃ value, form.read table = .ok value) ↔ Fills fields raw
  tells : ∀ value, form.read table = .ok value → tells value

namespace Meets

variable {raw table : Table Datum} {fields more : List Field}

theorem constant {tells : A -> Prop} {value : A} (told : tells value) :
    (pure value : Form A).Meets [] tells raw table where
  spelled := rfl
  fills := ⟨fun _ => nofun, fun _ => ⟨value, rfl⟩⟩
  tells := by
    intro other read
    cases read
    exact told

theorem imp {form : Form A} {tells told : A -> Prop} (meets : form.Meets fields tells raw table)
    (tell : ∀ value, form.read table = .ok value → tells value → told value) :
    form.Meets fields told raw table where
  spelled := meets.spelled
  fills := meets.fills
  tells value read := tell value read (meets.tells value read)

theorem map {form : Form A} {tells : A -> Prop} {f : A -> B} {told : B -> Prop}
    (meets : form.Meets fields tells raw table) (tell : ∀ value, tells value → told (f value)) :
    (f <$> form).Meets fields told raw table where
  spelled := meets.spelled
  fills := by
    rw [← meets.fills]
    simp only [read_map]
    constructor
    · rintro ⟨_, value, read, -⟩
      exact ⟨value, read⟩
    · rintro ⟨value, read⟩
      exact ⟨_, value, read, rfl⟩
  tells := by
    intro value read
    obtain ⟨given, own, rfl⟩ := (read_map ..).mp read
    exact tell given (meets.tells given own)

theorem seq {left : Form (A -> B)} {right : Form A} {tells : A -> Prop} {told : B -> Prop}
    (lefts : left.Meets fields (fun f => ∀ value, tells value → told (f value)) raw table)
    (rights : right.Meets more tells raw table) :
    (left <*> right).Meets (fields ++ more) told raw table where
  spelled := by
    rw [List.map_append, ← lefts.spelled, ← rights.spelled]
    rfl
  fills := by
    have both : Fills (fields ++ more) raw ↔ Fills fields raw ∧ Fills more raw :=
      List.forall_mem_append
    rw [both, ← lefts.fills, ← rights.fills]
    simp only [read_seq]
    constructor
    · rintro ⟨_, f, value, first, second, -⟩
      exact ⟨⟨f, first⟩, value, second⟩
    · rintro ⟨⟨f, first⟩, value, second⟩
      exact ⟨_, f, value, first, second, rfl⟩
  tells := by
    intro value read
    obtain ⟨f, given, first, second, rfl⟩ := (read_seq ..).mp read
    exact lefts.tells f first given (rights.tells given second)

end Meets

/-- A reader that, given values of a type in their later version, reads those that are allowed. -/
structure Reads (reader : Reader A) (renew : Datum -> Datum) (holding : Holding)
    (dump : A -> Datum) : Prop where
  given : ∀ value, holding.HasType value → value ≠ .null ∧ renew value ≠ .null
  null : renew .null = .null
  refuses : ∀ key item, reader key .null ≠ .ok item
  allows : ∀ key value, holding.HasType value →
    ((∃ item, reader key (renew value) = .ok item) ↔ holding.Allows value)
  shows : ∀ key value item, holding.HasType value → reader key (renew value) = .ok item →
    dump item = holding.shown value

section

variable {raw table : Table Datum} {field : Field} {reader : Reader A} {renew : Datum -> Datum}
  {dump : A -> Datum}

theorem given?_eq (field : Field) (raw : Table Datum) :
    field.given? raw = (present? raw field.spellings).map (·.2) := by
  simp only [Field.given?, present?, List.map_findSome?]
  congr 1
  funext key
  simp [Function.comp_def]

theorem present?_renewed {keys : List String}
    (renewed : ∀ key ∈ keys, table.get? key = (raw.get? key).map renew) :
    present? table keys = (present? raw keys).map fun entry => (entry.1, renew entry.2) := by
  induction keys with
  | nil => rfl
  | cons key rest ih =>
    have here := renewed key (by simp)
    have later := ih fun key member => renewed key (by simp [member])
    simp only [present?, List.findSome?_cons] at later ⊢
    rw [here]
    cases raw.get? key with
    | none => simpa using later
    | some value => rfl

/-- The ways in which a field can stand in a table that keeps to its type. -/
inductive Stands (field : Field) (raw table : Table Datum) (renew : Datum -> Datum) : Prop where
  | missing (before : field.value? raw = none) (after : present? table field.spellings = none)
  | null (key : String) (before : field.value? raw = none)
      (after : present? table field.spellings = some (key, .null))
      (plain : ∀ fallback, field.presence ≠ .defaulted fallback)
  | given (key : String) (value : Datum) (before : field.value? raw = some value)
      (after : present? table field.spellings = some (key, renew value))
      (hasType : field.holding.HasType value)

theorem stands (reads : Reads reader renew field.holding dump) (typed : field.Typed raw)
    (renewed : ∀ key ∈ field.spellings, table.get? key = (raw.get? key).map renew) :
    Stands field raw table renew := by
  have later := present?_renewed renewed
  have given := given?_eq field raw
  cases found : present? raw field.spellings with
  | none =>
    rw [found] at later given
    exact .missing (by simp [Field.value?, given]) later
  | some entry =>
    obtain ⟨key, value⟩ := entry
    rw [found] at later given
    obtain ⟨spelled, held⟩ := present?_member found
    rcases typed key spelled value held with hasType | ⟨rfl, plain⟩
    · have real := (reads.given value hasType).1
      refine .given key value ?_ later hasType
      simp only [Field.value?, given, Option.map_some]
      split
      next none => exact absurd (Option.some.inj none) real
      · rfl
    · refine .null key (by simp [Field.value?, given]) ?_ plain
      simpa [reads.null] using later

theorem fills_single : Fills [field] raw ↔ field.Filled raw := List.forall_mem_singleton

theorem meets_required (needed : field.presence = .required)
    (reads : Reads reader renew field.holding dump) (typed : field.Typed raw)
    (renewed : ∀ key ∈ field.spellings, table.get? key = (raw.get? key).map renew) :
    (required field.spellings reader).Meets [field]
      (fun value => some (dump value) = field.shown? raw) raw table := by
  cases stands reads typed renewed with
  | missing before after =>
    refine ⟨rfl, ?_, fun item read => ?_⟩
    · rw [fills_single, Field.filled_missing before]
      simp [required, after, needed]
    · simp [required, after] at read
  | null key before after =>
    refine ⟨rfl, ?_, fun item read => ?_⟩
    · rw [fills_single, Field.filled_missing before]
      simp [required, after, needed, reads.refuses]
    · simp [required, after, reads.refuses] at read
  | given key value before after hasType =>
    refine ⟨rfl, ?_, fun item read => ?_⟩
    · rw [fills_single, Field.filled_given before]
      simpa only [required, after] using reads.allows key value hasType
    · simp only [required, after] at read
      rw [Field.shown?_given before, reads.shows key value item hasType read]

theorem meets_optional (plain : field.presence = .optional)
    (reads : Reads reader renew field.holding dump) (typed : field.Typed raw)
    (renewed : ∀ key ∈ field.spellings, table.get? key = (raw.get? key).map renew) :
    (defaulted field.spellings none (optional reader)).Meets [field]
      (fun value => value.map dump = field.shown? raw) raw table := by
  cases stands reads typed renewed with
  | missing before after =>
    refine ⟨rfl, ?_, fun item read => ?_⟩
    · rw [fills_single, Field.filled_missing before]
      simp [defaulted, after, plain]
    · rw [Field.shown?_missing before (by simp [plain])]
      simp only [defaulted, after] at read
      cases read
      rfl
  | null key before after =>
    refine ⟨rfl, ?_, fun item read => ?_⟩
    · rw [fills_single, Field.filled_missing before]
      simp [defaulted, after, plain, optional]
    · rw [Field.shown?_missing before (by simp [plain])]
      simp only [defaulted, after, optional] at read
      cases read
      rfl
  | given key value before after hasType =>
    -- What is there is not null, so that the optional reader reads it as the plain one does.
    have later : (defaulted field.spellings none (optional reader)).read table
        = (reader key (renew value)).map some := by
      simp only [defaulted, after, optional]
      split
      next null => exact absurd null (reads.given value hasType).2
      · rfl
    refine ⟨rfl, ?_, fun item read => ?_⟩
    · rw [fills_single, Field.filled_given before, ← reads.allows key value hasType, later]
      cases reader key (renew value) <;> simp [Except.map]
    · rw [Field.shown?_given before]
      rw [later] at read
      cases result : reader key (renew value) with
      | error broken => simp [result, Except.map] at read
      | ok own =>
        rw [result] at read
        cases read
        rw [Option.map_some, reads.shows key value own hasType result]

theorem meets_defaulted (reads : Reads reader renew field.holding dump) (fallback : A)
    (default : field.presence = .defaulted (dump fallback)) (typed : field.Typed raw)
    (renewed : ∀ key ∈ field.spellings, table.get? key = (raw.get? key).map renew) :
    (defaulted field.spellings fallback reader).Meets [field]
      (fun value => some (dump value) = field.shown? raw) raw table := by
  cases stands reads typed renewed with
  | missing before after =>
    refine ⟨rfl, ?_, fun item read => ?_⟩
    · rw [fills_single, Field.filled_missing before]
      simp [defaulted, after, default]
    · rw [Field.shown?_fallback before default]
      simp only [defaulted, after] at read
      cases read
      rfl
  | null key before after plain => exact absurd default (plain _)
  | given key value before after hasType =>
    refine ⟨rfl, ?_, fun item read => ?_⟩
    · rw [fills_single, Field.filled_given before]
      simpa only [defaulted, after] using reads.allows key value hasType
    · simp only [defaulted, after] at read
      rw [Field.shown?_given before, reads.shows key value item hasType read]

/-- The tag of a form is looked at before the form reads, which only has to know it. -/
theorem meets_tag {tag : String} (spelled : field.spellings = [tag]) (filled : field.Filled raw) :
    (Wait.tagForm tag).Meets [field] (fun _ => True) raw table where
  spelled := by simp [Wait.tagForm, defaulted, spelled]
  fills := by
    refine iff_of_true ⟨(), ?_⟩ (fills_single.mpr filled)
    simp only [Wait.tagForm, defaulted]
    split <;> rfl
  tells _ _ := trivial

end

/-! ## Readers -/

theorem reads_text : Reads text id .text Datum.text where
  given := by rintro _ ⟨_, rfl⟩; exact ⟨nofun, nofun⟩
  null := rfl
  refuses := nofun
  allows := by
    rintro key _ ⟨value, rfl⟩
    exact iff_of_true ⟨value, rfl⟩ trivial
  shows := by
    rintro key _ item ⟨value, rfl⟩ read
    cases read
    rfl

theorem reads_texts :
    Reads texts id .texts fun entries => .object (entries.mapValues Datum.text) where
  given := by rintro _ ⟨_, rfl⟩; exact ⟨nofun, nofun⟩
  null := rfl
  refuses := nofun
  allows := by
    rintro key _ ⟨entries, rfl⟩
    exact iff_of_true ⟨entries, texts_object key entries⟩ trivial
  shows := by
    rintro key _ item ⟨entries, rfl⟩ read
    rw [id, texts_object] at read
    cases read
    rfl

theorem reads_whole : Reads (intFrom 1) id .whole fun number => .int number where
  given := by rintro _ ⟨_, rfl⟩; exact ⟨nofun, nofun⟩
  null := rfl
  refuses := nofun
  allows := by
    rintro key _ ⟨number, rfl⟩
    simp only [intFrom, id, readInt, Holding.whole, Datum.int.injEq, exists_eq_left']
    by_cases low : number < (1 : Nat)
    · simp only [if_pos low, reduceCtorEq, exists_false, false_iff]
      omega
    · simp only [if_neg low, Except.ok.injEq, exists_eq', true_iff]
      omega
  shows := by
    rintro key _ item ⟨number, rfl⟩ read
    simp only [intFrom, id, readInt] at read
    split at read
    · cases read
    next high =>
      cases read
      simp only [Holding.whole, Datum.int.injEq]
      omega

theorem reads_seconds : Reads positive id .seconds Datum.real where
  given := by rintro _ ⟨_, rfl⟩; exact ⟨nofun, nofun⟩
  null := rfl
  refuses := nofun
  allows := by
    rintro key _ ⟨number, rfl⟩
    by_cases above : 0.0 < number <;> simp [positive, readReal, Holding.seconds, above]
  shows := by
    rintro key _ item ⟨number, rfl⟩ read
    simp only [positive, id, readReal] at read
    split at read
    · cases read
      rfl
    · cases read

/-- The words of a closed set are the labels of what they stand for. -/
theorem reads_label (all : List A) (label : A -> String) (older : Table String) :
    Reads (word fun given => all.find? fun item => label item == given)
      (Holding.word (all.map label) older).shown (.word (all.map label) older)
      fun item => .text (label item) where
  given := by rintro _ ⟨_, rfl⟩; exact ⟨nofun, nofun⟩
  null := rfl
  refuses := nofun
  allows := by
    rintro key _ ⟨given, rfl⟩
    have among : (∃ item, all.find? (label · == Holding.current older given) = some item) ↔
        Holding.current older given ∈ all.map label := by
      rw [← Option.isSome_iff_exists, List.find?_isSome]
      simp
    simp only [Holding.word, word, Datum.text?, Option.bind_some, Datum.text.injEq]
    rw [exists_eq_left', ← among]
    cases all.find? (label · == Holding.current older given) <;> simp
  shows := by
    rintro key _ item ⟨given, rfl⟩ read
    simp only [Holding.word, word, Datum.text?, Option.bind_some] at read
    split at read
    next found =>
      cases read
      simpa [Holding.word] using List.find?_some found
    · cases read

end Form

/-! ## Waits -/

namespace WaitCondition

open Grammar (kinds)

variable {raw table : Table Datum}

theorem meets_own {f : String -> WaitCondition} {key : String} {others : List String}
    (owned : ∀ value, (f value).ownField = [(key, .text value)])
    (typed : Typed [Grammar.required (key :: others) .text] raw)
    (same : ∀ spelling ∈ key :: others, table.get? spelling = raw.get? spelling) :
    (f <$> Form.required (key :: others) Form.text).Meets
      [Grammar.required (key :: others) .text]
      (fun condition => condition.ownField
        = Grammar.shown [Grammar.required (key :: others) .text] raw) raw table := by
  have renewed : ∀ spelling ∈ (Grammar.required (key :: others) .text).spellings,
      table.get? spelling = (raw.get? spelling).map id := fun spelling member => by
    rw [Option.map_id_fun, id, same spelling member]
  refine (Form.meets_required rfl Form.reads_text (typed _ List.mem_cons_self) renewed).map
    fun value shown => ?_
  rw [owned, Grammar.shown, List.filterMap_cons, ← shown]
  rfl

/-- The kinds of the grammar are those that have a form, which meets the fields of the kind. -/
theorem meets_of_kind (raw table : Table Datum) (kind : String) :
    kinds.get? kind = none ∧ form? kind = none ∨
    ∃ own form, kinds.get? kind = some own ∧ form? kind = some form ∧
      (Typed own raw → (∀ key, key ≠ "kind" → table.get? key = raw.get? key) →
        form.Meets own (fun condition => condition.ownField = Grammar.shown own raw)
          raw table) := by
  unfold form?
  split
  case h_9 =>
    refine .inl ⟨Table.get?_eq_none ?_, rfl⟩
    simp_all [kinds, Table.keys]
  all_goals first
    | exact .inr ⟨_, _, rfl, rfl, fun _ _ => .constant rfl⟩
    | exact .inr ⟨_, _, rfl, rfl, fun typed same =>
        meets_own (fun _ => rfl) typed (by simp [same])⟩

end WaitCondition

namespace Wait

open Grammar (kindField waitFields fieldsOfWait? olderKinds)

variable {raw table : Table Datum} {own : List Field} {condition : Form WaitCondition}

theorem meets_form {kind : String} (typed : Typed (waitFields own) raw)
    (kinded : kindField.Filled raw) (shown : kindField.shown? raw = some (.text kind))
    (same : ∀ key, key ≠ "kind" → table.get? key = raw.get? key)
    (owned : condition.Meets own (fun condition => condition.ownField = Grammar.shown own raw)
      raw table) :
    (form condition).Meets (waitFields own)
      (fun wait => wait.condition.kind = kind →
        wait.written = Grammar.shown (waitFields own) raw) raw table := by
  have timed : (Grammar.optional ["timeout"] .seconds).Typed raw :=
    typed _ (by simp [waitFields])
  have renewed : ∀ key ∈ (Grammar.optional ["timeout"] .seconds).spellings,
      table.get? key = (raw.get? key).map id := by simp [Grammar.optional, same]
  have timeout := Form.meets_optional rfl Form.reads_seconds timed renewed
  refine ((timeout.map (f := ofParts) ?_).seq (Form.meets_tag rfl kinded)).seq owned
  intro seconds told _ _ condition ownField named
  rw [waitFields, Grammar.shown_append, Grammar.shown_cons, Grammar.shown_cons, shown, ← told,
    ← ownField, ← named]
  cases seconds <;> rfl

/-- The wait with its kind in the current spelling. -/
def renewed : Datum -> Datum
  | .object wait =>
    match Table.get? wait "kind" with
    | some (.text kind) =>
      .object (Table.put wait "kind" (.text (Holding.current olderKinds kind)))
    | _ => .object wait
  | value => value

/-- A wait is of no known kind, or it is read by the form of its kind, which meets its fields. -/
inductive Known (wait : Table Datum) : Prop where
  | none (without : fieldsOfWait? wait = none)
      (refused : ∀ key item, reader key (renewed (.object wait)) ≠ .ok item)
  | some (own : List Field) (condition : Form WaitCondition) (later : Table Datum)
      (fields : fieldsOfWait? wait = some (waitFields own))
      (renews : renewed (.object wait) = .object later) (keys : later.keys = wait.keys)
      (reads : ∀ key item, reader key (.object later) = .ok item ↔
        (form condition).run later = .ok item)
      (met : Typed (waitFields own) wait → (form condition).Meets (waitFields own)
        (fun item => item.written = Grammar.shown (waitFields own) wait) wait later)

theorem known_unnamed {wait : Table Datum}
    (unnamed : ∀ kind, wait.get? "kind" ≠ some (.text kind)) : Known wait := by
  have nameless : ((wait.get? "kind").bind Datum.text?).getD "" = "" := by
    cases held : wait.get? "kind" with
    | none => rfl
    | some given =>
      cases given with
      | text kind => exact absurd held (unnamed kind)
      | _ => rfl
  refine .none ?_ fun key item reading => ?_
  · unfold fieldsOfWait?
    split
    next kind held => exact absurd held (unnamed kind)
    · rfl
  · have same : renewed (.object wait) = .object wait := by
      unfold renewed
      dsimp only
      split
      next kind held => exact absurd held (unnamed kind)
      · rfl
    rw [same] at reading
    obtain ⟨fields, form, given, found, -⟩ := reader_eq_ok.mp reading
    cases given
    rw [nameless] at found
    cases found

theorem known (wait : Table Datum) : Known wait := by
  by_cases named : ∃ kind, wait.get? "kind" = some (.text kind)
  · obtain ⟨given, held⟩ := named
    let kind := Holding.current olderKinds given
    let later := Table.put wait "kind" (.text kind)
    have renews : renewed (.object wait) = .object later := by
      simp only [renewed, held, later, kind]
    -- The form is looked up by the kind that the later version holds.
    have current : later.get? "kind" = some (.text kind) := by simp [later, Table.get?_put]
    have same : ∀ key, key ≠ "kind" → later.get? key = wait.get? key := fun key other => by
      simp [later, Table.get?_put, other.symm]
    have reads : ∀ key item, reader key (.object later) = .ok item ↔ ∃ condition,
        WaitCondition.form? kind = some condition ∧ (form condition).run later = .ok item := by
      intro key item
      rw [reader_eq_ok]
      constructor
      · rintro ⟨fields, condition, given, found, ran⟩
        rw [← Datum.object.inj given, current] at found
        rw [← Datum.object.inj given] at ran
        exact ⟨condition, found, ran⟩
      · rintro ⟨condition, found, ran⟩
        exact ⟨later, condition, rfl, by rw [current]; exact found, ran⟩
    rcases WaitCondition.meets_of_kind wait later kind with
      ⟨unknown, formless⟩ | ⟨own, condition, known, formed, met⟩
    · refine .none (by simp only [fieldsOfWait?, held, kind, unknown, Option.map_none]) ?_
      intro key item reading
      rw [renews, reads, formless] at reading
      simp at reading
    · refine .some own condition later ?_ renews (Table.keys_put _ (Table.mem_keys held)) ?_ ?_
      · simp only [fieldsOfWait?, held, kind, known, Option.map_some]
      · intro key item
        rw [reads, formed]
        simp
      · intro typed
        have given := Grammar.value?_required held kindField.holding
        have kinded : kindField.Filled wait :=
          (Field.filled_given given).mpr ⟨_, rfl, Table.mem_keys known⟩
        refine (meets_form typed kinded (Field.shown?_given given) same
          (met (fun field member => typed field (by simp [waitFields, member])) same)).imp ?_
        intro item read told
        exact told (restores_of_read formed read).1
  · exact known_unnamed fun kind held => named ⟨kind, held⟩

theorem distinct_fields {wait : Table Datum} {fields : List Field}
    (found : fieldsOfWait? wait = some fields) :
    (fields.map Field.spellings).flatten.Nodup := by
  have all : ∀ entry ∈ Grammar.kinds, ((waitFields entry.2).map Field.spellings).flatten.Nodup := by
    decide
  unfold fieldsOfWait? at found
  split at found
  · obtain ⟨own, known, rfl⟩ := Option.map_eq_some_iff.mp found
    obtain ⟨entry, member, rfl⟩ := Option.map_eq_some_iff.mp known
    exact all entry (List.mem_of_find?_eq_some member)
  · cases found

theorem reads_wait : Form.Reads reader renewed .wait payload where
  given := by
    rintro _ ⟨wait, rfl, -⟩
    refine ⟨nofun, ?_⟩
    unfold renewed
    dsimp only
    split <;> nofun
  null := rfl
  refuses := nofun
  allows := by
    rintro key _ ⟨wait, rfl, typed⟩
    cases known wait with
    | none without refused =>
      simp [refused, Holding.wait, without]
    | some own condition later fields renews keys reads met =>
      have met := met (typed _ fields)
      have strays : Form.strays (form condition).fields later = [] ↔
          Declares (waitFields own) wait := by
        rw [met.spelled, Form.strays_eq_nil_iff (distinct_fields fields),
          Grammar.declares_congr keys]
      simp only [renews, reads, Form.run_eq_ok, strays, Holding.wait, Datum.object.injEq,
        exists_eq_left', fields, Option.mem_def, Option.some.injEq, ← met.fills]
      constructor
      · rintro ⟨item, read, declared⟩
        exact ⟨declared, item, read⟩
      · rintro ⟨declared, item, read⟩
        exact ⟨item, read, declared⟩
  shows := by
    rintro key _ item ⟨wait, rfl, typed⟩ reading
    cases known wait with
    | none without refused => exact absurd reading (refused key item)
    | some own condition later fields renews keys reads met =>
      rw [renews, reads] at reading
      have written := (met (typed _ fields)).tells item (Form.read_of_run reading)
      simp only [Holding.wait, fields, Option.getD_some, ← written]
      rfl

end Wait

end Rehearsal
