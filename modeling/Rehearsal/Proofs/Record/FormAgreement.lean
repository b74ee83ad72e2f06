import Rehearsal.Proofs.Record.FormGrammar

/-!
Forms that only look at what their fields hold. Two tables are read alike if each field holds the
same in both, under whichever of its keys; of waits it is enough that they are read alike.
-/

set_option autoImplicit false

namespace Rehearsal

namespace Form

variable {A B : Type} {first second : Table Datum} {keys : List String}

def held? (table : Table Datum) (keys : List String) : Option Datum :=
  (present? table keys).map (·.2)

def Agrees (form : Form A) (first second : Table Datum) : Prop :=
  ∀ value, form.read first = .ok value ↔ form.read second = .ok value

/-! ## Readers -/

/-- A reader for which the key is only a place to name in errors. -/
def Keyless (reader : Reader A) : Prop :=
  ∀ key other given value, reader key given = .ok value ↔ reader other given = .ok value

theorem keyless_text : Keyless text := by
  intro key other given value
  cases given <;> simp [text]

theorem optional_eq_ok {reader : Reader A} {key : String} {given : Datum} {value : Option A} :
    optional reader key given = .ok value ↔ given = .null ∧ value = none ∨
      given ≠ .null ∧ ∃ item, reader key given = .ok item ∧ value = some item := by
  unfold optional
  split
  · simp [eq_comm]
  next present =>
    have real : given ≠ .null := present
    cases reader key given <;> simp [Except.map, real, eq_comm (a := value)]

theorem keyless_optional {reader : Reader A} (keyless : Keyless reader) :
    Keyless (optional reader) := by
  intro key other given value
  rw [optional_eq_ok, optional_eq_ok]
  simp only [keyless key other]

theorem keyless_intFrom (least : Nat) : Keyless (intFrom least) := by
  intro key other given value
  unfold intFrom
  cases readInt given with
  | error rule => simp
  | ok number => by_cases low : number < least <;> simp [low]

theorem keyless_positive : Keyless positive := by
  intro key other given value
  unfold positive
  cases readReal given with
  | error rule => simp
  | ok number => by_cases above : 0.0 < number <;> simp [above]

theorem keyless_word (parse : String -> Option A) : Keyless (word parse) := by
  intro key other given value
  unfold word
  cases given.text?.bind parse <;> simp

theorem keyless_texts : Keyless texts := by
  intro key other given value
  unfold texts
  cases given with
  | object fields =>
    dsimp only
    generalize joinFields _ = joined
    cases joined <;> simp
  | _ => simp

theorem keyless_wait : Keyless Wait.reader := by
  intro key other given value
  rw [Wait.reader_eq_ok, Wait.reader_eq_ok]

/-! ## Fields -/

/-- What a field holds in two tables, if anything, is read alike. -/
inductive ReadAlike (reader : Reader A) : Option Datum -> Option Datum -> Prop where
  | none : ReadAlike reader none none
  | some {given later : Datum}
      (reads : ∀ key other value, reader key given = .ok value ↔ reader other later = .ok value) :
      ReadAlike reader (some given) (some later)

theorem readAlike_self {reader : Reader A} (keyless : Keyless reader) (given : Option Datum) :
    ReadAlike reader given given := by
  cases given with
  | none => exact .none
  | some given => exact .some fun key other => keyless key other given

theorem readAlike_optional {reader : Reader A} {given later : Datum}
    (alike : ReadAlike reader (some given) (some later)) (present : given ≠ .null)
    (stays : later ≠ .null) : ReadAlike (Form.optional reader) (some given) (some later) := by
  cases alike with
  | some reads =>
    refine .some fun key other value => ?_
    rw [optional_eq_ok, optional_eq_ok]
    simp [present, stays, reads key other]

theorem present?_alike {reader : Reader A}
    (alike : ReadAlike reader (held? first keys) (held? second keys)) :
    present? first keys = none ∧ present? second keys = none ∨
      ∃ one two, present? first keys = some one ∧ present? second keys = some two ∧
        ∀ value, reader one.1 one.2 = .ok value ↔ reader two.1 two.2 = .ok value := by
  unfold held? at alike
  cases one : present? first keys with
  | none =>
    rw [one] at alike
    cases two : present? second keys with
    | none => exact .inl ⟨rfl, rfl⟩
    | some entry =>
      rw [two] at alike
      cases alike
  | some given =>
    rw [one] at alike
    cases two : present? second keys with
    | none =>
      rw [two] at alike
      cases alike
    | some entry =>
      rw [two] at alike
      cases alike with
      | some reads => exact .inr ⟨given, entry, rfl, rfl, reads given.1 entry.1⟩

theorem agrees_required {reader : Reader A}
    (alike : ReadAlike reader (held? first keys) (held? second keys)) :
    (required keys reader).Agrees first second := by
  intro value
  rcases present?_alike alike with ⟨one, two⟩ | ⟨_, _, one, two, reads⟩
  · simp [required, one, two]
  · simpa only [required, one, two] using reads value

theorem agrees_defaulted {reader : Reader A} {fallback : A}
    (alike : ReadAlike reader (held? first keys) (held? second keys)) :
    (defaulted keys fallback reader).Agrees first second := by
  intro value
  rcases present?_alike alike with ⟨one, two⟩ | ⟨_, _, one, two, reads⟩
  · simp [defaulted, one, two]
  · simpa only [defaulted, one, two] using reads value

/-! ## Forms -/

/-- What a field holds in two tables, where it makes no difference: the same, or waits that are
read alike. -/
def Matches (keys : List String) (given later : Option Datum) : Prop :=
  given = later ∨ keys = ["wait"] ∧ ReadAlike (optional Wait.reader) given later

theorem Matches.eq {given later : Option Datum} (same : Matches keys given later)
    (apart : keys ≠ ["wait"]) : given = later :=
  same.resolve_right fun waits => apart waits.1

theorem Matches.symm {given later : Option Datum} (same : Matches keys given later) :
    Matches keys later given := by
  rcases same with same | ⟨waits, alike⟩
  · exact .inl same.symm
  · refine .inr ⟨waits, ?_⟩
    cases alike with
    | none => exact .none
    | some reads => exact .some fun key other value => (reads other key value).symm

/-- What makes no difference is there in both tables or in neither. -/
theorem Matches.exists_value {given : Datum} {later : Option Datum}
    (same : Matches keys (some given) later) : ∃ value, later = some value := by
  rcases same with rfl | ⟨-, alike⟩
  · exact ⟨given, rfl⟩
  · cases alike with
    | some reads => exact ⟨_, rfl⟩

/-- A form that reads alike what makes no difference to its fields. -/
def Blind (form : Form A) : Prop :=
  ∀ first second, (∀ keys ∈ form.fields, Matches keys (held? first keys) (held? second keys)) →
    form.Agrees first second

theorem blind_pure (value : A) : (pure value : Form A).Blind := fun _ _ _ _ => Iff.rfl

theorem blind_map {form : Form A} (f : A -> B) (blind : form.Blind) : (f <$> form).Blind := by
  intro first second same value
  rw [read_map, read_map]
  exact exists_congr fun given => and_congr_left fun _ => blind first second same given

theorem blind_seq {left : Form (A -> B)} {right : Form A} (one : left.Blind)
    (two : right.Blind) : (left <*> right).Blind := by
  intro first second same value
  obtain ⟨early, late⟩ := List.forall_mem_append.mp same
  rw [read_seq, read_seq]
  refine exists_congr fun f => exists_congr fun given => ?_
  rw [one first second early f, two first second late given]

theorem blind_required {reader : Reader A} (keyless : Keyless reader) (apart : keys ≠ ["wait"]) :
    (required keys reader).Blind := by
  intro first second same
  have held := (same keys List.mem_cons_self).eq apart
  exact agrees_required (held ▸ readAlike_self keyless _)

theorem blind_defaulted {reader : Reader A} {fallback : A} (keyless : Keyless reader)
    (apart : keys ≠ ["wait"]) : (defaulted keys fallback reader).Blind := by
  intro first second same
  have held := (same keys List.mem_cons_self).eq apart
  exact agrees_defaulted (held ▸ readAlike_self keyless _)

theorem blind_text (apart : keys ≠ ["wait"]) : (required keys text).Blind :=
  blind_required keyless_text apart

theorem blind_optionalText (apart : keys ≠ ["wait"]) : (Action.optionalText keys).Blind :=
  blind_defaulted (keyless_optional keyless_text) apart

theorem blind_whole (apart : keys ≠ ["wait"]) : (required keys (intFrom 1)).Blind :=
  blind_required (keyless_intFrom 1) apart

end Form

open Form

namespace Wait

theorem blind_tagForm {tag : String} (apart : tag ≠ "wait") : (tagForm tag).Blind :=
  blind_defaulted (fun _ _ _ _ => Iff.rfl) (by simpa using apart)

theorem blind_field : (Form.defaulted ["wait"] none (optional reader)).Blind := by
  intro first second same
  refine agrees_defaulted ?_
  rcases same ["wait"] List.mem_cons_self with held | ⟨-, alike⟩
  · exact held ▸ readAlike_self (keyless_optional keyless_wait) _
  · exact alike

theorem blind_timeout : (Form.defaulted ["timeout"] none (optional positive)).Blind :=
  blind_defaulted (keyless_optional keyless_positive) (by decide)

theorem blind_form {kind : String} {condition : Form WaitCondition}
    (known : WaitCondition.form? kind = some condition) : (form condition).Blind := by
  have blind : condition.Blind := by
    unfold WaitCondition.form? at known
    split at known <;> cases known
    all_goals first
      | exact blind_pure _
      | exact blind_map _ (blind_text (by decide))
  exact blind_seq (blind_seq (blind_map _ blind_timeout) (blind_tagForm (by decide))) blind

end Wait

theorem Header.blind_form : Header.form.Blind := by
  refine blind_seq (blind_seq (blind_seq (blind_seq (blind_map _ ?_) ?_) ?_) Wait.blind_field)
    Wait.blind_timeout
  · exact blind_whole (by decide)
  · exact blind_optionalText (by decide)
  · exact blind_optionalText (by decide)

namespace Action

theorem blind_form {value : Form (Option String)} {operation : Form Operation}
    (values : value.Blind) (operates : operation.Blind) : (form value operation).Blind :=
  blind_seq (blind_seq (blind_seq (blind_map _ Header.blind_form) values)
    (Wait.blind_tagForm (by decide))) operates

theorem blind_bare {value : Form (Option String)} (values : value.Blind) (operation : Operation) :
    (form value (pure operation)).Blind := blind_form values (blind_pure operation)

theorem blind_onPage {operation : Form Operation} (operates : operation.Blind) :
    (form anyValue operation).Blind := blind_form (blind_optionalText (by decide)) operates

theorem blind_ownedValue : ownedValue.Blind :=
  blind_map _ (blind_defaulted keyless_text (by decide))

theorem blind_check : checkForm.Blind :=
  blind_seq (blind_seq (blind_map _ (blind_required (keyless_word _) (by decide)))
    (blind_whole (by decide))) (blind_whole (by decide))

theorem blind_produce : produceForm.Blind :=
  blind_seq (blind_seq (blind_map _ (blind_text (by decide))) (blind_optionalText (by decide)))
    (blind_optionalText (by decide))

theorem blind_consume : consumeForm.Blind :=
  blind_seq (blind_seq (blind_map _ (blind_text (by decide))) (blind_text (by decide)))
    (blind_optionalText (by decide))

theorem blind_httpCall : httpCallForm.Blind :=
  blind_seq (blind_seq (blind_seq (blind_map _ (blind_defaulted keyless_text (by decide)))
    (blind_text (by decide))) (blind_optionalText (by decide)))
    (blind_defaulted keyless_texts (by decide))

theorem blind_of_variant : ∀ variant ∈ variants, variant.form.Blind := by
  have any : anyValue.Blind := blind_optionalText (by decide)
  have needed : ∀ keys, keys ≠ ["wait"] → (neededValue keys).Blind := fun keys apart =>
    blind_map _ (blind_text apart)
  have stateKeys : stateKey.Blind := blind_text (by decide)
  simp only [variants, List.forall_mem_cons]
  exact ⟨blind_bare blind_ownedValue _, blind_bare any _, blind_bare (needed _ (by decide)) _,
    blind_bare any _, blind_bare any _, blind_bare any _, blind_bare any _,
    blind_bare (needed _ (by decide)) _, blind_onPage (blind_map _ (blind_text (by decide))),
    blind_onPage blind_check, blind_onPage (blind_map _ stateKeys),
    blind_onPage (blind_map _ stateKeys), blind_onPage blind_produce, blind_onPage blind_consume,
    blind_onPage blind_httpCall, fun _ member => absurd member List.not_mem_nil⟩

end Action

namespace Assertion

theorem blind_form {aspect : Form Aspect} (judges : aspect.Blind) : (form aspect).Blind :=
  blind_seq (blind_seq (blind_seq (blind_seq (blind_map _ Header.blind_form)
    (blind_optionalText (by decide))) (blind_required (keyless_word _) (by decide)))
    (Wait.blind_tagForm (by decide))) judges

theorem blind_of_variant : ∀ variant ∈ variants, variant.form.Blind := by
  simp only [variants, List.forall_mem_cons]
  exact ⟨blind_form (blind_pure _), blind_form (blind_pure _), blind_form (blind_pure _),
    blind_form (blind_pure _), blind_form (blind_map _ (blind_text (by decide))),
    blind_form (blind_pure _), fun _ member => absurd member List.not_mem_nil⟩

end Assertion

end Rehearsal
