import Rehearsal.Record.Registry

/-!
What is known of a value that a form has read: each part of the form has read its part of the
value, and no rule of a reader is broken.
-/

set_option autoImplicit false

namespace Rehearsal

section

variable {E D A B : Type}

theorem bind_eq_ok (first : Except E A) (next : A -> Except E B) (value : B) :
    (first >>= next) = .ok value ↔
      ∃ middle, first = .ok middle ∧ next middle = .ok value := by
  cases first with
  | error broken => simp [bind, Except.bind]
  | ok middle => simp [bind, Except.bind]

theorem then_throw_ne_ok (first : Except E A) (broken : E) (value : B) :
    (first >>= fun _ => throw broken) ≠ .ok value := by
  cases first <;> simp [bind, Except.bind, throw, throwThe, MonadExceptOf.throw]

theorem mapError_eq_ok (first : Except E A) (change : E -> D) (value : A) :
    first.mapError change = .ok value ↔ first = .ok value := by
  cases first with
  | error broken => exact ⟨nofun, nofun⟩
  | ok given =>
    change Except.ok given = .ok value ↔ _
    simp only [Except.ok.injEq]

theorem mapM_member {items : List A} {each : A -> Except E B} {results : List B}
    (passed : items.mapM each = .ok results) :
    ∀ result ∈ results, ∃ item ∈ items, each item = .ok result := by
  induction items generalizing results with
  | nil =>
    simp only [List.mapM_nil, pure, Except.pure, Except.ok.injEq] at passed
    simp [← passed]
  | cons first rest ih =>
    rw [List.mapM_cons, bind_eq_ok] at passed
    obtain ⟨head, taken, passed⟩ := passed
    obtain ⟨tail, others, passed⟩ := (bind_eq_ok ..).mp passed
    simp only [pure, Except.pure, Except.ok.injEq] at passed
    intro result member
    rw [← passed] at member
    rcases List.mem_cons.mp member with rfl | later
    · exact ⟨first, by simp, taken⟩
    · obtain ⟨item, among, result⟩ := ih others result later
      exact ⟨item, by simp [among], result⟩

theorem discard_eq_ok (result : Except E A) :
    discard result = .ok () ↔ ∃ value, result = .ok value := by
  cases result with
  | error broken => exact ⟨nofun, nofun⟩
  | ok value => exact ⟨fun _ => ⟨value, rfl⟩, fun _ => rfl⟩

theorem forM_member {items : List A} {each : A -> Except E Unit}
    (passed : items.forM each = .ok ()) : ∀ item ∈ items, each item = .ok () := by
  induction items with
  | nil => simp
  | cons first rest ih =>
    obtain ⟨⟨⟩, checked, others⟩ := (bind_eq_ok ..).mp passed
    exact List.forall_mem_cons.mpr ⟨checked, ih others⟩

end

namespace Form

variable {A B : Type} {table : Table Datum}

@[simp] theorem read_pure (value : A) : (pure value : Form A).read table = .ok value := rfl

@[simp] theorem read_map (f : A -> B) (form : Form A) (value : B) :
    (f <$> form).read table = .ok value ↔
      ∃ given, form.read table = .ok given ∧ f given = value := by
  change (form.read table).map f = _ ↔ _
  cases form.read table <;> simp [Except.map]

@[simp] theorem read_seq (left : Form (A -> B)) (right : Form A) (value : B) :
    (left <*> right).read table = .ok value ↔
      ∃ f given, left.read table = .ok f ∧ right.read table = .ok given ∧ f given = value := by
  cases first : left.read table <;> cases second : right.read table <;>
    simp [Seq.seq, apply, first, second]

theorem read_of_run {form : Form A} {value : A} (ran : form.run table = .ok value) :
    form.read table = .ok value := by
  unfold run at ran
  split at ran <;> simp_all

theorem read_required {keys : List String} {reader : Reader A} {value : A}
    (passed : (required keys reader).read table = .ok value) :
    ∃ key given, present? table keys = some (key, given) ∧ reader key given = .ok value := by
  simp only [required] at passed
  split at passed
  next key given found => exact ⟨key, given, found, passed⟩
  · simp at passed

theorem intFrom_least {least number : Nat} {key : String} {given : Datum}
    (passed : intFrom least key given = .ok number) : least ≤ number := by
  simp only [intFrom] at passed
  split at passed
  · simp at passed
  next whole reading =>
    split at passed
    · simp at passed
    next high =>
      simp only [Except.ok.injEq] at passed
      omega

end Form

namespace Registry

variable {A : Type} {registry : Registry A} {variant : Variant A}

theorem variant_of_get {name : String} (found : registry.get name = .ok variant) :
    variant ∈ registry.variants := by
  simp only [get, find?] at found
  split at found
  next among =>
    simp only [Except.ok.injEq] at found
    exact found ▸ List.mem_of_find?_eq_some among
  · cases found

theorem read_of_validate {record : Table Datum} {value : A}
    (valid : registry.validate variant record = .ok value) :
    variant.form.read record = .ok value := by
  simp only [validate] at valid
  split at valid
  · cases valid
  next ran =>
    split at valid
    · cases valid
    · exact Form.read_of_run (valid ▸ ran)

theorem validate_of_parse {record : Table Datum} {value : A}
    (parsed : registry.parse record = .ok value) :
    ∃ variant ∈ registry.variants, ∃ table, registry.validate variant table = .ok value := by
  unfold parse at parsed
  split at parsed
  -- A record whose tag is missing or null is turned down before any form reads it.
  · exact absurd parsed (then_throw_ne_ok _ _ _)
  · exact absurd parsed (then_throw_ne_ok _ _ _)
  · obtain ⟨name, -, parsed⟩ := (bind_eq_ok ..).mp parsed
    obtain ⟨variant, found, parsed⟩ := (bind_eq_ok ..).mp parsed
    obtain ⟨table, -, parsed⟩ := (bind_eq_ok ..).mp parsed
    refine ⟨variant, variant_of_get found, table, ?_⟩
    split at parsed
    next valid =>
      cases parsed
      exact valid
    · exact absurd parsed (then_throw_ne_ok _ _ _)

theorem read_of_parse {record : Table Datum} {value : A}
    (parsed : registry.parse record = .ok value) :
    ∃ variant ∈ registry.variants, ∃ table, variant.form.read table = .ok value := by
  obtain ⟨variant, member, table, valid⟩ := validate_of_parse parsed
  exact ⟨variant, member, table, read_of_validate valid⟩

end Registry

end Rehearsal
