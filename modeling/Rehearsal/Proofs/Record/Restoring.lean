import Rehearsal.Proofs.Record.FormReading

/-!
Forms that read back what a value is written as. A form restores a value from a table if every
object that says the same under the keys of the form is read as that value, and if the table
names each field in its preferred spelling.
-/

set_option autoImplicit false

namespace Rehearsal

namespace Form

variable {A B : Type}

theorem present?_preferred {table : Table Datum} {key : String} {given : Datum}
    (held : table.get? key = some given) (others : List String) :
    present? table (key :: others) = some (key, given) := by
  simp [present?, held]

theorem present?_eq_none {table : Table Datum} {keys : List String}
    (absent : ∀ key ∈ keys, table.get? key = none) : present? table keys = none := by
  refine List.findSome?_eq_none_iff.mpr fun key member => ?_
  simp [absent key member]

theorem strays_eq_nil {fields : List (List String)} {table : Table Datum}
    (preferred : ∀ key ∈ table.keys, ∃ keys ∈ fields, keys.head? = some key) :
    strays fields table = [] := by
  simp only [strays, List.map_eq_nil_iff, List.filter_eq_nil_iff, Bool.not_eq_true,
    Bool.not_eq_false', List.contains_iff_mem, List.mem_filterMap]
  intro key member
  obtain ⟨keys, field, first⟩ := preferred key member
  obtain ⟨given, held⟩ := Table.exists_get? member
  obtain ⟨others, rfl⟩ := List.head?_eq_some_iff.mp first
  exact ⟨_, field, by simp [present?_preferred held]⟩

theorem apart_of_nodup {left : Form (A -> B)} {right : Form A}
    (distinct : (left <*> right).fields.flatten.Nodup) :
    left.fields.flatten.Nodup ∧ ∀ key ∈ left.fields.flatten, key ∉ right.fields.flatten := by
  have distinct : (left.fields ++ right.fields).flatten.Nodup := distinct
  rw [List.flatten_append, List.nodup_append] at distinct
  exact ⟨distinct.1, fun key member other => distinct.2.2 key member key other rfl⟩

structure Restores (form : Form A) (value : A) (table : Table Datum) : Prop where
  rereads : ∀ other : Table Datum,
    (∀ key ∈ form.fields.flatten, other.get? key = table.get? key) → form.read other = .ok value
  preferred : ∀ key ∈ table.keys, ∃ keys ∈ form.fields, keys.head? = some key

namespace Restores

theorem run {form : Form A} {value : A} {table : Table Datum}
    (restores : form.Restores value table) : form.run table = .ok value := by
  simp only [Form.run, restores.rereads table fun _ _ => rfl, strays_eq_nil restores.preferred]

theorem mem_flatten {form : Form A} {value : A} {table : Table Datum}
    (restores : form.Restores value table) : ∀ key ∈ table.keys, key ∈ form.fields.flatten := by
  intro key member
  obtain ⟨keys, field, first⟩ := restores.preferred key member
  exact List.mem_flatten.mpr ⟨keys, field, List.mem_of_mem_head? first⟩

theorem constant (value : A) : (pure value : Form A).Restores value [] :=
  ⟨fun _ _ => rfl, nofun⟩

theorem map {form : Form A} {value : A} {table : Table Datum} (f : A -> B)
    (restores : form.Restores value table) : (f <$> form).Restores (f value) table where
  rereads other same := (read_map ..).mpr ⟨value, restores.rereads other same, rfl⟩
  preferred := restores.preferred

theorem seq {left : Form (A -> B)} {right : Form A} {f : A -> B} {value : A}
    {first second : Table Datum} (lefts : left.Restores f first)
    (rights : right.Restores value second)
    (apart : ∀ key ∈ left.fields.flatten, key ∉ right.fields.flatten) :
    (left <*> right).Restores (f value) (first ++ second) where
  rereads other same := by
    have same : ∀ key ∈ left.fields.flatten ++ right.fields.flatten,
        other.get? key = Table.get? (first ++ second) key := by
      rw [← List.flatten_append]
      exact same
    -- Neither part of the table speaks of a key of the other.
    have leftOnly : ∀ key ∈ left.fields.flatten, other.get? key = first.get? key := by
      intro key member
      have silent : second.get? key = none :=
        Table.get?_eq_none fun named => apart key member (rights.mem_flatten key named)
      rw [same key (by simp [member]), Table.get?_append, silent, Option.or_none]
    have rightOnly : ∀ key ∈ right.fields.flatten, other.get? key = second.get? key := by
      intro key member
      have silent : first.get? key = none :=
        Table.get?_eq_none fun named => apart key (lefts.mem_flatten key named) member
      rw [same key (by simp [member]), Table.get?_append, silent, Option.none_or]
    exact (read_seq ..).mpr
      ⟨f, value, lefts.rereads other leftOnly, rights.rereads other rightOnly, rfl⟩
  preferred := by
    change ∀ key ∈ Table.keys (first ++ second), ∃ keys ∈ left.fields ++ right.fields, _
    simp only [Table.keys_append, List.mem_append]
    rintro key (member | member)
    · obtain ⟨keys, field, head⟩ := lefts.preferred key member
      exact ⟨keys, .inl field, head⟩
    · obtain ⟨keys, field, head⟩ := rights.preferred key member
      exact ⟨keys, .inr field, head⟩

section

variable {key : String} {others : List String} {reader : Reader A} {given : Datum} {value : A}

theorem required (reads : reader key given = .ok value) :
    (Form.required (key :: others) reader).Restores value [(key, given)] where
  rereads other same := by
    have held : other.get? key = some given := by
      rw [same key (by simp [Form.required])]
      simp [Table.get?_cons]
    simp only [Form.required, present?_preferred held, reads]
  preferred := by simp [Table.keys, Form.required]

theorem defaulted {fallback : A} (reads : reader key given = .ok value) :
    (Form.defaulted (key :: others) fallback reader).Restores value [(key, given)] where
  rereads other same := by
    have held : other.get? key = some given := by
      rw [same key (by simp [Form.defaulted])]
      simp [Table.get?_cons]
    simp only [Form.defaulted, present?_preferred held, reads]
  preferred := by simp [Table.keys, Form.defaulted]

theorem fallback {keys : List String} {fallback : A} :
    (Form.defaulted keys fallback reader).Restores fallback [] where
  rereads other same := by
    have absent : present? other keys = none :=
      present?_eq_none fun key member => same key (by simpa [Form.defaulted] using member)
    simp only [Form.defaulted, absent]
  preferred := nofun

/-- What may be missing is written only if it is there. -/
theorem optional {dump : A -> Datum} {value : Option A}
    (reads : ∀ item ∈ value, reader key (dump item) = .ok item ∧ dump item ≠ .null) :
    (Form.defaulted (key :: others) none (Form.optional reader)).Restores value
      (value.map fun item => (key, dump item)).toList := by
  cases value with
  | none => exact fallback
  | some item =>
    obtain ⟨reads, present⟩ := reads item rfl
    refine defaulted ?_
    simp only [Form.optional, reads]
    rfl

end

end Restores

end Form

/-! ## Values that are read back -/

namespace Form

variable {A : Type}

theorem intFrom_int {least number : Nat} (key : String) (high : least ≤ number) :
    intFrom least key (.int number) = .ok number := by
  have above : ¬ (number : Int) < least := by omega
  simp only [intFrom, readInt, if_neg above, Int.toNat_natCast]

theorem positive_bound {key : String} {given : Datum} {value : Float}
    (passed : positive key given = .ok value) : 0.0 < value := by
  simp only [positive] at passed
  split at passed
  · cases passed
  next number reading =>
    split at passed
    next above =>
      cases passed
      exact above
    · cases passed

theorem positive_real {value : Float} (key : String) (above : 0.0 < value) :
    positive key (.real value) = .ok value := by
  simp only [positive, readReal, if_pos above]

theorem texts_object (key : String) (entries : Table String) :
    texts key (.object (entries.mapValues Datum.text)) = .ok entries := by
  have joined (read : String × Datum → String × Checked String)
      (each : ∀ name value, read (name, value) = (name, text name value)) :
      joinFields ((entries.mapValues Datum.text).map read) = .ok entries := by
    induction entries with
    | nil => rfl
    | cons entry rest ih =>
      rw [Table.mapValues, List.map_cons, List.map_cons, each]
      simp only [joinFields, text]
      exact ih ▸ rfl
  unfold texts
  dsimp only
  rw [joined]
  exact fun _ _ => rfl

theorem read_defaulted {table : Table Datum} {keys : List String} {fallback value : A}
    {reader : Reader A} (passed : (defaulted keys fallback reader).read table = .ok value) :
    value = fallback ∨ ∃ key given, reader key given = .ok value := by
  simp only [defaulted] at passed
  split at passed
  next key given found => exact .inr ⟨key, given, passed⟩
  · cases passed
    exact .inl rfl

theorem optional_some {reader : Reader A} {key : String} {given : Datum} {item : A}
    (passed : optional reader key given = .ok (some item)) : reader key given = .ok item := by
  unfold optional at passed
  split at passed
  · cases passed
  · cases reading : reader key given <;> simp_all [Except.map]

/-- Whatever a reader promises of its values holds of one that may be missing. -/
theorem read_optional {table : Table Datum} {keys : List String} {reader : Reader A}
    {value : Option A}
    (passed : (defaulted keys none (optional reader)).read table = .ok value) :
    ∀ item ∈ value, ∃ key given, reader key given = .ok item := by
  rintro item rfl
  rcases read_defaulted passed with missing | ⟨key, given, reading⟩
  · cases missing
  · exact ⟨key, given, optional_some reading⟩

end Form

namespace Header

theorem restores_text {keys : List String} {value : Option String} (key : String) :
    (Form.defaulted (key :: keys) none (Form.optional Form.text)).Restores value
      (textField key value) :=
  .optional fun _ _ => ⟨rfl, nofun⟩

theorem restores_seconds {keys : List String} {value : Option Float} (key : String)
    (above : ∀ seconds ∈ value, 0.0 < seconds) :
    (Form.defaulted (key :: keys) none (Form.optional Form.positive)).Restores value
      (realField key value) :=
  .optional fun seconds held => ⟨Form.positive_real key (above seconds held), nofun⟩

end Header

end Rehearsal
