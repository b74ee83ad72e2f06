import Rehearsal.Proofs.Record.FormAgreement
import Rehearsal.Proofs.Record.Renewal
import Rehearsal.Proofs.Record.Spellings

/-!
Waits in their current spelling. Before a wait is read its kind is replaced by the current one; a
wait that spells each field once is then read like its current spelling, or refused with it.
-/

set_option autoImplicit false

namespace Rehearsal

open Grammar (Field Holding Declares Distinct SpellsOnce restatedWait reword)
open Form (present? held? Matches ReadAlike)

/-! ## Words -/

namespace Grammar

/-- No current word is an older spelling of another. -/
def Settled (older : Table String) : Prop := ∀ entry ∈ older, older.get? entry.2 = none

instance (older : Table String) : Decidable (Settled older) :=
  inferInstanceAs (Decidable (∀ entry ∈ older, older.get? entry.2 = none))

theorem current_current {older : Table String} (settled : Settled older) (word : String) :
    Holding.current older (Holding.current older word) = Holding.current older word := by
  cases renewed : older.get? word with
  | none => simp [Holding.current, renewed]
  | some newer =>
    have last := settled _ (Table.get?_member renewed)
    simp [Holding.current, renewed, last]

theorem reword_eq_text {older : Table String} {given : Datum} {word : String} :
    reword older given = .text word ↔
      ∃ old, given = .text old ∧ word = Holding.current older old := by
  cases given <;> simp [reword, eq_comm]

theorem reword_nil (given : Datum) : reword [] given = given := by
  cases given <;> simp [reword, Holding.current]

end Grammar

/-! ## Tables with a value put into them -/

namespace Form

variable {table : Table Datum} {keys : List String} {key : String} {value : Datum}

theorem present?_put_own : present? (table.put key value) [key] = some (key, value) := by
  simp [present?, Table.get?_put]

theorem present?_put_foreign (foreign : key ∉ keys) :
    present? (table.put key value) keys = present? table keys := by
  induction keys with
  | nil => rfl
  | cons other rest ih =>
    obtain ⟨apart, elsewhere⟩ := not_or.mp (mt List.mem_cons.mpr foreign)
    have later := ih elsewhere
    simp only [present?, List.findSome?_cons] at later ⊢
    rw [Table.get?_put, if_neg (by simpa using apart), later]

end Form

/-! ## Waits -/

namespace Wait

open Grammar (canonicalWait fieldsOfWait? waitFields olderKinds kinds kindField)
open Registry (renewKind? renewKind?_eq_some renewWait?)

variable {wait : Table Datum} {kind : String} {own : List Field} {given : Datum}

theorem distinct_of_kind (known : kinds.get? kind = some own) : Distinct (waitFields own) := by
  have distinct : ∀ entry ∈ kinds, Distinct (waitFields entry.2) := by decide
  exact distinct _ (Table.get?_member known)

theorem fieldsOfWait?_eq_some {fields : List Field} :
    fieldsOfWait? wait = some fields ↔ ∃ given own, wait.get? "kind" = some (.text given) ∧
      kinds.get? (Holding.current olderKinds given) = some own ∧ fields = waitFields own := by
  unfold fieldsOfWait?
  split
  next given held =>
    rw [Option.map_eq_some_iff]
    constructor
    · rintro ⟨own, known, rfl⟩
      exact ⟨given, own, held, known, rfl⟩
    · rintro ⟨_, own, same, known, rfl⟩
      rw [held] at same
      cases same
      exact ⟨own, known, rfl⟩
  next unnamed =>
    refine iff_of_false nofun ?_
    rintro ⟨given, -, held, -⟩
    exact unnamed given held

theorem get?_kind_canonicalWait :
    (canonicalWait wait).get? "kind" = (wait.get? "kind").map (reword olderKinds) := by
  unfold canonicalWait
  cases found : fieldsOfWait? wait with
  | none => exact Grammar.get?_restated ⟨List.nodup_nil, nofun⟩ nofun
  | some fields =>
    obtain ⟨given, own, -, known, rfl⟩ := fieldsOfWait?_eq_some.mp found
    have lone : ∀ entry ∈ kinds, ∀ field ∈ waitFields entry.2,
        "kind" ∈ field.spellings → field.spellings = ["kind"] := by decide
    exact Grammar.get?_restated (distinct_of_kind known) (lone _ (Table.get?_member known))

/-- Once both have their kind, a wait and its current spelling hold the same in every field. -/
theorem held?_canonicalWait (known : kinds.get? kind = some own)
    (fields : fieldsOfWait? wait = some (waitFields own))
    (once : SpellsOnce (waitFields own) wait) {field : Field} (member : field ∈ waitFields own) :
    held? (wait.put "kind" (.text kind)) field.spellings =
      held? ((canonicalWait wait).put "kind" (.text kind)) field.spellings := by
  have distinct := distinct_of_kind known
  by_cases kinded : "kind" ∈ field.spellings
  · obtain rfl : field = kindField :=
      Form.spellings_unique distinct.apart member (by simp [waitFields]) kinded List.mem_cons_self
    rw [held?, held?, show kindField.spellings = ["kind"] from rfl, Form.present?_put_own,
      Form.present?_put_own]
  · have other : field.name ≠ "kind" := fun same => kinded (same ▸ distinct.named field member)
    rw [held?, held?, Form.present?_put_foreign kinded, Form.present?_put_foreign kinded,
      canonicalWait, fields, Option.getD_some, Grammar.present?_restated distinct once member]
    cases present? wait field.spellings <;> simp [Grammar.kindReworded, other]

theorem declares_canonicalWait (known : kinds.get? kind = some own)
    (fields : fieldsOfWait? wait = some (waitFields own))
    (once : SpellsOnce (waitFields own) wait) :
    Declares (waitFields own) (canonicalWait wait) ↔ Declares (waitFields own) wait := by
  rw [canonicalWait, fields, Option.getD_some,
    Grammar.declares_restated (distinct_of_kind known) once]

theorem form_of_kind (known : kinds.get? kind = some own) : ∃ condition,
    WaitCondition.form? kind = some condition ∧
      (form condition).fields = (waitFields own).map Field.spellings := by
  rcases WaitCondition.meets_of_kind [] [] kind with
    ⟨unknown, -⟩ | ⟨_, condition, same, formed, met⟩
  · rw [unknown] at known
    cases known
  · rw [same] at known
    cases known
    have spelled := (met (fun _ _ _ _ _ held => nomatch held) fun _ _ => rfl).spelled
    refine ⟨condition, formed, ?_⟩
    rw [waitFields, List.map_append, ← spelled]
    rfl

theorem run_canonicalWait {condition : Form WaitCondition}
    (known : kinds.get? kind = some own) (formed : WaitCondition.form? kind = some condition)
    (spelled : (form condition).fields = (waitFields own).map Field.spellings)
    (fields : fieldsOfWait? wait = some (waitFields own))
    (once : SpellsOnce (waitFields own) wait) (held : "kind" ∈ wait.keys) (value : Wait) :
    (form condition).run (wait.put "kind" (.text kind)) = .ok value ↔
      (form condition).run ((canonicalWait wait).put "kind" (.text kind)) = .ok value := by
  have distinct := distinct_of_kind known
  have kinded : "kind" ∈ (canonicalWait wait).keys := by
    obtain ⟨given, stands⟩ := Table.exists_get? held
    exact Table.mem_keys (by rw [get?_kind_canonicalWait, stands, Option.map_some])
  have same : ∀ keys ∈ (form condition).fields,
      Matches keys (held? (wait.put "kind" (.text kind)) keys)
        (held? ((canonicalWait wait).put "kind" (.text kind)) keys) := by
    rw [spelled, List.forall_mem_map]
    exact fun field member => .inl (held?_canonicalWait known fields once member)
  rw [Form.run_eq_ok, Form.run_eq_ok, blind_form formed _ _ same value, spelled,
    Form.strays_eq_nil_iff distinct.apart, Form.strays_eq_nil_iff distinct.apart,
    Grammar.declares_congr (Table.keys_put _ held),
    Grammar.declares_congr (Table.keys_put _ kinded), declares_canonicalWait known fields once]

/-- A wait is read by the form of the kind that was put into it. -/
theorem reader_put_kind {condition : Form WaitCondition}
    (formed : WaitCondition.form? kind = some condition) (key : String) (value : Wait) :
    reader key (.object (wait.put "kind" (.text kind))) = .ok value ↔
      (form condition).run (wait.put "kind" (.text kind)) = .ok value := by
  have named : Table.get? (wait.put "kind" (.text kind)) "kind" = some (.text kind) := by
    simp [Table.get?_put]
  rw [reader_eq_ok]
  constructor
  · rintro ⟨fields, other, same, found, ran⟩
    obtain rfl := Datum.object.inj same
    rw [named] at found
    rw [show WaitCondition.form? kind = some other from found] at formed
    cases formed
    exact ran
  · intro ran
    exact ⟨_, condition, rfl, by rw [named]; exact formed, ran⟩

theorem reader_canonicalWait (known : kinds.get? kind = some own)
    (fields : fieldsOfWait? wait = some (waitFields own))
    (once : SpellsOnce (waitFields own) wait) (held : "kind" ∈ wait.keys) :
    ReadAlike (Form.optional reader) (some (.object (wait.put "kind" (.text kind))))
      (some (.object ((canonicalWait wait).put "kind" (.text kind)))) := by
  obtain ⟨condition, formed, spelled⟩ := form_of_kind known
  have alike : ReadAlike reader (some (.object (wait.put "kind" (.text kind))))
      (some (.object ((canonicalWait wait).put "kind" (.text kind)))) := by
    refine .some fun key other value => ?_
    rw [reader_put_kind formed, reader_put_kind formed,
      run_canonicalWait known formed spelled fields once held]
  exact Form.readAlike_optional alike nofun nofun

/-- A wait and its current spelling are refused together or read alike. -/
theorem renewKind?_canonicalWait
    (once : ∀ fields ∈ fieldsOfWait? wait, SpellsOnce fields wait) :
    Matches ["wait"] (renewKind? wait) (renewKind? (canonicalWait wait)) := by
  cases renewed : renewKind? wait with
  | none =>
    refine .inl (Option.eq_none_iff_forall_ne_some.mpr fun value again => ?_).symm
    obtain ⟨kind, held, known, -⟩ := renewKind?_eq_some.mp again
    rw [get?_kind_canonicalWait, Option.map_eq_some_iff] at held
    obtain ⟨given, held, reworded⟩ := held
    obtain ⟨old, rfl, rfl⟩ := Grammar.reword_eq_text.mp reworded
    rw [Grammar.current_current (by decide)] at known
    rw [renewKind?_eq_some.mpr ⟨old, held, known, rfl⟩] at renewed
    cases renewed
  | some value =>
    obtain ⟨old, held, among, rfl⟩ := renewKind?_eq_some.mp renewed
    obtain ⟨own, known⟩ := Table.exists_get? among
    have fields := fieldsOfWait?_eq_some.mpr ⟨old, own, held, known, rfl⟩
    have last : Holding.current olderKinds (Holding.current olderKinds old) =
        Holding.current olderKinds old := Grammar.current_current (by decide) old
    have again : renewKind? (canonicalWait wait) = some (.object ((canonicalWait wait).put "kind"
        (.text (Holding.current olderKinds old)))) :=
      renewKind?_eq_some.mpr ⟨Holding.current olderKinds old,
        by rw [get?_kind_canonicalWait, held]; rfl, by rwa [last], by rw [last]⟩
    rw [again]
    exact .inr ⟨rfl, reader_canonicalWait known fields (once _ fields) (Table.mem_keys held)⟩

theorem renewWait?_restated (once : ∀ wait, given = .object wait →
    ∀ fields ∈ fieldsOfWait? wait, SpellsOnce fields wait) :
    Matches ["wait"] (renewWait? given) (renewWait? (restatedWait given)) := by
  cases given with
  | text kind =>
    refine .inl ?_
    have last : Holding.current olderKinds (Holding.current olderKinds kind) =
        Holding.current olderKinds kind := Grammar.current_current (by decide) kind
    simp [renewWait?, restatedWait, renewKind?, Table.get?_cons, last, Table.put]
  | object wait => exact renewKind?_canonicalWait (once wait rfl)
  | _ => exact .inl rfl

end Wait

end Rehearsal
