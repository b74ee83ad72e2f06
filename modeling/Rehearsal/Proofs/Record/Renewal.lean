import Rehearsal.Proofs.Record.Normalizing

/-!
What normalization makes of each value of a record, whatever the record looks like: it replaces the
value by another or refuses it, by the key that it stands under and no other. A record is refused
if one of its values is.
-/

set_option autoImplicit false

namespace Rehearsal

open Grammar (Holding)

namespace Registry

/-! ## Values -/

def renewKind? (wait : Table Datum) : Option Datum :=
  match wait.get? "kind" with
  | some (.text kind) =>
    if Holding.current Grammar.olderKinds kind ∈ Grammar.kinds.keys then
      some (.object (wait.put "kind" (.text (Holding.current Grammar.olderKinds kind))))
    else none
  | _ => none

def renewWait? : Datum -> Option Datum
  | .text kind => renewKind? [("kind", .text kind)]
  | .object wait => renewKind? wait
  | given => some given

def checked? (isAction : Bool) (given : Datum) : Option Datum :=
  if isAction && !isWord (Condition.all.map Condition.label) given then none else some given

def renewOperator? (isAssertion : Bool) (given : Datum) : Option Datum :=
  if isAssertion then
    match given with
    | .text word =>
      if Holding.current Grammar.olderOperators word ∈ Grammar.operators then
        some (.text (Holding.current Grammar.olderOperators word))
      else none
    | _ => none
  else some given

def renewIndex? : Datum -> Option Datum
  | .null => some .null
  | given => given.toInt.toOption.map Datum.int

/-! ## Stages -/

/-- What becomes of values, by their keys. -/
abbrev Renewal := String -> Datum -> Option Datum

namespace Renewal

def only (key : String) (renew? : Datum -> Option Datum) : Renewal := fun other given =>
  if other = key then renew? given else some given

def andThen (first second : Renewal) : Renewal := fun key given =>
  (first key given).bind (second key)

def Admits (renewal : Renewal) (record : Table Datum) : Prop :=
  ∀ key given, record.get? key = some given → ∃ value, renewal key given = some value

structure Yields (renewal : Renewal) (record later : Table Datum) : Prop where
  keys : later.keys = record.keys
  each : ∀ key given, record.get? key = some given →
    ∃ value, renewal key given = some value ∧ later.get? key = some value

/-- A part of normalization, on records with certain keys. -/
structure Describes (renewal : Renewal) (keys : List String)
    (passes : Table Datum -> Table Datum -> Prop) : Prop where
  yields : ∀ record later, record.keys = keys → passes record later → renewal.Yields record later
  admits : ∀ record, record.keys = keys → renewal.Admits record → ∃ later, passes record later

variable {first second : Renewal} {keys : List String}
  {before after : Table Datum -> Table Datum -> Prop}

theorem Describes.andThen (one : first.Describes keys before) (two : second.Describes keys after) :
    (first.andThen second).Describes keys fun record later =>
      ∃ between, before record between ∧ after between later where
  yields := by
    rintro record later same ⟨between, passed, passes⟩
    have fore := one.yields record between same passed
    have aft := two.yields between later (fore.keys.trans same) passes
    refine ⟨aft.keys.trans fore.keys, fun key given held => ?_⟩
    obtain ⟨middle, renews, kept⟩ := fore.each key given held
    obtain ⟨value, again, stands⟩ := aft.each key middle kept
    exact ⟨value, by rw [Renewal.andThen, renews, Option.bind_some, again], stands⟩
  admits := by
    intro record same admitted
    have early : first.Admits record := fun key given held => by
      obtain ⟨value, renews⟩ := admitted key given held
      obtain ⟨middle, renews, -⟩ := Option.bind_eq_some_iff.mp renews
      exact ⟨middle, renews⟩
    obtain ⟨between, passed⟩ := one.admits record same early
    have fore := one.yields record between same passed
    have late : second.Admits between := fun key middle kept => by
      obtain ⟨given, held⟩ := Table.exists_get? (fore.keys ▸ Table.mem_keys kept)
      obtain ⟨value, renews⟩ := admitted key given held
      obtain ⟨own, renewed, stands⟩ := fore.each key given held
      obtain rfl := Option.some.inj (stands.symm.trans kept)
      rw [Renewal.andThen, renewed, Option.bind_some] at renews
      exact ⟨value, renews⟩
    obtain ⟨later, passes⟩ := two.admits between (fore.keys.trans same) late
    exact ⟨later, between, passed, passes⟩

theorem Describes.congr (one : first.Describes keys before)
    (same : ∀ record later, before record later ↔ after record later) :
    first.Describes keys after where
  yields record later held passed := one.yields record later held ((same ..).mpr passed)
  admits record held admitted := by
    obtain ⟨later, passed⟩ := one.admits record held admitted
    exact ⟨later, (same ..).mp passed⟩

end Renewal

/-- What became of the value under one key, if there is one. -/
inductive Touched (key : String) (renew? : Datum -> Option Datum) (record : Table Datum) :
    Table Datum -> Prop where
  | absent (missing : record.get? key = none) : Touched key renew? record record
  | renewed {given value : Datum} (held : record.get? key = some given)
      (renews : renew? given = some value) : Touched key renew? record (record.put key value)

theorem describes_of_touched {key : String} {renew? : Datum -> Option Datum} {keys : List String}
    {passes : Table Datum -> Table Datum -> Prop}
    (touches : ∀ record later, record.keys = keys →
      (passes record later ↔ Touched key renew? record later)) :
    (Renewal.only key renew?).Describes keys passes where
  yields := by
    intro record later same passed
    cases (touches record later same).mp passed with
    | absent missing =>
      refine ⟨rfl, fun other given held => ⟨given, ?_, held⟩⟩
      have apart : other ≠ key := by
        rintro rfl
        rw [missing] at held
        cases held
      simp [Renewal.only, apart]
    | @renewed given value held renews =>
      refine ⟨Table.keys_put _ (Table.mem_keys held), fun other own found => ?_⟩
      by_cases here : other = key
      · subst here
        rw [held] at found
        cases found
        exact ⟨value, by simp [Renewal.only, renews], by simp [Table.get?_put]⟩
      · exact ⟨own, by simp [Renewal.only, here], by simp [Table.get?_put, Ne.symm here, found]⟩
  admits := by
    intro record same admitted
    cases held : record.get? key with
    | none => exact ⟨record, (touches record record same).mpr (.absent held)⟩
    | some given =>
      obtain ⟨value, renews⟩ := admitted key given held
      rw [Renewal.only, if_pos rfl] at renews
      exact ⟨_, (touches record _ same).mpr (.renewed held renews)⟩

/-! ## Normalization -/

section

variable {key : String} {renew? : Datum -> Option Datum} {record later : Table Datum}
  {given : Datum}

theorem touched_missing (missing : record.get? key = none) :
    Touched key renew? record later ↔ later = record := by
  constructor
  · rintro (_ | ⟨held, -⟩)
    · rfl
    · rw [missing] at held
      cases held
  · rintro rfl
    exact .absent missing

theorem touched_held (held : record.get? key = some given) :
    Touched key renew? record later ↔
      ∃ value, renew? given = some value ∧ later = record.put key value := by
  constructor
  · rintro (missing | ⟨found, renews⟩)
    · rw [missing] at held
      cases held
    · rw [held] at found
      cases found
      exact ⟨_, renews, rfl⟩
  · rintro ⟨value, renews, rfl⟩
    exact .renewed held renews

/-- A value that stays as it is leaves the record as it is. -/
theorem touched_kept (held : record.get? key = some given) (keeps : renew? given = some given) :
    Touched key renew? record later ↔ later = record := by
  rw [touched_held held, keeps]
  simp [Table.put_same held]

theorem renewKind?_eq_some {wait : Table Datum} {value : Datum} :
    renewKind? wait = some value ↔ ∃ kind, wait.get? "kind" = some (.text kind) ∧
      Holding.current Grammar.olderKinds kind ∈ Grammar.kinds.keys ∧
      value = .object (wait.put "kind" (.text (Holding.current Grammar.olderKinds kind))) := by
  unfold renewKind?
  split
  next kind held =>
    by_cases known : Holding.current Grammar.olderKinds kind ∈ Grammar.kinds.keys
    · simp [known, held, eq_comm]
    · simp only [known, if_false, reduceCtorEq, false_iff]
      rintro ⟨other, found, among, -⟩
      rw [held] at found
      cases found
      exact known among
  next unnamed =>
    simp only [reduceCtorEq, false_iff]
    rintro ⟨kind, found, -⟩
    exact unnamed kind found

theorem normalizeWait_touches : normalizeWait record = .ok later ↔
    Touched "wait" renewWait? record later := by
  have renews : ∀ wait, normalizeWaitFields record wait = .ok later ↔
      ∃ value, renewKind? wait = some value ∧ later = record.put "wait" value := by
    intro wait
    rw [normalizeWaitFields_eq_ok]
    simp only [renewKind?_eq_some]
    constructor
    · rintro ⟨kind, held, known, rfl⟩
      exact ⟨_, ⟨kind, held, known, rfl⟩, rfl⟩
    · rintro ⟨_, ⟨kind, held, known, rfl⟩, rfl⟩
      exact ⟨kind, held, known, rfl⟩
  unfold normalizeWait
  split
  next kind held => rw [renews, touched_held held, renewWait?]
  next fields held => rw [renews, touched_held held, renewWait?]
  next wordless objectless =>
    rw [Except.ok.injEq, eq_comm]
    cases held : record.get? "wait" with
    | none => rw [touched_missing held]
    | some given =>
      refine (touched_kept held ?_).symm
      unfold renewWait?
      split
      · exact absurd held (wordless _)
      · exact absurd held (objectless _)
      · rfl

theorem checkCondition_touches {isAction : Bool} (tagged : record.has "operation" = isAction) :
    checkCondition record = .ok () ∧ later = record ↔
      Touched "condition" (checked? isAction) record later := by
  rw [checkCondition_eq_ok, tagged]
  cases held : record.get? "condition" with
  | none => simp [touched_missing held]
  | some given =>
    rw [touched_held held]
    have kept : record.put "condition" given = record := Table.put_same held
    cases isAction with
    | false => simp [checked?, kept]
    | true =>
      cases known : isWord (Condition.all.map Condition.label) given with
      | false => simp [checked?, known]
      | true => simp [checked?, known, kept]

theorem normalizeOperator_touches {isAssertion : Bool}
    (tagged : record.has "assertion_type" = isAssertion) :
    normalizeOperator record key = .ok later ↔
      Touched key (renewOperator? isAssertion) record later := by
  rw [normalizeOperator_eq_ok, tagged]
  cases held : record.get? key with
  | none => simp [touched_missing held]
  | some given =>
    cases isAssertion with
    | false => simp [touched_kept held (show renewOperator? false given = some given from rfl)]
    | true =>
      rw [touched_held held]
      cases given with
      | text word =>
        by_cases known : Holding.current Grammar.olderOperators word ∈ Grammar.operators <;>
          simp [renewOperator?, known]
      | _ => simp [renewOperator?]

theorem normalizeIndex_touches : normalizeIndex record = .ok later ↔
    Touched "index" renewIndex? record later := by
  unfold normalizeIndex
  split
  next missing => rw [touched_missing missing, Except.ok.injEq, eq_comm]
  next held =>
    have kept : Touched "index" renewIndex? record later ↔ later = record := touched_kept held rfl
    rw [kept, Except.ok.injEq, eq_comm]
  next given real held =>
    have renews : renewIndex? given = given.toInt.toOption.map Datum.int := by
      unfold renewIndex?
      split
      · exact absurd rfl real
      · rfl
    rw [touched_held held, renews]
    cases given.toInt with
    | ok index => simp [Except.toOption, eq_comm]
    | error fault => simp [Except.toOption]

end

/-- What normalization makes of the values of actions and of assertions. -/
def renewal (isAction isAssertion : Bool) : Renewal :=
  (Renewal.only "wait" renewWait?).andThen <|
  (Renewal.only "condition" (checked? isAction)).andThen <|
  (Renewal.only "operator" (renewOperator? isAssertion)).andThen <|
  (Renewal.only "condition" (renewOperator? isAssertion)).andThen <|
  Renewal.only "index" renewIndex?

theorem renewal_describes (keys : List String) :
    (renewal (decide ("operation" ∈ keys)) (decide ("assertion_type" ∈ keys))).Describes keys
      fun record later => normalize record = .ok later := by
  have tagged : ∀ (tag : String) (record : Table Datum), record.keys = keys →
      record.has tag = decide (tag ∈ keys) := by
    rintro tag record rfl
    rw [Bool.eq_iff_iff, Table.has_iff, decide_eq_true_iff]
  have wait : (Renewal.only "wait" renewWait?).Describes keys
      fun record later => normalizeWait record = .ok later :=
    describes_of_touched fun _ _ _ => normalizeWait_touches
  have check := describes_of_touched fun record _ same =>
    checkCondition_touches (tagged "operation" record same)
  have operator : ∀ key,
      (Renewal.only key (renewOperator? (decide ("assertion_type" ∈ keys)))).Describes keys
        fun record later => normalizeOperator record key = .ok later := fun _ =>
    describes_of_touched fun record _ same =>
      normalizeOperator_touches (tagged "assertion_type" record same)
  have index : (Renewal.only "index" renewIndex?).Describes keys
      fun record later => normalizeIndex record = .ok later :=
    describes_of_touched fun _ _ _ => normalizeIndex_touches
  have stages := wait.andThen (check.andThen ((operator "operator").andThen
    ((operator "condition").andThen index)))
  refine stages.congr fun record later => ?_
  rw [normalize_eq_ok]
  constructor
  · rintro ⟨_, waits, waiting, ⟨checked, rfl⟩, operated, operates, conditioned, conditions, indexed⟩
    exact ⟨waiting, waits, checked, operated, operates, conditioned, conditions, indexed⟩
  · rintro ⟨waiting, waits, checked, operated, operates, conditioned, conditions, indexed⟩
    exact ⟨waiting, waits, _, ⟨checked, rfl⟩, operated, operates, conditioned, conditions, indexed⟩

end Registry

end Rehearsal
