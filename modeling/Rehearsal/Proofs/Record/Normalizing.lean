import Rehearsal.Proofs.Record.FormGrammar

/-!
What normalization makes of a record. It adds no key and takes none away; in a record whose wait
and index have their types it replaces the older spellings of words, and it refuses those that
belong to no closed set.
-/

set_option autoImplicit false

namespace Rehearsal

open Failure (lift)
open Grammar (Holding)

namespace Registry

variable {record later : Table Datum}

theorem current_word {older : Table String} {words : List String} {given value : Datum} :
    current older given = .ok value ∧ isWord words value = true ↔ ∃ word, given = .text word ∧
      value = .text (Holding.current older word) ∧ Holding.current older word ∈ words := by
  constructor
  · rintro ⟨renewed, known⟩
    cases given with
    | text word =>
      cases renewed
      exact ⟨word, rfl, rfl, List.contains_iff_mem.mp known⟩
    | _ => cases renewed <;> cases known
  · rintro ⟨word, rfl, rfl, known⟩
    exact ⟨rfl, List.contains_iff_mem.mpr known⟩

theorem normalizeWaitFields_eq_ok {wait : Table Datum} :
    normalizeWaitFields record wait = .ok later ↔ ∃ kind, wait.get? "kind" = some (.text kind) ∧
      Holding.current Grammar.olderKinds kind ∈ Grammar.kinds.keys ∧
      later = record.put "wait"
        (.object (wait.put "kind" (.text (Holding.current Grammar.olderKinds kind)))) := by
  have words := @current_word Grammar.olderKinds Grammar.kinds.keys
    ((wait.get? "kind").getD .null)
  unfold normalizeWaitFields
  rw [bind_eq_ok]
  constructor
  · rintro ⟨kind, renewed, passed⟩
    split at passed
    next known =>
      obtain ⟨word, given, rfl, among⟩ := words.mp ⟨renewed, known⟩
      cases passed
      refine ⟨word, ?_, among, rfl⟩
      cases held : wait.get? "kind" <;> simp_all
    · obtain ⟨_, -, thrown⟩ := (bind_eq_ok ..).mp passed
      cases thrown
  · rintro ⟨kind, held, known, rfl⟩
    obtain ⟨renewed, known⟩ := words.mpr ⟨kind, by rw [held]; rfl, rfl, known⟩
    exact ⟨_, renewed, by rw [if_pos (show isWord waitKinds _ = true from known)]; rfl⟩

theorem normalizeOperator_eq_ok {key : String} :
    normalizeOperator record key = .ok later ↔
      (record.get? key = none ∨ record.has "assertion_type" = false) ∧ later = record ∨
      record.has "assertion_type" = true ∧ ∃ word, record.get? key = some (.text word) ∧
        Holding.current Grammar.olderOperators word ∈ Grammar.operators ∧
        later = record.put key (.text (Holding.current Grammar.olderOperators word)) := by
  unfold normalizeOperator
  cases held : record.get? key with
  | none => simpa using ⟨Eq.symm, Eq.symm⟩
  | some given =>
    cases tagged : record.has "assertion_type" with
    | false => simpa using ⟨Eq.symm, Eq.symm⟩
    | true =>
      have words := @current_word Grammar.olderOperators Grammar.operators given
      simp only [if_true, bind_eq_ok, Bool.true_eq_false, or_false, reduceCtorEq, false_and,
        true_and, false_or, Option.some.injEq]
      constructor
      · rintro ⟨operator, renewed, passed⟩
        split at passed
        next known =>
          obtain ⟨word, same, rfl, among⟩ := words.mp ⟨renewed, known⟩
          cases passed
          exact ⟨word, same, among, rfl⟩
        · obtain ⟨_, -, thrown⟩ := (bind_eq_ok ..).mp passed
          cases thrown
      · rintro ⟨word, same, known, rfl⟩
        obtain ⟨renewed, known⟩ := words.mpr ⟨word, same, rfl, known⟩
        refine ⟨_, renewed, ?_⟩
        rw [if_pos (show isWord (Operator.all.map Operator.label) _ = true from known)]
        rfl

theorem checkCondition_eq_ok :
    checkCondition record = .ok () ↔ ∀ given, record.get? "condition" = some given →
      record.has "operation" = true → isWord (Condition.all.map Condition.label) given = true := by
  unfold checkCondition
  cases held : record.get? "condition" with
  | none => simp [pure, Except.pure]
  | some given =>
    by_cases wrong : record.has "operation" = true ∧
        isWord (Condition.all.map Condition.label) given = false
    · simp [wrong, bind_eq_ok, throw, throwThe, MonadExceptOf.throw]
    · simp_all [pure, Except.pure]

theorem normalize_eq_ok :
    normalize record = .ok later ↔ ∃ waiting, normalizeWait record = .ok waiting ∧
      checkCondition waiting = .ok () ∧
      ∃ operated, normalizeOperator waiting "operator" = .ok operated ∧
      ∃ conditioned, normalizeOperator operated "condition" = .ok conditioned ∧
      normalizeIndex conditioned = .ok later := by
  simp only [normalize, bind_eq_ok]
  constructor
  · rintro ⟨waiting, waits, ⟨⟩, checked, operated, operates, conditioned, conditions, indexed⟩
    exact ⟨waiting, waits, checked, operated, operates, conditioned, conditions, indexed⟩
  · rintro ⟨waiting, waits, checked, operated, operates, conditioned, conditions, indexed⟩
    exact ⟨waiting, waits, (), checked, operated, operates, conditioned, conditions, indexed⟩

/-! Normalization adds no key and takes none away. -/

theorem keys_of_normalizeWait (passed : normalizeWait record = .ok later) :
    later.keys = record.keys := by
  have kept : ∀ {given wait}, record.get? "wait" = some given →
      normalizeWaitFields record wait = .ok later → later.keys = record.keys := by
    intro given wait held passed
    obtain ⟨kind, -, -, rfl⟩ := normalizeWaitFields_eq_ok.mp passed
    exact Table.keys_put _ (Table.mem_keys held)
  unfold normalizeWait at passed
  split at passed
  next kind held => exact kept held passed
  next fields held => exact kept held passed
  · cases passed
    rfl

theorem keys_of_normalizeOperator {key : String}
    (passed : normalizeOperator record key = .ok later) : later.keys = record.keys := by
  obtain ⟨-, rfl⟩ | ⟨-, word, held, -, rfl⟩ := normalizeOperator_eq_ok.mp passed
  · rfl
  · exact Table.keys_put _ (Table.mem_keys held)

theorem keys_of_normalizeIndex (passed : normalizeIndex record = .ok later) :
    later.keys = record.keys := by
  unfold normalizeIndex at passed
  split at passed
  · cases passed; rfl
  · cases passed; rfl
  next given held =>
    split at passed
    · cases passed
      exact Table.keys_put _ (Table.mem_keys held)
    · cases passed

theorem keys_of_normalize (passed : normalize record = .ok later) : later.keys = record.keys := by
  obtain ⟨waiting, waits, -, operated, operates, conditioned, conditions, indexed⟩ :=
    normalize_eq_ok.mp passed
  rw [keys_of_normalizeIndex indexed, keys_of_normalizeOperator conditions,
    keys_of_normalizeOperator operates, keys_of_normalizeWait waits]

/-- So a form of certain fields meets strays exactly if the record has keys that are none of
theirs, or two keys of one field. -/
theorem strays_of_normalize {A : Type} {form : Form A} {fields : List Grammar.Field}
    (distinct : (fields.map Grammar.Field.spellings).flatten.Nodup)
    (spelled : form.fields = fields.map Grammar.Field.spellings)
    (passed : normalize record = .ok later) :
    Form.strays form.fields later = [] ↔ Grammar.Declares fields record := by
  rw [spelled, Form.strays_eq_nil_iff distinct, Grammar.declares_congr (keys_of_normalize passed)]

end Registry

/-! ## What normalization makes of a typed record -/

/-- The later version of a record differs in the spelling of words alone: of the kind of its wait
and of the operators under the given keys. -/
structure Renews (words : List String) (raw later : Table Datum) : Prop where
  keys : later.keys = raw.keys
  wait : later.get? "wait" = (raw.get? "wait").map Wait.renewed
  operator : ∀ key ∈ words, later.get? key =
    (raw.get? key).map (Holding.word Grammar.operators Grammar.olderOperators).shown
  same : ∀ key, key ≠ "wait" → key ∉ words → later.get? key = raw.get? key

def operatorKeys : List String := ["operator", "condition"]

namespace Registry

/-- The wait and the index of a record have their type, or are null. -/
structure Shaped (raw : Table Datum) : Prop where
  wait : ∀ given, raw.get? "wait" = some given → given = .null ∨ ∃ wait, given = .object wait
  index : ∀ given, raw.get? "index" = some given → given = .null ∨ ∃ index, given = .int index

variable {raw later : Table Datum}

theorem get?_normalizeWait (shaped : Shaped raw) (passed : normalizeWait raw = .ok later) :
    later.get? "wait" = (raw.get? "wait").map Wait.renewed ∧
      ∀ key, key ≠ "wait" → later.get? key = raw.get? key := by
  unfold normalizeWait at passed
  split at passed
  next kind held => rcases shaped.wait _ held with none | ⟨_, none⟩ <;> cases none
  next fields held =>
    obtain ⟨kind, named, -, rfl⟩ := normalizeWaitFields_eq_ok.mp passed
    refine ⟨?_, fun key other => ?_⟩
    · simp only [Table.get?_put, beq_self_eq_true, if_true, held, Option.map_some, Wait.renewed,
        named]
    · simp [Table.get?_put, other.symm]
  next absent =>
    cases passed
    refine ⟨?_, fun _ _ => rfl⟩
    cases held : raw.get? "wait" with
    | none => rfl
    | some given =>
      rcases shaped.wait given held with rfl | ⟨wait, rfl⟩
      · rfl
      · exact absurd held (absent wait)

theorem normalizeIndex_shaped
    (index : ∀ given, raw.get? "index" = some given → given = .null ∨ ∃ index, given = .int index) :
    normalizeIndex raw = .ok raw := by
  unfold normalizeIndex
  split
  · rfl
  · rfl
  next given absent held =>
    rcases index given held with rfl | ⟨index, rfl⟩
    · exact absurd rfl absent
    · simp only [Datum.toInt, Table.put_same held]

theorem get?_normalizeOperator_other {key : String}
    (passed : normalizeOperator raw key = .ok later) (other : String) (different : other ≠ key) :
    later.get? other = raw.get? other := by
  obtain ⟨-, rfl⟩ | ⟨-, word, -, -, rfl⟩ := normalizeOperator_eq_ok.mp passed
  · rfl
  · simp [Table.get?_put, different.symm]

theorem get?_normalizeOperator {key : String} (tagged : raw.has "assertion_type" = true)
    (passed : normalizeOperator raw key = .ok later) :
    later.get? key = (raw.get? key).map
      (Holding.word Grammar.operators Grammar.olderOperators).shown := by
  obtain ⟨absent | untagged, rfl⟩ | ⟨-, word, held, -, rfl⟩ := normalizeOperator_eq_ok.mp passed
  · rw [absent]
    rfl
  · rw [tagged] at untagged
    cases untagged
  · simp only [Table.get?_put, beq_self_eq_true, if_true, held, Option.map_some, Holding.word]

theorem renews_of_action (shaped : Shaped raw) (untagged : "assertion_type" ∉ raw.keys)
    (passed : normalize raw = .ok later) : Renews [] raw later := by
  have keys := keys_of_normalize passed
  obtain ⟨waiting, waits, -, operated, operates, conditioned, conditions, indexed⟩ :=
    normalize_eq_ok.mp passed
  obtain ⟨wait, same⟩ := get?_normalizeWait shaped waits
  have untagged : waiting.has "assertion_type" = false :=
    Table.has_eq_false (keys_of_normalizeWait waits ▸ untagged)
  -- Only assertions have operators to look at.
  have plain : ∀ {key later}, normalizeOperator waiting key = .ok later → later = waiting := by
    intro key later passed
    obtain ⟨-, same⟩ | ⟨tagged, -⟩ := normalizeOperator_eq_ok.mp passed
    · exact same
    · rw [untagged] at tagged
      cases tagged
  obtain rfl := plain operates
  obtain rfl := plain conditions
  have index := shaped.index
  rw [← same "index" (by decide)] at index
  rw [normalizeIndex_shaped index] at indexed
  cases indexed
  exact ⟨keys, wait, nofun, fun key other _ => same key other⟩

theorem renews_of_assertion (shaped : Shaped raw) (tagged : "assertion_type" ∈ raw.keys)
    (passed : normalize raw = .ok later) : Renews operatorKeys raw later := by
  have keys := keys_of_normalize passed
  obtain ⟨waiting, waits, -, operated, operates, conditioned, conditions, indexed⟩ :=
    normalize_eq_ok.mp passed
  obtain ⟨wait, same⟩ := get?_normalizeWait shaped waits
  have first : waiting.has "assertion_type" = true :=
    Table.has_iff.mpr (keys_of_normalizeWait waits ▸ tagged)
  have second : operated.has "assertion_type" = true :=
    Table.has_iff.mpr (keys_of_normalizeOperator operates ▸ keys_of_normalizeWait waits ▸ tagged)
  -- Each stage leaves the keys of the others alone, so what they do adds up key by key.
  have operator := get?_normalizeOperator first operates
  have condition := get?_normalizeOperator second conditions
  have others := get?_normalizeOperator_other operates
  have rest := get?_normalizeOperator_other conditions
  have index := shaped.index
  rw [← same "index" (by decide), ← others "index" (by decide), ← rest "index" (by decide)] at index
  rw [normalizeIndex_shaped index] at indexed
  cases indexed
  refine ⟨keys, ?_, ?_, fun key different foreign => ?_⟩
  · rw [rest "wait" (by decide), others "wait" (by decide), wait]
  · simp only [operatorKeys, List.forall_mem_cons]
    refine ⟨?_, ?_, nofun⟩
    · rw [rest "operator" (by decide), operator, same "operator" (by decide)]
    · rw [condition, others "condition" (by decide), same "condition" (by decide)]
  · simp only [operatorKeys, List.mem_cons, List.not_mem_nil, or_false, not_or] at foreign
    rw [rest key foreign.2, others key foreign.1, same key different]

/-- The words of a record that normalization looks at are in their closed sets. -/
structure Worded (raw : Table Datum) : Prop where
  wait : ∀ wait : Table Datum, raw.get? "wait" = some (.object wait) →
    ∃ kind, wait.get? "kind" = some (.text kind) ∧
      Holding.current Grammar.olderKinds kind ∈ Grammar.kinds.keys
  condition : "operation" ∈ raw.keys → ∀ given, raw.get? "condition" = some given →
    isWord (Condition.all.map Condition.label) given = true
  operator : "assertion_type" ∈ raw.keys → ∀ key ∈ operatorKeys, ∀ given,
    raw.get? key = some given →
      ∃ word, given = .text word ∧ Holding.current Grammar.olderOperators word ∈ Grammar.operators

theorem exists_normalizeOperator {key : String}
    (worded : "assertion_type" ∈ raw.keys → ∀ given, raw.get? key = some given →
      ∃ word, given = .text word ∧
        Holding.current Grammar.olderOperators word ∈ Grammar.operators) :
    ∃ later, normalizeOperator raw key = .ok later := by
  by_cases tagged : "assertion_type" ∈ raw.keys
  · cases held : raw.get? key with
    | none => exact ⟨raw, normalizeOperator_eq_ok.mpr (.inl ⟨.inl held, rfl⟩)⟩
    | some given =>
      obtain ⟨word, rfl, known⟩ := worded tagged given held
      exact ⟨_, normalizeOperator_eq_ok.mpr
        (.inr ⟨Table.has_iff.mpr tagged, word, held, known, rfl⟩)⟩
  · exact ⟨raw, normalizeOperator_eq_ok.mpr (.inl ⟨.inr (Table.has_eq_false tagged), rfl⟩)⟩

theorem exists_normalizeWait (shaped : Shaped raw) (worded : Worded raw) :
    ∃ later, normalizeWait raw = .ok later := by
  unfold normalizeWait
  split
  next kind held => rcases shaped.wait _ held with none | ⟨_, none⟩ <;> cases none
  next fields held =>
    obtain ⟨kind, named, known⟩ := worded.wait fields held
    exact ⟨_, normalizeWaitFields_eq_ok.mpr ⟨kind, named, known, rfl⟩⟩
  · exact ⟨raw, rfl⟩

theorem exists_normalize (shaped : Shaped raw) (worded : Worded raw) :
    ∃ later, normalize raw = .ok later := by
  obtain ⟨waiting, waits⟩ := exists_normalizeWait shaped worded
  have same := (get?_normalizeWait shaped waits).2
  have keys := keys_of_normalizeWait waits
  have checked : checkCondition waiting = .ok () := by
    refine checkCondition_eq_ok.mpr fun given held tagged => ?_
    rw [same "condition" (by decide)] at held
    exact worded.condition (keys ▸ Table.has_iff.mp tagged) given held
  obtain ⟨operated, operates⟩ :
      ∃ operated, normalizeOperator waiting "operator" = .ok operated := by
    refine exists_normalizeOperator fun tagged given held => ?_
    rw [same "operator" (by decide)] at held
    exact worded.operator (keys ▸ tagged) "operator" (by decide) given held
  have others := get?_normalizeOperator_other operates
  obtain ⟨conditioned, conditions⟩ :
      ∃ conditioned, normalizeOperator operated "condition" = .ok conditioned := by
    refine exists_normalizeOperator fun tagged given held => ?_
    rw [others "condition" (by decide), same "condition" (by decide)] at held
    exact worded.operator (keys ▸ keys_of_normalizeOperator operates ▸ tagged) "condition"
      (by decide) given held
  have index := shaped.index
  rw [← same "index" (by decide), ← others "index" (by decide),
    ← get?_normalizeOperator_other conditions "index" (by decide)] at index
  exact ⟨conditioned, normalize_eq_ok.mpr ⟨waiting, waits, checked, operated, operates, conditioned,
    conditions, normalizeIndex_shaped index⟩⟩

end Registry

end Rehearsal
