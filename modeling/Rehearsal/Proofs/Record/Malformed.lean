import Rehearsal.Catalog
import Rehearsal.Proofs.Record.Normalizing

/-!
How reading a record, or a candidate, that is not in order ends. The reader looks at one part after
the other, and the first look that finds something decides. Most looks refuse what they find as an
error of the configuration. A look that converts a value, that uses it as a key, or that shows it
may trip over the value instead, and then a fault comes through.
-/

set_option autoImplicit false

namespace Rehearsal

open Failure (lift)

theorem Datum.written_cases (value : Datum) :
    (value.isWritable = true ∧ value.written = .ok value.display) ∨
      (value.isWritable = false ∧ value.written = .error Fault.oversizedInt) := by
  cases writable : value.isWritable with
  | true =>
    refine .inl ⟨rfl, ?_⟩
    rw [Datum.written, Datum.checkWritable, if_pos writable]
    rfl
  | false =>
    refine .inr ⟨rfl, ?_⟩
    rw [Datum.written, Datum.checkWritable, if_neg (by simp [writable])]
    rfl

/-- What a look at a part of a record comes to. -/
inductive Finding where
  | fits
  | refused
  -- A fault comes through.
  | tripped
  deriving DecidableEq

namespace Finding

/-- The second look is only taken where the first finds nothing. -/
def followedBy (first second : Finding) : Finding :=
  match first with
  | .fits => second
  | found => found

/-- To refuse a value is to show it, so no integer in it may be too long to be written. -/
def refusing (shown : Datum) : Finding := if shown.isWritable then .refused else .tripped

/-- A word that is looked up in a closed set has to be able to be a key. -/
def ofWord (known : String -> Bool) (given : Datum) : Finding :=
  match given with
  | .list _ | .object _ => .tripped
  | .text word => if known word then .fits else .refused
  | given => refusing given

def faultKinds : List FaultKind := [.wrongType, .badValue, .overflow]

/-- The result of a reader is the one that a finding announces. -/
def Tells {A : Type} (finding : Finding) (result : Except Failure A) : Prop :=
  match finding with
  | .fits => ∃ value, result = .ok value
  | .refused => ∃ failure, result = .error failure ∧ failure.isConfiguration = true
  | .tripped => ∃ fault, result = .error (.fault fault) ∧ fault.kind ∈ faultKinds

section

variable {A B : Type}

theorem tells_ok (value : A) : Finding.fits.Tells (.ok value : Except Failure A) := ⟨value, rfl⟩

theorem tells_refusal {failure : Failure} (configuration : failure.isConfiguration = true) :
    Finding.refused.Tells (.error failure : Except Failure A) := ⟨failure, rfl, configuration⟩

theorem tells_fault {kind : FaultKind} {message : String} (known : kind ∈ faultKinds) :
    Finding.tripped.Tells (.error (.fault ⟨kind, message⟩) : Except Failure A) := ⟨_, rfl, known⟩

theorem Tells.bind {first second : Finding} {result : Except Failure A}
    {next : A -> Except Failure B} (told : first.Tells result)
    (rest : ∀ value, result = .ok value → second.Tells (next value)) :
    (first.followedBy second).Tells (result >>= next) := by
  cases first with
  | fits =>
    obtain ⟨value, rfl⟩ := told
    exact rest value rfl
  | refused =>
    obtain ⟨failure, rfl, configuration⟩ := told
    exact tells_refusal configuration
  | tripped =>
    obtain ⟨fault, rfl, kind⟩ := told
    exact tells_fault kind

theorem Tells.map {finding : Finding} {result : Except Failure A} (told : finding.Tells result)
    (f : A -> B) : finding.Tells (result.map f) := by
  cases finding with
  | fits =>
    obtain ⟨value, rfl⟩ := told
    exact tells_ok (f value)
  | refused =>
    obtain ⟨failure, rfl, configuration⟩ := told
    exact tells_refusal configuration
  | tripped =>
    obtain ⟨fault, rfl, kind⟩ := told
    exact tells_fault kind

theorem tells_refusing {shown : Datum} {failure : Failure}
    (configuration : failure.isConfiguration = true) :
    (refusing shown).Tells
      (lift shown.checkWritable >>= fun _ => throw failure : Except Failure A) := by
  unfold refusing Datum.checkWritable
  cases shown.isWritable with
  | true => exact tells_refusal configuration
  | false => exact tells_fault (by decide)

/-- A refusal that names what it refuses. -/
theorem tells_refusing_written {shown : Datum} {refuse : String -> Failure}
    (configuration : ∀ text, (refuse text).isConfiguration = true) :
    (refusing shown).Tells
      (lift shown.written >>= fun text => throw (refuse text) : Except Failure A) := by
  rcases shown.written_cases with ⟨writable, written⟩ | ⟨unwritable, failed⟩
  · rw [refusing, if_pos writable, written]
    exact tells_refusal (configuration _)
  · rw [refusing, if_neg (by simp [unwritable]), failed]
    exact tells_fault (by decide)

theorem Tells.configuration_iff {finding : Finding} {result : Except Failure A}
    (told : finding.Tells result) :
    (∀ failure, result = .error failure → failure.isConfiguration = true) ↔
      finding ≠ .tripped := by
  cases finding with
  | fits =>
    obtain ⟨value, rfl⟩ := told
    exact iff_of_true nofun nofun
  | refused =>
    obtain ⟨failure, rfl, configuration⟩ := told
    refine iff_of_true (fun met same => ?_) nofun
    cases same
    exact configuration
  | tripped =>
    obtain ⟨fault, rfl, -⟩ := told
    refine iff_of_false (fun configuration => ?_) (absurd rfl)
    cases configuration _ rfl

end

end Finding

/-! ## Records -/

namespace Registry

open Finding

variable {A : Type}

def isWaitKind (word : String) : Bool :=
  waitKinds.contains ((WaitCondition.oldKinds.get? word).getD word)

def isOperator (word : String) : Bool :=
  (Operator.all.map Operator.label).contains ((Operator.oldLabels.get? word).getD word)

def waitFinding (record : Table Datum) : Finding :=
  match record.get? "wait" with
  | some (.text kind) => ofWord isWaitKind (.text kind)
  | some (.object fields) => ofWord isWaitKind ((Table.get? fields "kind").getD .null)
  | _ => .fits

def conditionFinding (record : Table Datum) : Finding :=
  match record.get? "condition" with
  | some given =>
    if record.has "operation" && !isWord (Condition.all.map Condition.label) given then
      refusing given
    else .fits
  | none => .fits

def operatorFinding (record : Table Datum) (key : String) : Finding :=
  match record.get? key with
  | some given => if record.has "assertion_type" then ofWord isOperator given else .fits
  | none => .fits

/-- Only what is, or can be read as, a whole number is converted without a fault. -/
def wholeFinding : Datum -> Finding
  | .int _ | .bool _ => .fits
  | .real value =>
    match Number.truncate? value with
    | some _ => .fits
    | none => .tripped
  | .text value =>
    match Number.readInt value with
    | .ok _ => .fits
    | .error _ => .tripped
  | _ => .tripped

/-- The index is converted before anyone looks at its type. -/
def indexFinding (record : Table Datum) : Finding :=
  match record.get? "index" with
  | none | some .null => .fits
  | some given => wholeFinding given

/-- A record that its form refuses is shown with its index. -/
def formFinding (registry : Registry A) (variant : Variant A) (record : Table Datum) : Finding :=
  match normalize record with
  | .error _ => .fits
  | .ok normal =>
    match registry.validate variant normal with
    | .ok _ => .fits
    | .error _ => refusing ((normal.get? "index").getD .null)

def normalFinding (record : Table Datum) : Finding :=
  (waitFinding record).followedBy <| (conditionFinding record).followedBy <|
    (operatorFinding record "operator").followedBy <|
      (operatorFinding record "condition").followedBy (indexFinding record)

def taggedFinding (registry : Registry A) (record : Table Datum) (tag : Datum) : Finding :=
  if !tag.isWritable then .tripped
  else
    match registry.find? tag.display with
    | none => .refused
    | some variant =>
      let tagged := record.put registry.tag (.text variant.name)
      (normalFinding tagged).followedBy (registry.formFinding variant tagged)

def finding (registry : Registry A) (record : Table Datum) : Finding :=
  match record.get? registry.tag with
  | none | some .null => refusing (.object record)
  | some tag => registry.taggedFinding record tag

theorem tells_ofWord {older : Table String} {words : List String} {given : Datum} {B : Type}
    {accept : Datum -> B} {refuse : String -> Failure}
    (configuration : ∀ text, (refuse text).isConfiguration = true) :
    (ofWord (fun word => words.contains ((older.get? word).getD word)) given).Tells
      (current older given >>= fun word =>
        if isWord words word then pure (accept word)
        else lift given.written >>= fun text => throw (refuse text) : Except Failure B) := by
  cases given with
  | text word =>
    change (if words.contains ((older.get? word).getD word) then Finding.fits else .refused).Tells
      (if words.contains ((older.get? word).getD word) then pure _ else _)
    split
    · exact tells_ok _
    · exact tells_refusal (configuration _)
  | list items => exact tells_fault (by decide)
  | object fields => exact tells_fault (by decide)
  | _ => exact tells_refusing_written configuration

theorem waitFinding_tells (record : Table Datum) :
    (waitFinding record).Tells (normalizeWait record) := by
  have told : ∀ wait : Table Datum, (ofWord isWaitKind ((wait.get? "kind").getD .null)).Tells
      (normalizeWaitFields record wait) := fun wait => tells_ofWord fun _ => rfl
  unfold waitFinding normalizeWait
  cases record.get? "wait" with
  | none => exact tells_ok record
  | some wait =>
    cases wait with
    | text kind => exact told [("kind", .text kind)]
    | object fields => exact told fields
    | _ => exact tells_ok record

theorem conditionFinding_tells (record : Table Datum) :
    (conditionFinding record).Tells (checkCondition record) := by
  unfold conditionFinding checkCondition
  cases record.get? "condition" with
  | none => exact tells_ok _
  | some condition =>
    dsimp only
    split
    · exact tells_refusing_written fun _ => rfl
    · exact tells_ok _

theorem operatorFinding_tells (record : Table Datum) (key : String) :
    (operatorFinding record key).Tells (normalizeOperator record key) := by
  unfold operatorFinding normalizeOperator
  cases record.get? key with
  | none => exact tells_ok _
  | some given =>
    dsimp only
    split
    · exact tells_ofWord fun _ => rfl
    · exact tells_ok _

theorem wholeFinding_tells (given : Datum) : (wholeFinding given).Tells (lift given.toInt) := by
  cases given with
  | int value => exact tells_ok value
  | bool value => exact tells_ok _
  | text value =>
    simp only [wholeFinding, Datum.toInt]
    rcases Number.readInt value with (_ | digits) | whole
    · exact tells_fault (by decide)
    · exact tells_fault (by decide)
    · exact tells_ok whole
  | real value =>
    simp only [wholeFinding, Datum.toInt]
    cases Number.truncate? value with
    | some whole => exact tells_ok whole
    | none =>
      dsimp only
      split <;> exact tells_fault (by decide)
  | _ => exact tells_fault (by decide)

theorem indexFinding_tells (record : Table Datum) :
    (indexFinding record).Tells (normalizeIndex record) := by
  unfold indexFinding normalizeIndex
  cases record.get? "index" with
  | none => exact tells_ok record
  | some given =>
    have told := (wholeFinding_tells given).map fun index => record.put "index" (.int index)
    cases given with
    | null => exact tells_ok record
    | _ =>
      dsimp only
      revert told
      cases Datum.toInt _ <;> exact id

/-- A look that passes changes the value of its own key only. -/
structure Leaves (key : String) (record later : Table Datum) : Prop where
  keys : later.keys = record.keys
  others : ∀ other, other ≠ key → later.get? other = record.get? other

theorem Leaves.has {key : String} {record later : Table Datum} (leaves : Leaves key record later)
    (other : String) : later.has other = record.has other := by
  rw [Bool.eq_iff_iff, Table.has_iff, Table.has_iff, leaves.keys]

theorem leaves_of_normalizeWait {record later : Table Datum}
    (passed : normalizeWait record = .ok later) : Leaves "wait" record later := by
  refine ⟨keys_of_normalizeWait passed, fun other different => ?_⟩
  have fields : ∀ {wait}, normalizeWaitFields record wait = .ok later →
      later.get? other = record.get? other := by
    intro wait passed
    obtain ⟨kind, -, -, rfl⟩ := normalizeWaitFields_eq_ok.mp passed
    simp [Table.get?_put, different.symm]
  unfold normalizeWait at passed
  split at passed
  · exact fields passed
  · exact fields passed
  · cases passed
    rfl

theorem leaves_of_normalizeOperator {record later : Table Datum} {key : String}
    (passed : normalizeOperator record key = .ok later) : Leaves key record later :=
  ⟨keys_of_normalizeOperator passed, get?_normalizeOperator_other passed⟩

theorem Leaves.conditionFinding {key : String} {record later : Table Datum}
    (leaves : Leaves key record later) (other : "condition" ≠ key) :
    Registry.conditionFinding later = Registry.conditionFinding record := by
  simp only [Registry.conditionFinding, leaves.has, leaves.others _ other]

theorem Leaves.operatorFinding {key other : String} {record later : Table Datum}
    (leaves : Leaves key record later) (different : other ≠ key) :
    Registry.operatorFinding later other = Registry.operatorFinding record other := by
  simp only [Registry.operatorFinding, leaves.has, leaves.others _ different]

theorem Leaves.indexFinding {key : String} {record later : Table Datum}
    (leaves : Leaves key record later) (other : "index" ≠ key) :
    Registry.indexFinding later = Registry.indexFinding record := by
  simp only [Registry.indexFinding, leaves.others _ other]

theorem normalFinding_tells (record : Table Datum) :
    (normalFinding record).Tells (normalize record) := by
  -- No look is at a key that one before it has changed, so all may be taken at the given record.
  refine (waitFinding_tells record).bind fun waiting waits => ?_
  have first := leaves_of_normalizeWait waits
  rw [← first.conditionFinding (by decide), ← first.operatorFinding (by decide),
    ← first.operatorFinding (by decide), ← first.indexFinding (by decide)]
  refine (conditionFinding_tells waiting).bind fun _ _ => ?_
  refine (operatorFinding_tells waiting "operator").bind fun operated operates => ?_
  have second := leaves_of_normalizeOperator operates
  rw [← second.operatorFinding (by decide), ← second.indexFinding (by decide)]
  refine (operatorFinding_tells operated "condition").bind fun conditioned conditions => ?_
  rw [← (leaves_of_normalizeOperator conditions).indexFinding (by decide)]
  exact indexFinding_tells conditioned

theorem formFinding_tells (registry : Registry A) (variant : Variant A)
    {record normal : Table Datum} (passed : normalize record = .ok normal) :
    (registry.formFinding variant record).Tells
      (match registry.validate variant normal with
      | .ok value => return value
      | .error broken => do
        lift ((normal.get? "index").getD .null).checkWritable
        throw (.invalidRecord variant.name variant.model normal broken) : Except Failure A) := by
  simp only [formFinding, passed]
  cases registry.validate variant normal with
  | ok value => exact tells_ok value
  | error broken => exact tells_refusing rfl

theorem taggedFinding_tells (registry : Registry A)
    (unsupported : registry.unsupported.isConfiguration = true) (record : Table Datum)
    (tag : Datum) :
    (registry.taggedFinding record tag).Tells (do
      let variant ← registry.get (← lift tag.written)
      let record ← normalize (record.put registry.tag (.text variant.name))
      match registry.validate variant record with
      | .ok value => return value
      | .error broken =>
        lift ((record.get? "index").getD .null).checkWritable
        throw (.invalidRecord variant.name variant.model record broken) : Except Failure A) := by
  rcases tag.written_cases with ⟨writable, written⟩ | ⟨unwritable, failed⟩
  · simp only [taggedFinding, writable, written]
    change (match registry.find? tag.display with
      | none => Finding.refused
      | some variant => _).Tells (registry.get tag.display >>= _)
    unfold get
    cases registry.find? tag.display with
    | none => exact tells_refusal unsupported
    | some variant =>
      exact (normalFinding_tells _).bind fun _ passed => formFinding_tells registry variant passed
  · simp only [taggedFinding, unwritable, failed]
    exact tells_fault (by decide)

/-- Every record is read, refused as an error of the configuration, or tripped over. -/
theorem finding_tells (registry : Registry A)
    (unsupported : registry.unsupported.isConfiguration = true) (record : Table Datum) :
    (registry.finding record).Tells (registry.parse record) := by
  unfold finding parse
  cases record.get? registry.tag with
  | none => exact tells_refusing rfl
  | some tag =>
    cases tag with
    | null => exact tells_refusing rfl
    | _ => exact taggedFinding_tells registry unsupported record _

end Registry

/-! ## Candidates -/

namespace Candidate

open Finding

/-- What is no number at all, other than a text that reads as none. -/
def isNumberless : Datum -> Bool
  | .int _ | .bool _ | .text _ => false
  | .real value => (Number.truncate? value).isNone && !value.isNaN
  | _ => true

def isOrdinal (given : Datum) : Bool :=
  match given.toInt with
  | .ok ordinal => 0 ≤ ordinal
  | .error _ => false

/-- An ordinal that is no number at all is tripped over; any other flaw of a candidate whose
strategy is known is refused, and the whole candidate is shown then. -/
def finding (entry : Table Datum) : Finding :=
  match (strategyOf entry).text?.bind Strategy.ofLabel? with
  | none => refusing (strategyOf entry)
  | some _ =>
    if isNumberless (ordinalOf entry) then .tripped
    else if isOrdinal (ordinalOf entry) && (entry.get? "value").any Datum.isWritable then .fits
    else refusing (.object entry)

theorem isNumberless_of_ok {given : Datum} {ordinal : Int} (read : given.toInt = .ok ordinal) :
    isNumberless given = false := by
  cases given with
  | real value =>
    cases whole : Number.truncate? value <;> simp only [Datum.toInt, whole] at read
    · split at read <;> cases read
    · simp [isNumberless, whole]
  | int | bool | text => rfl
  | _ => cases read

theorem isNumberless_of_error {given : Datum} {fault : Fault} (met : given.toInt = .error fault) :
    isNumberless given = !fault.kind.isBadValue ∧ fault.kind ∈ faultKinds := by
  cases given with
  | int value => cases met
  | bool value => cases met
  | text value =>
    simp only [Datum.toInt] at met
    split at met <;> cases met <;>
      exact ⟨rfl, by simp [faultKinds, Fault.oversizedNumeral]⟩
  | real value =>
    cases whole : Number.truncate? value <;> simp only [Datum.toInt, whole] at met
    · split at met <;> cases met
      next undefined =>
        refine ⟨?_, by decide⟩
        rw [isNumberless, whole, undefined]
        rfl
      next infinite =>
        refine ⟨?_, by decide⟩
        rw [isNumberless, whole, Bool.eq_false_iff.mpr infinite]
        rfl
    · cases met
  | _ =>
    cases met
    exact ⟨rfl, by decide⟩

theorem finding_tells (entry : Table Datum) : (finding entry).Tells (Candidate.parse entry) := by
  have refused : ∀ broken, (refusing (.object entry)).Tells
      (refuse entry broken : Except Failure Candidate) := fun broken => tells_refusing rfl
  cases known : (strategyOf entry).text?.bind Strategy.ofLabel? with
  | none =>
    simp only [finding, Candidate.parse, known]
    exact tells_refusing_written fun _ => rfl
  | some strategy =>
    cases read : (ordinalOf entry).toInt with
    | error fault =>
      obtain ⟨numberless, kind⟩ := isNumberless_of_error read
      simp only [finding, Candidate.parse, known, isOrdinal, read, numberless]
      cases fault.kind.isBadValue with
      | true => exact refused []
      | false => exact tells_fault kind
    | ok ordinal =>
      simp only [finding, Candidate.parse, known, isOrdinal, read, isNumberless_of_ok read]
      cases entry.get? "value" with
      | none =>
        simp only [Option.any_none, Bool.and_false]
        exact refused []
      | some value =>
        rcases value.written_cases with ⟨writable, written⟩ | ⟨unwritable, failed⟩
        · simp only [Option.any_some, Option.map_some, writable, written, Bool.and_true]
          by_cases below : ordinal < 0
          · simp only [below, Int.not_le.mpr below, decide_false, if_true]
            exact refused _
          · simp only [below, Int.not_lt.mp below, decide_true, if_true]
            exact tells_ok _
        · simp only [Option.any_some, Option.map_some, unwritable, failed, Bool.and_false]
          exact refused []

end Candidate

/-- Records and candidates that are not in order fail as errors of the configuration exactly if
nothing in them is tripped over. -/
theorem malformed_fail_as_configuration_iff (record entry : Table Datum) :
    ((∀ failure, operations.parse record = .error failure → failure.isConfiguration = true) ↔
      operations.finding record ≠ .tripped) ∧
    ((∀ failure, assertions.parse record = .error failure → failure.isConfiguration = true) ↔
      assertions.finding record ≠ .tripped) ∧
    ((∀ failure, Candidate.parse entry = .error failure → failure.isConfiguration = true) ↔
      Candidate.finding entry ≠ .tripped) :=
  ⟨(operations.finding_tells rfl record).configuration_iff,
    (assertions.finding_tells rfl record).configuration_iff,
    (Candidate.finding_tells entry).configuration_iff⟩

/-- A click with a word for its index is not refused: the word is no number. -/
theorem worded_index_trips :
    let record : Table Datum :=
      [("index", .text "x"), ("operation", .text "click"), ("page", .text "login"),
       ("element", .text "user")]
    ∃ failure, operations.parse record = .error failure ∧ failure.kind? = none ∧
      failure.isConfiguration = false := by
  exact ⟨_, rfl, rfl, rfl⟩

end Rehearsal
