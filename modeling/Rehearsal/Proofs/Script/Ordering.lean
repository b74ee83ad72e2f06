import Mathlib.Data.List.Sort
import Rehearsal.Proofs.Script.Numbering

/-!
Scripts from records in any order. The records make up a script exactly if their indices are the
numbers from one on, each once, and then the script is the only one that has every record at the
place of its index. Otherwise the least index that is out of place is reported, whatever the order
was, unless it is too long to be written.
-/

set_option autoImplicit false

namespace Rehearsal

theorem Datum.isWritable_nat (value : Nat) :
    (Datum.int value).isWritable = true ↔ value < Nat.pow 10 Number.mostDigits := by
  have longer (digits : Nat) (long : 20 ≤ digits) : Nat.pow 2 64 ≤ Nat.pow 10 digits :=
    calc Nat.pow 2 64 ≤ Nat.pow 10 20 := by decide
      _ ≤ Nat.pow 10 digits := Nat.pow_le_pow_right (Nat.succ_pos _) long
  rw [Datum.isWritable, Datum.isWritableInt, Bool.or_eq_true, decide_eq_true_eq,
    decide_eq_true_eq, Int.natAbs_natCast]
  exact or_iff_right_of_imp fun small => lt_of_lt_of_le small (longer _ (by decide))

namespace Script

/-! ## One kind of records -/

section

variable {A : Type} {index : A -> Nat} {test records : String} {items others arranged : List A}
  {indices : List Nat} {due expected passed found : Nat}

/-- The indices are the numbers from one on, each once. -/
def IsNumbered (index : A -> Nat) (items : List A) : Prop :=
  (items.map index).Perm (List.range' 1 items.length)

/-- The same records, each at the place of its index. -/
structure Arranges (index : A -> Nat) (items arranged : List A) : Prop where
  same : arranged.Perm items
  placed : ∀ place item, arranged[place]? = some item → index item = place + 1

/-- Next to the numbers up to `passed`, the least index is `found`, and that does not follow. -/
structure Strays (index : A -> Nat) (items : List A) (passed found : Nat) : Prop where
  split : ∃ behind, (items.map index).Perm (List.range' 1 passed ++ found :: behind) ∧
    ∀ other ∈ behind, found ≤ other
  later : passed ≤ found
  stray : found ≠ passed + 1

theorem gap?_eq_some :
    gap? indices due = some (expected, found) ↔
      ∃ passed behind, indices = List.range' due passed ++ found :: behind ∧
        expected = due + passed ∧ found ≠ expected := by
  induction indices generalizing due with
  | nil => simp [gap?]
  | cons index rest ih =>
    rw [gap?]
    split
    next same =>
      rw [ih, eq_of_beq same]
      constructor
      · rintro ⟨passed, behind, rfl, rfl, stray⟩
        exact ⟨passed + 1, behind, by rw [List.range'_succ]; rfl, by omega, stray⟩
      · rintro ⟨_ | passed, behind, split, rfl, stray⟩
        · exact absurd (List.cons.inj split).1.symm stray
        · rw [List.range'_succ, List.cons_append, List.cons.injEq] at split
          exact ⟨passed, behind, split.2, by omega, stray⟩
    next other =>
      have other : index ≠ due := by simpa using other
      constructor
      · intro same
        simp only [Option.some.injEq, Prod.mk.injEq] at same
        obtain ⟨rfl, rfl⟩ := same
        exact ⟨0, rest, rfl, rfl, other⟩
      · rintro ⟨_ | passed, behind, split, rfl, -⟩
        · exact congrArg some (Prod.ext rfl (List.cons.inj split).1)
        · rw [List.range'_succ, List.cons_append, List.cons.injEq] at split
          exact absurd split.1 other

theorem gap?_range' (due count : Nat) : gap? (List.range' due count) due = none := by
  induction count generalizing due with
  | zero => rfl
  | succ count ih => rw [List.range'_succ, gap?, beq_self_eq_true, if_pos rfl, ih]

def ascending (index : A -> Nat) (items : List A) : List A :=
  items.mergeSort fun left right => index left <= index right

theorem ascending_perm (index : A -> Nat) (items : List A) : (ascending index items).Perm items :=
  List.mergeSort_perm _ _

theorem pairwise_ascending (index : A -> Nat) (items : List A) :
    ((ascending index items).map index).Pairwise (· ≤ ·) := by
  have sorted : (ascending index items).Pairwise fun left right =>
      decide (index left ≤ index right) = true := by
    refine List.pairwise_mergeSort (fun first second third => ?_) (fun first second => ?_) items
    · simpa using le_trans
    · simpa using le_total _ _
  rw [List.pairwise_map]
  exact sorted.imp of_decide_eq_true

/-- There is one way only to put numbers in ascending order. -/
theorem indices_of_sorted (sorted : indices.Pairwise (· ≤ ·))
    (same : indices.Perm (items.map index)) : (ascending index items).map index = indices := by
  have indexed := ((ascending_perm index items).map index).trans same.symm
  exact indexed.eq_of_pairwise (fun _ _ _ _ => le_antisymm) (pairwise_ascending index items) sorted

theorem indices_of_perm (same : others.Perm items) :
    (ascending index others).map index = (ascending index items).map index :=
  indices_of_sorted (pairwise_ascending index items)
    (((ascending_perm index items).trans same.symm).map index)

theorem isNumbered_iff :
    IsNumbered index items ↔
      (ascending index items).map index = List.range' 1 items.length := by
  constructor
  · exact fun numbered => indices_of_sorted List.pairwise_le_range' numbered.symm
  · intro indices
    rw [IsNumbered, ← indices]
    exact ((ascending_perm index items).map index).symm

theorem strays_iff :
    Strays index items passed found ↔
      gap? ((ascending index items).map index) 1 = some (passed + 1, found) := by
  rw [gap?_eq_some]
  constructor
  · rintro ⟨⟨behind, same, least⟩, later, stray⟩
    have sorted : (List.range' 1 passed ++ found :: behind.mergeSort).Pairwise (· ≤ ·) := by
      rw [List.pairwise_append, List.pairwise_cons]
      refine ⟨List.pairwise_le_range', ⟨fun other member => ?_, ?_⟩,
        fun low member high other => ?_⟩
      · exact least other (List.mem_mergeSort.mp member)
      · exact List.pairwise_mergeSort' (· ≤ ·) behind
      · have low := List.mem_range'_1.mp member
        rcases List.mem_cons.mp other with rfl | behind
        · omega
        · have := least high (List.mem_mergeSort.mp behind)
          omega
    refine ⟨passed, behind.mergeSort, indices_of_sorted sorted ?_, by omega, stray⟩
    exact (((List.mergeSort_perm behind _).cons found).append_left _).trans same.symm
  · rintro ⟨count, behind, indices, counted, stray⟩
    obtain rfl : passed = count := by omega
    have sorted := pairwise_ascending index items
    rw [indices, List.pairwise_append, List.pairwise_cons] at sorted
    obtain ⟨-, ⟨least, -⟩, apart⟩ := sorted
    refine ⟨⟨behind, ?_, least⟩, ?_, stray⟩
    · rw [← indices]
      exact ((ascending_perm index items).map index).symm
    · cases passed with
      | zero => exact Nat.zero_le _
      | succ count => exact apart (count + 1) (List.mem_range'_1.mpr (by omega)) found (by simp)

theorem arranges_iff :
    Arranges index items arranged ↔
      IsNumbered index items ∧ arranged = ascending index items := by
  constructor
  · rintro ⟨same, placed⟩
    have indices : arranged.map index = List.range' 1 arranged.length := by
      refine List.ext_getElem? fun place => ?_
      rw [List.getElem?_map]
      cases found : arranged[place]? with
      | none => simpa using found
      | some item =>
        have within := (List.getElem?_eq_some_iff.mp found).1
        rw [List.getElem?_range' within, Option.map_some, placed place item found]
        simp [Nat.add_comm]
    have numbered : IsNumbered index items := by
      rw [IsNumbered, ← same.length_eq, ← indices]
      exact (same.map index).symm
    refine ⟨numbered, ?_⟩
    -- Records of one index are one record, as no index comes twice.
    have distinct : (items.map index).Nodup := numbered.nodup_iff.mpr List.nodup_range'
    have both := same.trans (ascending_perm index items).symm
    have rising : (arranged.map index).Pairwise (· ≤ ·) := by
      rw [indices]
      exact List.pairwise_le_range'
    refine both.eq_of_pairwise (fun left right first second low high => ?_)
      (List.pairwise_map.mp rising) (List.pairwise_map.mp (pairwise_ascending index items))
    exact List.inj_on_of_nodup_map distinct (same.mem_iff.mp first)
      ((ascending_perm index items).mem_iff.mp second) (le_antisymm low high)
  · rintro ⟨numbered, rfl⟩
    refine ⟨ascending_perm index items, fun place item found => ?_⟩
    have listed := congrArg (·[place]?) (isNumbered_iff.mp numbered)
    have within := (List.getElem?_eq_some_iff.mp found).1
    rw [(ascending_perm index items).length_eq] at within
    simp only [List.getElem?_map, found, Option.map_some, List.getElem?_range' within,
      Option.some.injEq] at listed
    omega

/-- How it is reported that an index is out of place. -/
def refusal (test records : String) (expected found : Nat) : Failure :=
  if (Datum.int found).isWritable then .indexGap test records expected found
  else .fault Fault.oversizedInt

theorem inOrder_eq (index : A -> Nat) (test records : String) (items : List A) :
    inOrder index test records items =
      match gap? ((ascending index items).map index) 1 with
      | none => .ok (ascending index items)
      | some (expected, found) => .error (refusal test records expected found) := by
  unfold inOrder ascending
  dsimp only
  cases gap? ((items.mergeSort fun one next => decide (index one ≤ index next)).map index) 1 with
  | none => rfl
  | some gap =>
    dsimp only
    rw [refusal, Datum.checkWritable]
    cases (Datum.int gap.2).isWritable <;> rfl

theorem inOrder_of_isNumbered (numbered : IsNumbered index items) :
    inOrder index test records items = .ok (ascending index items) := by
  rw [inOrder_eq, isNumbered_iff.mp numbered, gap?_range']

theorem inOrder_of_strays (strays : Strays index items passed found) :
    inOrder index test records items = .error (refusal test records (passed + 1) found) := by
  rw [inOrder_eq, strays_iff.mp strays]

theorem isNumbered_or_strays (index : A -> Nat) (items : List A) :
    IsNumbered index items ∨ ∃ passed found, Strays index items passed found := by
  cases gap : gap? ((ascending index items).map index) 1 with
  | none =>
    have indices := indices_of_no_gap gap
    rw [List.length_map, (ascending_perm index items).length_eq] at indices
    exact .inl (isNumbered_iff.mpr indices)
  | some stray =>
    obtain ⟨passed, behind, -, expected, -⟩ := gap?_eq_some.mp gap
    exact .inr ⟨passed, stray.2, strays_iff.mpr (by rw [gap, Nat.add_comm, ← expected])⟩

theorem Strays.not_isNumbered (strays : Strays index items passed found) :
    ¬ IsNumbered index items := by
  intro numbered
  have none := gap?_range' 1 items.length
  rw [← isNumbered_iff.mp numbered, strays_iff.mp strays] at none
  cases none

theorem ascending_of_perm (same : others.Perm items) (numbered : IsNumbered index items) :
    ascending index others = ascending index items := by
  have arranged : Arranges index items (ascending index items) :=
    arranges_iff.mpr ⟨numbered, rfl⟩
  have again : Arranges index others (ascending index items) :=
    ⟨arranged.same.trans same.symm, arranged.placed⟩
  exact (arranges_iff.mp again).2.symm

/-- The order in which the records come decides nothing. -/
theorem inOrder_perm (same : others.Perm items) :
    inOrder index test records others = inOrder index test records items := by
  rcases isNumbered_or_strays index items with numbered | ⟨passed, found, strays⟩
  · rw [inOrder_eq, inOrder_eq, indices_of_perm same, ascending_of_perm same numbered]
  · have again : Strays index others passed found := by
      rw [strays_iff, indices_of_perm same]
      exact strays_iff.mp strays
    rw [inOrder_of_strays strays, inOrder_of_strays again]

end

/-! ## Actions and assertions -/

variable {test : String} {actions otherActions : List Action}
  {assertions otherAssertions : List Assertion} {fields : Table Datum} {passed found : Nat}

abbrev actionIndex (action : Action) : Nat := action.header.index

abbrev assertionIndex (assertion : Assertion) : Nat := assertion.header.index

/-- The first index that is out of place; assertions are looked at after the actions. -/
inductive StraysFirst (actions : List Action) (assertions : List Assertion)
    (passed found : Nat) : Prop where
  | action (strays : Strays actionIndex actions passed found) :
      StraysFirst actions assertions passed found
  | assertion (numbered : IsNumbered actionIndex actions)
      (strays : Strays assertionIndex assertions passed found) :
      StraysFirst actions assertions passed found

/-- Where a check leads, if it is passed and if it is not. -/
def branches? (action : Action) : Option (Nat × Nat) :=
  match action.operation with
  | .check _ ifTrueNext ifFalseNext => some (ifTrueNext, ifFalseNext)
  | _ => none

/-- The script of these records, each at the place of its index. -/
structure MadeOf (script : Script) (test : String) (actions : List Action)
    (assertions : List Assertion) : Prop where
  named : script.test = test
  actions : ∀ arranged, Arranges actionIndex actions arranged ↔ arranged = script.actions
  assertions : ∀ arranged,
    Arranges assertionIndex assertions arranged ↔ arranged = script.assertions
  branches : script.branchTargets =
    (script.actions.filterMap branches?).flatMap fun pair => [pair.1, pair.2]

/-- Records make up a script exactly if they are numbered, in any order the same one; else they
are refused as an error of the configuration, in any order the same. -/
structure Orders (test : String) (actions : List Action) (assertions : List Assertion) : Prop where
  passes : (∃ script, ofRecords test actions assertions = .ok script) ↔
    IsNumbered actionIndex actions ∧ IsNumbered assertionIndex assertions
  made : ∀ script, ofRecords test actions assertions = .ok script →
    script.MadeOf test actions assertions
  alike : ∀ otherActions otherAssertions, otherActions.Perm actions →
    otherAssertions.Perm assertions →
    (∃ script, ofRecords test actions assertions = .ok script ∧
      ofRecords test otherActions otherAssertions = .ok script) ∨
    ∃ failure, failure.kind? = some .configuration ∧
      ofRecords test actions assertions = .error failure ∧
      ofRecords test otherActions otherAssertions = .error failure

theorem branchTargets_eq (script : Script) :
    script.branchTargets =
      (script.actions.filterMap branches?).flatMap fun pair => [pair.1, pair.2] := by
  rw [branchTargets]
  induction script.actions with
  | nil => rfl
  | cons action rest ih =>
    rw [List.flatMap_cons, ih, Action.targets, List.filterMap_cons, branches?]
    cases action.operation <;> rfl

theorem ofRecords_of_isNumbered (numbered : IsNumbered actionIndex actions)
    (others : IsNumbered assertionIndex assertions) :
    ofRecords test actions assertions =
      .ok ⟨test, ascending actionIndex actions, ascending assertionIndex assertions⟩ := by
  rw [ofRecords, inOrder_of_isNumbered numbered, inOrder_of_isNumbered others]
  rfl

theorem StraysFirst.refused (strays : StraysFirst actions assertions passed found)
    (test : String) : ∃ records, ofRecords test actions assertions =
      .error (refusal test records (passed + 1) found) := by
  cases strays with
  | action strays =>
    refine ⟨"action", ?_⟩
    rw [ofRecords, inOrder_of_strays strays]
    rfl
  | assertion numbered strays =>
    refine ⟨"assertion", ?_⟩
    rw [ofRecords, inOrder_of_isNumbered numbered, inOrder_of_strays strays]
    rfl

theorem isNumbered_or_straysFirst (actions : List Action) (assertions : List Assertion) :
    IsNumbered actionIndex actions ∧ IsNumbered assertionIndex assertions ∨
      ∃ passed found, StraysFirst actions assertions passed found := by
  rcases isNumbered_or_strays actionIndex actions with numbered | ⟨passed, found, strays⟩
  · rcases isNumbered_or_strays assertionIndex assertions with others | ⟨passed, found, strays⟩
    · exact .inl ⟨numbered, others⟩
    · exact .inr ⟨passed, found, .assertion numbered strays⟩
  · exact .inr ⟨passed, found, .action strays⟩

theorem StraysFirst.not_isNumbered (strays : StraysFirst actions assertions passed found) :
    ¬ (IsNumbered actionIndex actions ∧ IsNumbered assertionIndex assertions) := by
  rintro ⟨numbered, others⟩
  cases strays with
  | action strays => exact strays.not_isNumbered numbered
  | assertion _ strays => exact strays.not_isNumbered others

theorem kind_refusal (test records : String) (expected found : Nat) :
    (refusal test records expected found).kind? = some .configuration ↔
      found < Nat.pow 10 Number.mostDigits := by
  rw [refusal, ← Datum.isWritable_nat]
  cases (Datum.int found).isWritable <;> simp [Failure.kind?]

theorem ofRecords_perm (same : otherActions.Perm actions)
    (others : otherAssertions.Perm assertions) :
    ofRecords test otherActions otherAssertions = ofRecords test actions assertions := by
  rw [ofRecords, ofRecords, inOrder_perm same, inOrder_perm others]

theorem ofRecords_eq_ok {script : Script} :
    ofRecords test actions assertions = .ok script ↔
      IsNumbered actionIndex actions ∧ IsNumbered assertionIndex assertions ∧
        script = ⟨test, ascending actionIndex actions, ascending assertionIndex assertions⟩ := by
  rcases isNumbered_or_straysFirst actions assertions with
    ⟨numbered, others⟩ | ⟨passed, found, strays⟩
  · rw [ofRecords_of_isNumbered numbered others]
    simp [numbered, others, eq_comm]
  · obtain ⟨records, refused⟩ := strays.refused test
    rw [refused]
    constructor
    · exact nofun
    · exact fun made => absurd ⟨made.1, made.2.1⟩ strays.not_isNumbered

theorem madeOf_of_ok {script : Script} (made : ofRecords test actions assertions = .ok script) :
    script.MadeOf test actions assertions := by
  obtain ⟨numbered, others, rfl⟩ := ofRecords_eq_ok.mp made
  exact ⟨rfl, fun _ => arranges_iff.trans (and_iff_right numbered),
    fun _ => arranges_iff.trans (and_iff_right others), branchTargets_eq _⟩

theorem orders_of_short
    (short : ∀ passed found, StraysFirst actions assertions passed found →
      found < Nat.pow 10 Number.mostDigits) : Orders test actions assertions := by
  refine ⟨?_, fun _ => madeOf_of_ok, fun otherActions otherAssertions same others => ?_⟩
  · exact ⟨fun ⟨_, made⟩ => (ofRecords_eq_ok.mp made).imp_right And.left,
      fun ⟨numbered, others⟩ => ⟨_, ofRecords_of_isNumbered numbered others⟩⟩
  · rw [ofRecords_perm same others]
    rcases isNumbered_or_straysFirst actions assertions with
      ⟨numbered, others⟩ | ⟨passed, found, strays⟩
    · have made : ofRecords test actions assertions = _ := ofRecords_of_isNumbered numbered others
      exact .inl ⟨_, made, made⟩
    · obtain ⟨records, refused⟩ := strays.refused test
      exact .inr ⟨_, (kind_refusal ..).mpr (short passed found strays), refused, refused⟩

theorem Orders.short (orders : Orders test actions assertions)
    (strays : StraysFirst actions assertions passed found) :
    found < Nat.pow 10 Number.mostDigits := by
  obtain ⟨records, refused⟩ := strays.refused test
  rcases orders.alike actions assertions (.refl _) (.refl _) with
    ⟨script, made, -⟩ | ⟨failure, kind, failed, -⟩
  · cases refused.symm.trans made
  · cases refused.symm.trans failed
    exact (kind_refusal ..).mp kind

/-- An object whose entries are read as these records. -/
structure Presents (fields : Table Datum) (test : String) (actions : List Action)
    (assertions : List Assertion) : Prop where
  named : fields.get? "test_id" = some (.text test)
  plain : testForm.run fields = .ok test
  actions : parseRecords operations (fields.get? "actions") = .ok actions
  assertions : parseRecords Rehearsal.assertions (fields.get? "assertions") = .ok assertions

theorem Presents.read (presents : Presents fields test actions assertions) :
    ofDatum (.object fields) = (ofRecords test actions assertions).mapError unfit := by
  have parts : readParts fields = (ofRecords test actions assertions).map
      fun script => (script.actions, script.assertions) := by
    rw [readParts, presents.named, presents.actions, presents.assertions]
    rfl
  rw [ofDatum, parts]
  rcases isNumbered_or_straysFirst actions assertions with
    ⟨numbered, others⟩ | ⟨passed, found, strays⟩
  · rw [ofRecords_of_isNumbered numbered others]
    simp only [Except.map, Except.mapError, bind, Except.bind, presents.plain]
    rfl
  · obtain ⟨records, refused⟩ := strays.refused test
    rw [refused]
    rfl

/-- Records are ordered by their indices, and refused as an error of the configuration else,
exactly if the first index that is out of place can be written down. In any case the order in which
they come decides nothing. -/
theorem orders_iff (test : String) (actions : List Action) (assertions : List Assertion) :
    (Orders test actions assertions ↔ ∀ passed found,
      StraysFirst actions assertions passed found → found < Nat.pow 10 Number.mostDigits) ∧
    (∀ otherActions otherAssertions, otherActions.Perm actions →
      otherAssertions.Perm assertions →
      ofRecords test otherActions otherAssertions = ofRecords test actions assertions) ∧
    ∀ fields, Presents fields test actions assertions →
      ofDatum (.object fields) = (ofRecords test actions assertions).mapError unfit :=
  ⟨⟨fun orders _ _ strays => orders.short strays, orders_of_short⟩,
    fun _ _ same others => ofRecords_perm same others, fun _ presents => presents.read⟩

def saveRecord (index : Nat) : Table Datum :=
  [("index", .int index), ("operation", .text "save_state"), ("state_key", .text "home")]

def saveAction (index : Nat) : Action :=
  { header := { index, page := none, element := none, wait := none, timeout := none }
    value := none, operation := .saveState "home" }

/-- A script of saves with these indices. -/
def saves (indices : List Nat) : Table Datum :=
  [("test_id", .text "entry"),
    ("actions", .list (indices.map fun index => .object (saveRecord index)))]

theorem saves_are_put_in_order :
    Presents (saves [2, 1]) "entry" [saveAction 2, saveAction 1] [] ∧
      ofDatum (.object (saves [2, 1])) = .ok ⟨"entry", [saveAction 1, saveAction 2], []⟩ := by
  have presents : Presents (saves [2, 1]) "entry" [saveAction 2, saveAction 1] [] :=
    ⟨rfl, rfl, rfl, rfl⟩
  have turned := (orders_iff "entry" [saveAction 1, saveAction 2] []).2.1
    [saveAction 2, saveAction 1] [] (.swap ..) (.refl _)
  have sorted : ascending actionIndex [saveAction 1, saveAction 2] =
      [saveAction 1, saveAction 2] := List.mergeSort_of_pairwise (by decide)
  have ordered : ofRecords "entry" [saveAction 1, saveAction 2] [] =
      .ok ⟨"entry", [saveAction 1, saveAction 2], []⟩ :=
    ofRecords_eq_ok.mpr ⟨.refl _, .refl _, by rw [sorted, ascending, List.mergeSort_nil]⟩
  refine ⟨presents, ?_⟩
  rw [(orders_iff ..).2.2 _ presents, turned, ordered]
  rfl

/-- An index of too many digits. -/
def endless : Nat := Nat.pow (Nat.pow 10 215) 20

/-- What is out of place is found, but it cannot be said where. -/
theorem endless_index_is_not_refused :
    ofDatum (.object (saves [endless])) =
        .error (.misfit "TestScript" [{ place := [], rule := .coherent, note := none }]) ∧
      ¬ Orders "entry" [saveAction endless] [] := by
  have strays : Strays actionIndex [saveAction endless] 0 endless :=
    ⟨⟨[], .refl _, by simp⟩, Nat.zero_le _, by decide +kernel⟩
  have unwritable : (Datum.int endless).isWritable = false := by decide +kernel
  have presents : Presents (saves [endless]) "entry" [saveAction endless] [] :=
    ⟨rfl, rfl, rfl, rfl⟩
  constructor
  · have refused : inOrder actionIndex "entry" "action" [saveAction endless] = _ :=
      inOrder_of_strays strays
    rw [presents.read, ofRecords, refused, refusal, if_neg (by simp [unwritable])]
    rfl
  · intro orders
    have short := orders.short (.action strays)
    rw [← Datum.isWritable_nat, unwritable] at short
    cases short

end Script

end Rehearsal
