import Rehearsal.Proofs.Record.Targets
import Rehearsal.Script

/-!
What is known of the records of a script that was read: the index of each is its place, counted
from one, no check leads to an index below one, and each names the element that it seeks.
-/

set_option autoImplicit false

namespace Rehearsal

/-! ## Checks -/

def Operation.LeadsOn : Operation -> Prop
  | .check _ ifTrueNext ifFalseNext => 1 ≤ ifTrueNext ∧ 1 ≤ ifFalseNext
  | _ => True

namespace Action

theorem targets_of_leadsOn {action : Action} (leads : action.operation.LeadsOn) :
    ∀ target ∈ action.targets, 1 ≤ target := by
  intro target member
  unfold targets at member
  split at member
  next check =>
    rw [check] at leads
    simp only [List.mem_cons, List.not_mem_nil, or_false] at member
    rcases member with rfl | rfl
    · exact leads.1
    · exact leads.2
  · simp at member

variable {table : Table Datum}

theorem leadsOn_of_read_check {operation : Operation}
    (read : checkForm.read table = .ok operation) : operation.LeadsOn := by
  simp only [checkForm, Form.read_seq, Form.read_map] at read
  obtain ⟨_, ifFalseNext, ⟨_, ifTrueNext, ⟨_, -, rfl⟩, isTrue, rfl⟩, isFalse, rfl⟩ := read
  obtain ⟨_, _, -, whole⟩ := Form.read_required isTrue
  obtain ⟨_, _, -, other⟩ := Form.read_required isFalse
  exact ⟨Form.intFrom_least whole, Form.intFrom_least other⟩

/-- Only the form of checks reads a check. -/
theorem leadsOn_of_read {variant : Variant Action} (member : variant ∈ variants) {action : Action}
    (read : variant.form.read table = .ok action) : action.operation.LeadsOn := by
  cases kind : action.operation with
  | check condition ifTrueNext ifFalseNext =>
    simp only [variants, List.mem_cons, List.not_mem_nil, or_false] at member
    rcases member with rfl | rfl | rfl | rfl | rfl | rfl | rfl | rfl | rfl | rfl | rfl | rfl |
      rfl | rfl | rfl
    all_goals have reading := kind ▸ operation_of_read read
    all_goals first
      | exact leadsOn_of_read_check reading
      | (simp at reading; done)
      | simp only [produceForm, consumeForm, httpCallForm, Form.read_seq, Form.read_map] at reading
    -- What is left are the forms of several fields, which make operations of other kinds.
    · obtain ⟨_, _, ⟨_, _, ⟨_, -, rfl⟩, -, rfl⟩, -, other⟩ := reading; cases other
    · obtain ⟨_, _, ⟨_, _, ⟨_, -, rfl⟩, -, rfl⟩, -, other⟩ := reading; cases other
    · obtain ⟨_, _, ⟨_, _, ⟨_, _, ⟨_, -, rfl⟩, -, rfl⟩, -, rfl⟩, -, other⟩ := reading
      cases other
  | _ => trivial

theorem leadsOn_of_parse {record : Table Datum} {action : Action}
    (parsed : operations.parse record = .ok action) : action.operation.LeadsOn := by
  obtain ⟨variant, member, table, read⟩ := Registry.read_of_parse parsed
  exact leadsOn_of_read member read

end Action

/-! ## Order -/

namespace Script

theorem indices_of_no_gap {indices : List Nat} {due : Nat} (whole : gap? indices due = none) :
    indices = List.range' due indices.length := by
  induction indices generalizing due with
  | nil => rfl
  | cons index rest ih =>
    simp only [gap?] at whole
    split at whole
    next same =>
      rw [List.length_cons, List.range'_succ, ← ih whole, eq_of_beq same]
    · cases whole

theorem inOrder_ok {A : Type} {index : A -> Nat} {test records : String} {items sorted : List A}
    (ordered : inOrder index test records items = .ok sorted) :
    sorted.Perm items ∧ sorted.map index = List.range' 1 sorted.length := by
  simp only [inOrder] at ordered
  split at ordered
  next whole =>
    cases ordered
    -- Sorting only permutes the items; that there is no gap is what fixes their indices.
    have indices := indices_of_no_gap whole
    rw [List.length_map] at indices
    exact ⟨List.mergeSort_perm _ _, indices⟩
  · exact absurd ordered (then_throw_ne_ok _ _ _)

theorem inOrder_nil {A : Type} (index : A -> Nat) (test records : String) :
    inOrder index test records [] = .ok [] := by
  simp [inOrder, gap?]

theorem inOrder_single {A : Type} (index : A -> Nat) (test records : String) {item : A}
    (first : index item = 1) : inOrder index test records [item] = .ok [item] := by
  simp [inOrder, first, gap?]

theorem readParts_single {fields : Table Datum} {test : String} {action : Action}
    (shown : Failure.lift ((fields.get? "test_id").getD (.text "?")).written = .ok test)
    (actions : parseRecords operations (fields.get? "actions") = .ok [action])
    (first : action.header.index = 1)
    (assertions : parseRecords Rehearsal.assertions (fields.get? "assertions") = .ok []) :
    readParts fields = .ok ([action], []) := by
  have ordered : inOrder (·.header.index) test "action" [action] = .ok [action] :=
    inOrder_single _ _ _ first
  simp only [readParts, shown, actions, assertions, ofRecords, bind, Except.bind, ordered,
    inOrder_nil]
  rfl

structure WellNumbered (script : Script) : Prop where
  actions : script.actions.map (·.header.index) = List.range' 1 script.actions.length
  assertions : script.assertions.map (·.header.index) = List.range' 1 script.assertions.length
  leadsOn : ∀ action ∈ script.actions, action.operation.LeadsOn

theorem WellNumbered.index_at {script : Script} (numbered : script.WellNumbered) {place : Nat}
    {action : Action} (found : script.actions[place]? = some action) :
    action.header.index = place + 1 := by
  have within := (List.getElem?_eq_some_iff.mp found).1
  have listed := congrArg (·[place]?) numbered.actions
  simp only [List.getElem?_map, found, Option.map_some, List.getElem?_range' within] at listed
  simpa [Nat.add_comm] using listed

theorem parseRecords_parsed {A : Type} {registry : Registry A} {value : Option Datum}
    {records : List A} (parsed : parseRecords registry value = .ok records) :
    ∀ record ∈ records, ∃ fields, registry.parse fields = .ok record := by
  obtain ⟨entries, -, parsed⟩ := (bind_eq_ok ..).mp parsed
  intro record member
  obtain ⟨entry, -, parsed⟩ := mapM_member parsed record member
  obtain ⟨fields, -, parsed⟩ := (bind_eq_ok ..).mp parsed
  exact ⟨fields, parsed⟩

theorem readParts_ok {fields : Table Datum} {actions : List Action} {assertions : List Assertion}
    (read : readParts fields = .ok (actions, assertions)) :
    (actions.map (·.header.index) = List.range' 1 actions.length ∧
      ∀ action ∈ actions, ∃ record, Rehearsal.operations.parse record = .ok action) ∧
    assertions.map (·.header.index) = List.range' 1 assertions.length ∧
      ∀ assertion ∈ assertions, ∃ record, Rehearsal.assertions.parse record = .ok assertion := by
  obtain ⟨_, -, read⟩ := (bind_eq_ok ..).mp read
  obtain ⟨givenActions, parsed, read⟩ := (bind_eq_ok ..).mp read
  obtain ⟨givenAssertions, othersParsed, read⟩ := (bind_eq_ok ..).mp read
  obtain ⟨script, made, read⟩ := (bind_eq_ok ..).mp read
  obtain ⟨sorted, ordered, made⟩ := (bind_eq_ok ..).mp made
  obtain ⟨others, othersOrdered, made⟩ := (bind_eq_ok ..).mp made
  cases made
  cases read
  -- The records in order are the ones that were parsed.
  obtain ⟨same, indices⟩ := inOrder_ok ordered
  obtain ⟨othersSame, othersIndices⟩ := inOrder_ok othersOrdered
  refine ⟨⟨indices, fun action member => ?_⟩, othersIndices, fun assertion member => ?_⟩
  · exact parseRecords_parsed parsed action (same.mem_iff.mp member)
  · exact parseRecords_parsed othersParsed assertion (othersSame.mem_iff.mp member)

theorem readParts_of_read {value : Datum} {script : Script} (read : ofDatum value = .ok script) :
    ∃ fields, readParts fields = .ok (script.actions, script.assertions) := by
  unfold ofDatum at read
  split at read
  next fields =>
    obtain ⟨⟨actions, assertions⟩, parts, read⟩ := (bind_eq_ok ..).mp read
    have known := (mapError_eq_ok ..).mp parts
    dsimp only at read
    split at read
    · cases read
      exact ⟨fields, known⟩
    · cases read
  · cases read

theorem wellNumbered_of_read {value : Datum} {script : Script}
    (read : ofDatum value = .ok script) : script.WellNumbered := by
  obtain ⟨fields, parts⟩ := readParts_of_read read
  obtain ⟨⟨actions, parsed⟩, assertions, -⟩ := readParts_ok parts
  refine ⟨actions, assertions, fun action member => ?_⟩
  obtain ⟨record, parsed⟩ := parsed action member
  exact Action.leadsOn_of_parse parsed

/-- Every record of a script that was read names the element that it seeks. -/
theorem isAimed_of_read {value : Datum} {script : Script} (read : ofDatum value = .ok script) :
    (∀ action ∈ script.actions, action.header.IsAimed action.operation.needsElement) ∧
      ∀ assertion ∈ script.assertions, assertion.header.IsAimed assertion.aspect.needsElement := by
  obtain ⟨fields, parts⟩ := readParts_of_read read
  obtain ⟨⟨-, actions⟩, -, assertions⟩ := readParts_ok parts
  constructor
  · intro action member
    obtain ⟨record, parsed⟩ := actions action member
    exact Action.isAimed_of_parse parsed
  · intro assertion member
    obtain ⟨record, parsed⟩ := assertions assertion member
    exact Assertion.isAimed_of_parse parsed

end Script

end Rehearsal
