import Rehearsal.Proofs.Record.FormReading

/-!
Which records seek an element: those whose operation, assertion or wait is about one, and those
that name one. A record that was accepted names both the page and the element that it seeks.
-/

set_option autoImplicit false

namespace Rehearsal

def Operation.needsElement : Operation -> Bool
  | .navigate _ | .saveState _ | .loadState _ | .produce _ _ _ | .consume _ _ _
  | .httpCall _ _ _ _ => false
  | _ => true

def Aspect.needsElement : Aspect -> Bool
  | .url => false
  | _ => true

namespace Header

def seeksElement (header : Header) (needsElement : Bool) : Bool :=
  needsElement || named header.element || header.wait.any fun wait => wait.condition.needsElement

def IsAimed (header : Header) (needsElement : Bool) : Prop :=
  header.seeksElement needsElement = true → header.hasTarget = true

variable {header : Header} {needsElement : Bool}

theorem isAimed_of_coherent {name : String}
    (coherent : header.conflict? name needsElement = none) : header.IsAimed needsElement := by
  intro seeks
  cases targeted : header.hasTarget with
  | true => rfl
  | false =>
    -- Without a target each way of seeking an element is a conflict of its own.
    simp only [conflict?, targeted, Bool.not_false, Bool.and_true] at coherent
    split at coherent
    · cases coherent
    · split at coherent
      · cases coherent
      next unneeded unpaired =>
        have nameless : named header.element = false := by
          cases page : named header.page <;> cases element : named header.element <;>
            simp_all [hasTarget]
        split at coherent
        next wait held =>
          split at coherent
          · cases coherent
          · simp_all [seeksElement]
        next unheld => simp_all [seeksElement]

end Header

namespace Registry

variable {A : Type} {registry : Registry A} {variant : Variant A}

theorem isAimed_of_validate {record : Table Datum} {value : A}
    (valid : registry.validate variant record = .ok value) :
    (registry.header value).IsAimed variant.needsElement := by
  simp only [validate] at valid
  split at valid
  · cases valid
  · split at valid
    · cases valid
    next coherent =>
      cases valid
      exact Header.isAimed_of_coherent coherent

end Registry

/-! ## Actions and assertions -/

namespace Action

variable {table : Table Datum}

theorem operation_of_read {value : Form (Option String)} {operation : Form Operation}
    {action : Action} (read : (form value operation).read table = .ok action) :
    operation.read table = .ok action.operation := by
  simp only [form, Form.read_seq, Form.read_map] at read
  obtain ⟨_, given, ⟨_, _, ⟨_, _, ⟨_, -, rfl⟩, -, rfl⟩, -, rfl⟩, reading, rfl⟩ := read
  exact reading

/-- The variants that do without an element read only operations that do. -/
theorem needsElement_of_read {variant : Variant Action} (member : variant ∈ variants)
    {action : Action} (read : variant.form.read table = .ok action)
    (needs : action.operation.needsElement = true) : variant.needsElement = true := by
  simp only [variants, List.mem_cons, List.not_mem_nil, or_false] at member
  rcases member with rfl | rfl | rfl | rfl | rfl | rfl | rfl | rfl | rfl | rfl | rfl | rfl |
    rfl | rfl | rfl
  all_goals first
    | rfl
    | have reading := operation_of_read read
  all_goals
    simp only [targetPage, stateKey, produceForm, consumeForm, httpCallForm, Form.read_seq,
      Form.read_map] at reading
  -- What is left are the operations on a page, which are read as such.
  · obtain ⟨_, -, made⟩ := reading; simp [← made, Operation.needsElement] at needs
  · obtain ⟨_, -, made⟩ := reading; simp [← made, Operation.needsElement] at needs
  · obtain ⟨_, -, made⟩ := reading; simp [← made, Operation.needsElement] at needs
  · obtain ⟨_, _, ⟨_, _, ⟨_, -, rfl⟩, -, rfl⟩, -, made⟩ := reading
    simp [← made, Operation.needsElement] at needs
  · obtain ⟨_, _, ⟨_, _, ⟨_, -, rfl⟩, -, rfl⟩, -, made⟩ := reading
    simp [← made, Operation.needsElement] at needs
  · obtain ⟨_, _, ⟨_, _, ⟨_, _, ⟨_, -, rfl⟩, -, rfl⟩, -, rfl⟩, -, made⟩ := reading
    simp [← made, Operation.needsElement] at needs

theorem isAimed_of_parse {record : Table Datum} {action : Action}
    (parsed : operations.parse record = .ok action) :
    action.header.IsAimed action.operation.needsElement := by
  obtain ⟨variant, member, table, valid⟩ := Registry.validate_of_parse parsed
  have aimed := Registry.isAimed_of_validate valid
  have needs := needsElement_of_read member (Registry.read_of_validate valid)
  intro seeks
  refine aimed ?_
  simp only [Header.seeksElement, Bool.or_eq_true] at seeks ⊢
  exact seeks.imp_left (Or.imp_left needs)

end Action

namespace Assertion

variable {table : Table Datum}

theorem aspect_of_read {aspect : Form Aspect} {assertion : Assertion}
    (read : (form aspect).read table = .ok assertion) :
    aspect.read table = .ok assertion.aspect := by
  simp only [form, Form.read_seq, Form.read_map] at read
  obtain ⟨_, given, ⟨_, _, ⟨_, _, ⟨_, _, ⟨_, -, rfl⟩, -, rfl⟩, -, rfl⟩, -, rfl⟩, reading, rfl⟩ := read
  exact reading

theorem needsElement_of_read {variant : Variant Assertion} (member : variant ∈ variants)
    {assertion : Assertion} (read : variant.form.read table = .ok assertion)
    (needs : assertion.aspect.needsElement = true) : variant.needsElement = true := by
  simp only [variants, List.mem_cons, List.not_mem_nil, or_false] at member
  rcases member with rfl | rfl | rfl | rfl | rfl | rfl
  case inl =>
    have reading := aspect_of_read read
    simp only [Form.read_pure, Except.ok.injEq] at reading
    simp [← reading, Aspect.needsElement] at needs
  all_goals rfl

theorem isAimed_of_parse {record : Table Datum} {assertion : Assertion}
    (parsed : assertions.parse record = .ok assertion) :
    assertion.header.IsAimed assertion.aspect.needsElement := by
  obtain ⟨variant, member, table, valid⟩ := Registry.validate_of_parse parsed
  have aimed := Registry.isAimed_of_validate valid
  have needs := needsElement_of_read member (Registry.read_of_validate valid)
  intro seeks
  refine aimed ?_
  simp only [Header.seeksElement, Bool.or_eq_true] at seeks ⊢
  exact seeks.imp_left (Or.imp_left needs)

end Assertion

end Rehearsal
