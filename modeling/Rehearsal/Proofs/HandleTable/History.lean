import Mathlib.Data.List.Induction
import Rehearsal.HandleTable

/-!
Handle tables by their history. A lookup gives what was put last, unless its page was removed
since; and the pages of a table are those that lookups find anything on, in the order in which
they came in.
-/

set_option autoImplicit false

namespace Rehearsal.HandleTable

variable {A : Type}

/-- What can be done to a table. -/
inductive Step (A : Type) where
  | put (page element : String) (value : A)
  | invalidate (page : String)
  | clear

namespace Step

def apply (table : HandleTable A) : Step A -> HandleTable A
  | .put page element value => table.put page element value
  | .invalidate page => table.invalidate page
  | .clear => .empty

def Puts (page : String) (step : Step A) : Prop := ∃ element value, step = .put page element value

def Removes (page : String) (step : Step A) : Prop := step = .invalidate page ∨ step = .clear

section

variable {page other element : String} {value : A}

@[simp] theorem puts_put : (put other element value).Puts page ↔ other = page := by
  simp [Puts]

@[simp] theorem not_puts_invalidate : ¬ (invalidate other : Step A).Puts page := by
  simp [Puts]

@[simp] theorem not_puts_clear : ¬ (clear : Step A).Puts page := by
  simp [Puts]

@[simp] theorem not_removes_put : ¬ (put other element value).Removes page := by
  simp [Removes]

@[simp] theorem removes_invalidate : (invalidate other : Step A).Removes page ↔ other = page := by
  simp [Removes]

@[simp] theorem removes_clear : (clear : Step A).Removes page := .inr rfl

end

/-- Neither another value is put for the element, nor is its page removed. -/
def Spares (page element : String) (step : Step A) : Prop :=
  (∀ value, step ≠ .put page element value) ∧ ¬ step.Removes page

end Step

/-- The table that a history of steps leads to. -/
def after (steps : List (Step A)) : HandleTable A := steps.foldl Step.apply .empty

/-- Something began at a place of a history, given what came before, and every step since then has
let it be. -/
def SinceAt (lets : Step A -> Prop) (begins : List (Step A) -> Step A -> Prop) (place : Nat)
    (steps : List (Step A)) : Prop :=
  ∃ earlier step later, steps = earlier ++ step :: later ∧ earlier.length = place ∧
    begins earlier step ∧ ∀ other ∈ later, lets other

def Since (lets begins : Step A -> Prop) (steps : List (Step A)) : Prop :=
  ∃ place, SinceAt lets (fun _ => begins) place steps

/-- The value was put for the element, and spared since. -/
def LastPut (page element : String) (value : A) (steps : List (Step A)) : Prop :=
  Since (Step.Spares page element) (· = .put page element value) steps

/-- Something was put for the page, and the page was not removed since. -/
def Stays (page : String) (steps : List (Step A)) : Prop :=
  Since (fun step => ¬ step.Removes page) (Step.Puts page) steps

/-- The step at a place is the first put for a page since the page was last removed. -/
def EntersAt (page : String) (place : Nat) (steps : List (Step A)) : Prop :=
  SinceAt (fun step => ¬ step.Removes page)
    (fun earlier step => step.Puts page ∧ ¬ Stays page earlier) place steps

def ComesBefore (steps : List (Step A)) (page other : String) : Prop :=
  ∀ place later, EntersAt page place steps → EntersAt other later steps → place < later

/-- What a table tells of its history. -/
structure Recounts (table : HandleTable A) (steps : List (Step A)) : Prop where
  answers : ∀ page element value,
    table.get? page element = some value ↔ LastPut page element value steps
  apart : ∀ page other element, other ≠ page →
    (table.invalidate page).get? other element = table.get? other element
  distinct : table.pages.Nodup
  listed : ∀ page, page ∈ table.pages ↔ ∃ element value, table.get? page element = some value
  entered : ∀ page ∈ table.pages, ∃ place, EntersAt page place steps
  ordered : table.pages.Pairwise (ComesBefore steps)

/-! ## Histories with one more step -/

section

variable {steps earlier later : List (Step A)} {step first : Step A} {page element : String}
  {value : A} {place : Nat}

theorem after_snoc (steps : List (Step A)) (step : Step A) :
    after (steps ++ [step]) = step.apply (after steps) := by
  rw [after, List.foldl_append]
  rfl

theorem split_snoc (split : steps ++ [step] = earlier ++ first :: later) :
    (later = [] ∧ earlier = steps ∧ first = step) ∨
      ∃ before, later = before ++ [step] ∧ steps = earlier ++ first :: before := by
  rcases List.eq_nil_or_concat later with rfl | ⟨before, last, rfl⟩
  · obtain ⟨rfl, same⟩ := List.append_inj' split rfl
    exact .inl ⟨rfl, rfl, (List.singleton_inj.mp same).symm⟩
  · rw [List.concat_eq_append, ← List.cons_append, ← List.append_assoc] at split
    obtain ⟨rfl, same⟩ := List.append_inj' split rfl
    exact .inr ⟨before, by rw [List.concat_eq_append, List.singleton_inj.mp same], rfl⟩

section

variable {lets : Step A -> Prop} {begins : List (Step A) -> Step A -> Prop}
  {alone : Step A -> Prop}

theorem sinceAt_snoc :
    SinceAt lets begins place (steps ++ [step]) ↔
      SinceAt lets begins place steps ∧ lets step ∨ place = steps.length ∧ begins steps step := by
  constructor
  · rintro ⟨earlier, first, later, split, rfl, begun, spared⟩
    rcases split_snoc split with ⟨rfl, rfl, rfl⟩ | ⟨before, rfl, rfl⟩
    · exact .inr ⟨rfl, begun⟩
    · rw [List.forall_mem_append] at spared
      exact .inl ⟨⟨earlier, first, before, rfl, rfl, begun, spared.1⟩, spared.2 _ (by simp)⟩
  · rintro (⟨⟨earlier, first, later, rfl, rfl, begun, spared⟩, last⟩ | ⟨rfl, begun⟩)
    · refine ⟨earlier, first, later ++ [step], by simp, rfl, begun, ?_⟩
      rw [List.forall_mem_append]
      exact ⟨spared, by simpa using last⟩
    · exact ⟨steps, step, [], rfl, rfl, begun, by simp⟩

theorem SinceAt.lt (since : SinceAt lets begins place steps) : place < steps.length := by
  obtain ⟨earlier, step, later, rfl, rfl, -⟩ := since
  simp

theorem not_since_nil : ¬ Since lets alone [] := by
  rintro ⟨place, since⟩
  exact Nat.not_lt_zero _ since.lt

theorem since_snoc :
    Since lets alone (steps ++ [step]) ↔ alone step ∨ Since lets alone steps ∧ lets step := by
  simp only [Since, sinceAt_snoc, exists_or, exists_and_right, exists_eq, true_and]
  exact or_comm

end

theorem lastPut_snoc :
    LastPut page element value (steps ++ [step]) ↔
      step = .put page element value ∨
        LastPut page element value steps ∧ step.Spares page element :=
  since_snoc

theorem stays_snoc :
    Stays page (steps ++ [step]) ↔ step.Puts page ∨ Stays page steps ∧ ¬ step.Removes page :=
  since_snoc

theorem entersAt_snoc :
    EntersAt page place (steps ++ [step]) ↔
      EntersAt page place steps ∧ ¬ step.Removes page ∨
        place = steps.length ∧ step.Puts page ∧ ¬ Stays page steps :=
  sinceAt_snoc

theorem EntersAt.stays (enters : EntersAt page place steps) : Stays page steps := by
  obtain ⟨earlier, step, later, split, here, ⟨puts, -⟩, unremoved⟩ := enters
  exact ⟨place, earlier, step, later, split, here, puts, unremoved⟩

/-- A page that is in a table came in at some place. -/
theorem Stays.enters (stays : Stays page steps) : ∃ place, EntersAt page place steps := by
  induction steps using List.reverseRecOn with
  | nil => exact absurd stays (not_since_nil)
  | append_singleton steps step ih =>
    by_cases before : Stays page steps
    · obtain ⟨place, enters⟩ := ih before
      refine ⟨place, entersAt_snoc.mpr (.inl ⟨enters, ?_⟩)⟩
      rcases stays_snoc.mp stays with ⟨element, value, rfl⟩ | ⟨-, unremoved⟩
      · exact Step.not_removes_put
      · exact unremoved
    · rcases stays_snoc.mp stays with puts | ⟨stayed, -⟩
      · exact ⟨_, entersAt_snoc.mpr (.inr ⟨rfl, puts, before⟩)⟩
      · exact absurd stayed before

end

/-! ## Pages -/

section

variable {table : HandleTable A} {page other element : String} {value : A}

theorem pages_put_held (held : page ∈ table.pages) :
    (table.put page element value).pages = table.pages :=
  Table.keys_put _ held

theorem pages_put_new (absent : page ∉ table.pages) :
    (table.put page element value).pages = table.pages ++ [page] :=
  Table.keys_put_new _ absent

theorem pages_invalidate (table : HandleTable A) (page : String) :
    (table.invalidate page).pages = table.pages.filter (· != page) :=
  Table.keys_remove ..

/-- No page is kept in a table without anything on it. -/
structure Tidy (table : HandleTable A) : Prop where
  distinct : table.pages.Nodup
  filled : ∀ page ∈ table.pages, ∃ element value, table.get? page element = some value

theorem tidy_empty : (empty : HandleTable A).Tidy :=
  ⟨List.nodup_nil, fun _ member => absurd member List.not_mem_nil⟩

theorem mem_pages_of_get? (held : table.get? page element = some value) : page ∈ table.pages := by
  by_contra absent
  rw [get?, HandleTable.page, Table.get?_eq_none absent] at held
  cases held

theorem Tidy.put (tidy : table.Tidy) (page element : String) (value : A) :
    (table.put page element value).Tidy := by
  refine ⟨Table.nodup_put _ tidy.distinct, fun other member => ?_⟩
  by_cases same : page = other
  · exact ⟨element, value, by simp [get?_put, same]⟩
  · have before : other ∈ table.pages := by
      by_cases held : page ∈ table.pages
      · rwa [pages_put_held held] at member
      · rw [pages_put_new held, List.mem_append, List.mem_singleton] at member
        exact member.resolve_right (Ne.symm same)
    obtain ⟨part, kept, found⟩ := tidy.filled other before
    exact ⟨part, kept, by simpa [get?_put, same] using found⟩

theorem Tidy.invalidate (tidy : table.Tidy) (page : String) : (table.invalidate page).Tidy := by
  refine ⟨Table.nodup_remove page tidy.distinct, fun other member => ?_⟩
  rw [pages_invalidate, List.mem_filter] at member
  obtain ⟨before, apart⟩ := member
  obtain ⟨part, kept, found⟩ := tidy.filled other before
  have differs : page ≠ other := by simpa [ne_comm] using apart
  exact ⟨part, kept, by simpa [get?_invalidate, differs] using found⟩

theorem Tidy.apply (tidy : table.Tidy) (step : Step A) : (step.apply table).Tidy := by
  cases step with
  | put page element value => exact tidy.put page element value
  | invalidate page => exact tidy.invalidate page
  | clear => exact tidy_empty

@[simp] theorem not_mem_pages_empty : page ∉ (empty : HandleTable A).pages := List.not_mem_nil

theorem mem_pages_apply (step : Step A) :
    page ∈ (step.apply table).pages ↔
      step.Puts page ∨ page ∈ table.pages ∧ ¬ step.Removes page := by
  cases step with
  | put other element value =>
    by_cases held : other ∈ table.pages
    · rw [Step.apply, pages_put_held held]
      simp only [Step.puts_put, Step.not_removes_put, not_false_eq_true, and_true, iff_or_self]
      rintro rfl
      exact held
    · rw [Step.apply, pages_put_new held]
      simp [or_comm, @eq_comm _ page]
  | invalidate other =>
    rw [Step.apply, pages_invalidate]
    simp [@eq_comm _ page]
  | clear => simp [Step.apply]

/-- The pages of a table are those that stay. -/
theorem mem_pages_after (steps : List (Step A)) :
    page ∈ (after steps).pages ↔ Stays page steps := by
  induction steps using List.reverseRecOn with
  | nil => exact iff_of_false not_mem_pages_empty (not_since_nil)
  | append_singleton steps step ih => rw [after_snoc, mem_pages_apply, ih, stays_snoc]

theorem get?_apply (step : Step A) :
    (step.apply table).get? page element = some value ↔
      step = .put page element value ∨
        table.get? page element = some value ∧ step.Spares page element := by
  cases step with
  | put other part put =>
    rw [Step.apply, get?_put]
    by_cases same : other = page ∧ part = element
    · obtain ⟨rfl, rfl⟩ := same
      simp [Step.Spares]
    · rw [if_neg (by simpa using same)]
      simp only [Step.Spares, Step.put.injEq, Step.not_removes_put, not_false_eq_true, and_true]
      grind
  | invalidate other =>
    rw [Step.apply, get?_invalidate]
    by_cases same : other = page <;> simp [Step.Spares, same]
  | clear => simp [Step.apply, Step.Spares]

theorem get?_after (steps : List (Step A)) :
    (after steps).get? page element = some value ↔ LastPut page element value steps := by
  induction steps using List.reverseRecOn with
  | nil => simp [after, LastPut, not_since_nil]
  | append_singleton steps step ih => rw [after_snoc, get?_apply, ih, lastPut_snoc]

theorem tidy_after (steps : List (Step A)) : (after steps).Tidy := by
  induction steps using List.reverseRecOn with
  | nil => exact tidy_empty
  | append_singleton steps step ih => exact after_snoc steps step ▸ ih.apply step

end

/-! ## The order of the pages -/

section

variable {steps : List (Step A)} {step : Step A} {page other : String}

/-- A page that stays has come in before the step that is added. -/
theorem EntersAt.of_snoc {place : Nat} (enters : EntersAt page place (steps ++ [step]))
    (stays : Stays page steps) : EntersAt page place steps := by
  rcases entersAt_snoc.mp enters with ⟨before, -⟩ | ⟨-, -, fresh⟩
  · exact before
  · exact absurd stays fresh

theorem ComesBefore.snoc (before : ComesBefore steps page other) (stays : Stays page steps)
    (staysToo : Stays other steps) : ComesBefore (steps ++ [step]) page other :=
  fun place later enters entersToo =>
    before place later (enters.of_snoc stays) (entersToo.of_snoc staysToo)

theorem comesBefore_new (stays : Stays page steps) (fresh : ¬ Stays other steps) :
    ComesBefore (steps ++ [step]) page other := by
  intro place later enters entersToo
  rcases entersAt_snoc.mp entersToo with ⟨before, -⟩ | ⟨rfl, -⟩
  · exact absurd before.stays fresh
  · exact SinceAt.lt (enters.of_snoc stays)

theorem pages_ordered (steps : List (Step A)) :
    (after steps).pages.Pairwise (ComesBefore steps) := by
  induction steps using List.reverseRecOn with
  | nil => exact List.Pairwise.nil
  | append_singleton steps step ih =>
    -- Pages that were there already came in before this step, and keep their order.
    have kept : (after steps).pages.Pairwise (ComesBefore (steps ++ [step])) :=
      ih.imp_of_mem fun held heldToo before =>
        before.snoc ((mem_pages_after steps).mp held) ((mem_pages_after steps).mp heldToo)
    rw [after_snoc]
    cases step with
    | put page element value =>
      by_cases held : page ∈ (after steps).pages
      · rwa [Step.apply, pages_put_held held]
      · rw [Step.apply, pages_put_new held, List.pairwise_append]
        refine ⟨kept, List.pairwise_singleton .., fun first member other last => ?_⟩
        obtain rfl := List.mem_singleton.mp last
        exact comesBefore_new ((mem_pages_after steps).mp member)
          (mt (mem_pages_after steps).mpr held)
    | invalidate page =>
      rw [Step.apply, pages_invalidate]
      exact kept.filter _
    | clear => exact List.Pairwise.nil

end

/-- A handle table is a map that is erased page by page: whatever was done to it, its answers and
its pages are those that the history tells of. -/
theorem tables_recount_history (steps : List (Step A)) : (after steps).Recounts steps where
  answers _ _ _ := get?_after steps
  apart page other element different := by
    rw [get?_invalidate, if_neg (by simpa using Ne.symm different)]
  distinct := (tidy_after steps).distinct
  listed page := ⟨(tidy_after steps).filled page, fun ⟨_, _, held⟩ => mem_pages_of_get? held⟩
  entered page member := ((mem_pages_after steps).mp member).enters
  ordered := pages_ordered steps

/-- A page that was removed comes in anew behind those that stayed. -/
example :
    (after [.put "a" "x" 1, .put "b" "x" 2, .invalidate "a", .put "a" "y" 3]).pages =
      ["b", "a"] := by
  decide

end Rehearsal.HandleTable
