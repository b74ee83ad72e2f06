import Rehearsal.Table

/-!
Handle tables: what was found for the elements of each page. A page is dropped as a whole, when
it is loaded anew, and pages keep the order in which they came.
-/

set_option autoImplicit false

namespace Rehearsal

structure HandleTable (A : Type) where
  entries : Table (Table A)

namespace HandleTable

variable {A : Type}

def empty : HandleTable A := { entries := [] }

def page (table : HandleTable A) (page : String) : Table A := (table.entries.get? page).getD []

def get? (table : HandleTable A) (page element : String) : Option A :=
  (table.page page).get? element

def put (table : HandleTable A) (page element : String) (value : A) : HandleTable A :=
  { entries := table.entries.put page ((table.page page).put element value) }

def invalidate (table : HandleTable A) (page : String) : HandleTable A :=
  { entries := table.entries.remove page }

def pages (table : HandleTable A) : List String := table.entries.keys

@[simp] theorem get?_empty (page element : String) :
    (empty : HandleTable A).get? page element = none := rfl

theorem get?_put (table : HandleTable A) (page element otherPage otherElement : String)
    (value : A) :
    (table.put page element value).get? otherPage otherElement =
      if page == otherPage && element == otherElement then some value
      else table.get? otherPage otherElement := by
  by_cases same : page = otherPage <;>
    simp [get?, put, HandleTable.page, Table.get?_put, same]

theorem get?_invalidate (table : HandleTable A) (page otherPage element : String) :
    (table.invalidate page).get? otherPage element =
      if page == otherPage then none else table.get? otherPage element := by
  by_cases same : page = otherPage <;>
    simp [get?, invalidate, HandleTable.page, Table.get?_remove, same]

section

variable {table : HandleTable A} {page element otherPage otherElement : String} {value kept : A}

theorem get?_put_cases
    (held : (table.put page element value).get? otherPage otherElement = some kept) :
    (otherPage = page ∧ otherElement = element ∧ kept = value) ∨
      table.get? otherPage otherElement = some kept := by
  rw [get?_put] at held
  split at held
  next same =>
    simp only [Bool.and_eq_true, beq_iff_eq] at same
    exact .inl ⟨same.1.symm, same.2.symm, (Option.some.inj held).symm⟩
  next => exact .inr held

theorem get?_of_invalidate (held : (table.invalidate page).get? otherPage element = some kept) :
    table.get? otherPage element = some kept := by
  rw [get?_invalidate] at held
  split at held
  · cases held
  · exact held

end

end HandleTable

end Rehearsal
