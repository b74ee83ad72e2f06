/-!
Finding one text inside another.
-/

set_option autoImplicit false

namespace Rehearsal.Text

/-- Whether `part` occurs in a text; the empty text occurs everywhere. -/
def occursIn (part : List Char) : List Char -> Bool
  | [] => part.isEmpty
  | c :: rest => part.isPrefixOf (c :: rest) || occursIn part rest

def contains (whole part : String) : Bool := occursIn part.toList whole.toList

theorem occursIn_iff (part whole : List Char) :
    occursIn part whole = true ↔ ∃ before after, whole = before ++ part ++ after := by
  induction whole with
  | nil =>
    constructor
    · intro found
      exact ⟨[], [], by simpa [occursIn] using found⟩
    · rintro ⟨before, after, whole⟩
      simp_all [occursIn]
  | cons c rest ih =>
    simp only [occursIn, Bool.or_eq_true, ih, List.isPrefixOf_iff_prefix]
    constructor
    · rintro (⟨after, start⟩ | ⟨before, after, later⟩)
      · exact ⟨[], after, by simpa using start.symm⟩
      · exact ⟨c :: before, after, by simp [later]⟩
    · rintro ⟨before, after, whole⟩
      cases before with
      | nil => exact .inl ⟨after, by simpa using whole.symm⟩
      | cons b before =>
        simp only [List.cons_append, List.cons.injEq] at whole
        exact .inr ⟨before, after, whole.2⟩

end Rehearsal.Text
