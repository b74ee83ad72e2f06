import Rehearsal.Text.Casing
import Rehearsal.Text.Search

/-!
Finding a phrase in a text in lower case. Lower case depends on the context only in the form of a
sigma, so a phrase without one can be looked for in each part of a text that is put together.
-/

set_option autoImplicit false

namespace Rehearsal.Text

/-! ## Phrases in parts of a text -/

theorem isPrefix_append_separator {part : List Char} {separator : Char} (apart : separator ∉ part)
    (left right : List Char) : part <+: left ++ separator :: right ↔ part <+: left := by
  constructor
  · induction left generalizing part with
    | nil =>
      cases part with
      | nil => simp
      | cons first others =>
        intro start
        have same := (List.cons_prefix_cons.mp start).1
        exact absurd (by simp [same]) apart
    | cons c rest ih =>
      cases part with
      | nil => simp
      | cons first others =>
        intro start
        obtain ⟨same, later⟩ := List.cons_prefix_cons.mp start
        exact List.cons_prefix_cons.mpr ⟨same, ih (List.not_mem_of_not_mem_cons apart) later⟩
  · intro start
    exact start.trans (List.prefix_append left _)

/-- A phrase cannot stretch over a character that it does not have. -/
theorem occursIn_append_separator {part left right : List Char} {separator : Char}
    (apart : separator ∉ part) (given : part ≠ []) :
    occursIn part (left ++ separator :: right) = true ↔
      occursIn part left = true ∨ occursIn part right = true := by
  induction left with
  | nil =>
    have start : ¬ part <+: separator :: right := by
      intro start
      have none := (isPrefix_append_separator apart [] right).mp start
      exact given (List.prefix_nil.mp none)
    simp [occursIn, List.isPrefixOf_iff_prefix, start, given]
  | cons c rest ih =>
    have start := isPrefix_append_separator apart (c :: rest) right
    simp only [List.cons_append] at start ⊢
    simp only [occursIn, Bool.or_eq_true, List.isPrefixOf_iff_prefix, start, ih, or_assoc]

theorem isPrefix_map {part : List Char} {image : Char -> Char}
    (kept : ∀ d ∈ part, ∀ c, image c = d ↔ c = d) (whole : List Char) :
    part <+: whole.map image ↔ part <+: whole := by
  induction part generalizing whole with
  | nil => simp
  | cons first others ih =>
    cases whole with
    | nil => simp
    | cons c rest =>
      rw [List.map_cons, List.cons_prefix_cons, List.cons_prefix_cons]
      rw [ih fun d member => kept d (List.mem_cons_of_mem first member)]
      rw [eq_comm, kept first List.mem_cons_self c, eq_comm]

theorem occursIn_map {part : List Char} {image : Char -> Char}
    (kept : ∀ d ∈ part, ∀ c, image c = d ↔ c = d) (whole : List Char) :
    occursIn part (whole.map image) = occursIn part whole := by
  induction whole with
  | nil => rfl
  | cons c rest ih =>
    have start := isPrefix_map kept (c :: rest)
    simp only [List.map_cons] at start ⊢
    rw [occursIn, occursIn, ih, Bool.eq_iff_iff]
    simp only [Bool.or_eq_true, List.isPrefixOf_iff_prefix, start]

theorem mem_of_occursIn {part whole : List Char} (occurs : occursIn part whole = true) {c : Char}
    (member : c ∈ part) : c ∈ whole := by
  obtain ⟨before, after, rfl⟩ := (occursIn_iff part whole).mp occurs
  simp [member]

/-! ## Lower case, whatever the form of a sigma -/

def blunt (c : Char) : Char := if c = 'ς' then 'σ' else c

def bluntLower (c : Char) : List Char :=
  (if c == 'Σ' then ['σ'] else lowerChar c).map blunt

theorem lowerChars_blunt (before text : List Char) :
    (lowerChars before text).map blunt = text.flatMap bluntLower := by
  induction text generalizing before with
  | nil => rfl
  | cons c after ih =>
    simp only [lowerChars, List.map_append, ih, List.flatMap_cons, bluntLower]
    split
    · -- Both forms of the sigma are blunted to one.
      have sigma : blunt (lowerSigma before after) = blunt 'σ' := by
        unfold lowerSigma
        split <;> rfl
      simp [sigma]
    · rfl

theorem occursIn_lowercase {part : List Char} (plain : ∀ d ∈ part, d ≠ 'σ' ∧ d ≠ 'ς')
    (text : String) :
    occursIn part (lowercase text).toList = occursIn part (text.toList.flatMap bluntLower) := by
  have kept : ∀ d ∈ part, ∀ c, blunt c = d ↔ c = d := by
    intro d member c
    obtain ⟨sigma, final⟩ := plain d member
    unfold blunt
    split
    next same =>
      subst same
      exact iff_of_false (Ne.symm sigma) (Ne.symm final)
    next => rfl
  rw [← lowerChars_blunt [], occursIn_map kept, lowercase, String.toList_ofList]

end Rehearsal.Text
