import Mathlib.Logic.Function.Iterate
import Rehearsal.Proofs.Template.Substitution

/-!
Filling a template that was filled already. Values that cannot make up a marker with what stands
around them are read as plain characters, so the second reading finds the placeholders that the
first one left unresolved, and no others.
-/

set_option autoImplicit false

namespace Rehearsal.Template

/-- A text that cannot take part in a marker: it neither has the dollar sign nor follows one with
a brace, and it keeps apart what it stands between. -/
structure Inert (part : List Char) : Prop where
  nonempty : part ≠ []
  unmarked : '$' ∉ part
  unopened : part.head? ≠ some '{'

/-- All that a template is given is inert. -/
def TakesInert (params : Table String) (row : Option (Table String)) (read : List Piece) : Prop :=
  ∀ name, .placeholder name ∈ read → ∀ value, Gives params row name value → Inert value.toList

/-- How a piece is read again once it was filled. -/
def Piece.settle (params : Table String) (row : Option (Table String)) : Piece -> List Piece
  | .literal c => [.literal c]
  | .placeholder name =>
    match lookup? params row name with
    | some value => value.toList.map .literal
    | none => [.placeholder name]

variable {params : Table String} {row : Option (Table String)} {text rest part : List Char}
  {read : List Piece} {piece : Piece} {template : String}

theorem Reads.prepend (reads : Reads rest read) (unmarked : '$' ∉ part) :
    Reads (part ++ rest) (part.map .literal ++ read) := by
  induction part with
  | nil => exact reads
  | cons c part ih =>
    obtain ⟨other, unmarked⟩ := not_or.mp (mt List.mem_cons.mpr unmarked)
    exact .literal (not_begins_of_ne (Ne.symm other) _) (ih unmarked)

theorem TakesInert.tail (inert : TakesInert params row (piece :: read)) :
    TakesInert params row read := fun name member => inert name (List.mem_cons_of_mem _ member)

/-- Without a closing brace nothing is a placeholder, and filling changes nothing. -/
theorem Reads.fill_of_unclosed (reads : Reads text read) (unclosed : '}' ∉ text) :
    read.flatMap (Piece.fill params row) = text := by
  induction reads with
  | nil => rfl
  | placeholder begins _ _ => exact absurd (by simp [begins.split]) unclosed
  | literal _ _ ih =>
    rw [List.flatMap_cons, ih fun member => unclosed (List.mem_cons_of_mem _ member)]
    rfl

/-- A filled text begins with an opening brace only if the template does. -/
theorem Reads.opened (reads : Reads text read) (inert : TakesInert params row read)
    (opened : read.flatMap (Piece.fill params row) = '{' :: rest) :
    ∃ inside later, text = '{' :: inside ∧ Reads inside later ∧
      later.flatMap (Piece.fill params row) = rest := by
  cases reads with
  | nil => cases opened
  | @placeholder _ name _ _ begins _ =>
    rw [List.flatMap_cons, Piece.fill] at opened
    cases found : lookup? params row name with
    | none => simp [found, Piece.source] at opened
    | some value =>
      have inert := inert name List.mem_cons_self value (lookup?_eq_some.mp found)
      obtain ⟨c, chars, held⟩ := List.exists_cons_of_ne_nil inert.nonempty
      simp only [found, held, List.cons_append, List.cons.injEq] at opened
      exact absurd (by rw [held, opened.1]; rfl) inert.unopened
  | literal _ others =>
    rw [List.flatMap_cons, Piece.fill, List.singleton_append, List.cons.injEq] at opened
    exact ⟨_, _, by rw [opened.1], others, opened.2⟩

/-- A character that begins no placeholder of the template begins none of the filled text. -/
theorem Reads.plain_filled {c : Char} (reads : Reads rest read)
    (inert : TakesInert params row read) (plain : ∀ name after, ¬ Begins (c :: rest) name after)
    (name after : List Char) :
    ¬ Begins (c :: read.flatMap (Piece.fill params row)) name after := by
  rintro ⟨nonempty, unclosed, split⟩
  obtain ⟨rfl, opened⟩ := List.cons.inj split
  obtain ⟨inside, later, rfl, others, filled⟩ := reads.opened inert opened
  by_cases closes : '}' ∈ inside
  · obtain ⟨before, behind, rfl, first⟩ := List.eq_append_cons_of_mem closes
    cases before with
    | nil =>
      -- The braces have nothing in them, and filling leaves it so.
      cases others with
      | placeholder begins _ => cases begins.split
      | literal _ _ =>
        obtain ⟨c, chars, rfl⟩ := List.exists_cons_of_ne_nil nonempty
        rw [List.flatMap_cons, Piece.fill, List.singleton_append, List.cons_append,
          List.cons.injEq] at filled
        exact unclosed (filled.1 ▸ List.mem_cons_self)
    | cons c before => exact plain _ behind ⟨List.cons_ne_nil c before, first, rfl⟩
  · rw [others.fill_of_unclosed closes] at filled
    exact closes (by simp [filled])

/-- The second reading of a template, once it was filled with what is inert. -/
theorem Reads.settles (reads : Reads text read) (inert : TakesInert params row read) :
    Reads (read.flatMap (Piece.fill params row)) (read.flatMap (Piece.settle params row)) := by
  induction reads with
  | nil => exact .nil
  | @placeholder _ name _ read begins _ ih =>
    have later := ih inert.tail
    rw [List.flatMap_cons, List.flatMap_cons, Piece.fill, Piece.settle]
    cases found : lookup? params row name with
    | some value =>
      have inert := inert name List.mem_cons_self value (lookup?_eq_some.mp found)
      exact later.prepend inert.unmarked
    | none =>
      refine .placeholder ⟨begins.nonempty, begins.unclosed, ?_⟩ later
      simp [Piece.source]
  | literal plain others ih =>
    exact .literal (others.plain_filled inert.tail plain) (ih inert.tail)

/-- What was filled stands for itself. -/
theorem fill_settle (params : Table String) (row : Option (Table String)) (piece : Piece) :
    (piece.settle params row).flatMap (Piece.fill params row) = piece.fill params row := by
  cases piece with
  | literal c => rfl
  | placeholder name =>
    rw [Piece.settle, Piece.fill]
    cases found : lookup? params row name with
    | some value =>
      dsimp only
      rw [List.flatMap_map]
      exact List.flatMap_singleton' _
    | none => simp [Piece.fill, found]

theorem fill_fill (inert : TakesInert params row (pieces template.toList)) :
    fill params row (fill params row template) = fill params row template := by
  have again := ((reads_pieces template.toList).settles inert)
  rw [← toList_fill] at again
  rw [fill, ← reads_iff.mp again, List.flatMap_assoc, fill]
  simp only [fill_settle]

/-- A template that takes inert values only is filled once and for all: whoever fills it again
finds the placeholders that were left unresolved, each as it was written, and nothing to do. -/
theorem refilling_changes_nothing
    (inert : ∀ read, Reads template.toList read → TakesInert params row read) :
    fill params row (fill params row template) = fill params row template ∧
      ∀ times, (fill params row)^[times + 1] template = fill params row template ∧
        ∃ read, Reads template.toList read ∧
          Reads ((fill params row)^[times + 1] template).toList
            (read.flatMap (Piece.settle params row)) := by
  have inert := inert _ (reads_pieces template.toList)
  have settled := fill_fill inert
  refine ⟨settled, fun times => ?_⟩
  have filled : (fill params row)^[times + 1] template = fill params row template := by
    rw [Function.iterate_succ_apply]
    exact Function.iterate_fixed settled times
  refine ⟨filled, pieces template.toList, reads_pieces _, ?_⟩
  rw [filled, toList_fill]
  exact (reads_pieces template.toList).settles inert

/-- One value meets a dollar sign, and the other name is unknown. -/
def priced : String := "$$\x7bparam.price\x7d or $\x7bdata.price\x7d, $\x7b"

theorem priced_is_filled_once :
    let params : Table String := [("price", "20\x7d")]
    (∀ read, Reads priced.toList read → TakesInert params none read) ∧
      fill params none priced = "$20\x7d or $\x7bdata.price\x7d, $\x7b" ∧
      fill params none (fill params none priced) = fill params none priced := by
  intro params
  have inert : ∀ read, Reads priced.toList read → TakesInert params none read := by
    intro read reads name member value gives
    cases gives with
    | param named held =>
      rw [Table.get?_cons] at held
      split at held
      · cases held
        exact ⟨by decide, by decide, by decide⟩
      · cases held
    | column given => cases given
  exact ⟨inert, by decide +kernel, (refilling_changes_nothing inert).1⟩

end Rehearsal.Template
