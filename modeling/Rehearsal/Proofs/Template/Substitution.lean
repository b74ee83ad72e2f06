import Mathlib.Data.List.Forall2
import Mathlib.Data.List.TakeWhile
import Rehearsal.Template
import Rehearsal.Text.Search

/-!
How a template is read and filled. From the left, a placeholder is taken where one begins, and one
character elsewhere; there is one such reading of every text. Each piece stands for one text, and
the filled template is these texts in the order of the pieces.
-/

set_option autoImplicit false

namespace Rehearsal.Template

/-! ## Reading -/

/-- A text begins with a placeholder: a name in braces behind a dollar sign. -/
structure Begins (text name after : List Char) : Prop where
  nonempty : name ≠ []
  unclosed : '}' ∉ name
  split : text = '$' :: '{' :: (name ++ '}' :: after)

inductive Reads : List Char -> List Piece -> Prop where
  | nil : Reads [] []
  | placeholder {text name after : List Char} {read : List Piece}
      (begins : Begins text name after) (rest : Reads after read) :
      Reads text (.placeholder name :: read)
  | literal {c : Char} {rest : List Char} {read : List Piece}
      (plain : ∀ name after, ¬ Begins (c :: rest) name after) (others : Reads rest read) :
      Reads (c :: rest) (.literal c :: read)

variable {text name after : List Char} {c : Char} {read : List Piece}

theorem takeName?_eq_some :
    takeName? text = some (name, after) ↔
      name ≠ [] ∧ '}' ∉ name ∧ text = name ++ '}' :: after := by
  constructor
  · intro taken
    have whole := List.takeWhile_append_dropWhile (p := (· != '}')) (l := text)
    have unclosed : '}' ∉ text.takeWhile (· != '}') := fun member => by
      simpa using List.mem_takeWhile_imp member
    unfold takeName? at taken
    split at taken
    next first rest second rest' named left =>
      cases taken
      have closes := List.head_dropWhile_not (p := (· != '}')) (l := text) (by simp [left])
      simp only [left, List.head_cons, bne_eq_false_iff_eq] at closes
      rw [named, left, closes] at whole
      rw [named] at unclosed
      exact ⟨List.cons_ne_nil _ _, unclosed, whole.symm⟩
    · cases taken
  · rintro ⟨nonempty, unclosed, rfl⟩
    have kept : ∀ c ∈ name, (c != '}') = true := fun c member =>
      bne_iff_ne.mpr fun same => unclosed (same ▸ member)
    obtain ⟨first, rest, rfl⟩ := List.exists_cons_of_ne_nil nonempty
    rw [takeName?, List.takeWhile_append_of_pos kept, List.dropWhile_append_of_pos kept]
    simp

theorem begins_iff : Begins text name after ↔
    ∃ inside, text = '$' :: '{' :: inside ∧ takeName? inside = some (name, after) := by
  constructor
  · rintro ⟨nonempty, unclosed, rfl⟩
    exact ⟨_, rfl, takeName?_eq_some.mpr ⟨nonempty, unclosed, rfl⟩⟩
  · rintro ⟨inside, rfl, taken⟩
    obtain ⟨nonempty, unclosed, rfl⟩ := takeName?_eq_some.mp taken
    exact ⟨nonempty, unclosed, rfl⟩

theorem Begins.unique {other later : List Char} (begins : Begins text name after)
    (again : Begins text other later) : name = other ∧ after = later := by
  obtain ⟨inside, rfl, taken⟩ := begins_iff.mp begins
  obtain ⟨_, same, retaken⟩ := begins_iff.mp again
  cases same
  simpa using taken.symm.trans retaken

theorem not_begins_of_ne (other : c ≠ '$') (rest name after : List Char) :
    ¬ Begins (c :: rest) name after := fun begins => other (by cases begins.split; rfl)

/-- The pieces of a template are a reading of it. -/
theorem reads_pieces (text : List Char) : Reads text (pieces text) := by
  induction text using pieces.induct with
  | case1 => rw [pieces]; exact .nil
  | case2 inside name after taken ih =>
    rw [pieces]
    split
    next found _ same =>
      rw [taken] at same
      cases same
      exact .placeholder (begins_iff.mpr ⟨inside, rfl, taken⟩) ih
    next absent => rw [taken] at absent; cases absent
  | case3 inside absent ih =>
    rw [pieces]
    split
    next same => rw [absent] at same; cases same
    next =>
      refine .literal (fun name after begins => ?_) ih
      obtain ⟨_, same, taken⟩ := begins_iff.mp begins
      cases same
      cases absent.symm.trans taken
  | case4 c rest other ih =>
    rw [pieces]
    · refine .literal (fun name after begins => ?_) ih
      obtain ⟨inside, same, -⟩ := begins_iff.mp begins
      cases same
      exact other inside rfl rfl
    · exact other

theorem Reads.unique {other : List Piece} (reads : Reads text read) (again : Reads text other) :
    read = other := by
  induction reads generalizing other with
  | nil =>
    cases again with
    | nil => rfl
    | placeholder begins _ => cases begins.split
  | placeholder begins _ ih =>
    cases again with
    | nil => cases begins.split
    | placeholder same rest =>
      obtain ⟨rfl, rfl⟩ := begins.unique same
      rw [ih rest]
    | literal plain _ => exact absurd begins (plain _ _)
  | literal plain _ ih =>
    cases again with
    | placeholder begins _ => exact absurd begins (plain _ _)
    | literal _ others => rw [ih others]

theorem reads_iff : Reads text read ↔ read = pieces text :=
  ⟨fun reads => reads.unique (reads_pieces text), fun same => same ▸ reads_pieces text⟩

/-- Nothing of a text is lost when it is read. -/
theorem Reads.source (reads : Reads text read) : read.flatMap Piece.source = text := by
  induction reads with
  | nil => rfl
  | placeholder begins _ ih =>
    rw [List.flatMap_cons, ih, begins.split]
    simp [Piece.source]
  | literal _ _ ih => rw [List.flatMap_cons, ih]; rfl

/-! ## Filling -/

variable {params others : Table String} {row otherRow : Option (Table String)} {piece : Piece}
  {value template : String}

/-- The value under a name, in the parameters or in the row if there is one. -/
inductive Gives (params : Table String) (row : Option (Table String)) (name : List Char)
    (value : String) : Prop where
  | param {key : String} (named : name = "param.".toList ++ key.toList)
      (held : params.get? key = some value) : Gives params row name value
  | column {cells : Table String} {column : String} (given : row = some cells)
      (named : name = "data.".toList ++ column.toList) (held : cells.get? column = some value) :
      Gives params row name value

/-- The text that a piece stands for. -/
inductive Stands (params : Table String) (row : Option (Table String)) :
    Piece -> List Char -> Prop where
  | literal {c : Char} : Stands params row (.literal c) [c]
  | given {name : List Char} {value : String} (gives : Gives params row name value) :
      Stands params row (.placeholder name) value.toList
  | unresolved {name : List Char} (unknown : ∀ value, ¬ Gives params row name value) :
      Stands params row (.placeholder name) (Piece.source (.placeholder name))

theorem drop_param (key : List Char) : ("param.".toList ++ key).drop 6 = key := rfl

theorem drop_data (column : List Char) : ("data.".toList ++ column).drop 5 = column := rfl

theorem lookup?_param (params : Table String) (row : Option (Table String)) (key : String) :
    lookup? params row ("param.".toList ++ key.toList) = params.get? key := by
  have starts : "param.".toList.isPrefixOf ("param.".toList ++ key.toList) = true :=
    List.isPrefixOf_iff_prefix.mpr (List.prefix_append _ _)
  rw [lookup?, if_pos starts, drop_param, String.ofList_toList]

theorem lookup?_column (params : Table String) (row : Option (Table String)) (column : String) :
    lookup? params row ("data.".toList ++ column.toList) = row.bind (·.get? column) := by
  have starts : "data.".toList.isPrefixOf ("data.".toList ++ column.toList) = true :=
    List.isPrefixOf_iff_prefix.mpr (List.prefix_append _ _)
  -- The two prefixes differ in their first characters.
  have other : "param.".toList.isPrefixOf ("data.".toList ++ column.toList) = false := rfl
  rw [lookup?, other, if_neg Bool.false_ne_true, if_pos starts, drop_data, String.ofList_toList]

theorem lookup?_eq_some : lookup? params row name = some value ↔ Gives params row name value := by
  constructor
  · intro found
    unfold lookup? at found
    split at found
    next starts =>
      obtain ⟨key, rfl⟩ := List.isPrefixOf_iff_prefix.mp starts
      rw [drop_param] at found
      exact .param (congrArg _ String.toList_ofList.symm) found
    next =>
      split at found
      next starts =>
        obtain ⟨column, rfl⟩ := List.isPrefixOf_iff_prefix.mp starts
        obtain ⟨cells, given, held⟩ := Option.bind_eq_some_iff.mp found
        rw [drop_data] at held
        exact .column given (congrArg _ String.toList_ofList.symm) held
      · cases found
  · rintro (⟨rfl, held⟩ | ⟨rfl, rfl, held⟩)
    · rw [lookup?_param, held]
    · rw [lookup?_column, Option.bind_some, held]

theorem lookup?_eq_none :
    lookup? params row name = none ↔ ∀ value, ¬ Gives params row name value := by
  simp only [← lookup?_eq_some, Option.eq_none_iff_forall_ne_some, ne_eq]

theorem stands_iff {part : List Char} :
    Stands params row piece part ↔ piece.fill params row = part := by
  constructor
  · rintro (_ | gives | unknown)
    · rfl
    · rw [Piece.fill, lookup?_eq_some.mpr gives]
    · rw [Piece.fill, lookup?_eq_none.mpr unknown]
  · rintro rfl
    cases piece with
    | literal c => exact .literal
    | placeholder name =>
      rw [Piece.fill]
      cases found : lookup? params row name with
      | some value => exact .given (lookup?_eq_some.mp found)
      | none => exact .unresolved (lookup?_eq_none.mp found)

theorem forall₂_stands_iff {parts : List (List Char)} :
    List.Forall₂ (Stands params row) read parts ↔ parts = read.map (Piece.fill params row) := by
  constructor
  · intro stand
    induction stand with
    | nil => rfl
    | cons first _ ih => rw [List.map_cons, ← ih, stands_iff.mp first]
  · rintro rfl
    exact List.forall₂_map_right_iff.mpr (List.forall₂_same.mpr fun _ _ => stands_iff.mpr rfl)

theorem toList_fill (params : Table String) (row : Option (Table String)) (template : String) :
    (fill params row template).toList =
      (pieces template.toList).flatMap (Piece.fill params row) := by
  rw [fill, String.toList_ofList]

/-- Two sources of values with the same ones under the names that a reading has. -/
structure AgreeOn (read : List Piece) (params others : Table String)
    (row otherRow : Option (Table String)) : Prop where
  params : ∀ key, .placeholder ("param.".toList ++ key.toList) ∈ read →
    params.get? key = others.get? key
  columns : ∀ column, .placeholder ("data.".toList ++ column.toList) ∈ read →
    row.bind (·.get? column) = otherRow.bind (·.get? column)

theorem AgreeOn.lookup? (agree : AgreeOn read params others row otherRow)
    (member : .placeholder name ∈ read) :
    Template.lookup? params row name = Template.lookup? others otherRow name := by
  by_cases isParam : "param.".toList <+: name
  · obtain ⟨key, rfl⟩ := isParam
    obtain ⟨key, rfl⟩ : ∃ text : String, key = text.toList := ⟨_, String.toList_ofList.symm⟩
    rw [lookup?_param, lookup?_param, agree.params key member]
  · by_cases isColumn : "data.".toList <+: name
    · obtain ⟨column, rfl⟩ := isColumn
      obtain ⟨column, rfl⟩ : ∃ text : String, column = text.toList := ⟨_, String.toList_ofList.symm⟩
      rw [lookup?_column, lookup?_column, agree.columns column member]
    · simp only [Template.lookup?, List.isPrefixOf_iff_prefix, isParam, isColumn, if_false]

theorem AgreeOn.fill (agree : AgreeOn read params others row otherRow)
    (member : piece ∈ read) : piece.fill params row = piece.fill others otherRow := by
  cases piece with
  | literal c => rfl
  | placeholder name => rw [Piece.fill, Piece.fill, agree.lookup? member]

/-- Without a marker there is nothing but characters. -/
theorem Reads.unmarked (reads : Reads text read)
    (unmarked : Text.occursIn ['$', '{'] text = false) : read = text.map .literal := by
  induction reads with
  | nil => rfl
  | placeholder begins _ _ =>
    have marked : Text.occursIn ['$', '{'] _ = true :=
      (Text.occursIn_iff _ _).mpr ⟨[], _, begins.split⟩
    rw [unmarked] at marked
    cases marked
  | literal _ _ ih =>
    rw [Text.occursIn, Bool.or_eq_false_iff] at unmarked
    rw [List.map_cons, ih unmarked.2]

/-- A template has one reading, its pieces stand for one text each, and the filled template is
these texts, one after the other. It depends on no other values than those that the template
names; without a marker it is the template. -/
theorem fill_substitutes (params : Table String) (row : Option (Table String))
    (template : String) :
    ∃ read parts, (∀ other, Reads template.toList other ↔ other = read) ∧
      (∀ other, List.Forall₂ (Stands params row) read other ↔ other = parts) ∧
      fill params row template = String.ofList parts.flatten ∧
      (∀ others otherRow, AgreeOn read params others row otherRow →
        fill params row template = fill others otherRow template) ∧
      (Text.contains template "$\x7b" = false → fill params row template = template) := by
  refine ⟨pieces template.toList, _, fun _ => reads_iff, fun _ => forall₂_stands_iff, ?_, ?_, ?_⟩
  · rw [fill, List.flatMap_def]
  · intro others otherRow agree
    have same : ∀ piece ∈ pieces template.toList,
        piece.fill params row = piece.fill others otherRow := fun _ member => agree.fill member
    rw [fill, fill, List.flatMap_def, List.flatMap_def, List.map_congr_left same]
  · intro unmarked
    have plain := (reads_pieces template.toList).unmarked unmarked
    have kept : (template.toList.map Piece.literal).flatMap (Piece.fill params row) =
        template.toList := by
      rw [List.flatMap_map]
      exact List.flatMap_singleton' _
    rw [fill, plain, kept, String.ofList_toList]

/-- A marker inside a name, one behind a dollar sign, and one without a name. -/
def nested : String := "$\x7ba$\x7bparam.x\x7d$$\x7bparam.y\x7d$\x7b\x7d"

theorem nested_marker_belongs_to_name :
    let params : Table String := [("y", "$\x7bdata.z\x7d")]
    fill params none nested = "$\x7ba$\x7bparam.x\x7d$$\x7bdata.z\x7d$\x7b\x7d" ∧
      fill params none nested = fill (("x", "1") :: params) (some [("z", "2")]) nested := by
  intro params
  obtain ⟨read, parts, unique, -, -, named, -⟩ := fill_substitutes params none nested
  have reading : read = [.placeholder "a$\x7bparam.x".toList, .literal '$',
      .placeholder "param.y".toList, .literal '$', .literal '{', .literal '}'] :=
    ((unique _).mp (reads_iff.mpr (by decide +kernel))).symm
  have agree : AgreeOn read params (("x", "1") :: params) none (some [("z", "2")]) := by
    rw [reading]
    constructor
    · intro key member
      simp only [List.mem_cons, Piece.placeholder.injEq, reduceCtorEq, List.not_mem_nil, or_false,
        false_or] at member
      rcases member with other | same
      · cases other
      · have key : key.toList = "y".toList := by simpa using same
        rw [String.toList_inj.mp key]
        rfl
    · intro column member
      simp at member
  exact ⟨by decide +kernel, named _ _ agree⟩

end Rehearsal.Template
