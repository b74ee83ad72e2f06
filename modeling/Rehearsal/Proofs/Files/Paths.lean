import Rehearsal.Files.Basic

/-!
Paths and their texts. The text of a path that was read is read as the same path.
-/

set_option autoImplicit false

namespace Rehearsal.Path

variable {path : Path}

/-- Neither empty parts nor single dots, and no slash within a part. -/
structure Normal (path : Path) : Prop where
  root : path.root = "" ∨ path.root = "/" ∨ path.root = "//"
  parts : ∀ part ∈ path.parts, part ≠ "" ∧ part ≠ "." ∧ '/' ∉ part.toList

theorem splitSlashes_eq_splitOn (text : List Char) : splitSlashes text = text.splitOn '/' := by
  induction text with
  | nil => rfl
  | cons c rest ih =>
    rw [List.splitOn_cons_eq_if_modifyHead, ← ih]
    cases split : splitSlashes rest with
    | nil => exact absurd (ih.symm.trans split) (List.splitOn_ne_nil '/' rest)
    | cons part others =>
      unfold splitSlashes at split ⊢
      rw [List.foldr_cons, split]
      rfl

theorem splitSlashes_slash (text : List Char) :
    splitSlashes ('/' :: text) = [] :: splitSlashes text := rfl

theorem slash_not_mem {part : List Char} (text : List Char) (member : part ∈ splitSlashes text) :
    '/' ∉ part := by
  induction text generalizing part with
  | nil =>
    obtain rfl := List.mem_singleton.mp member
    simp
  | cons c rest ih =>
    rw [splitSlashes_eq_splitOn, List.splitOn_cons_eq_if_modifyHead, ← splitSlashes_eq_splitOn]
      at member
    split at member
    · rcases List.mem_cons.mp member with rfl | later
      · simp
      · exact ih later
    next other =>
      cases parts : splitSlashes rest with
      | nil =>
        rw [parts] at member
        cases member
      | cons first others =>
        rw [parts] at ih member
        rcases List.mem_cons.mp member with rfl | later
        · have apart := ih (List.mem_cons_self ..)
          rw [List.mem_cons, not_or]
          exact ⟨fun same => other (by simp [← same]), apart⟩
        · exact ih (List.mem_cons_of_mem _ later)

theorem normal_ofText (text : String) : (ofText text).Normal where
  root := by
    unfold ofText rootOf
    dsimp only
    split
    · exact .inl rfl
    · split
      · exact .inr (.inr rfl)
      · exact .inr (.inl rfl)
  parts := by
    intro part member
    obtain ⟨among, kept⟩ := List.mem_filter.mp member
    obtain ⟨chars, split, rfl⟩ := List.mem_map.mp among
    have apart := slash_not_mem _ split
    simpa [apart] using kept

/-! ## From parts to text and back -/

theorem ofText_root (root : String) (known : root = "" ∨ root = "/" ∨ root = "//") :
    ofText (text ⟨root, []⟩) = ⟨root, []⟩ := by
  rcases known with rfl | rfl | rfl <;> decide

theorem splitSlashes_joined {parts : List String} (some : parts ≠ [])
    (normal : ∀ part ∈ parts, '/' ∉ part.toList) :
    (splitSlashes ("/".intercalate parts).toList).map String.ofList = parts := by
  have apart : ∀ part ∈ parts.map String.toList, '/' ∉ part := by
    intro part member
    obtain ⟨text, among, rfl⟩ := List.mem_map.mp member
    exact normal text among
  rw [splitSlashes_eq_splitOn, String.toList_intercalate]
  have joined := List.splitOn_intercalate '/' apart (by simpa using some)
  rw [show "/".toList = ['/'] from rfl, joined, List.map_map]
  simp [Function.comp_def]

theorem head_joined {first : String} (parts : List String) (filled : first ≠ "")
    (apart : '/' ∉ first.toList) :
    ∃ c rest, ("/".intercalate (first :: parts)).toList = c :: rest ∧ c ≠ '/' := by
  cases chars : first.toList with
  | nil => exact absurd (String.toList_eq_nil_iff.mp chars) filled
  | cons c rest =>
    have other : c ≠ '/' := by
      rintro rfl
      exact apart (by simp [chars])
    cases parts with
    | nil => exact ⟨c, rest, by simp [chars], other⟩
    | cons second parts =>
      refine ⟨c, rest ++ ("/" ++ "/".intercalate (second :: parts)).toList, ?_, other⟩
      rw [String.intercalate_cons_cons, String.append_assoc, String.toList_append, chars]
      rfl

theorem ofText_text (normal : path.Normal) : ofText path.text = path := by
  obtain ⟨root, parts⟩ := path
  cases parts with
  | nil => exact ofText_root root normal.root
  | cons first others =>
    obtain ⟨filled, -, apart⟩ := normal.parts first (List.mem_cons_self ..)
    obtain ⟨c, rest, joined, other⟩ := head_joined others filled apart
    have split := splitSlashes_joined (List.cons_ne_nil first others)
      fun part member => (normal.parts part member).2.2
    have kept : (first :: others).filter (fun part => part != "" && part != ".") =
        first :: others := by
      apply List.filter_eq_self.mpr
      intro part member
      obtain ⟨filled, moves, -⟩ := normal.parts part member
      simp [filled, moves]
    rw [joined] at split
    have shown : text ⟨root, first :: others⟩ = root ++ "/".intercalate (first :: others) := by
      rw [text, if_neg]
      simp [String.isEmpty_iff, ← String.toList_eq_nil_iff, joined]
    rw [shown, ofText, String.toList_append, joined]
    rcases normal.root with rfl | rfl | rfl
    · simp [rootOf, split, kept, other]
    · simp [rootOf, splitSlashes_slash, split, kept, other]
    · simp [rootOf, splitSlashes_slash, split, kept, other]

theorem ofText_text_ofText (text : String) : ofText (ofText text).text = ofText text :=
  ofText_text (normal_ofText text)

end Rehearsal.Path
