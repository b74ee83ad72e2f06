import Mathlib.Logic.Function.Basic
import Rehearsal.Locator

/-!
Values in quotes and the selectors that hold them. A value is read back from its quotes whatever
stands in it, and nothing that stands in it ends them; so a selector for an attribute tests that
attribute for that very value and does nothing else.
-/

set_option autoImplicit false

namespace Rehearsal.Selector

/-- A text with each occurrence of a character replaced. -/
def replaceAll (old : Char) (new : List Char) (text : List Char) : List Char :=
  text.flatMap fun c => if c == old then new else [c]

/-- How the value of an attribute is compared: as a whole, or with one of its words. -/
inductive Comparator where
  | equals
  | includes
  deriving DecidableEq

def Comparator.sign : Comparator -> String
  | .equals => "="
  | .includes => "~="

/-- An element passes if its attribute compares well with the value. -/
structure AttributeTest where
  key : String
  comparator : Comparator
  value : String
  deriving DecidableEq

namespace AttributeTest

def isKeyChar (c : Char) : Bool := c.isAlphanum || c == '-' || c == '_'

def readComparator : List Char -> Option (Comparator × List Char)
  | '=' :: rest => some (.equals, rest)
  | '~' :: '=' :: rest => some (.includes, rest)
  | _ => none

/-- Reads one test from the beginning of a text. -/
def read : List Char -> Option (AttributeTest × List Char)
  | '[' :: text => do
    let key := text.takeWhile isKeyChar
    if key.isEmpty then none
    let (comparator, quoted) ← readComparator (text.dropWhile isKeyChar)
    match ← unquote quoted with
    | (value, ']' :: rest) =>
      return ({ key := String.ofList key, comparator, value := String.ofList value }, rest)
    | _ => none
  | _ => none

end AttributeTest

section

variable {value part left : List Char} {c : Char}

/-! ## Quoting -/

/-- Backslashes are doubled before quotes get theirs, so that none of those is doubled again. -/
theorem escape_eq_replacements (value : List Char) :
    value.flatMap escapeChar = replaceAll '"' ['\\', '"'] (replaceAll '\\' ['\\', '\\'] value) := by
  rw [replaceAll, replaceAll, List.flatMap_assoc]
  congr 1
  funext c
  by_cases quoted : c = '"'
  · subst quoted
    rfl
  · by_cases escaping : c = '\\'
    · subst escaping
      rfl
    · simp [escapeChar, quoted, escaping]

theorem scan_plain (unquoted : c ≠ '"') (unescaped : c ≠ '\\') (rest : List Char) :
    scan (c :: rest) = (scan rest).map fun (value, left) => (c :: value, left) := by
  rw [scan]
  · exact fun same => absurd same unquoted
  · exact fun _ _ same => absurd same unescaped

theorem scan_escape (value rest : List Char) :
    scan (value.flatMap escapeChar ++ '"' :: rest) = some (value, rest) := by
  induction value with
  | nil => rfl
  | cons c value ih =>
    rw [List.flatMap_cons, List.append_assoc]
    by_cases special : c = '"' ∨ c = '\\'
    · have escaped : escapeChar c = ['\\', c] := by simp [escapeChar, special]
      rw [escaped, List.cons_append, List.singleton_append, scan, ih]
      rfl
    · obtain ⟨unquoted, unescaped⟩ := not_or.mp special
      have plain : escapeChar c = [c] := by simp [escapeChar, unquoted, unescaped]
      rw [plain, List.singleton_append, scan_plain unquoted unescaped, ih]
      rfl

theorem unquote_quote (value rest : List Char) :
    unquote (quote value ++ rest) = some (value, rest) := by
  have shape : quote value ++ rest = '"' :: (value.flatMap escapeChar ++ '"' :: rest) := by
    simp [quote]
  rw [shape, unquote, scan_escape]

/-! ## Where a quotation ends -/

theorem scan_append (more : List Char) (ended : scan part = some (value, left)) :
    scan (part ++ more) = some (value, left ++ more) := by
  fun_induction scan part generalizing value with
  | case1 => cases ended
  | case2 rest =>
    cases ended
    rfl
  | case3 c rest ih =>
    obtain ⟨⟨inside, after⟩, found, same⟩ := Option.map_eq_some_iff.mp ended
    cases same
    rw [List.cons_append, List.cons_append, scan, ih found]
    rfl
  | case4 c rest unquoted unescaped ih =>
    obtain ⟨⟨inside, after⟩, found, same⟩ := Option.map_eq_some_iff.mp ended
    cases same
    have plain : c ≠ '\\' := by
      rintro rfl
      -- A backslash at the very end escapes nothing, and no quote comes after it.
      cases rest with
      | nil => cases found
      | cons next rest => exact unescaped next rest rfl rfl
    rw [List.cons_append, scan_plain unquoted plain, ih found]
    rfl

theorem unquote_append (more : List Char) (ended : unquote part = some (value, left)) :
    unquote (part ++ more) = some (value, left ++ more) := by
  fun_cases unquote part with
  | case1 rest => exact scan_append more (by simpa [unquote] using ended)
  | case2 => simp_all [unquote]

/-- Nothing that stands in a value ends its quotes: they do not close before the last character. -/
theorem unquote_part_of_quote (early : part <+: quote value) (proper : part ≠ quote value) :
    unquote part = none := by
  obtain ⟨more, whole⟩ := early
  by_contra ended
  obtain ⟨⟨inside, left⟩, ended⟩ := Option.ne_none_iff_exists'.mp ended
  have read := unquote_append more ended
  have full := unquote_quote value []
  rw [List.append_nil, ← whole, read] at full
  obtain ⟨-, nothing⟩ := Prod.mk.inj (Option.some.inj full)
  obtain ⟨-, rfl⟩ := List.append_eq_nil_iff.mp nothing
  exact proper (by simpa using whole)

theorem quote_injective : Function.Injective quote := by
  intro value other same
  have read := unquote_quote value []
  rw [same, unquote_quote] at read
  exact (congrArg Prod.fst (Option.some.inj read)).symm

end

/-! ## Attribute tests -/

namespace AttributeTest

theorem readComparator_sign (comparator : Comparator) (rest : List Char) :
    readComparator (comparator.sign.toList ++ rest) = some (comparator, rest) := by
  cases comparator <;> rfl

/-- A key ends where the sign of the comparison begins. -/
theorem span_key {key : List Char} (plain : key.all isKeyChar = true)
    (comparator : Comparator) (rest : List Char) :
    (key ++ (comparator.sign.toList ++ rest)).takeWhile isKeyChar = key ∧
      (key ++ (comparator.sign.toList ++ rest)).dropWhile isKeyChar =
        comparator.sign.toList ++ rest := by
  have passed := List.all_eq_true.mp plain
  rw [List.takeWhile_append_of_pos passed, List.dropWhile_append_of_pos passed]
  cases comparator <;> simp [Comparator.sign, isKeyChar]

theorem read_attributeTest {key : String} (named : key.toList ≠ [])
    (plain : key.toList.all isKeyChar = true) (comparator : Comparator) (value : String)
    (rest : List Char) :
    read ((attributeTest key comparator.sign value).toList ++ rest) =
      some ({ key, comparator, value }, rest) := by
  obtain ⟨before, after⟩ := span_key plain comparator (quote value.toList ++ (']' :: rest))
  have shape : (attributeTest key comparator.sign value).toList ++ rest = '[' ::
      (key.toList ++ (comparator.sign.toList ++ (quote value.toList ++ (']' :: rest)))) := by
    simp [attributeTest]
  rw [shape, read, before, after, readComparator_sign]
  simp [named, unquote_quote]

end AttributeTest

/-! ## Selectors -/

theorem attributeTest_injective (key comparison : String) :
    Function.Injective (attributeTest key comparison) := by
  intro value other same
  have chars := congrArg String.toList same
  simp only [attributeTest, String.toList_append, String.toList_ofList, List.append_assoc,
    List.append_cancel_left_eq, List.append_cancel_right_eq] at chars
  exact String.toList_inj.mp (quote_injective chars)

theorem build_injective (strategy : Strategy) : Function.Injective (build strategy) := by
  cases strategy with
  | id | className | name | ariaLabel => exact attributeTest_injective ..
  | css => exact Function.injective_id
  | xpath | tag | text =>
    intro value other same
    exact String.toList_inj.mp (by simpa [build] using congrArg String.toList same)

/-- A value is read back from its quotes, whatever stands in it and whatever follows, and never
earlier than at its last character. So the selector for an attribute is one test of that attribute
for that value; and no two values come to the same selector. -/
theorem quoted_values_are_read_back :
    (∀ value : String,
      quote value.toList =
        '"' :: replaceAll '"' ['\\', '"'] (replaceAll '\\' ['\\', '\\'] value.toList) ++ ['"'] ∧
      (∀ rest, unquote (quote value.toList ++ rest) = some (value.toList, rest)) ∧
      (∀ part, part <+: quote value.toList → part ≠ quote value.toList → unquote part = none) ∧
      ∀ rest,
        AttributeTest.read ((build .id value).toList ++ rest) =
          some (⟨"id", .equals, value⟩, rest) ∧
        AttributeTest.read ((build .className value).toList ++ rest) =
          some (⟨"class", .includes, value⟩, rest) ∧
        AttributeTest.read ((build .name value).toList ++ rest) =
          some (⟨"name", .equals, value⟩, rest) ∧
        AttributeTest.read ((build .ariaLabel value).toList ++ rest) =
          some (⟨"aria-label", .equals, value⟩, rest)) ∧
    ∀ strategy, Function.Injective (build strategy) := by
  refine ⟨fun value => ⟨?_, unquote_quote _, fun _ => unquote_part_of_quote, fun rest => ?_⟩,
    build_injective⟩
  · rw [quote, escape_eq_replacements]
  · exact ⟨AttributeTest.read_attributeTest (by decide) (by decide) .equals value rest,
      AttributeTest.read_attributeTest (by decide) (by decide) .includes value rest,
      AttributeTest.read_attributeTest (by decide) (by decide) .equals value rest,
      AttributeTest.read_attributeTest (by decide) (by decide) .equals value rest⟩

/-- A value that tries to end its quotes and to begin a test of its own. -/
example : AttributeTest.read (build .id "a\"][name=\"b\\").toList =
    some (⟨"id", .equals, "a\"][name=\"b\\"⟩, []) := by
  decide +kernel

end Rehearsal.Selector
