import Rehearsal.Time.Scale

/-!
The characters that seconds are written with in messages.
-/

set_option autoImplicit false

namespace Rehearsal

namespace Number

/-- The digits, the signs and the point, and the letters of an exponent and of `nan` and `inf`. -/
def numeralChars : List Char :=
  ['0', '1', '2', '3', '4', '5', '6', '7', '8', '9', '.', '+', '-', 'e', 'n', 'a', 'i', 'f']

def IsNumeral (text : List Char) : Prop := ∀ c ∈ text, c ∈ numeralChars

theorem isNumeral_append {text more : List Char} (left : IsNumeral text) (right : IsNumeral more) :
    IsNumeral (text ++ more) := by
  intro c member
  rcases List.mem_append.mp member with earlier | later
  · exact left c earlier
  · exact right c later

theorem isNumeral_cons {c : Char} {text : List Char} (first : c ∈ numeralChars)
    (rest : IsNumeral text) : IsNumeral (c :: text) :=
  List.forall_mem_cons.mpr ⟨first, rest⟩

theorem isNumeral_of_all {text : List Char} (known : text.all numeralChars.contains = true) :
    IsNumeral text := by
  simpa [IsNumeral] using known

theorem IsNumeral.sublist {text part : List Char} (numeral : IsNumeral text)
    (sublist : part.Sublist text) : IsNumeral part :=
  fun c member => numeral c (sublist.subset member)

theorem isNumeral_zeros (count : Nat) : IsNumeral (List.replicate count '0') := by
  intro c member
  rw [List.eq_of_mem_replicate member]
  decide

theorem isNumeral_digits (value : Nat) : IsNumeral (digits value) := by
  intro c member
  have digit : c.isDigit = true := Nat.isDigit_of_mem_toDigits (by decide) (by decide) member
  have within : ∀ code < 58, 48 ≤ code → Char.ofNat code ∈ numeralChars := by decide
  simp only [Char.isDigit, Bool.and_eq_true, decide_eq_true_eq, ge_iff_le, UInt32.le_iff_toNat_le]
    at digit
  rw [← Char.ofNat_toNat c]
  exact within c.toNat (Nat.lt_succ_of_le digit.2) digit.1

theorem isNumeral_padLeft {text : List Char} (numeral : IsNumeral text) (width : Nat) :
    IsNumeral (padLeft width text) :=
  isNumeral_append (isNumeral_zeros _) numeral

theorem isNumeral_dropZeros {text : List Char} (numeral : IsNumeral text) :
    IsNumeral (dropZeros text) := by
  refine numeral.sublist ?_
  have dropped := (List.dropWhile_sublist (· == '0') (l := text.reverse)).reverse
  rwa [List.reverse_reverse] at dropped

theorem isNumeral_exponentText (power : Int) : IsNumeral (exponentText power) := by
  refine isNumeral_cons (by decide) (isNumeral_cons ?_ ?_)
  · split <;> decide
  · exact isNumeral_padLeft (isNumeral_digits _) 2

theorem isNumeral_positional {value : Digits} (numeral : IsNumeral value.digits)
    (keepsPoint : Bool) : IsNumeral (value.positional keepsPoint) := by
  unfold Digits.positional
  dsimp only
  split
  · refine isNumeral_append ?_ numeral
    exact isNumeral_cons (by decide) (isNumeral_cons (by decide) (isNumeral_zeros _))
  · split
    · refine isNumeral_append (isNumeral_append numeral (isNumeral_zeros _)) ?_
      cases keepsPoint with
      | false => exact nofun
      | true => exact isNumeral_cons (by decide) (isNumeral_cons (by decide) nofun)
    · refine isNumeral_append (numeral.sublist (List.take_sublist _ _)) ?_
      exact isNumeral_cons (by decide) (numeral.sublist (List.drop_sublist _ _))

theorem isNumeral_scientific {value : Digits} (numeral : IsNumeral value.digits) :
    IsNumeral value.scientific := by
  unfold Digits.scientific
  refine isNumeral_append (isNumeral_append (numeral.sublist (List.take_sublist _ _)) ?_)
    (isNumeral_exponentText _)
  split
  · exact nofun
  · exact isNumeral_cons (by decide) (numeral.sublist (List.drop_sublist _ _))

theorem isNumeral_generalDigits (size : Fraction) : IsNumeral (generalDigits size) := by
  unfold generalDigits
  split
  · exact isNumeral_cons (by decide) nofun
  · have numeral : IsNumeral (significant 6 size).digits :=
      isNumeral_dropZeros (isNumeral_digits _)
    unfold Style.write
    split
    · exact isNumeral_positional numeral _
    · exact isNumeral_scientific numeral

theorem isNumeral_signed (negative : Bool) {text : List Char} (numeral : IsNumeral text) :
    IsNumeral (signed negative text).toList := by
  rw [signed, String.toList_ofList]
  split
  · exact isNumeral_cons (by decide) numeral
  · exact numeral

theorem isNumeral_general (value : Float) : IsNumeral (general value).toList := by
  unfold general
  split
  · exact isNumeral_of_all (by decide)
  · exact isNumeral_signed _ (isNumeral_of_all (by decide))
  · exact isNumeral_signed _ (isNumeral_generalDigits _)

theorem isNumeral_generalRat (value : Rat) : IsNumeral (generalRat value).toList :=
  isNumeral_signed _ (isNumeral_generalDigits _)

end Number

/-- A scale whose texts are numerals. -/
class Scale.WritesNumerals (T : Type) [Scale T] : Prop where
  numeral : ∀ amount : T, Number.IsNumeral (Scale.text amount).toList

instance : Scale.WritesNumerals Float := ⟨Number.isNumeral_general⟩

instance : Scale.WritesNumerals Rat := ⟨Number.isNumeral_generalRat⟩

end Rehearsal
