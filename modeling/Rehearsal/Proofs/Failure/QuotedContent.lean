import Rehearsal.Proofs.Comparison.Coherence
import Rehearsal.Proofs.Number.SecondsText
import Rehearsal.Proofs.Scenario.Raising
import Rehearsal.Proofs.Text.LoweredSearch
import Rehearsal.Time.Retry

/-!
Failures that quote content: what a page shows, what a record expects, and what a field is to
show. None of the phrases by which a message says that the session is lost has a quotation mark, so
the words of these failures never say so, but the content may.
-/

set_option autoImplicit false

/-! ## Phrases of loss -/

namespace Rehearsal.Failure

open Text (bluntLower occursIn)

theorem lostMarkers_plain : ∀ marker ∈ lostMarkers, marker.toList ≠ [] ∧ '\'' ∉ marker.toList ∧
    'c' ∈ marker.toList ∧ 'σ' ∉ marker.toList ∧ 'ς' ∉ marker.toList := by
  decide +kernel

theorem saysLost_iff (message : String) :
    saysLost message = true ↔
      ∃ marker ∈ lostMarkers, occursIn marker.toList (message.toList.flatMap bluntLower) = true := by
  rw [saysLost, List.any_eq_true]
  refine exists_congr fun marker => and_congr_right fun member => ?_
  obtain ⟨-, -, -, medial, final⟩ := lostMarkers_plain marker member
  have kept : ∀ c ∈ marker.toList, c ≠ 'σ' ∧ c ≠ 'ς' := fun c inside =>
    ⟨fun same => medial (same ▸ inside), fun same => final (same ▸ inside)⟩
  rw [Text.occursIn_lowercase kept]

theorem saysLost_append_quote (left right : String) :
    saysLost (left ++ "'" ++ right) = true ↔ saysLost left = true ∨ saysLost right = true := by
  have quote : bluntLower '\'' = ['\''] := by decide +kernel
  have split : ∀ marker ∈ lostMarkers,
      (occursIn marker.toList ((left ++ "'" ++ right).toList.flatMap bluntLower) = true ↔
        occursIn marker.toList (left.toList.flatMap bluntLower) = true ∨
          occursIn marker.toList (right.toList.flatMap bluntLower) = true) := by
    intro marker member
    obtain ⟨given, apart, -⟩ := lostMarkers_plain marker member
    rw [← Text.occursIn_append_separator apart given]
    simp [quote]
  simp only [saysLost_iff]
  constructor
  · rintro ⟨marker, member, occurs⟩
    rcases (split marker member).mp occurs with before | after
    · exact .inl ⟨marker, member, before⟩
    · exact .inr ⟨marker, member, after⟩
  · rintro (⟨marker, member, before⟩ | ⟨marker, member, after⟩)
    · exact ⟨marker, member, (split marker member).mpr (.inl before)⟩
    · exact ⟨marker, member, (split marker member).mpr (.inr after)⟩

/-- No character has the letter `c` in its lower case. -/
def isMute (text : List Char) : Bool := text.all fun c => !(bluntLower c).contains 'c'

theorem isMute_append (left right : List Char) :
    isMute (left ++ right) = (isMute left && isMute right) := List.all_append

/-- Every phrase has the letter, so a text without it has none of them. -/
theorem not_saysLost_of_isMute {text : String} (mute : isMute text.toList = true) :
    saysLost text = false := by
  rw [Bool.eq_false_iff, ne_eq, saysLost_iff]
  rintro ⟨marker, member, occurs⟩
  have letter := Text.mem_of_occursIn occurs (lostMarkers_plain marker member).2.2.1
  obtain ⟨c, inside, lowered⟩ := List.mem_flatMap.mp letter
  have missing := List.all_eq_true.mp mute c inside
  simp [lowered] at missing

/-! ## Messages that quote texts -/

/-- Texts in quotation marks, each after some words, and words at the end. -/
def quoting : List (String × String) -> String -> String
  | [], last => last
  | (words, text) :: rest, last => words ++ "'" ++ text ++ "'" ++ quoting rest last

theorem saysLost_quoting (parts : List (String × String)) (last : String) :
    saysLost (quoting parts last) = true ↔
      (∃ part ∈ parts, saysLost part.1 = true ∨ saysLost part.2 = true) ∨
        saysLost last = true := by
  induction parts with
  | nil => simp [quoting]
  | cons part rest ih =>
    rw [quoting, saysLost_append_quote, saysLost_append_quote, ih]
    simp [or_and_right, exists_or, or_assoc]

/-- The message consists of texts in quotation marks and of words that do not speak of a loss. -/
def Quotes (failure : Failure) (texts : List String) : Prop :=
  ∃ parts last, failure.message = quoting parts last ∧ parts.map Prod.snd = texts ∧
    (∀ part ∈ parts, saysLost part.1 = false) ∧ saysLost last = false

theorem Quotes.saysLost_iff {failure : Failure} {texts : List String}
    (quotes : failure.Quotes texts) :
    saysLost failure.message = true ↔ ∃ text ∈ texts, saysLost text = true := by
  obtain ⟨parts, last, message, rfl, words, ending⟩ := quotes
  rw [message, saysLost_quoting]
  constructor
  · rintro (⟨part, member, said | said⟩ | said)
    · simp [words part member] at said
    · exact ⟨part.2, List.mem_map.mpr ⟨part, member, rfl⟩, said⟩
    · simp [ending] at said
  · rintro ⟨text, shown, said⟩
    obtain ⟨part, member, rfl⟩ := List.mem_map.mp shown
    exact .inl ⟨part, member, .inr said⟩

/-! ## Classes -/

/-- A failure of one of the library's own kinds is taken for a lost session because of what its
message says, unless it is of the kind that means one. -/
theorem classify_of_kind {failure : Failure} {kind : FailureKind}
    (known : failure.kind? = some kind) (other : kind ≠ .sessionUnreachable) :
    failure.classify =
      if kind.isConfiguration then .configuration
      else if saysLost failure.message then .sessionLost
      else .failure := by
  simp [classify, isSessionLost, isConfiguration, known, other]

theorem classify_sessionLost_iff {failure : Failure} {kind : FailureKind}
    (known : failure.kind? = some kind) (other : kind ≠ .sessionUnreachable) :
    failure.classify = .sessionLost ↔
      kind.isConfiguration = false ∧ saysLost failure.message = true := by
  rw [classify_of_kind known other]
  cases kind.isConfiguration <;> cases saysLost failure.message <;> simp

/-- The texts alone decide whether the failure is taken for a lost session. -/
structure JudgedBy (failure : Failure) (texts : List String) : Prop where
  kept : failure.classify = .failure ↔ ∀ text ∈ texts, saysLost text = false
  lost : failure.classify = .sessionLost ↔ ∃ text ∈ texts, saysLost text = true

theorem Quotes.judgedBy {failure : Failure} {texts : List String} {kind : FailureKind}
    (quotes : failure.Quotes texts) (known : failure.kind? = some kind)
    (other : kind ≠ .sessionUnreachable) (step : kind.isConfiguration = false) :
    failure.JudgedBy texts where
  kept := by
    have unsaid : saysLost failure.message = false ↔ ∀ text ∈ texts, saysLost text = false := by
      simpa using not_congr quotes.saysLost_iff
    rw [← unsaid, classify_of_kind known other, step]
    cases saysLost failure.message <;> simp
  lost := by
    rw [classify_sessionLost_iff known other, quotes.saysLost_iff]
    simp [step]

end Rehearsal.Failure

/-! ## Quoted content -/

namespace Rehearsal

open Activity

namespace Failure

theorem Quotes.of_parts {failure : Failure} (parts : List (String × String)) (last : String)
    (message : failure.message = quoting parts last)
    (words : ∀ part ∈ parts, saysLost part.1 = false) (ending : saysLost last = false) :
    failure.Quotes (parts.map Prod.snd) :=
  ⟨parts, last, message, rfl, words, ending⟩

-- The words are looked through all at once, since each look goes over the tables of casing.
theorem own_words_unsaid :
    (∀ operator ∈ Operator.all, saysLost (" " ++ operator.label ++ " ") = false) ∧
      ∀ words ∈ ["", "Expected ", "Value ", " is not a boolean", "Actual value ", "Expected value ",
        " is not numeric"], saysLost words = false := by
  decide +kernel

theorem own_words_mute :
    isMute Number.numeralChars = true ∧
      ∀ words ∈ ["Timed out after ", "s waiting for ", "element to show value ",
        "element to show option ", "element to show empty value"], isMute words.toList = true := by
  decide +kernel

/-- The values of a comparison that its failure shows. -/
def shownTexts : Failure -> List String
  | .mismatch actual _ shown _ => [actual, shown]
  | .notBoolean value | .notNumeric _ value => [value]
  | _ => []

theorem mismatch_quotes (actual : String) (expected : Datum) (shown : String)
    (operator : Operator) :
    (Failure.mismatch actual expected shown operator.label).Quotes [actual, shown] := by
  have message : (Failure.mismatch actual expected shown operator.label).message =
      "Expected '" ++ actual ++ "' " ++ operator.label ++ " '" ++ shown ++ "'" := rfl
  refine Quotes.of_parts [("Expected ", actual), (" " ++ operator.label ++ " ", shown)] "" ?_ ?_ ?_
  · rw [message, ← String.toList_inj]
    simp [quoting]
  · have between := own_words_unsaid.1 operator (by cases operator <;> decide)
    simpa [between] using own_words_unsaid.2 "Expected " (by simp)
  · exact own_words_unsaid.2 "" (by simp)

theorem notBoolean_quotes (value : String) : (Failure.notBoolean value).Quotes [value] := by
  have message : (Failure.notBoolean value).message =
      "Value '" ++ value ++ "' is not a boolean" := rfl
  refine Quotes.of_parts [("Value ", value)] " is not a boolean" ?_ ?_ ?_
  · rw [message, ← String.toList_inj]
    simp [quoting]
  · simpa using own_words_unsaid.2 "Value " (by simp)
  · exact own_words_unsaid.2 " is not a boolean" (by simp)

theorem notNumeric_quotes {role : String} (known : role = "Actual" ∨ role = "Expected")
    (value : String) : (Failure.notNumeric role value).Quotes [value] := by
  have message : (Failure.notNumeric role value).message =
      role ++ " value '" ++ value ++ "' is not numeric" := rfl
  refine Quotes.of_parts [(role ++ " value ", value)] " is not numeric" ?_ ?_ ?_
  · rw [message, ← String.toList_inj]
    simp [quoting]
  · rcases known with rfl | rfl
    · simpa using own_words_unsaid.2 "Actual value " (by simp)
    · simpa using own_words_unsaid.2 "Expected value " (by simp)
  · exact own_words_unsaid.2 " is not numeric" (by simp)

/-- The seconds of a timeout are a numeral, which cannot be part of any phrase. -/
theorem timedOut_words {seconds : String} (numeral : Number.IsNumeral seconds.toList)
    (awaited : String) (mute : isMute awaited.toList = true) :
    saysLost ("Timed out after " ++ seconds ++ "s waiting for " ++ awaited) = false := by
  have muteStart : isMute "Timed out after ".toList = true := own_words_mute.2 _ (by simp)
  have muteMiddle : isMute "s waiting for ".toList = true := own_words_mute.2 _ (by simp)
  have muteSeconds : isMute seconds.toList = true :=
    List.all_eq_true.mpr fun c inside => List.all_eq_true.mp own_words_mute.1 c (numeral c inside)
  apply not_saysLost_of_isMute
  simp only [String.toList_append, isMute_append, muteStart, muteSeconds, muteMiddle, mute,
    Bool.and_self]

theorem unconfirmed_quotes {seconds : String} (numeral : Number.IsNumeral seconds.toList)
    {words : String} (known : words = "value" ∨ words = "option") (text : String)
    (cause : Option Failure) :
    (Failure.timedOut .mutationNotConfirmed seconds
      ("element to show " ++ (words ++ " '" ++ text ++ "'")) cause).Quotes [text] := by
  have message : (Failure.timedOut .mutationNotConfirmed seconds
      ("element to show " ++ (words ++ " '" ++ text ++ "'")) cause).message =
    "Timed out after " ++ seconds ++ "s waiting for " ++
      ("element to show " ++ (words ++ " '" ++ text ++ "'")) := rfl
  have unsaid := timedOut_words numeral ("element to show " ++ words ++ " ")
    (by rcases known with rfl | rfl <;> exact own_words_mute.2 _ (by simp))
  refine Quotes.of_parts [("Timed out after " ++ seconds ++ "s waiting for " ++
    ("element to show " ++ words ++ " "), text)] "" ?_ ?_ (own_words_unsaid.2 "" (by simp))
  · rw [message, ← String.toList_inj]
    simp [quoting]
  · simpa using unsaid

theorem unemptied_quotes {seconds : String} (numeral : Number.IsNumeral seconds.toList)
    (cause : Option Failure) :
    (Failure.timedOut .mutationNotConfirmed seconds "element to show empty value"
      cause).Quotes [] :=
  Quotes.of_parts [] _ rfl nofun
    (timedOut_words numeral _ (own_words_mute.2 "element to show empty value" (by simp)))

end Failure

/-! ## Comparisons -/

namespace Comparison

theorem Refuses.judged {actual expected : Datum} {failure : Failure}
    (refuses : Refuses actual expected failure) : failure.JudgedBy failure.shownTexts := by
  cases refuses with
  | mismatch operator =>
    exact (Failure.mismatch_quotes _ _ _ operator).judgedBy rfl (by decide) rfl
  | notBoolean => exact (Failure.notBoolean_quotes _).judgedBy rfl (by decide) rfl
  | notNumeric known =>
    have role := known.imp And.left And.left
    exact (Failure.notNumeric_quotes role _).judgedBy rfl (by decide) rfl

/-- A comparison fails by what it shows, unless its operator is unknown. -/
theorem checkLabelled_error {actual expected : Datum} {label : String} {failure : Failure}
    (failed : checkLabelled actual expected label = .error failure)
    (mismatched : failure.kind? = some .assertionMismatch) :
    Refuses actual expected failure := by
  unfold checkLabelled at failed
  split at failed
  · exact check_error failed
  · cases failed
    cases mismatched

end Comparison

end Rehearsal
