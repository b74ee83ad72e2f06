import Rehearsal.Proofs.Failure.QuotedContent
import Rehearsal.Proofs.Scenario.Raising
import Rehearsal.Proofs.Time.RetryHistory

/-!
Failures for want of confirmation, and what the content that failures quote makes of a step: a
page's text or a record's value that has one of the phrases of a lost session is taken for one.
-/

set_option autoImplicit false

namespace Rehearsal

open Activity

namespace Scenario

variable {W T : Type} (scenario : Scenario W T)

/-- If it is a failure for want of confirmation, then one that quotes these texts. -/
def ConfirmsBy (texts : List String) (failure : Failure) : Prop :=
  failure.kind? = some .mutationNotConfirmed → failure.JudgedBy texts

theorem orElse_raises {property : Failure -> Prop} {first second : Activity (Scene W) Unit}
    (before : first.Raises property) (after : second.Raises property) :
    (orElse first second).Raises property := by
  refine raises_bind_attempt before (fun _ => raises_pure _ _) fun failure met => ?_
  dsimp only
  split
  · exact raises_throw met
  · exact after

theorem call_confirms (texts : List String) (call : Call T) :
    (scenario.call call).Raises (ConfirmsBy texts) := by
  refine (scenario.call_raises call).mono ?_
  rintro _ ⟨fault, rfl⟩
  nofun

theorem prepare_confirms (texts : List String) (target : Target) (limit : Quantity T) :
    (scenario.prepare target limit).Raises (ConfirmsBy texts) := by
  refine raises_bind (scenario.call_confirms texts _) fun _ => ?_
  refine raises_bind (scenario.call_confirms texts _) fun _ => ?_
  refine raises_bind (scenario.call_confirms texts _) fun _ => ?_
  refine raises_bind (scenario.call_confirms texts _) fun enabled => ?_
  cases enabled with
  | true => exact raises_pure _ _
  | false => exact raises_throw nofun

variable [Scale T]

theorem confirm_confirms {shown : String} {texts : List String} {timeout : T}
    (quotes : ∀ cause, (Failure.timedOut .mutationNotConfirmed (Scale.text timeout)
      ("element to show " ++ shown) cause).Quotes texts) (test : Activity (Scene W) Bool) :
    (scenario.confirm shown timeout test).Raises (ConfirmsBy texts) := by
  refine (Polling.test_raises _ _ _ _).mono ?_
  rintro failure (⟨cause, rfl⟩ | unreachable) unconfirmed
  · exact (quotes cause).judgedBy rfl (by decide) rfl
  · cases unreachable.symm.trans unconfirmed

variable [Scale.WritesNumerals T] (target : Target) (patience : Patience T) (timeout : T)

theorem fillField_confirms (value : String) :
    (scenario.fillField target value patience timeout).Raises (ConfirmsBy [value]) := by
  refine raises_bind (scenario.prepare_confirms _ _ _) fun _ => ?_
  refine raises_bind (scenario.call_confirms _ _) fun _ => ?_
  refine raises_bind (scenario.call_confirms _ _) fun _ => ?_
  refine scenario.confirm_confirms (fun cause => ?_) _
  exact Failure.unconfirmed_quotes (Scale.WritesNumerals.numeral timeout) (.inl rfl) value cause

theorem selectOption_confirms (label : String) :
    (scenario.selectOption target label patience timeout).Raises (ConfirmsBy [label]) := by
  refine raises_bind (scenario.prepare_confirms _ _ _) fun _ => ?_
  refine raises_bind ?_ fun _ => ?_
  · exact orElse_raises (scenario.call_confirms _ _) (scenario.call_confirms _ _)
  refine scenario.confirm_confirms (fun cause => ?_) _
  exact Failure.unconfirmed_quotes (Scale.WritesNumerals.numeral timeout) (.inr rfl) label cause

theorem clearField_confirms :
    (scenario.clearField target patience timeout).Raises (ConfirmsBy []) := by
  refine raises_bind (scenario.prepare_confirms _ _ _) fun _ => ?_
  refine raises_bind (scenario.call_confirms _ _) fun _ => ?_
  exact scenario.confirm_confirms
    (Failure.unemptied_quotes (Scale.WritesNumerals.numeral timeout)) _

end Scenario

section

variable {W T : Type} [Scale T] [Scale.WritesNumerals T]

/-- Content that a failure quotes is taken for the loss of a session exactly if it has one of the
phrases of that; so is any failure by its message. The class alone decides on the recovery. -/
theorem Failure.class_of_content (scenario : Scenario W T) :
    (∀ actual expected label failure,
      Comparison.checkLabelled actual expected label = .error failure →
      failure.kind? = some .assertionMismatch →
        Comparison.Refuses actual expected failure ∧ failure.JudgedBy failure.shownTexts) ∧
    (∀ target value patience timeout,
      (scenario.fillField target value patience timeout).Raises fun failure =>
        failure.kind? = some .mutationNotConfirmed → failure.JudgedBy [value]) ∧
    (∀ target label patience timeout,
      (scenario.selectOption target label patience timeout).Raises fun failure =>
        failure.kind? = some .mutationNotConfirmed → failure.JudgedBy [label]) ∧
    (∀ target patience timeout,
      (scenario.clearField target patience timeout).Raises fun failure =>
        failure.kind? = some .mutationNotConfirmed → failure.classify = .failure) ∧
    (∀ (failure : Failure) (kind : FailureKind), failure.kind? = some kind →
      kind ≠ .sessionUnreachable →
        (failure.classify = .sessionLost ↔
          kind.isConfiguration = false ∧ saysLost failure.message = true)) ∧
    ∀ (S A : Type) (retrier : Retrier S T) (step : Activity S A) (number : Nat)
      (state between last : S) (failure : Failure) (trial : Trial A),
      step (retrier.noteAttempts number state) = (.failed failure, between) →
      retrier.Tries step number state trial last →
        (failure.classify = .failure → trial = .failed failure ∧ last = between) ∧
        (failure.classify = .sessionLost →
          ∃ flaw, trial = .lost failure flaw ∧ retrier.Restores between flaw last) := by
  refine ⟨?_, ?_, ?_, ?_, ?_, ?_⟩
  · intro actual expected label failure failed mismatched
    have refuses := Comparison.checkLabelled_error failed mismatched
    exact ⟨refuses, refuses.judged⟩
  · intro target value patience timeout
    exact scenario.fillField_confirms target patience timeout value
  · intro target label patience timeout
    exact scenario.selectOption_confirms target patience timeout label
  · intro target patience timeout
    refine (scenario.clearField_confirms target patience timeout).mono ?_
    intro failure judged unconfirmed
    exact (judged unconfirmed).kept.mpr nofun
  · intro failure kind known other
    exact classify_sessionLost_iff known other
  · intro S A retrier step number state between last failure trial ran tried
    exact tried.of_failed ran

end

/-! ## Texts with a phrase of loss and without one -/

/-- The market may be closed; that is no loss, on the page or in a field. -/
theorem Failure.class_of_closed_market :
    let failure := Failure.mismatch "Market closed" (.text "Open") "Open" "equals"
    let scenario := Scenario.onePage World.willing
    Comparison.checkLabelled (.text "Market closed") (.text "Open") "equals" = .error failure ∧
      failure.classify = .failure ∧
      ∃ unconfirmed final,
        scenario.fillField Scenario.onePageTarget "Market closed" .standard 0 Scenario.onePageOpen =
          (.failed unconfirmed, final) ∧
        unconfirmed.kind? = some .mutationNotConfirmed ∧ unconfirmed.classify = .failure := by
  intro failure scenario
  obtain ⟨checks, fills, -⟩ := class_of_content scenario
  have failed : Comparison.checkLabelled (.text "Market closed") (.text "Open") "equals" =
    .error failure := rfl
  have judged := (checks _ _ _ _ failed rfl).2
  have plain : saysLost "Market closed" = false := by decide +kernel
  have shown : saysLost "Open" = false := by decide +kernel
  refine ⟨failed, judged.kept.mpr (by simp [failure, shownTexts, plain, shown]), ?_⟩
  have told : (scenario.fillField Scenario.onePageTarget "Market closed" .standard 0
    Scenario.onePageOpen).1.fails (·.kind? == some .mutationNotConfirmed) = true := by
    decide +kernel
  rcases ran : scenario.fillField Scenario.onePageTarget "Market closed" .standard 0
    Scenario.onePageOpen with ⟨outcome, final⟩
  rw [ran] at told
  obtain ⟨unconfirmed, rfl, kind⟩ := Outcome.of_fails told
  have judged := fills _ _ _ _ _ _ _ ran (eq_of_beq kind)
  exact ⟨unconfirmed, final, rfl, eq_of_beq kind, judged.kept.mpr (by simp [plain])⟩

/-- A page shows one match of everything, with some text. -/
def World.showing {T : Type} (text : String) : (call : Call T) -> Except Fault call.Answer
  | .query _ .count => .ok 1
  | .query _ .handle => .ok none
  | .query _ .innerText => .ok text
  | _ => .error pageClosed

def openAssertion : Assertion :=
  { header :=
      { index := 1, page := some "login", element := some "user", wait := none, timeout := none }
    aspect := .text, expected := some "Open", operator := .equals }

/-- The page lives and shows a text, but the text has a phrase by which a browser says that it is
gone. -/
theorem Scenario.shown_phrase_loses_session :
    let scenario := onePage (World.showing "Target closed")
    ∃ failure after,
      scenario.takeAssertion openAssertion none onePageOpen = (.failed failure, after) ∧
      failure.kind? = some .assertionMismatch ∧ failure.shownTexts = ["Target closed", "Open"] ∧
      failure.classify = .sessionLost := by
  intro scenario
  have told : (scenario.takeAssertion openAssertion none onePageOpen).1.fails (fun failure =>
      failure.kind? == some .assertionMismatch &&
        failure.shownTexts == ["Target closed", "Open"] &&
        failure.classify == .sessionLost) = true := by
    decide +kernel
  rcases ran : scenario.takeAssertion openAssertion none onePageOpen with ⟨outcome, after⟩
  rw [ran] at told
  obtain ⟨failure, rfl, met⟩ := Outcome.of_fails told
  simp only [Bool.and_eq_true, beq_iff_eq] at met
  exact ⟨failure, after, rfl, met.1.1, met.1.2, met.2⟩

end Rehearsal
