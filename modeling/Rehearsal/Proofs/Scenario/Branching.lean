import Rehearsal.Interpreter
import Rehearsal.Proofs.Script.Numbering
import Rehearsal.Proofs.Time.RetryOutcome

/-!
Where a step leads. Only a check names the index to go on with, and it names one of its two.
-/

set_option autoImplicit false

namespace Rehearsal

open Activity

/-- The outcome goes on with the next record or with one of the indices. -/
def StepOutcome.LeadsTo (outcome : StepOutcome) (indices : List Nat) : Prop :=
  ∀ index, outcome.nextIndex = some index → ∃ target ∈ indices, index = (target : Int)

namespace Scenario

variable {W T : Type} (scenario : Scenario W T) (row : Option Row) {targets : List Nat}

theorem leadsTo_passed (details : Table Datum) : (StepOutcome.passed details).LeadsTo targets := by
  intro index named
  cases named

theorem saveState_yields (key : String) : (scenario.saveState key).Yields (·.LeadsTo targets) :=
  yields_bind fun _ => yields_bind fun _ => yields_pure (leadsTo_passed _)

theorem loadState_yields (key : String) : (scenario.loadState key).Yields (·.LeadsTo targets) := by
  refine yields_bind fun saved => ?_
  cases saved with
  | none =>
    refine yields_pure ?_
    intro index named
    cases named
  | some cookies => exact yields_bind fun _ => yields_bind fun _ => yields_pure (leadsTo_passed _)

theorem withBroker_yields {step : Activity (Scene W) StepOutcome}
    (yields : step.Yields (·.LeadsTo targets)) :
    (scenario.withBroker step).Yields (·.LeadsTo targets) := by
  unfold withBroker
  split
  · exact yields
  · exact yields_pure (leadsTo_passed _)

theorem produceMessage_yields (topic : String) (key message : Option String) :
    (scenario.produceMessage row topic key message).Yields (·.LeadsTo targets) :=
  yields_bind fun _ => yields_pure (leadsTo_passed _)

theorem httpCall_yields (method url : String) (body : Option String) (headers : Table String) :
    (scenario.httpCall row method url body headers).Yields (·.LeadsTo targets) := by
  unfold httpCall
  split
  · exact yields_throw _ _
  · exact yields_bind fun _ => yields_pure (leadsTo_passed _)

variable [Scale T]

theorem onElement_yields (header : Header) (details : Table Datum)
    (interact : Target -> Patience T -> Activity (Scene W) Unit) :
    (scenario.onElement header row details interact).Yields (·.LeadsTo targets) :=
  yields_bind fun resolved => yields_bind fun _ => yields_bind fun _ => yields_pure <| by
    intro index named
    cases named

theorem uploadFile_yields (action : Action) :
    (scenario.uploadFile action row).Yields (·.LeadsTo targets) := by
  refine yields_bind fun files => yields_bind fun found => ?_
  dsimp only
  split
  · exact yields_bind fun _ => scenario.onElement_yields row _ _ _
  · exact scenario.onElement_yields row _ _ _

theorem navigate_yields (header : Header) (page : String) :
    (scenario.navigate header row page).Yields (·.LeadsTo targets) :=
  yields_bind fun _ => yields_bind fun _ => yields_bind fun _ => yields_bind fun _ =>
    yields_bind fun _ => yields_pure (leadsTo_passed _)

theorem consumeMessage_yields (header : Header) (topic key : String) (part : Option String) :
    (scenario.consumeMessage header row topic key part).Yields (·.LeadsTo targets) :=
  yields_bind fun _ => yields_bind fun _ => yields_pure (leadsTo_passed _)

theorem check_yields (action : Action) (condition : Condition) (ifTrueNext ifFalseNext : Nat) :
    (scenario.check action row condition ifTrueNext ifFalseNext).Yields
      (·.LeadsTo [ifTrueNext, ifFalseNext]) := by
  have branches : ∀ met, Action.branch ifTrueNext ifFalseNext met ∈ [ifTrueNext, ifFalseNext] := by
    intro met
    cases met <;> simp [Action.branch]
  refine yields_bind fun found => ?_
  cases found with
  | ok resolved =>
    refine yields_bind fun met => yields_pure ?_
    intro index named
    cases named
    exact ⟨_, branches met, rfl⟩
  | error failure =>
    dsimp only
    split
    · refine yields_pure ?_
      intro index named
      cases named
      exact ⟨_, branches false, rfl⟩
    · exact yields_throw _ _

theorem perform_yields (action : Action) :
    (scenario.perform action row).Yields (·.LeadsTo action.targets) := by
  unfold perform Action.targets
  cases action.operation with
  | uploadFile => exact scenario.uploadFile_yields row action
  | navigate page => exact scenario.navigate_yields row action.header page
  | check condition ifTrueNext ifFalseNext =>
    exact scenario.check_yields row action condition ifTrueNext ifFalseNext
  | saveState key => exact scenario.saveState_yields key
  | loadState key => exact scenario.loadState_yields key
  | produce topic key message =>
    exact scenario.withBroker_yields (scenario.produceMessage_yields row topic key message)
  | consume topic key part =>
    exact scenario.withBroker_yields
      (scenario.consumeMessage_yields row action.header topic key part)
  | httpCall method url body headers =>
    exact scenario.httpCall_yields row method url body headers
  | _ => exact scenario.onElement_yields row _ _ _

theorem takeAction_yields (action : Action) :
    (scenario.takeAction action row).Yields (·.LeadsTo action.targets) := by
  refine yields_bind fun _ => ?_
  split
  · exact yields_bind fun _ => scenario.perform_yields row action
  · exact scenario.perform_yields row action

end Scenario

end Rehearsal
