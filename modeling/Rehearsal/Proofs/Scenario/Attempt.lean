import Rehearsal.Proofs.Scenario.Recovery

/-!
Attempts at what a scenario tries again and again. An attempt leaves the session as it is unless it
loses it, and then the session is set up anew once; it leads to another page only if it passes.
-/

set_option autoImplicit false

namespace Rehearsal

open Activity

/-- What is tried again and again: a visit to a page, or a record of a script for a row. -/
inductive Task where
  | visit (page : String)
  | act (action : Action) (row : Option Row)
  | judge (assertion : Assertion) (row : Option Row)

def Operation.target? : Operation -> Option String
  | .navigate page => some page
  | _ => none

theorem Operation.target?_iff {operation : Operation} {page : String} :
    operation.target? = some page ↔ operation = .navigate page := by
  cases operation <;> simp [target?]

def Task.target? : Task -> Option String
  | .visit page => some page
  | .act action _ => action.operation.target?
  | .judge _ _ => none

namespace Scenario

variable {W T : Type} [Scale T] (scenario : Scenario W T)

/-! ## Records -/

/-- What a record does before its step. -/
def preparing (header : Header) (row : Option Row) : Activity (Scene W) Unit :=
  scenario.prepared header row (pure ())

theorem prepared_eq {A : Type} (header : Header) (row : Option Row)
    (step : Activity (Scene W) A) :
    scenario.prepared header row step = scenario.preparing header row >>= fun _ => step := by
  unfold preparing prepared
  rw [bind_assoc]
  congr 1
  funext _
  split <;> rfl

def attemptOf : Task -> Activity (Scene W) StepOutcome
  | .visit page => scenario.openPage page
  | .act action row => scenario.takeAction action row
  | .judge assertion row => scenario.takeAssertion assertion row

theorem attemptOf_keeps {V : Type} {view : Scene W -> V} (blind : Scene.Blind view) (task : Task)
    (enters : ∀ page, task.target? = some page → ∀ scene, view (scene.enter page) = view scene) :
    (scenario.attemptOf task).Keeps view := by
  cases task with
  | visit page =>
    have entered := enters page rfl
    exact scenario.openPage_keeps page view blind.world fun scene =>
      (entered _).trans (blind.handles _ _)
  | act action row =>
    exact scenario.takeAction_keeps blind action row fun page leads =>
      enters page (Operation.target?_iff.mpr leads : action.operation.target? = some page)
  | judge assertion row => exact scenario.takeAssertion_keeps blind assertion row

theorem attemptOf_goesTo {task : Task} {page : String} (leads : task.target? = some page) :
    scenario.GoesTo page (scenario.attemptOf task) := by
  cases task with
  | visit other =>
    cases leads
    exact scenario.openPage_goesTo page
  | act action row => exact scenario.takeAction_goesTo page (Operation.target?_iff.mp leads) row
  | judge assertion row => cases leads

/-- Only an attempt that passes, at a task that goes to a page, leads elsewhere. -/
theorem attemptOf_stays {task : Task} {number : Nat} {before after : Scene W}
    {outcome : Outcome StepOutcome}
    (ran : scenario.attemptOf task (noteAttempts number before) = (outcome, after))
    (unmet : task.target? = none ∨ ∀ value, outcome ≠ .ok value) :
    after.currentPage = before.currentPage := by
  cases leads : task.target? with
  | none =>
    have keeps := scenario.attemptOf_keeps Scene.blind_currentPage task (by simp [leads])
    have kept := keeps.of_run ran
    exact kept
  | some page =>
    have failed := unmet.resolve_left (by simp [leads])
    have stays := (scenario.attemptOf_goesTo leads (noteAttempts number before)).2
    rw [ran] at stays
    exact stays failed

def ending : Option Failure -> Outcome Unit
  | none => .ok ()
  | some failure => .failed failure

/-- What the attempt of some number does. The session is restarted if it was lost and not
otherwise, and the scenario is elsewhere only if the attempt has led there. -/
structure Attempted (log : W -> List (Called T)) (task : Task) (number : Nat) (before : Scene W)
    (trial : Trial StepOutcome) (after : Scene W) : Prop where
  lost : trial.isLost = true ↔ ∃ failure between,
    scenario.attemptOf task (noteAttempts number before) = (.failed failure, between) ∧
    failure.classify = .sessionLost
  restarted : after.session.restarts =
    before.session.restarts + if trial.isLost then 1 else 0
  reinitialized : after.counts.reinitializations =
    before.counts.reinitializations + if trial.isLost then 1 else 0
  recovered : ∀ failure flaw, trial = .lost failure flaw → ∃ between,
    scenario.attemptOf task (noteAttempts number before) = (.failed failure, between) ∧
    between.currentPage = before.currentPage ∧
    scenario.Recovers log (noteReinitialization between) (ending flaw) after
  arrived : ∀ value page, trial = .passed value → task.target? = some page →
    scenario.Arrives page before after
  stayed : task.target? = none ∨ (∀ value, trial ≠ .passed value) →
    after.currentPage = before.currentPage

variable {scenario} {log : W -> List (Called T)}

theorem attemptOf_standing {task : Task} {number : Nat} {before after : Scene W}
    {outcome : Outcome StepOutcome}
    (ran : scenario.attemptOf task (noteAttempts number before) = (outcome, after)) :
    after.session = before.session ∧
      after.counts.reinitializations = before.counts.reinitializations := by
  have session := (scenario.attemptOf_keeps Scene.blind_session task fun _ _ _ => rfl).of_run ran
  have counts := (scenario.attemptOf_keeps Scene.blind_counts task fun _ _ _ => rfl).of_run ran
  exact ⟨session, by rw [counts]; rfl⟩

theorem tries_of_reopened {task : Task} {number : Nat} {before between after : Scene W}
    {failure : Failure}
    (ran : scenario.attemptOf task (noteAttempts number before) = (.failed failure, between))
    (kind : failure.classify = .sessionLost)
    (reopened : scenario.reopen (noteReinitialization between) = (.ok (), after)) :
    scenario.retrier.Tries (scenario.attemptOf task) number before (.lost failure none) after :=
  .lost ran kind (.succeeded rfl reopened)

variable (listens : scenario.onRestart = [Scene.dropHandles])
  (attempts : 0 < scenario.settings.launchAttempts) (logs : scenario.world.IsLog log)

include listens attempts logs

theorem Attempted.of_tries {task : Task} {number : Nat} {before after : Scene W}
    {trial : Trial StepOutcome} (placed : scenario.Placed before)
    (tried : scenario.retrier.Tries (scenario.attemptOf task) number before trial after) :
    scenario.Attempted log task number before trial after := by
  have lost := tried.lost_iff
  cases tried with
  | passed ran =>
    obtain ⟨session, counts⟩ := attemptOf_standing ran
    refine ⟨lost, by simp [session, Trial.isLost], by simp [counts, Trial.isLost], by simp, ?_, ?_⟩
    · intro value page _ leads
      exact ((scenario.attemptOf_goesTo leads _).1 _ _ ran).of_kept rfl
    · rintro (aimless | unmet)
      · exact scenario.attemptOf_stays ran (.inl aimless)
      · exact absurd rfl (unmet _)
  | refused ran kind =>
    obtain ⟨session, counts⟩ := attemptOf_standing ran
    exact ⟨lost, by simp [session, Trial.isLost], by simp [counts, Trial.isLost], by simp, by simp,
      fun _ => scenario.attemptOf_stays ran (.inr (by simp))⟩
  | failed ran kind =>
    obtain ⟨session, counts⟩ := attemptOf_standing ran
    exact ⟨lost, by simp [session, Trial.isLost], by simp [counts, Trial.isLost], by simp, by simp,
      fun _ => scenario.attemptOf_stays ran (.inr (by simp))⟩
  | @lost between _ failure flaw ran kind restored =>
    obtain ⟨session, counts⟩ := attemptOf_standing ran
    have stayed := scenario.attemptOf_stays ran (.inr (by simp))
    have reopened : scenario.reopen (noteReinitialization between) = (ending flaw, after) := by
      cases restored with
      | unattended absent => cases absent
      | succeeded present ran =>
        cases present
        exact ran
      | broke present ran =>
        cases present
        exact ran
    -- The attempt has failed, so the page to return to is the one it started on.
    have still : scenario.Placed (noteReinitialization between) := by
      intro page here
      exact placed page (stayed ▸ here)
    have recovers := reopen_recovers listens attempts logs still reopened
    refine ⟨lost, ?_, ?_, ?_, by simp, fun _ => recovers.stayed.trans stayed⟩
    · rw [recovers.restarted]
      simp [noteReinitialization, session, Trial.isLost]
    · rw [recovers.counts]
      simp [noteReinitialization, counts, Trial.isLost]
    · rintro _ _ ⟨⟩
      exact ⟨between, ran, stayed, recovers⟩

end Scenario

end Rehearsal
