import Rehearsal.Proofs.Activity.Contract
import Rehearsal.Proofs.Scenario.Course
import Rehearsal.Proofs.Scenario.Recovery
import Rehearsal.Proofs.Time.PollHistory
import Rehearsal.Scenario.Replay

/-!
What the parts of a scenario raise. Neither a reset of the session nor the run of a script raises
a failure of the kinds that tell of rows; those are only made where rows are replayed.
-/

set_option autoImplicit false

namespace Rehearsal

def Failure.TellsOfRows (failure : Failure) : Prop :=
  failure.kind? = some .scriptFailed ∨ failure.kind? = some .datasetRunFailed

theorem Failure.not_tellsOfRows {failure : Failure} {kind : FailureKind}
    (known : failure.kind? = some kind) (script : kind ≠ .scriptFailed)
    (dataset : kind ≠ .datasetRunFailed) : ¬ failure.TellsOfRows := by
  rintro (told | told) <;> rw [known] at told <;> cases told
  · exact script rfl
  · exact dataset rfl

theorem Failure.fault_not_tellsOfRows (fault : Fault) : ¬ (Failure.fault fault).TellsOfRows := by
  rintro (told | told) <;> cases told

theorem ScriptFailure.toFailure_tellsOfRows (failure : ScriptFailure) :
    failure.toFailure.TellsOfRows := .inl rfl

theorem DatasetFailure.toFailure_tellsOfRows (failure : DatasetFailure) :
    failure.toFailure.TellsOfRows := .inr rfl

namespace Scenario

open Activity

variable {W T : Type} (scenario : Scenario W T)

variable {scenario} in
theorem call_failed {call : Call T} {scene final : Scene W} {failure : Failure}
    (ran : scenario.call call scene = (.failed failure, final)) :
    ∃ fault, failure = .fault fault ∧
      (scenario.world.perform call scene.world).1 = .error fault := by
  unfold Scenario.call at ran
  split at ran
  next => cases ran
  next fault _ performed =>
    cases ran
    exact ⟨fault, rfl, by rw [performed]⟩

theorem call_ends (call : Call T) :
    (scenario.call call).Ends fun failure => ∃ fault, failure = .fault fault := by
  intro scene
  constructor
  · unfold Scenario.call
    split <;> nofun
  · intro failure raised
    obtain ⟨fault, same, -⟩ := call_failed (run_of_outcome raised)
    exact ⟨fault, same⟩

theorem call_raises (call : Call T) :
    (scenario.call call).Raises fun failure => ∃ fault, failure = .fault fault :=
  (scenario.call_ends call).raises

theorem livePage_ends : scenario.livePage.Ends (· = .noPage) := by
  refine ends_bind (ends_look _) fun page => ?_
  cases page with
  | none => exact ends_throw rfl
  | some page =>
    refine ends_bind (ends_look _) fun closed => ?_
    cases closed with
    | true => exact ends_throw rfl
    | false => exact ends_pure _

theorem currentUrl_raises : scenario.currentUrl.Raises (· = .noPage) :=
  raises_bind scenario.livePage_ends.raises fun _ => raises_look _ _

theorem pagePath_error {catalog : Catalog} {page : String} {failure : Failure}
    (unknown : catalog.pagePath page = .error failure) : failure = .unknownPage page := by
  unfold Catalog.pagePath Catalog.page at unknown
  split at unknown <;> cases unknown
  rfl

theorem callQuietly_ends {property : Failure -> Prop} (call : Call T) :
    (discard (scenario.call call).attempt).Ends property := by
  have called := (scenario.call_ends call).mono fun _ _ => trivial
  exact ends_bind (ends_attempt called) fun _ => ends_pure _

theorem closeBrowser_ends (property : Failure -> Prop) : scenario.closeBrowser.Ends property := by
  refine ends_bind (ends_look _) fun browser => ends_bind (ends_change _) fun _ => ?_
  cases browser with
  | none => exact ends_pure _
  | some browser => exact scenario.callQuietly_ends _

theorem closeSession_ends (property : Failure -> Prop) :
    scenario.closeSession.Ends property := by
  refine ends_bind (scenario.closeBrowser_ends _) fun _ => ends_bind (ends_look _) fun runs => ?_
  cases runs with
  | false => exact ends_pure _
  | true => exact ends_bind (scenario.callQuietly_ends _) fun _ => ends_change _

variable [Scale T]

/-- A page's load that failed, with the fault of the browser as it came. -/
def Unloaded (page : String) (failure : Failure) : Prop :=
  ∃ path live world fault,
    scenario.catalog.pagePath page = .ok path ∧ failure = .fault fault ∧
      (scenario.world.perform (.visit live (scenario.settings.baseUrl ++ path)
        (scenario.limitOf scenario.settings.navigationTimeout)) world).1 = .error fault

/-- The kinds of failure that a page which is opened may come to by itself. -/
def visitKinds : List FailureKind := [.configuration, .sessionUnreachable, .waitTimeout]

theorem openPage_raises (page : String) : (scenario.openPage page).Raises fun failure =>
    (∃ kind ∈ visitKinds, failure.kind? = some kind) ∨ scenario.Unloaded page failure := by
  have absent : ∀ failure, failure = .noPage → (∃ kind ∈ visitKinds, failure.kind? = some kind) ∨
      scenario.Unloaded page failure := by
    rintro _ rfl
    exact .inl ⟨.sessionUnreachable, by simp [visitKinds], rfl⟩
  unfold openPage
  cases known : scenario.catalog.pagePath page with
  | error failure =>
    rintro scene failure final ⟨⟩
    rw [pagePath_error known]
    exact .inl ⟨.configuration, by simp [visitKinds], rfl⟩
  | ok path =>
    rw [ofExcept_ok_bind]
    refine raises_bind (scenario.livePage_ends.raises.mono absent) fun live => ?_
    refine raises_bind ?_ fun _ => ?_
    · intro scene failure final ran
      obtain ⟨fault, same, faulted⟩ := call_failed ran
      exact .inr ⟨_, live, scene.world, fault, known, same, faulted⟩
    refine raises_bind ((Polling.test_raises _ _ _ _).mono ?_) fun _ => ?_
    · rintro failure (⟨cause, rfl⟩ | kind)
      · exact .inl ⟨.waitTimeout, by simp [visitKinds], rfl⟩
      · exact .inl ⟨.sessionUnreachable, by simp [visitKinds], kind⟩
    refine raises_bind (raises_change _ _) fun _ => ?_
    exact raises_bind (scenario.currentUrl_raises.mono absent) fun _ => raises_pure _ _

theorem openPage_untold (page : String) : (scenario.openPage page).Raises (¬ ·.TellsOfRows) := by
  refine (scenario.openPage_raises page).mono ?_
  rintro failure (⟨kind, visits, known⟩ | ⟨-, -, -, fault, -, rfl, -⟩)
  · refine Failure.not_tellsOfRows known ?_ ?_ <;> rintro rfl <;> simp [visitKinds] at visits
  · exact Failure.fault_not_tellsOfRows fault

theorem launch_ends : scenario.launch.Ends fun _ => True := by
  have called := fun call => (scenario.call_ends call).mono fun _ _ => trivial
  have provides : scenario.provide.Ends fun _ => True := by
    refine ends_bind (called _) fun browser => ends_bind (ends_change _) fun _ => ?_
    refine ends_bind (called _) fun context => ends_bind (ends_change _) fun _ => ?_
    exact ends_bind (called _) fun page => ends_bind (ends_change _) fun _ => called _
  intro scene
  rw [launch_run]
  split
  · exact provides scene
  · exact ends_bind (called _) (fun _ => ends_bind (ends_change _) fun _ => provides) scene

theorem launchAttempts_ends (total left : Nat) : (scenario.launchAttempts total left).Ends
    fun failure => ∃ cause, failure = .launchFailed total cause := by
  induction left with
  | zero => exact ends_pure _
  | succ left ih =>
    refine ends_bind (scenario.closeBrowser_ends _) fun _ => ?_
    refine ends_bind (ends_attempt scenario.launch_ends) fun launched => ?_
    cases launched with
    | ok _ => exact ends_pure _
    | error failure =>
      dsimp only
      split
      · exact ends_throw ⟨failure, rfl⟩
      · exact ends_bind (ends_change _) fun _ => ih

theorem restartSession_raises : scenario.restartSession.Raises
    fun failure => ∃ cause, failure = .launchFailed scenario.settings.launchAttempts cause :=
  raises_bind (raises_change _ _) fun _ =>
    raises_bind (scenario.launchAttempts_ends _ _).raises fun _ => raises_change _ _

/-- What a reset raises is that no session could be started or that a page was not opened. -/
theorem resetFor_raises {test : Test} {property : Failure -> Prop}
    (unlaunched : ∀ total cause, property (.launchFailed total cause))
    (unopened : test.resetsSession = true → ∀ page, test.startPage = some page →
      page.isEmpty = false → (scenario.openPage page).Raises property) :
    (scenario.resetFor test).Raises property := by
  unfold resetFor
  split
  next resets =>
    refine raises_bind (scenario.restartSession_raises.mono ?_) fun _ => ?_
    · rintro _ ⟨cause, rfl⟩
      exact unlaunched _ cause
    · split
      next page starts =>
        split
        next named =>
          exact raises_bind (unopened resets page starts (by simpa using named)) fun _ =>
            raises_pure _ _
        next => exact raises_pure _ _
      next => exact raises_pure _ _
  next => exact raises_pure _ _

theorem resetFor_untold (test : Test) : (scenario.resetFor test).Raises (¬ ·.TellsOfRows) :=
  scenario.resetFor_raises
    (fun _ _ => Failure.not_tellsOfRows rfl (by decide) (by decide))
    fun _ page _ _ => scenario.openPage_untold page

/-- A run raises what its steps raise, or that a check leads below the first record. -/
theorem runFrom_meets {required : Scene W -> Prop} {raises : Failure -> Prop} {script : Script}
    {row : Option Row} {number : Option Nat}
    (steps : ∀ action ∈ script.actions,
      (scenario.takeStep script.test action.describe action.payload number
        (scenario.takeAction action row)).Ensures required ⟨fun _ => True, raises⟩)
    (below : ∀ target, raises (.branchBelowOne target)) (fuel : Nat) (state : RunState) :
    (scenario.runFrom script row number fuel state).Ensures required ⟨fun _ => True, raises⟩ := by
  induction fuel generalizing state with
  | zero =>
    cases state with
    | running pointer => exact fun scene given => ⟨given, trivial⟩
    | succeeded => exact ensures_pure trivial
    | failed cause => exact ensures_pure trivial
  | succ fuel ih =>
    cases state with
    | succeeded => exact ensures_pure trivial
    | failed cause => exact ensures_pure trivial
    | running pointer =>
      rw [runFrom]
      split
      next => exact ensures_pure trivial
      next action found =>
        refine ensures_bind (steps action (List.mem_of_getElem? found)) fun given _ => ?_
        cases given with
        | error cause => exact ensures_pure trivial
        | ok outcome =>
          refine ensures_bind (ensures_ofExcept ?_) fun next _ => ih next
          intro failure led
          unfold RunState.next at led
          dsimp only at led
          split at led
          · cases led
          · split at led <;> cases led
            exact below _

theorem runFrom_untold (script : Script) (row : Option Row) (number : Option Nat) (fuel : Nat)
    (state : RunState) :
    (scenario.runFrom script row number fuel state).Raises (¬ ·.TellsOfRows) := by
  refine raises_of_ensures (scenario.runFrom_meets (fun action _ => ?_) (fun _ => ?_) fuel state)
  · refine ensures_of_raises (raises_bind ?_ fun given => raises_bind ?_ fun _ => raises_pure _ _)
    · intro scene failure final ran
      obtain ⟨-, rfl⟩ := Retrier.run_failed ran
      exact Failure.fault_not_tellsOfRows _
    · intro scene failure final ran
      rcases scenario.notes_failed script number action given scene with
        ⟨noted, passed⟩ | ⟨fault, noted, failed⟩
      · cases passed.symm.trans ran
      · cases failed.symm.trans ran
        exact Failure.fault_not_tellsOfRows fault
  · exact Failure.not_tellsOfRows rfl (by decide) (by decide)

end Scenario

end Rehearsal
