import Rehearsal.Proofs.Activity.Contract
import Rehearsal.Proofs.Catalog.References
import Rehearsal.Proofs.Scenario.Branching
import Rehearsal.Proofs.Scenario.Recovery
import Rehearsal.Scenario.Replay

/-!
What the failures of a test rest on. The pages and elements that a test refers to are those of the
catalog, so no failure rests on an error of the configuration, down to the probes whose errors a
timeout hides, other than a file that is not there or a client that was never configured.
-/

set_option autoImplicit false

namespace Rehearsal

open Activity

/-- The errors of the configuration that an action may still come to. -/
inductive Action.Excuses (hasHttp : Bool) (action : Action) : Failure -> Prop where
  | upload (uploads : action.operation = .uploadFile) (path : String) :
      Excuses hasHttp action (.missingUpload path)
  | request {method url : String} {body : Option String} {headers : Table String}
      (requests : action.operation = .httpCall method url body headers)
      (lacking : hasHttp = false) : Excuses hasHttp action .noHttpClient

def Script.Excuses (hasHttp : Bool) (script : Script) (failure : Failure) : Prop :=
  ∃ action ∈ script.actions, action.Excuses hasHttp failure

def Failure.Unexcused (_ : Failure) : Prop := False

namespace Scenario

variable {W T : Type} {scenario : Scenario W T} {excused : Failure -> Prop} {test : Test}

/-- Goes from pages of the catalog to pages of the catalog. -/
def roaming (scenario : Scenario W T) (excused : Failure -> Prop) : Conduct (Scene W) where
  leads before after := scenario.Placed before → scenario.Placed after
  raises := Failure.Excusable excused
  still _ placed := placed
  onward first second placed := second (first placed)

theorem permits_roaming : scenario.Permits (scenario.roaming excused) where
  called _ _ _ placed := placed
  slept _ _ placed := placed
  handles _ _ placed := placed
  resolutions _ _ placed := placed
  snapshots _ _ placed := placed
  broker _ _ placed := placed
  cookieJar _ _ placed := placed
  grounded failure plain grounded :=
    Failure.excusable_of_grounds (fun wrong => by cases plain.symm.trans wrong) grounded

theorem placed_enter {page path : String} (known : scenario.catalog.pagePath page = .ok path)
    (scene : Scene W) : scenario.Placed (scene.enter page) := by
  rintro other ⟨⟩
  exact ⟨path, known⟩

theorem raises_of_known {page path : String} (known : scenario.catalog.pagePath page = .ok path)
    (failure : Failure) (unknown : scenario.catalog.pagePath page = .error failure) :
    failure.Excusable excused := by
  cases known.symm.trans unknown

variable [Scale T]

/-! ## Attempts -/

section

variable (provides : scenario.catalog.Provides test)

include provides

theorem takeAction_stays {action : Action} (member : action ∈ test.script.actions)
    (row : Option Row) :
    (scenario.takeAction action row).Follows
      (scenario.roaming (action.Excuses scenario.hasHttp)) := by
  refine takeAction_follows permits_roaming.admits
    ⟨?_, ?_, ?_, ?_, fun _ _ => permits_roaming.snapshots⟩ row
  · intro seeks failure lacking
    obtain ⟨candidates, found, -⟩ :=
      provides.elements _ _ (.inl ⟨action, member, seeks, rfl, rfl⟩)
    cases found.symm.trans lacking
  · intro page goes
    obtain ⟨path, known⟩ := provides.targets action member page goes
    exact ⟨fun scene _ => placed_enter known scene, raises_of_known known⟩
  · intro uploads path
    refine Failure.excusable_of_grounds (fun _ => .upload uploads path) ?_
    simp [Failure.grounds, Failure.cause?]
  · intro lacking method url body headers requests
    refine Failure.excusable_of_grounds (fun _ => .request requests lacking) ?_
    simp [Failure.grounds, Failure.cause?]

theorem takeAssertion_stays {assertion : Assertion} (member : assertion ∈ test.script.assertions)
    (row : Option Row) :
    (scenario.takeAssertion assertion row).Follows (scenario.roaming Failure.Unexcused) := by
  refine takeAssertion_follows permits_roaming.admits (fun seeks failure lacking => ?_) row
  obtain ⟨candidates, found, -⟩ :=
    provides.elements _ _ (.inr ⟨assertion, member, seeks, rfl, rfl⟩)
  cases found.symm.trans lacking

end

theorem openPage_stays {page path : String} (known : scenario.catalog.pagePath page = .ok path) :
    (scenario.openPage page).Follows (scenario.roaming excused) :=
  openPage_follows permits_roaming.admits (fun scene _ => placed_enter known scene)
    (raises_of_known known)

/-! ## Restarts -/

omit [Scale T] in
theorem call_stays (call : Call T) : (scenario.call call).Follows (scenario.roaming excused) := by
  intro scene
  unfold Scenario.call
  split
  · exact ⟨id, nofun⟩
  · refine ⟨id, ?_⟩
    rintro _ ⟨⟩
    exact Failure.excusable_plain rfl rfl

omit [Scale T] in
theorem permitsSession_roaming : scenario.PermitsSession (scenario.roaming excused) where
  called call _ := call_stays call
  slept := permits_roaming.slept
  holds _ _ _ placed := placed
  exhausted total failure allowed := by
    refine permits_roaming.grounded _ rfl ?_
    simpa [Failure.grounds, Failure.cause?] using allowed

section

variable (listens : scenario.onRestart = [Scene.dropHandles])

include listens

theorem restartSession_stays : scenario.restartSession.Follows (scenario.roaming excused) := by
  refine follows_bind (follows_change fun _ placed => placed) fun _ => ?_
  refine follows_bind (startSession_follows permitsSession_roaming) fun _ => ?_
  rw [listens]
  exact follows_change fun _ placed => placed

theorem reopen_ensures (excused : Failure -> Prop) :
    scenario.reopen.Ensures scenario.Placed ⟨fun _ => True, Failure.Excusable excused⟩ := by
  refine ensures_bind (ensures_of_follows (restartSession_stays listens) id) fun _ _ => ?_
  refine ensures_bind (ensures_look _) fun current seen => ?_
  obtain ⟨scene, placed, here⟩ := seen
  cases current with
  | none => exact ensures_pure trivial
  | some page =>
    -- The page to return to was noted when it was gone to, so it is one of the catalog.
    obtain ⟨path, known⟩ := placed page here
    exact ensures_of_follows (follows_discard (openPage_stays known)) id

theorem retrier_suits (excused : Failure -> Prop) :
    scenario.retrier.Suits scenario.Placed (Failure.Excusable excused) where
  attempts _ _ placed := placed
  reinitializations _ placed := placed
  sleeps _ _ placed := placed
  reopens := by
    rintro _ ⟨⟩
    exact reopen_ensures listens excused
  timesOut _ _ := Failure.excusable_plain rfl rfl
  overflows := Failure.excusable_plain rfl rfl

end

/-! ## Runs -/

omit [Scale T] in
theorem record_stays (event : Nat -> Event) :
    (scenario.record event).Follows (scenario.roaming excused) := by
  intro scene
  unfold Scenario.record
  split
  · exact ⟨id, nofun⟩
  · split
    · exact ⟨id, nofun⟩
    · refine ⟨id, ?_⟩
      rintro _ ⟨⟩
      exact Failure.excusable_plain rfl rfl

theorem next_of_leadsTo {action : Action} (onward : action.operation.LeadsOn)
    {outcome : StepOutcome} (leads : outcome.LeadsTo action.targets) (pointer length : Nat) :
    ∃ state, RunState.next pointer outcome.nextIndex length = .ok state ∧
      ∀ cause, state ≠ .failed cause := by
  cases named : outcome.nextIndex with
  | none =>
    refine ⟨_, rfl, fun cause => ?_⟩
    dsimp only
    split <;> simp
  | some index =>
    -- A check that was accepted leads to positive numbers only, and just those are not refused.
    obtain ⟨target, member, rfl⟩ := leads index named
    have least := Action.targets_of_leadsOn onward target member
    have above : ¬ ((target : Int) < 1) := by omega
    simp only [RunState.next, above, if_false]
    refine ⟨_, rfl, fun cause => ?_⟩
    split <;> simp

def givenUp (excused : Failure -> Prop) : Promise RunState :=
  ⟨fun state => ∀ cause, state = .failed cause → cause.cause.Excusable excused,
    Failure.Excusable excused⟩

section

variable (listens : scenario.onRestart = [Scene.dropHandles])

include listens

theorem takeStep_ensures {step : Activity (Scene W) StepOutcome} {yields : StepOutcome -> Prop}
    (steps : step.Follows (scenario.roaming excused)) (yielded : step.Yields yields)
    (name description : String) (record : Table Datum) (row : Option Nat) :
    (scenario.takeStep name description record row step).Ensures scenario.Placed
      (Retrier.promised yields (Failure.Excusable excused)) := by
  refine ensures_bind (Retrier.run_ensures (retrier_suits listens excused)
    (ensures_of_yields steps id yielded) _ _) fun result known => ?_
  exact ensures_bind (ensures_of_follows (record_stays _) id) fun _ _ => ensures_pure known

variable {script : Script} (row : Option Row) (number : Option Nat)

theorem runFrom_ensures
    (steps : ∀ action ∈ script.actions,
      (scenario.takeAction action row).Follows (scenario.roaming excused))
    (onward : ∀ action ∈ script.actions, action.operation.LeadsOn) (fuel : Nat)
    {state : RunState} (given : ∀ cause, state ≠ .failed cause) :
    (scenario.runFrom script row number fuel state).Ensures scenario.Placed
      (givenUp excused) := by
  -- On the fuel: each step either ends the run or leads to a state that has not failed.
  induction fuel generalizing state with
  | zero =>
    cases state with
    | running pointer => exact fun scene placed => ⟨placed, trivial⟩
    | succeeded => exact ensures_pure nofun
    | failed cause => exact absurd rfl (given cause)
  | succ fuel ih =>
    cases state with
    | succeeded => exact ensures_pure nofun
    | failed cause => exact absurd rfl (given cause)
    | running pointer =>
      rw [runFrom]
      split
      next => exact ensures_pure nofun
      next action found =>
        have member := List.mem_of_getElem? found
        refine ensures_bind (takeStep_ensures listens (steps action member)
          (scenario.takeAction_yields row action) _ _ _ _) fun result known => ?_
        cases result with
        | error failure =>
          refine ensures_pure ?_
          rintro _ ⟨⟩
          exact known
        | ok outcome =>
          obtain ⟨next, leads, begun⟩ := next_of_leadsTo (onward action member) known pointer
            script.actions.length
          dsimp only
          rw [leads]
          exact ih begun

theorem checkAll_ensures (name : String) (assertions : List Assertion)
    (steps : ∀ assertion ∈ assertions,
      (scenario.takeAssertion assertion row).Follows (scenario.roaming excused)) :
    (scenario.checkAll name row number assertions).Ensures scenario.Placed
      ⟨fun _ => True, Failure.Excusable excused⟩ := by
  induction assertions with
  | nil => exact ensures_pure trivial
  | cons assertion rest ih =>
    obtain ⟨first, later⟩ := List.forall_mem_cons.mp steps
    have yields : (scenario.takeAssertion assertion row).Yields fun _ => True :=
      fun _ _ _ _ => trivial
    refine ensures_bind (takeStep_ensures listens first yields _ _ _ _) fun result known => ?_
    cases result with
    | ok outcome => exact ensures_bind (ih later) fun _ _ => ensures_pure trivial
    | error failure =>
      exact ensures_throw (ScriptFailure.excusable known)

/-! ## Tests -/

def toldOf (excused : Failure -> Prop) : Promise (Except ScriptFailure Unit) :=
  ⟨fun result => ∀ failure, result = .error failure → failure.step.cause.Excusable excused,
    Failure.Excusable excused⟩

variable (provides : scenario.catalog.Provides test)
  (onward : ∀ action ∈ test.script.actions, action.operation.LeadsOn)

include provides onward

theorem runRow_ensures :
    (scenario.runRow test.script row number).Ensures scenario.Placed
      (toldOf (test.script.Excuses scenario.hasHttp)) := by
  have steps : ∀ action ∈ test.script.actions, (scenario.takeAction action row).Follows
      (scenario.roaming (test.script.Excuses scenario.hasHttp)) := by
    intro action member scene
    obtain ⟨stays, raised⟩ := takeAction_stays provides member row scene
    exact ⟨stays, fun failure met =>
      (raised failure met).mono fun origin excuses => ⟨action, member, excuses⟩⟩
  refine ensures_bind (runFrom_ensures listens row number steps onward _ ?_) fun state known => ?_
  · intro cause
    split <;> simp
  · cases state with
    | failed cause =>
      refine ensures_pure ?_
      rintro _ ⟨⟩
      exact known cause rfl
    | _ => exact ensures_pure nofun

omit onward in
theorem resetFor_ensures :
    (scenario.resetFor test).Ensures scenario.Placed
      ⟨fun _ => True, Failure.Excusable (test.script.Excuses scenario.hasHttp)⟩ := by
  have follows : (scenario.resetFor test).Follows
      (scenario.roaming (test.script.Excuses scenario.hasHttp)) := by
    unfold resetFor
    split
    · refine follows_bind (restartSession_stays listens) fun _ => ?_
      split
      next page starts =>
        split
        next filled =>
          obtain ⟨path, known⟩ := provides.start page starts (by simpa using filled)
          exact follows_discard (openPage_stays known)
        next => exact follows_pure _
      next => exact follows_pure _
    · exact follows_pure _
  exact ensures_of_follows follows id

theorem replayRows_ensures (policy : RowPolicy) (first : Nat) {failures : List ScriptFailure}
    (noted : ∀ failure ∈ failures,
      failure.step.cause.Excusable (test.script.Excuses scenario.hasHttp)) (rows : List Row) :
    (scenario.replayRows test policy first failures rows).Ensures scenario.Placed
      ⟨fun failures => ∀ failure ∈ failures,
        failure.step.cause.Excusable (test.script.Excuses scenario.hasHttp),
        Failure.Excusable (test.script.Excuses scenario.hasHttp)⟩ := by
  induction rows generalizing first failures with
  | nil => exact ensures_pure noted
  | cons row rest ih =>
    refine ensures_bind (resetFor_ensures listens provides) fun _ _ => ?_
    refine ensures_bind (runRow_ensures listens _ _ provides onward) fun result known => ?_
    cases result with
    | ok _ => exact ih _ noted
    | error failure =>
      dsimp only
      split
      · refine ih _ fun other member => ?_
        rcases List.mem_append.mp member with earlier | last
        · exact noted other earlier
        · exact known other (by rw [List.mem_singleton.mp last])
      · exact ensures_throw (ScriptFailure.excusable (known failure rfl))

theorem executeTest_ensures {name : String} (found : scenario.catalog.test name = .ok test)
    (asked : Option RowPolicy) :
    (scenario.executeTest name asked).Ensures scenario.Placed
      ⟨fun _ => True, Failure.Excusable (test.script.Excuses scenario.hasHttp)⟩ := by
  refine ensures_bind (ensures_ofExcept fun failure missing => ?_) fun held same => ?_
  · cases found.symm.trans missing
  · cases found.symm.trans same
    dsimp only
    split
    next =>
      refine ensures_bind (runRow_ensures listens _ _ provides onward) fun result known => ?_
      cases result with
      | ok _ => exact ensures_pure trivial
      | error failure => exact ensures_throw (ScriptFailure.excusable (known failure rfl))
    next rows _ =>
      refine ensures_bind (replayRows_ensures listens provides onward _ _ (by simp) rows)
        fun failures known => ?_
      split
      · exact ensures_throw (DatasetFailure.excusable known)
      · exact ensures_pure trivial

omit onward in
theorem assertTest_ensures {name : String} (found : scenario.catalog.test name = .ok test)
    (perRow : Bool) :
    (scenario.assertTest name perRow).Ensures scenario.Placed
      ⟨fun _ => True, Failure.Excusable Failure.Unexcused⟩ := by
  have checks := fun (row : Option Row) number => checkAll_ensures listens row number
    test.script.test test.script.assertions fun assertion member =>
      takeAssertion_stays provides member row
  have rows : ∀ (given : List Row) (first : Nat),
      (scenario.assertRows test.script first given).Ensures scenario.Placed
        ⟨fun _ => True, Failure.Excusable Failure.Unexcused⟩ := by
    intro given
    induction given with
    | nil => exact fun _ => ensures_pure trivial
    | cons row rest ih =>
      intro first
      refine ensures_bind (checks _ _) fun _ _ => ensures_bind (ih _) fun _ _ => ?_
      exact ensures_pure trivial
  refine ensures_bind (ensures_ofExcept fun failure missing => ?_) fun held same => ?_
  · cases found.symm.trans missing
  · cases found.symm.trans same
    generalize (if perRow then test.rows.getD [] else []) = given
    cases given with
    | nil => exact checks none none
    | cons row rest => exact rows (row :: rest) 1

end

end Scenario

end Rehearsal
