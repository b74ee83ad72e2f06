import Rehearsal.Proofs.Scenario.Attempt
import Rehearsal.Proofs.Time.RetryOutcome
import Rehearsal.Scenario.Replay

/-!
The journeys of a scenario, from one attempt to the next. Between two steps it is idle; a step is
tried until it ends, and each attempt at it is one move. Wherever a journey leads, the restarts of
the session are those after lost attempts and those before rows.
-/

set_option autoImplicit false

namespace Rehearsal

open Activity

inductive Phase (T : Type) where
  | idle
  /-- To try a task once more, if that is what the attempts `made` at it come to. -/
  | trying (task : Task) (made : Nat) (deadline : T)
  /-- Nothing more: an attempt hangs, or the fuel is spent. -/
  | stuck

def Phase.after {T A : Type} : Outcome A -> Phase T
  | .stalled => .stuck
  | _ => .idle

namespace Scenario

variable {W T A B : Type} [Scale T] (scenario : Scenario W T)

/-- One move of a journey; the number counts the restarts of the session for a row. -/
inductive Move : Phase T -> Scene W -> Nat -> Phase T -> Scene W -> Prop where
  | begun {task : Task} {scene : Scene W} {budget : T}
      (held : scenario.retrier.policy.budget? = some budget) :
      Move .idle scene 0 (.trying task 0 (Scale.add (scenario.clock.now scene) budget)) scene
  | retried {task : Task} {made : Nat} {deadline : T} {scene after : Scene W}
      {trial : Trial StepOutcome}
      (tried : scenario.retrier.Tries (scenario.attemptOf task) (made + 1) scene trial after)
      (retried : trial.isRetried = true)
      (timely : scenario.retrier.isOver deadline after = false) :
      Move (.trying task made deadline) scene 0 (.trying task (made + 1) deadline)
        (scenario.retrier.pauses deadline after)
  | ended {task : Task} {made : Nat} {deadline : T} {scene after : Scene W}
      {trial : Trial StepOutcome}
      (tried : scenario.retrier.Tries (scenario.attemptOf task) (made + 1) scene trial after)
      (overdue : trial.isRetried = true → scenario.retrier.isOver deadline after = true) :
      Move (.trying task made deadline) scene 0 .idle after
  | hung {task : Task} {made : Nat} {deadline : T} {scene after : Scene W}
      (hung : scenario.retrier.Hangs (scenario.attemptOf task) (made + 1) scene after) :
      Move (.trying task made deadline) scene 0 .stuck after
  | noted {event : Nat -> Event} {scene after : Scene W} {outcome : Outcome Unit}
      (ran : scenario.record event scene = (outcome, after)) :
      Move .idle scene 0 (.after outcome) after
  | reset {scene after : Scene W} {outcome : Outcome Unit}
      (ran : scenario.restartSession scene = (outcome, after)) :
      Move .idle scene 1 (.after outcome) after
  | opened {page : String} {scene after : Scene W} {outcome : Outcome StepOutcome}
      (ran : scenario.openPage page scene = (outcome, after)) :
      Move .idle scene 0 (.after outcome) after
  | spent {phase : Phase T} {scene : Scene W} : Move phase scene 0 .stuck scene

inductive Moves : Phase T -> Scene W -> Nat -> Phase T -> Scene W -> Prop where
  | none {phase : Phase T} {scene : Scene W} : Moves phase scene 0 phase scene
  | more {phase between last : Phase T} {scene middle final : Scene W} {here later : Nat}
      (move : scenario.Move phase scene here between middle)
      (rest : Moves between middle later last final) :
      Moves phase scene (here + later) last final

/-- What a scenario may have come to since its beginning. -/
inductive Reached : Nat -> Phase T -> Scene W -> Prop where
  | opening (world : W) (files : Files) : Reached 0 .idle (Scene.opening world files)
  | started {resets : Nat} {scene : Scene W} (reached : Reached resets .idle scene) :
      Reached resets .idle (scenario.start scene).2
  | closed {resets : Nat} {scene : Scene W} (reached : Reached resets .idle scene) :
      Reached resets .idle (scenario.close scene).2
  | pictured {resets : Nat} {scene : Scene W} (reached : Reached resets .idle scene)
      (path : Option Path) :
      Reached resets .idle (scenario.captureScreenshot path scene).2
  | moved {resets more : Nat} {phase next : Phase T} {scene after : Scene W}
      (reached : Reached resets phase scene) (moves : scenario.Moves phase scene more next after) :
      Reached (resets + more) next after

variable {scenario}

theorem Move.moves {phase next : Phase T} {scene after : Scene W} {resets : Nat}
    (move : scenario.Move phase scene resets next after) :
    scenario.Moves phase scene resets next after := .more move .none

theorem Moves.trans {phase between last : Phase T} {scene middle final : Scene W}
    {here later : Nat} (before : scenario.Moves phase scene here between middle)
    (after : scenario.Moves between middle later last final) :
    scenario.Moves phase scene (here + later) last final := by
  induction before with
  | none => simpa using after
  | more move rest ih => simpa [Nat.add_assoc] using Moves.more move (ih after)

/-! ## Starts, ends, pictures and notes -/

/-- A conduct that allows for what goes on before, between and after attempts. -/
structure Surrounds (scenario : Scenario W T) (conduct : Conduct (Scene W)) : Prop where
  starts : scenario.startSession.Follows conduct
  closes : scenario.closeSession.Follows conduct
  releases : scenario.settings.brokerEnabled = true → scenario.closeBroker.Follows conduct
  pictures : scenario.screenshot.Follows conduct
  notes : ∀ scene log files folders, conduct.leads scene { scene with log, files, folders }
  requests : ∀ scene requestsClosed, conduct.leads scene { scene with requestsClosed }

section

variable {conduct : Conduct (Scene W)} (surrounds : scenario.Surrounds conduct)

include surrounds

theorem changeFiles_follows (update : Files -> Except Fault Files)
    (lenient : ∀ failure, conduct.raises failure) :
    (scenario.changeFiles update).Follows conduct := by
  intro scene
  unfold changeFiles
  split
  · exact ⟨surrounds.notes scene scene.log _ scene.folders, nofun⟩
  · exact ⟨conduct.still scene, fun failure _ => lenient failure⟩

theorem openLog_follows (folders : RunFolders) (lenient : ∀ failure, conduct.raises failure) :
    (scenario.openLog folders).Follows conduct := by
  intro scene
  unfold openLog
  split
  · exact ⟨conduct.still scene, nofun⟩
  · split
    · exact ⟨surrounds.notes scene _ _ scene.folders, nofun⟩
    · exact ⟨conduct.still scene, fun failure _ => lenient failure⟩

theorem start_follows (lenient : ∀ failure, conduct.raises failure) :
    scenario.start.Follows conduct := by
  refine follows_bind (changeFiles_follows surrounds _ lenient) fun _ => ?_
  refine follows_bind (follows_change fun scene => surrounds.notes scene scene.log scene.files _)
    fun _ => ?_
  refine follows_bind (openLog_follows surrounds _ lenient) fun _ => ?_
  refine follows_bind (follows_look _) fun started => ?_
  cases started with
  | true => exact follows_pure _
  | false => exact surrounds.starts

theorem close_follows : scenario.close.Follows conduct := by
  have rest : (change (fun scene : Scene W => { scene with requestsClosed := true }) >>= fun _ =>
      scenario.closeSession).Follows conduct :=
    follows_bind (follows_change fun scene => surrounds.requests scene true) fun _ =>
      surrounds.closes
  refine follows_bind
    (follows_change fun scene => surrounds.notes scene none scene.files scene.folders) fun _ => ?_
  dsimp only
  split
  next enabled => exact follows_bind (surrounds.releases enabled) fun _ => rest
  next => exact rest

theorem captureScreenshot_follows (path : Option Path)
    (lenient : ∀ failure, conduct.raises failure) :
    (scenario.captureScreenshot path).Follows conduct := by
  refine follows_bind surrounds.pictures fun bytes => ?_
  cases path with
  | none => exact follows_pure _
  | some path =>
    exact follows_bind (changeFiles_follows surrounds _ lenient) fun _ => follows_pure _

theorem Surrounds.noted {event : Nat -> Event} {scene after : Scene W} {outcome : Outcome Unit}
    (ran : scenario.record event scene = (outcome, after)) : conduct.leads scene after := by
  unfold Scenario.record at ran
  split at ran
  · cases ran
    exact conduct.still scene
  · split at ran
    · cases ran
      exact surrounds.notes scene _ _ scene.folders
    · cases ran
      exact surrounds.notes scene _ scene.files scene.folders

end

/-! ## What a journey accounts for -/

def standing (scene : Scene W) : Nat × Nat × Option String :=
  (scene.session.restarts, scene.counts.reinitializations, scene.currentPage)

omit [Scale T] in
theorem sessionless_standing : Scene.Sessionless (standing (W := W)) :=
  ⟨fun _ _ => rfl, fun scene _ same => by simp [standing, Scene.setSession, same scene.session]⟩

theorem surrounds_keeping {V : Type} {view : Scene W -> V} (sessionless : Scene.Sessionless view)
    (clients : ∀ scene broker, view { scene with broker } = view scene)
    (notes : ∀ scene log files folders, view { scene with log, files, folders } = view scene)
    (requests : ∀ scene requestsClosed, view { scene with requestsClosed } = view scene) :
    scenario.Surrounds (.keeping view) where
  starts := startSession_follows (permitsSession_keeping sessionless)
  closes := closeSession_follows (permitsSession_keeping sessionless)
  releases _ := closeBroker_follows
    (fun call _ => Conduct.follows_keeping.mpr (scenario.call_keeps sessionless.world call))
    fun _ _ => clients _ _
  pictures := Conduct.follows_keeping.mpr <|
    keeps_bind scenario.livePage_keeps fun _ => scenario.call_keeps sessionless.world _
  notes := notes
  requests := requests

theorem surrounds_standing : scenario.Surrounds (.keeping standing) :=
  surrounds_keeping sessionless_standing (fun _ _ => rfl) (fun _ _ _ _ => rfl) fun _ _ => rfl

/-- Restarts go with lost attempts or with rows, and another page is one that was arrived at. -/
structure Balances (scenario : Scenario W T) (resets : Nat) (before after : Scene W) : Prop where
  counted : ∃ lost, after.session.restarts = before.session.restarts + (lost + resets) ∧
    after.counts.reinitializations = before.counts.reinitializations + lost
  moved : after.currentPage = before.currentPage ∨ ∃ page, scenario.Arrives page before after

/-- Every restart is accounted for, and the scenario is on a page that the catalog has. -/
structure Sound (scenario : Scenario W T) (resets : Nat) (scene : Scene W) : Prop where
  accounted : scene.session.restarts = scene.counts.reinitializations + resets
  placed : scenario.Placed scene

theorem Balances.of_standing {before after : Scene W} (same : standing after = standing before) :
    scenario.Balances 0 before after := by
  simp only [standing, Prod.mk.injEq] at same
  exact ⟨⟨0, by simp [same.1], by simp [same.2.1]⟩, .inl same.2.2⟩

theorem Balances.sound {resets more : Nat} {before after : Scene W}
    (balances : scenario.Balances more before after) (sound : scenario.Sound resets before) :
    scenario.Sound (resets + more) after := by
  constructor
  · obtain ⟨lost, restarted, reinitialized⟩ := balances.counted
    have accounted := sound.accounted
    omega
  · intro page here
    rcases balances.moved with same | ⟨other, arrives⟩
    · exact sound.placed page (same ▸ here)
    · obtain rfl : other = page := Option.some.inj (arrives.currentPage.symm.trans here)
      obtain ⟨path, _, known, -⟩ := arrives.shows
      exact ⟨path, known⟩

theorem Attempted.balances {log : W -> List (Called T)} {task : Task} {number : Nat}
    {before after : Scene W} {trial : Trial StepOutcome}
    (attempted : scenario.Attempted log task number before trial after) :
    scenario.Balances 0 before after := by
  refine ⟨⟨_, attempted.restarted, attempted.reinitialized⟩, ?_⟩
  cases leads : task.target? with
  | none => exact .inl (attempted.stayed (.inl leads))
  | some page =>
    by_cases passed : ∃ value, trial = .passed value
    · obtain ⟨value, passed⟩ := passed
      exact .inr ⟨page, attempted.arrived value page passed leads⟩
    · exact .inl (attempted.stayed (.inr fun value met => passed ⟨value, met⟩))

theorem openPage_balances {page : String} {before after : Scene W} {outcome : Outcome StepOutcome}
    (ran : scenario.openPage page before = (outcome, after)) :
    scenario.Balances 0 before after := by
  have session := (scenario.openPage_keeps page Scene.session (fun _ _ => rfl)
    fun _ => rfl).of_run ran
  have counts := (scenario.openPage_keeps page Scene.counts (fun _ _ => rfl)
    fun _ => rfl).of_run ran
  refine ⟨⟨0, by rw [session]; rfl, by rw [counts]; rfl⟩, ?_⟩
  obtain ⟨arrives, stays⟩ := scenario.openPage_goesTo page before
  rw [ran] at stays
  cases outcome with
  | ok value => exact .inr ⟨page, arrives value after ran⟩
  | failed failure => exact .inl (stays (by simp))
  | stalled => exact .inl (stays (by simp))

section

variable (listens : scenario.onRestart = [Scene.dropHandles])
  (attempts : 0 < scenario.settings.launchAttempts) {log : W -> List (Called T)}
  (logs : scenario.world.IsLog log)

include listens attempts logs

theorem Balances.of_hangs {task : Task} {number : Nat} {before after : Scene W}
    (placed : scenario.Placed before)
    (hung : scenario.retrier.Hangs (scenario.attemptOf task) number before after) :
    scenario.Balances 0 before after := by
  cases hung with
  | step ran =>
    obtain ⟨session, counts⟩ := attemptOf_standing ran
    exact ⟨⟨0, by rw [session]; rfl, counts⟩, .inl (scenario.attemptOf_stays ran (.inr (by simp)))⟩
  | @recovery between _ failure reopen ran kind present hung =>
    cases present
    obtain ⟨session, counts⟩ := attemptOf_standing ran
    have stayed := scenario.attemptOf_stays ran (.inr (by simp))
    have still : scenario.Placed (noteReinitialization between) :=
      fun page here => placed page (stayed ▸ here)
    have recovers := reopen_recovers listens attempts logs still hung
    refine ⟨⟨1, ?_, ?_⟩, .inl (recovers.stayed.trans stayed)⟩
    · rw [recovers.restarted]
      simp [noteReinitialization, session]
    · rw [recovers.counts]
      simp [noteReinitialization, counts]

theorem Move.balances {phase next : Phase T} {scene after : Scene W} {resets : Nat}
    (placed : scenario.Placed scene) (move : scenario.Move phase scene resets next after) :
    scenario.Balances resets scene after := by
  cases move with
  | begun held => exact .of_standing rfl
  | @retried _ _ _ _ _ trial tried retried timely =>
    have attempted := Attempted.of_tries listens attempts logs placed tried
    have failed : ∀ value, trial ≠ .passed value := by
      rintro value rfl
      simp [Trial.isRetried] at retried
    exact ⟨attempted.balances.counted, .inl (attempted.stayed (.inr failed))⟩
  | ended tried overdue => exact (Attempted.of_tries listens attempts logs placed tried).balances
  | hung hung => exact Balances.of_hangs listens attempts logs placed hung
  | noted ran => exact .of_standing (surrounds_standing.noted ran)
  | reset ran =>
    have restarts := restartSession_restarts listens attempts logs ran
    exact ⟨⟨0, by rw [restarts.restarted], by rw [restarts.counts]; rfl⟩, .inl restarts.stayed⟩
  | opened ran => exact openPage_balances ran
  | spent => exact .of_standing rfl

theorem Moves.sound {phase next : Phase T} {scene after : Scene W} {resets more : Nat}
    (moves : scenario.Moves phase scene more next after) (sound : scenario.Sound resets scene) :
    scenario.Sound (resets + more) after := by
  induction moves generalizing resets with
  | none => exact sound
  | @more _ _ _ _ _ _ here later move rest ih =>
    have balances := move.balances listens attempts logs sound.placed
    rw [← Nat.add_assoc]
    exact ih (balances.sound sound)

end

/-! ## Wherever a journey leads -/

theorem Reached.sound (listens : scenario.onRestart = [Scene.dropHandles])
    (attempts : 0 < scenario.settings.launchAttempts) {log : W -> List (Called T)}
    (logs : scenario.world.IsLog log) {resets : Nat} {phase : Phase T} {scene : Scene W}
    (reached : scenario.Reached resets phase scene) : scenario.Sound resets scene := by
  induction reached with
  | opening world files => exact ⟨rfl, by simp [Placed, Scene.opening]⟩
  | started _ ih =>
    exact (Balances.of_standing (start_follows surrounds_standing (fun _ => trivial) _).1).sound ih
  | closed _ ih => exact (Balances.of_standing (close_follows surrounds_standing _).1).sound ih
  | pictured _ path ih => exact (Balances.of_standing
      (captureScreenshot_follows surrounds_standing path (fun _ => trivial) _).1).sound ih
  | moved _ moves ih => exact moves.sound listens attempts logs ih

end Scenario

end Rehearsal
