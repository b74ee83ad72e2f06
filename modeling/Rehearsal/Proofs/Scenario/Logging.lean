import Rehearsal.Proofs.Activity.Contract
import Rehearsal.Proofs.Files.Appending
import Rehearsal.Proofs.Scenario.Attempt
import Rehearsal.Proofs.Time.RetryOutcome
import Rehearsal.Scenario.Replay

/-!
What a scenario writes down. Neither the attempts at a step nor what recovers a lost session touches
the log, so the log grows by one event where a step's retries have come to an answer and nowhere
else; and the number of attempts that is written down is the number of those made.
-/

set_option autoImplicit false

namespace Rehearsal

open Activity

/-! ## What attempts and recoveries leave alone -/

namespace Scene

variable {W V : Type}

/-- A view that shows nothing of what attempts and recoveries change. -/
structure Apart (view : Scene W -> V) : Prop extends Blind view where
  session : ∀ scene session, view { scene with session } = view scene
  currentPage : ∀ scene currentPage, view { scene with currentPage } = view scene

def ledger (scene : Scene W) : Option EventLog × Files := (scene.log, scene.files)

theorem apart_ledger : Apart (ledger (W := W)) where
  world _ _ := rfl
  handles _ _ := rfl
  resolutions _ _ := rfl
  snapshots _ _ := rfl
  broker _ _ := rfl
  cookieJar _ _ := rfl
  session _ _ := rfl
  currentPage _ _ := rfl

end Scene

namespace Scenario

variable {W T V A : Type} [Scale T] {scenario : Scenario W T} {view : Scene W -> V}

theorem attemptOf_keeps_apart (apart : Scene.Apart view) (task : Task) :
    (scenario.attemptOf task).Keeps view :=
  scenario.attemptOf_keeps apart.toBlind task fun _ _ scene => apart.currentPage scene _

theorem openPage_keeps_apart (apart : Scene.Apart view) (page : String) :
    (scenario.openPage page).Keeps view :=
  scenario.openPage_keeps page view apart.world fun _ =>
    (apart.currentPage _ _).trans (apart.handles _ _)

section

variable (listens : scenario.onRestart = [Scene.dropHandles])

include listens

theorem restartSession_keeps_apart (apart : Scene.Apart view) :
    scenario.restartSession.Keeps view := fun scene =>
  (restartSession_keeps listens view ⟨apart.world, fun _ _ _ => apart.session _ _⟩
    (fun _ => apart.handles _ _) scene).trans (apart.session _ _)

theorem reopen_keeps (apart : Scene.Apart view) : scenario.reopen.Keeps view := by
  refine keeps_bind (restartSession_keeps_apart listens apart) fun _ => ?_
  refine keeps_bind (keeps_look _) fun page => ?_
  cases page with
  | none => exact keeps_pure _
  | some page => exact keeps_bind (openPage_keeps_apart apart page) fun _ => keeps_pure _

theorem resetFor_keeps (apart : Scene.Apart view) (test : Test) :
    (scenario.resetFor test).Keeps view := by
  unfold resetFor
  split
  · refine keeps_bind (restartSession_keeps_apart listens apart) fun _ => ?_
    split
    · split
      · exact keeps_bind (openPage_keeps_apart apart _) fun _ => keeps_pure _
      · exact keeps_pure _
    · exact keeps_pure _
  · exact keeps_pure _

theorem retry_keeps_ledger (description : String) (task : Task) :
    (scenario.retry description (scenario.attemptOf task)).Keeps Scene.ledger := by
  intro scene
  have reopens := reopen_keeps listens Scene.apart_ledger
  have steps := scenario.attemptOf_keeps_apart Scene.apart_ledger task
  have suits : scenario.retrier.Suits (fun later => later.ledger = scene.ledger) fun _ => True :=
    { attempts := fun _ _ same => same
      reinitializations := fun _ same => same
      sleeps := fun _ _ same => same
      reopens := by
        rintro _ ⟨⟩ later same
        exact ⟨(reopens later).trans same, by cases (scenario.reopen later).1 <;> trivial⟩
      timesOut := fun _ _ => trivial
      overflows := trivial }
  have ensures : (scenario.attemptOf task).Ensures (fun later => later.ledger = scene.ledger)
      ⟨fun _ => True, fun _ => True⟩ := by
    intro later same
    exact ⟨(steps later).trans same, by cases (scenario.attemptOf task later).1 <;> trivial⟩
  exact (Retrier.run_ensures suits ensures scenario.fuel description scene rfl).1

end

/-! ## Attempts that are counted -/

/-- The retries of a task that came to an answer made as many attempts as were counted. -/
def Made (scenario : Scenario W T) (task : Task) (before after : Scene W) (count : Nat) : Prop :=
  ∃ budget earlier last,
    scenario.retrier.policy.budget? = some budget ∧
    scenario.retrier.Ends (scenario.attemptOf task)
      (Scale.add (scenario.clock.now before) budget) 0 before earlier last after ∧
    count = earlier.length + 1

/-- A log that is open when `before` is reached is given these events until `after`. -/
def Logs (before : Scene W) (events : List Event) (after : Scene W) : Prop :=
  ∀ log bytes, before.log = some log → before.files.Holds log.file bytes →
    after.log = some { log with steps := log.steps + events.length } ∧
      after.files.Holds log.file (bytes ++ (log.written events).toUTF8)

variable {before between after : Scene W} {events later : List Event}

theorem logs_nothing (same : after.ledger = before.ledger) : Logs before [] after := by
  intro log bytes opened held
  obtain ⟨kept, files⟩ := Prod.mk.inj same
  refine ⟨kept.trans opened, ?_⟩
  simpa [EventLog.written, files] using held

theorem Logs.trans (first : Logs before events between) (second : Logs between later after) :
    Logs before (events ++ later) after := by
  intro log bytes opened held
  obtain ⟨kept, grown⟩ := first log bytes opened held
  obtain ⟨keptOn, grownOn⟩ := second _ _ kept grown
  refine ⟨?_, ?_⟩
  · rw [keptOn, List.length_append, Nat.add_assoc]
  · rw [EventLog.written_append]
    simpa [ByteArray.append_assoc] using grownOn

omit [Scale T] in
/-- An event is logged whether it can be written or not. -/
theorem record_logs {event : Nat -> Event} {ending : Outcome Unit}
    (ran : scenario.record event before = (ending, after)) :
    Logs before [event before.counts.lastAttempts] after := by
  intro log bytes opened held
  unfold record at ran
  rw [opened] at ran
  dsimp only at ran
  have written : log.written [event before.counts.lastAttempts] =
      log.entry (event before.counts.lastAttempts) := by
    simp [EventLog.written]
  rcases EventLog.add_of_holds held (event before.counts.lastAttempts) with
    ⟨-, grown, added, holds⟩ | ⟨-, added, nothing⟩
  · rw [added] at ran
    cases ran
    rw [written]
    exact ⟨rfl, holds⟩
  · rw [added] at ran
    cases ran
    rw [written, nothing]
    exact ⟨rfl, by simpa using held⟩

/-! ## The log that a start opens -/

end Scenario

end Rehearsal
