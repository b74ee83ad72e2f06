import Rehearsal.Proofs.Activity.Conduct
import Rehearsal.Scene

/-!
Logs of calls. A log is something in a world that each call is added to, together with the fault
that it met. Any world can be made to keep one without a change to its answers.
-/

set_option autoImplicit false

namespace Rehearsal

structure Called (T : Type) where
  call : Call T
  fault? : Option Fault

namespace Called

variable {T : Type}

def of (call : Call T) : Except Fault call.Answer -> Called T
  | .ok _ => { call, fault? := none }
  | .error fault => { call, fault? := some fault }

def IsLost (called : Called T) : Prop :=
  ∃ fault, called.fault? = some fault ∧ (Failure.fault fault).isSessionLost = true

def AllLive (made : List (Called T)) : Prop := ∀ called ∈ made, ¬ called.IsLost

theorem allLive_nil : AllLive ([] : List (Called T)) := by simp [AllLive]

theorem allLive_append {made more : List (Called T)} :
    AllLive (made ++ more) ↔ AllLive made ∧ AllLive more := by
  simp [AllLive, or_imp, forall_and]

end Called

namespace World

variable {W T : Type}

/-- Calls are added to the end of the log, and nothing is while the world sleeps. -/
structure IsLog (world : World W T) (log : W -> List (Called T)) : Prop where
  performed : ∀ call state,
    log (world.perform call state).2 =
      log state ++ [Called.of call (world.perform call state).1]
  slept : ∀ span state, log (world.clock.sleep span state) = log state

def recorded (world : World W T) : World (W × List (Called T)) T where
  clock :=
    { now := fun state => world.clock.now state.1
      sleep := fun span state => (world.clock.sleep span state.1, state.2) }
  isClosed := fun state => world.isClosed state.1
  url := fun state => world.url state.1
  today := world.today
  perform := fun call state =>
    let (answer, after) := world.perform call state.1
    (answer, after, state.2 ++ [Called.of call answer])

theorem recorded_isLog (world : World W T) : world.recorded.IsLog Prod.snd where
  performed := fun _ _ => rfl
  slept := fun _ _ => rfl

def still [Scale T] (answer : (call : Call T) -> Except Fault call.Answer) : World Unit T where
  clock := { now := fun _ => Scale.zero, sleep := fun _ _ => () }
  isClosed := fun _ _ => false
  url := fun _ _ => ""
  today := 0
  perform := fun call _ => (answer call, ())

def pageClosed : Fault := ⟨.browser, "Target closed"⟩

/-- A page shows one match of everything, until it is closed by the first query of some kind. Any
other call finds it closed. -/
def closedBy (last : Query) : (call : Call T) -> Except Fault call.Answer
  | .query _ .count => if last = .count then .error pageClosed else .ok 1
  | .query _ .handle => if last = .handle then .error pageClosed else .ok none
  | _ => .error pageClosed

/-- A browser starts whenever it is asked to. Its pages show one match of everything, a field that
is enabled and stays empty whatever is done to it. Any other call finds the page closed. -/
def willing : (call : Call T) -> Except Fault call.Answer
  | .startDriver => .ok ()
  | .launch _ _ => .ok ⟨0⟩
  | .newContext _ => .ok ⟨0⟩
  | .newPage _ => .ok ⟨0⟩
  | .setPatience _ _ => .ok ()
  | .visit _ _ _ => .ok ()
  | .query _ .count => .ok 1
  | .query _ .handle => .ok none
  | .query _ .isEnabled => .ok true
  | .query _ .inputValue => .ok ""
  | .act _ _ => .ok ()
  | _ => .error pageClosed

end World

def Settings.plain : Settings :=
  { baseUrl := "", retryAttempts := 1, retryDelay := 0.0, defaultTimeout := 0.0
    navigationTimeout := 0.0, confirmTimeout := 0.0, pollInterval := 0.0, headless := true
    browserArguments := [], launchAttempts := 1, httpTimeout := 0.0, brokerEnabled := false
    brokerServers := "", brokerGroup := "", screenshotsOnFailure := false
    logRoot := Path.ofText "runs", eventLog := true, onRowFailure := .abort }

namespace Scenario

/-- One page with one element, which has one candidate, in a world that answers each call in one
way only and keeps a log. -/
def onePage (answer : (call : Call Rat) -> Except Fault call.Answer) :
    Scenario (Unit × List (Called Rat)) Rat :=
  let candidate : Candidate := { ordinal := 0, strategy := .id, value := "user" }
  let page : Page := { name := "login", path := "/login", elements := [("user", [candidate])] }
  .standard (World.still answer).recorded
    { pages := [("login", page)], tests := [], params := [] } .plain "run" 1

def onePageTarget : Target :=
  { page := ⟨0⟩, selector := Selector.build .id (Template.fill [] none "user"), index := none }

def onePageOpen : Scene (Unit × List (Called Rat)) :=
  { Scene.opening ((), []) (Files.empty "/") with
    session := { Session.idle with page := some ⟨0⟩ } }

end Scenario

namespace Scenario

variable {W T A : Type} {scenario : Scenario W T} {log : W -> List (Called T)}

def callsOf (log : W -> List (Called T)) (activity : Activity (Scene W) A) (scene : Scene W) :
    List (Called T) :=
  (log (activity scene).2.world).drop (log scene.world).length

theorem callsOf_of_append {activity : Activity (Scene W) A} {scene : Scene W}
    {made : List (Called T)} (grown : log (activity scene).2.world = log scene.world ++ made) :
    callsOf log activity scene = made := by
  rw [callsOf, grown, List.drop_left]

theorem call_ok {call : Call T} {scene after : Scene W} {answer : call.Answer}
    (ran : scenario.call call scene = (.ok answer, after)) :
    ∃ world, scenario.world.perform call scene.world = (.ok answer, world) ∧
      after = { scene with world } := by
  unfold Scenario.call at ran
  split at ran
  next performed =>
    cases ran
    exact ⟨_, performed, rfl⟩
  next => simp at ran

theorem call_cases (logs : scenario.world.IsLog log) (call : Call T) (scene : Scene W) :
    (∃ answer after, scenario.call call scene = (.ok answer, after) ∧
        log after.world = log scene.world ++ [⟨call, none⟩]) ∨
      ∃ fault after, scenario.call call scene = (.failed (.fault fault), after) ∧
        log after.world = log scene.world ++ [⟨call, some fault⟩] := by
  have performed := logs.performed call scene.world
  unfold Scenario.call
  split
  next answer after ran =>
    rw [ran] at performed
    exact .inl ⟨_, _, rfl, performed⟩
  next fault after ran =>
    rw [ran] at performed
    exact .inr ⟨_, _, rfl, performed⟩

/-! ## Kinds of calls -/

section

variable {N V : Type} {entries : W -> List N} {kind : N -> Prop} {view : Scene W -> V}

/-- What the world notes is of some kind only, and a view is kept. -/
def adding (entries : W -> List N) (kind : N -> Prop) (view : Scene W -> V) :
    Conduct (Scene W) where
  leads before after := view after = view before ∧
    ∃ made, entries after.world = entries before.world ++ made ∧ ∀ entry ∈ made, kind entry
  raises _ := True
  still scene := ⟨rfl, [], by simp, by simp⟩
  onward := by
    rintro first second third ⟨kept, made, grown, kinds⟩ ⟨keptOn, more, grownOn, kindsOn⟩
    refine ⟨keptOn.trans kept, made ++ more, by rw [grownOn, grown, List.append_assoc], ?_⟩
    simp only [List.mem_append]
    rintro entry (early | late)
    · exact kinds entry early
    · exact kindsOn entry late

theorem change_adding {update : Scene W -> Scene W}
    (idle : ∀ scene, (update scene).world = scene.world)
    (kept : ∀ scene, view (update scene) = view scene) :
    (Activity.change update).Follows (adding entries kind view) :=
  Activity.follows_change fun scene => ⟨kept scene, [], by simp [idle], by simp⟩

end

/-- An activity makes calls of some kind only. -/
def Adds (log : W -> List (Called T)) (kind : Called T -> Prop) (activity : Activity (Scene W) A) :
    Prop :=
  ∀ scene, ∃ made, log (activity scene).2.world = log scene.world ++ made ∧
    ∀ called ∈ made, kind called

variable {kind : Called T -> Prop}

theorem adds_of_follows {V : Type} {view : Scene W -> V} {activity : Activity (Scene W) A}
    (follows : activity.Follows (adding log kind view)) : Adds log kind activity :=
  fun scene => (follows scene).1.2

theorem adds_of_keeps {activity : Activity (Scene W) A}
    (keeps : activity.Keeps fun scene => log scene.world) : Adds log kind activity :=
  fun scene => ⟨[], by simpa using keeps scene, by simp⟩

theorem adds_call (logs : scenario.world.IsLog log) (call : Call T)
    (allowed : ∀ fault?, kind ⟨call, fault?⟩) : Adds log kind (scenario.call call) := by
  intro scene
  rcases call_cases logs call scene
    with ⟨answer, after, ran, grown⟩ | ⟨fault, after, ran, grown⟩
  all_goals
    rw [ran]
    exact ⟨_, grown, by simpa using allowed _⟩

theorem adds_attempt {activity : Activity (Scene W) A} (adds : Adds log kind activity) :
    Adds log kind activity.attempt := by
  intro scene
  have added := adds scene
  rw [Activity.attempt]
  rcases ran : activity scene with ⟨_ | _ | _, last⟩ <;> rw [ran] at added <;> exact added

theorem adds_bind {B : Type} {first : Activity (Scene W) A} {next : A -> Activity (Scene W) B}
    (before : Adds log kind first) (each : ∀ value, Adds log kind (next value)) :
    Adds log kind (first >>= next) := by
  intro scene
  obtain ⟨made, grown, kinds⟩ := before scene
  rw [Activity.bind_run]
  rcases ran : first scene with ⟨value | failure | _, between⟩ <;> rw [ran] at grown
  · obtain ⟨more, grownOn, kindsOn⟩ := each value between
    refine ⟨made ++ more, by rw [grownOn, grown, List.append_assoc], ?_⟩
    simp only [List.mem_append]
    rintro called (early | late)
    · exact kinds called early
    · exact kindsOn called late
  · exact ⟨made, grown, kinds⟩
  · exact ⟨made, grown, kinds⟩

end Scenario

end Rehearsal
