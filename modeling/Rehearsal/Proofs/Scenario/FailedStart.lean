import Rehearsal.Proofs.Scenario.OneBrowser
import Rehearsal.Proofs.Scenario.Raising

/-!
What a start that fails leaves behind. Each attempt at a session clears away what the one before it
has left, and nothing does so after the last one. So the session is back in its stopped state, with
every browser asked to close, exactly if the last attempt failed before it had a browser.
-/

set_option autoImplicit false

namespace Rehearsal

open Activity

abbrev Holdings := Option BrowserId × Option ContextId × Option PageId

/-- The browser that a session holds, its context and its page. -/
def Session.holdings (session : Session) : Holdings :=
  (session.browser, session.context, session.page)

theorem Session.holdings_eq {session : Session} {browser : Option BrowserId}
    {context : Option ContextId} {page : Option PageId} :
    session.holdings = (browser, context, page) ↔
      session.browser = browser ∧ session.context = context ∧ session.page = page := by
  simp [holdings]

namespace Scenario

variable {W T : Type}

/-- What an attempt at a session has come to hold when it makes a call. -/
inductive HeldAt : Call T -> Holdings -> Prop where
  | startDriver : HeldAt .startDriver (none, none, none)
  | launch {headless : Bool} {arguments : List String} :
      HeldAt (.launch headless arguments) (none, none, none)
  | newContext {browser : BrowserId} : HeldAt (.newContext browser) (some browser, none, none)
  | newPage {browser : BrowserId} {context : ContextId} :
      HeldAt (.newPage context) (some browser, some context, none)
  | setPatience {browser : BrowserId} {context : ContextId} {page : PageId} {limit : Quantity T} :
      HeldAt (.setPatience page limit) (some browser, some context, some page)

/-- A call that an attempt makes before it has a browser. -/
def PrecedesBrowser (call : Call T) : Prop :=
  call = .startDriver ∨ ∃ headless arguments, call = .launch headless arguments

/-- The calls that were made end with one that was refused, and what was held by then is left. -/
structure EndsRefused (transcript : W -> List (Answered T)) (before : Scene W)
    (made : List (Answered T)) (refused : Call T) (fault : Fault) (after : Scene W) : Prop where
  grown : transcript after.world = transcript before.world ++ made
  last : made.getLast? = some ⟨refused, .error fault⟩
  held : HeldAt refused after.session.holdings

/-- What was held before and what was launched since, apart from what is held after, was asked to
close. -/
def Tallies (before : Scene W) (made : List (Answered T)) (after : Scene W) : Prop :=
  before.session.browser.toList ++ launched made =
    askedToClose made ++ after.session.browser.toList

/-- The session is in its stopped state, and every browser was asked to close: the one that was
held before, and those that were launched since. -/
structure NothingRuns (before : Scene W) (made : List (Answered T)) (after : Scene W) : Prop where
  unheld : after.session.holdings = (none, none, none)
  closed : askedToClose made = before.session.browser.toList ++ launched made

/-- How an attempt at a session fails. -/
def FailsRefused (transcript : W -> List (Answered T)) (before : Scene W) (failure : Failure)
    (after : Scene W) : Prop :=
  ∃ made refused fault, failure = .fault fault ∧
    EndsRefused transcript before made refused fault after ∧ Tallies before made after

theorem HeldAt.precedes_iff {call : Call T} {held : Holdings} (heldAt : HeldAt call held) :
    PrecedesBrowser call ↔ held = (none, none, none) := by
  cases heldAt <;> simp [PrecedesBrowser]

theorem nothingRuns_iff {before after : Scene W} {made : List (Answered T)} {refused : Call T}
    (held : HeldAt refused after.session.holdings) (tallies : Tallies before made after) :
    NothingRuns before made after ↔ PrecedesBrowser refused := by
  rw [held.precedes_iff]
  refine ⟨NothingRuns.unheld, fun unheld => ⟨unheld, ?_⟩⟩
  have free : after.session.browser = none := congrArg Prod.fst unheld
  simpa [Tallies, free, eq_comm] using tallies

variable {scenario : Scenario W T} {transcript : W -> List (Answered T)}

/-! ## The call that is refused -/

section

variable {before between after : Scene W} {earlier made : List (Answered T)} {refused : Call T}
  {fault : Fault} {failure : Failure}

theorem EndsRefused.later (ends : EndsRefused transcript between made refused fault after)
    (grown : transcript between.world = transcript before.world ++ earlier) :
    EndsRefused transcript before (earlier ++ made) refused fault after where
  grown := by rw [ends.grown, grown, List.append_assoc]
  last := by rw [List.getLast?_append, ends.last, Option.some_or]
  held := ends.held

theorem Tallies.later (tallies : Tallies between made after)
    (first : Tallies before earlier between) :
    Tallies before (earlier ++ made) after := by
  rw [Tallies, launched_append, askedToClose_append, ← List.append_assoc, first,
    List.append_assoc, tallies, List.append_assoc]

theorem FailsRefused.later (fails : FailsRefused transcript between failure after)
    (grown : transcript between.world = transcript before.world ++ earlier)
    (tallies : Tallies before earlier between) : FailsRefused transcript before failure after := by
  obtain ⟨made, refused, fault, cause, ends, since⟩ := fails
  exact ⟨earlier ++ made, refused, fault, cause, ends.later grown, since.later tallies⟩

theorem tallies_of_aside (aside : Aside made)
    (kept : after.session.browser = before.session.browser) : Tallies before made after := by
  rw [Tallies, aside.unlaunched, aside.unasked, kept, List.append_nil, List.nil_append]

/-- A call that an attempt was refused neither launches a browser nor asks for one to close. -/
theorem HeldAt.tallies {call : Call T} {held : Holdings} (heldAt : HeldAt call held)
    (kept : after.session.browser = before.session.browser) :
    Tallies before [⟨call, .error fault⟩] after := by
  have idle : launched [(⟨call, .error fault⟩ : Answered T)] = [] ∧
      askedToClose [(⟨call, .error fault⟩ : Answered T)] = [] := by
    cases heldAt <;> exact ⟨rfl, rfl⟩
  rw [Tallies, idle.1, idle.2, kept, List.append_nil, List.nil_append]

end

/-! ## One attempt -/

section

variable (transcribes : scenario.world.IsTranscript transcript) {scene after : Scene W}
  {failure : Failure}

include transcribes

theorem call_fails {call : Call T} (held : HeldAt call scene.session.holdings)
    (ran : scenario.call call scene = (.failed failure, after)) :
    FailsRefused transcript scene failure after := by
  obtain ⟨answer, world, passed, -⟩ | ⟨fault, world, refused, grown⟩ :=
    call_answered transcribes call scene
  · cases passed.symm.trans ran
  · cases refused.symm.trans ran
    exact ⟨_, call, fault, rfl, ⟨grown, rfl, held⟩, held.tallies rfl⟩

/-- Either the first call is refused, or what comes after it fails. -/
theorem call_bind_fails {A : Type} {call : Call T} {next : call.Answer -> Activity (Scene W) A}
    (held : HeldAt call scene.session.holdings)
    (ran : (scenario.call call >>= next) scene = (.failed failure, after))
    (onward : ∀ answer world, transcript world = transcript scene.world ++ [⟨call, .ok answer⟩] →
      next answer { scene with world } = (.failed failure, after) →
      FailsRefused transcript scene failure after) :
    FailsRefused transcript scene failure after := by
  rw [bind_run] at ran
  rcases called : scenario.call call scene with ⟨answer | fault | _, between⟩ <;> rw [called] at ran
  · obtain ⟨passed, world, answered, grown⟩ | ⟨_, _, refused, -⟩ :=
      call_answered transcribes call scene
    · cases answered.symm.trans called
      exact onward _ world grown ran
    · cases refused.symm.trans called
  · cases ran
    exact call_fails transcribes held called
  · cases ran

variable [Scale T]

theorem furnish_fails {browser : BrowserId}
    (held : scene.session.holdings = (some browser, none, none))
    (ran : scenario.furnish browser scene = (.failed failure, after)) :
    FailsRefused transcript scene failure after := by
  obtain ⟨browsing, -, unpaged⟩ := Session.holdings_eq.mp held
  refine call_bind_fails transcribes (held ▸ .newContext) ran fun context _ grown ran => ?_
  rw [change_bind_run] at ran
  refine (call_bind_fails transcribes ?_ ran fun page _ grown ran => ?_).later grown
    (tallies_of_aside (aside_of_plain ?_) rfl)
  · simp only [Session.holdings, Scene.setSession, browsing, unpaged]
    exact .newPage
  · rw [change_bind_run] at ran
    refine (call_fails transcribes ?_ ran).later grown (tallies_of_aside (aside_of_plain ?_) rfl)
    · simp only [Session.holdings, Scene.setSession, browsing]
      exact .setPatience
    · simp [Answered.IsPlain, Call.resource?]
  · simp [Answered.IsPlain, Call.resource?]

theorem provide_fails (held : scene.session.holdings = (none, none, none))
    (ran : scenario.provide scene = (.failed failure, after)) :
    FailsRefused transcript scene failure after := by
  obtain ⟨free, unbound, unpaged⟩ := Session.holdings_eq.mp held
  rw [provide_eq] at ran
  dsimp only at ran
  refine call_bind_fails transcribes ?_ ran fun browser launched grown ran => ?_
  · simp only [Session.holdings, free, unbound, unpaged]
    exact .launch
  · rw [change_bind_run] at ran
    refine (furnish_fails transcribes ?_ ran).later grown ?_
    · simp only [Session.holdings, Scene.setSession, unbound, unpaged]
    · rw [Tallies, free]
      rfl

theorem launch_fails (held : scene.session.holdings = (none, none, none))
    (ran : scenario.launch scene = (.failed failure, after)) :
    FailsRefused transcript scene failure after := by
  rw [launch_run] at ran
  split at ran
  · exact provide_fails transcribes held ran
  · refine call_bind_fails transcribes (held ▸ .startDriver) ran fun _ driven grown ran => ?_
    rw [change_bind_run] at ran
    refine (provide_fails transcribes (by exact held) ran).later grown
      (tallies_of_aside (aside_of_plain ?_) rfl)
    simp [Answered.IsPlain, Call.resource?]

/-! ## All attempts -/

theorem launchAnew_fails (ran : scenario.launchAnew scene = (.failed failure, after)) :
    FailsRefused transcript scene failure after := by
  obtain ⟨made, world, closed, grown, asked⟩ := scenario.closeBrowser_clears transcribes scene
  rw [launchAnew, bind_run, closed] at ran
  refine (launch_fails transcribes (by rfl) ran).later grown ?_
  obtain ⟨free, rfl⟩ | ⟨browser, answer, held, rfl⟩ := asked
  · rw [Tallies, free]
    rfl
  · rw [Tallies, held]
    rfl

theorem LaunchTries.fails {made : Nat}
    (tries : scenario.LaunchTries made scene (.failed failure) after) :
    FailsRefused transcript scene failure after := by
  generalize ended : Outcome.failed failure = outcome at tries
  -- By induction on the attempts: what the ones before the last have left is cleared away.
  induction tries with
  | last ran =>
    cases ended
    exact launchAnew_fails transcribes ran
  | @again _ _ between _ _ _ failed rest ih =>
    obtain ⟨made, _, _, -, ends, tallies⟩ := launchAnew_fails transcribes failed
    have slept := transcribes.slept (Scale.hundredths 200) between.world
    exact (ih ended).later (slept.trans ends.grown) tallies

theorem startSession_fails {raised : Failure}
    (ran : scenario.startSession scene = (.failed raised, after)) :
    ∃ failure, raised = .launchFailed scenario.settings.launchAttempts failure ∧
      FailsRefused transcript scene failure after := by
  rcases Nat.eq_zero_or_pos scenario.settings.launchAttempts with none | attempts
  · rw [startSession, none] at ran
    cases ran
  · obtain ⟨made, result, tries, -, ends⟩ := launchAttempts_tries transcribes attempts ran
    obtain ⟨failure, rfl, -, raises⟩ : ∃ failure, result = .failed failure ∧ made = _ ∧
        raised = .launchFailed scenario.settings.launchAttempts failure := by
      simpa using ends
    exact ⟨failure, raises, tries.fails transcribes⟩

theorem sessionCall_fails {call : SessionCall} {raised : Failure}
    (ran : scenario.sessionCall call scene = (.failed raised, after)) :
    ∃ failure, raised = .launchFailed scenario.settings.launchAttempts failure ∧
      FailsRefused transcript scene failure after := by
  cases call with
  | start => exact startSession_fails transcribes ran
  | restart =>
    rw [sessionCall, restartSession_run] at ran
    rcases started : scenario.startSession (countRestart scene) with ⟨_ | _ | _, between⟩ <;>
      rw [started] at ran <;> cases ran
    obtain ⟨failure, raises, fails⟩ := startSession_fails transcribes started
    -- To count a restart makes no call and changes nothing of what is held.
    refine ⟨failure, raises, fails.later (List.append_nil _).symm ?_⟩
    exact tallies_of_aside (aside_of_plain (by simp)) rfl
  | close => exact absurd (congrArg Prod.fst ran) fun raises =>
      (scenario.closeSession_ends (fun _ => False) scene).2 raised raises

/-- A start that fails tells that the session is out of reach, and its last call was refused. It
leaves nothing running exactly if that call came before there was a browser: otherwise the session
keeps its last browser, which nobody has asked to close. -/
theorem failed_starts_leave_nothing_iff {call : SessionCall} {raised : Failure}
    (ran : scenario.sessionCall call scene = (.failed raised, after)) :
    raised.kind? = some .sessionUnreachable ∧
    ∃ made refused fault,
      raised = .launchFailed scenario.settings.launchAttempts (.fault fault) ∧
      EndsRefused transcript scene made refused fault after ∧ Tallies scene made after ∧
      (NothingRuns scene made after ↔ PrecedesBrowser refused) := by
  obtain ⟨_, rfl, made, refused, fault, rfl, ends, tallies⟩ := sessionCall_fails transcribes ran
  exact ⟨rfl, made, refused, fault, rfl, ends, tallies, nothingRuns_iff ends.held tallies⟩

end

/-! ## A machine that has no room for a second browser -/

/-- The first browser starts, but gets no context; no other browser starts. -/
def narrow : World Nat Rat where
  clock := { now := fun _ => 0, sleep := fun _ launched => launched }
  isClosed := fun _ _ => false
  url := fun _ _ => ""
  today := 0
  perform
    | .launch _ _, launched =>
      (if launched = 0 then .ok ⟨0⟩ else .error ⟨.browser, "no display"⟩, launched + 1)
    | .newContext _, launched => (.error ⟨.browser, "no memory"⟩, launched)
    | call, launched => (World.willing call, launched)

def cramped (attempts : Nat) : Scenario (Nat × List (Answered Rat)) Rat :=
  .standard narrow.transcribed { pages := [], tests := [], params := [] }
    { Settings.plain with launchAttempts := attempts } "run" 1

def unopened : Scene (Nat × List (Answered Rat)) := Scene.opening (0, []) (Files.empty "/")

/-- The second attempt asks the browser of the first one to close, and gets none itself. -/
theorem second_attempt_leaves_nothing :
    ∃ raised after,
      (cramped 2).sessionCall .restart unopened = (.failed raised, after) ∧
      raised.kind? = some .sessionUnreachable ∧ NothingRuns unopened after.world.2 after ∧
      launched after.world.2 = [⟨0⟩] := by
  have transcribes : (cramped 2).world.IsTranscript Prod.snd := World.transcribed_isTranscript _
  obtain ⟨raised, failed⟩ : ∃ raised, ((cramped 2).sessionCall .restart unopened).1 =
      .failed raised := ⟨_, rfl⟩
  have bare : ((cramped 2).sessionCall .restart unopened).2.session.holdings =
      (none, none, none) := rfl
  have once : launched ((cramped 2).sessionCall .restart unopened).2.world.2 = [⟨0⟩] := by
    decide +kernel
  rcases ran : (cramped 2).sessionCall .restart unopened with ⟨_, after⟩
  rw [ran] at failed bare once
  obtain rfl := failed
  obtain ⟨unreachable, made, refused, _, -, ends, -, nothing⟩ :=
    failed_starts_leave_nothing_iff transcribes ran
  obtain rfl : after.world.2 = made := ends.grown
  exact ⟨raised, after, rfl, unreachable, nothing.mpr (ends.held.precedes_iff.mpr bare), once⟩

/-- There is one attempt only, and nothing comes after it that would ask its browser to close. -/
theorem last_attempt_leaves_browser :
    let after := ((cramped 1).sessionCall .start unopened).2
    ((cramped 1).sessionCall .start unopened).1 =
        .failed (.launchFailed 1 (.fault ⟨.browser, "no memory"⟩)) ∧
      after.session.browser = some ⟨0⟩ ∧ launched after.world.2 = [⟨0⟩] ∧
      askedToClose after.world.2 = [] ∧ ¬ NothingRuns unopened after.world.2 after := by
  intro after
  have held : after.session.browser = some ⟨0⟩ := rfl
  refine ⟨rfl, held, by decide +kernel, by decide +kernel, fun nothing => ?_⟩
  cases (congrArg Prod.fst nothing.unheld).symm.trans held

end Scenario

end Rehearsal
