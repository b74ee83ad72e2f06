import Rehearsal.Proofs.Activity.Settling
import Rehearsal.Proofs.Scenario.Discovery

/-!
Looking for an element on a page that does not change, whatever the page answers, errors included.
Each way of looking settles on an outcome that is a function of the answers.
-/

set_option autoImplicit false

namespace Rehearsal

open Activity

/-- Goes through the items up to the first that comes to something; an error is the end as well. -/
def firstOf {A B : Type} [DecidableEq B] (nothing : B) (look : A -> Except Failure B) :
    List A -> Except Failure B
  | [] => .ok nothing
  | item :: rest => do
    let seen ← look item
    if seen = nothing then firstOf nothing look rest else return seen

/-! ## Answers -/

/-- What a page answers to each query about a selector or one of its matches, at all times. -/
def PageView : Type :=
  (selector : String) -> (index : Option Nat) -> (asked : Query) -> Except Fault asked.Answer

namespace PageView

def ask (view : PageView) (selector : String) (index : Option Nat) (asked : Query) :
    Except Failure asked.Answer :=
  Failure.lift (view selector index asked)

def count (view : PageView) (selector : String) : Except Failure Nat :=
  view.ask selector none .count

end PageView

namespace Scenario

/-- Whether a test holds for one of so many matches, as far as they are looked at. -/
def amongMatches (count : Nat) (shows : Nat -> Except Failure Bool) : Except Failure Bool :=
  firstOf false shows (List.range (min count mostMatches))

/-- The conditions of a wait for which one match of an element is enough. -/
inductive Sign where
  | visible
  | clickable
  | present
  | textPresent (text : String)

namespace Sign

def condition : Sign -> WaitCondition
  | .visible => .visible
  | .clickable => .clickable
  | .present => .present
  | .textPresent text => .textPresent text

variable {W T : Type}

def test (scenario : Scenario W T) (row : Option Row) : Sign -> Target -> Activity (Scene W) Bool
  | .visible => scenario.anyMatch scenario.isVisible
  | .clickable => scenario.anyMatch scenario.isClickable
  | .present => scenario.hasMatch
  | .textPresent text => scenario.anyMatch (scenario.showsText (scenario.fill row text))

/-- What a sign comes to for a selector with so many matches. -/
def among (fill : String -> String) (view : PageView) (selector : String) :
    Sign -> Nat -> Except Failure Bool
  | .visible, count => amongMatches count fun index => view.ask selector (some index) .isVisible
  | .clickable, count => amongMatches count fun index => do
    if ← view.ask selector (some index) .isVisible then view.ask selector (some index) .isEnabled
    else return false
  | .present, count => return 0 < count
  | .textPresent text, count => amongMatches count fun index => do
    return Text.contains (← view.ask selector (some index) .innerText) (fill text)

/-- What a sign comes to for a selector. -/
def look (fill : String -> String) (view : PageView) (selector : String) (sign : Sign) :
    Except Failure Bool := do
  sign.among fill view selector (← view.count selector)

end Sign

end Scenario

/-! ## Activities -/

section

variable {W T : Type}

/-- Worlds of some kind, in which a page answers ever the same. -/
structure World.Steady (world : World W T) (live : PageId) (view : PageView) (holds : W -> Prop) :
    Prop where
  opened : ∀ state, holds state → world.isClosed state live = false
  answered : ∀ selector index asked state, holds state → ∃ after,
    world.perform (.query { page := live, selector, index } asked) state =
      (view selector index asked, after) ∧ holds after
  slept : ∀ span state, holds state → holds (world.clock.sleep span state)

/-- The session rests on a page, and so many elements have been found so far, by which number the
next one is told apart. -/
def Scene.Stays (live : PageId) (found : Nat) (holds : W -> Prop) (scene : Scene W) : Prop :=
  scene.Rests live holds ∧ scene.resolutions = found

namespace Scenario

def waitPolling [Scale T] (scenario : Scenario W T) (header : Header) (wait : Wait) : Polling T :=
  scenario.polling .waitTimeout (scenario.effectiveTimeout header)
    s!"wait '{wait.condition.kind}' on {subjectOf header.element}"

/-- What a sign comes to for a candidate. -/
def signOf (scenario : Scenario W T) (row : Option Row) (view : PageView) (sign : Sign)
    (candidate : Candidate) : Except Failure Bool :=
  sign.look (scenario.fill row) view (scenario.selectorOf row candidate)

/-- What polling for a candidate and its handle come to. -/
def awaited [Scale T] (scenario : Scenario W T) (row : Option Row) (view : PageView)
    (candidate : Candidate) (polling : Polling T) : Except Failure (Option Handle) := do
  polling.settled none (scenario.signOf row view .present candidate)
  view.ask (scenario.selectorOf row candidate) (some 0) .handle

def counts (scenario : Scenario W T) (row : Option Row) (view : PageView)
    (candidate : Candidate) : Except Failure Nat :=
  view.count (scenario.selectorOf row candidate)

variable {scenario : Scenario W T} {live : PageId} {view : PageView} {found : Nat}
  {holds : W -> Prop} {page element : String} {row : Option Row} {candidate : Candidate}
  {candidates : List Candidate} {scene : Scene W} {header : Header} {sign : Sign}
  (steady : scenario.world.Steady live view holds)

include steady

theorem ask_settles (selector : String) (index : Option Nat) (asked : Query) :
    (scenario.ask { page := live, selector, index } asked).Settles (Scene.Stays live found holds)
      (view.ask selector index asked) := by
  rintro scene ⟨⟨held, rests⟩, kept⟩
  obtain ⟨after, performed, stays⟩ := steady.answered selector index asked scene.world rests
  rw [ask, call, performed, PageView.ask]
  cases view selector index asked <;> exact ⟨⟨⟨held, stays⟩, kept⟩, rfl⟩

omit steady in
theorem anyOf_settles {A : Type} {required : Scene W -> Prop}
    {test : A -> Activity (Scene W) Bool} {shows : A -> Except Failure Bool}
    (tests : ∀ item, (test item).Settles required (shows item)) (items : List A) :
    (anyOf test items).Settles required (firstOf false shows items) := by
  induction items with
  | nil => exact settles_pure false
  | cons item rest ih =>
    refine settles_bind (tests item) fun passed => ?_
    cases passed with
    | false => exact ih
    | true => exact settles_pure true

theorem anyMatch_settles {test : Target -> Activity (Scene W) Bool}
    {shows : Nat -> Except Failure Bool} (selector : String)
    (tests : ∀ index, (test { page := live, selector, index := some index }).Settles
      (Scene.Stays live found holds) (shows index)) :
    (scenario.anyMatch test { page := live, selector, index := none }).Settles
      (Scene.Stays live found holds) (view.count selector >>= (amongMatches · shows)) :=
  settles_bind (ask_settles steady selector none .count) fun _ => anyOf_settles tests _

theorem Sign.test_settles (sign : Sign) (row : Option Row) (selector : String) :
    (sign.test scenario row { page := live, selector, index := none }).Settles
      (Scene.Stays live found holds) (sign.look (scenario.fill row) view selector) := by
  have asks : ∀ index asked, (scenario.ask { page := live, selector, index := some index }
      asked).Settles (Scene.Stays live found holds) (view.ask selector (some index) asked) :=
    fun index => ask_settles steady selector (some index)
  cases sign with
  | visible => exact anyMatch_settles steady selector fun index => asks index .isVisible
  | clickable =>
    refine anyMatch_settles steady selector fun index => ?_
    refine settles_bind (asks index .isVisible) fun shown => ?_
    cases shown with
    | false => exact settles_pure false
    | true => exact asks index .isEnabled
  | present => exact settles_bind (ask_settles steady selector none .count) fun _ => settles_pure _
  | textPresent text =>
    refine anyMatch_settles steady selector fun index => ?_
    exact settles_bind (asks index .innerText) fun _ => settles_pure _

theorem firstCount_settles (row : Option Row) (candidates : List Candidate) :
    (scenario.firstCount (candidates.map (scenario.leadOf live row))).Settles
      (Scene.Stays live found holds) (firstOf 0 (scenario.counts row view) candidates) := by
  induction candidates with
  | nil => exact settles_pure 0
  | cons candidate rest ih =>
    refine settles_bind (ask_settles steady _ none .count) fun (count : Nat) => ?_
    cases count with
    | zero => exact ih
    | succ count => exact settles_pure (count + 1)

theorem isLive_of_stays (stays : scene.Stays live found holds) : scenario.IsLive scene live :=
  ⟨stays.1.1, steady.opened scene.world stays.1.2⟩

theorem countMatches_settles (row : Option Row)
    (listed : scenario.catalog.candidates page element = .ok candidates) :
    (scenario.countMatches page element row).Settles (Scene.Stays live found holds)
      (firstOf 0 (scenario.counts row view) candidates) := by
  intro scene stays
  rw [countMatches, bind_run, leads_of_live (isLive_of_stays steady stays) listed]
  exact firstCount_settles steady row candidates scene stays

theorem anyLead_settles (sign : Sign) (row : Option Row)
    (listed : scenario.catalog.candidates page element = .ok candidates) :
    (scenario.anyLead page element row (sign.test scenario row)).Settles
      (Scene.Stays live found holds)
      (firstOf false (scenario.signOf row view sign) candidates) := by
  intro scene stays
  rw [anyLead, bind_run, leads_of_live (isLive_of_stays steady stays) listed]
  dsimp only
  rw [anyOf_map]
  exact anyOf_settles (fun candidate => sign.test_settles steady row _) candidates scene stays

theorem stays_slept (span : T) (scene : Scene W) (stays : scene.Stays live found holds) :
    (scenario.clock.sleep span scene).Stays live found holds :=
  ⟨⟨stays.1.1, steady.slept span scene.world stays.1.2⟩, stays.2⟩

variable [Scale T]

theorem awaitLead_settles (element : String) (timeout : T) (row : Option Row)
    (candidate : Candidate) :
    (scenario.awaitLead element timeout (scenario.leadOf live row candidate)).Settles
      (Scene.Stays live found holds)
      (scenario.awaited row view candidate
        (scenario.leadPolling element timeout (scenario.leadOf live row candidate))) := by
  refine settles_bind ?_ fun _ => ask_settles steady _ (some 0) .handle
  exact Polling.test_settles (stays_slept steady) (Sign.test_settles steady .present row _) _

omit steady in
theorem await_sign (scenario : Scenario W T) (row : Option Row) {wait : Wait}
    (waits : header.wait = some wait) (signed : wait.condition = sign.condition) :
    scenario.await header row =
      (scenario.waitPolling header wait).test scenario.clock scenario.fuel
        (scenario.anyLead (header.page.getD "") (header.element.getD "") row
          (sign.test scenario row)) := by
  simp only [await, waits, signed, waitPolling]
  cases sign <;> rfl

theorem await_settles (row : Option Row) {wait : Wait}
    (listed : scenario.catalog.candidates (header.page.getD "") (header.element.getD "") =
      .ok candidates)
    (waits : header.wait = some wait) (signed : wait.condition = sign.condition) :
    (scenario.await header row).Settles (Scene.Stays live found holds)
      ((scenario.waitPolling header wait).settled none
        (firstOf false (scenario.signOf row view sign) candidates)) := by
  rw [await_sign scenario row waits signed]
  exact Polling.test_settles (stays_slept steady) (anyLead_settles steady sign row listed) _

end Scenario

end

end Rehearsal
