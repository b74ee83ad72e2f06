import Mathlib.Data.List.DropRight
import Rehearsal.Proofs.Activity.Settling
import Rehearsal.Proofs.Scenario.Mutations

/-!
What becomes of an interaction when the page echoes it. A field that reports a value as it was
written is confirmed to have it. Of a list this only holds if the label is trimmed: the texts that
the page reports are trimmed before they are compared, but the label is not.
-/

set_option autoImplicit false

namespace Rehearsal

open Activity

namespace Text

theorem dropWhile_trimChars (drop : Char -> Bool) (text : List Char) :
    (trimChars drop text).dropWhile drop = trimChars drop text := by
  have front : trimChars drop text <+: text.dropWhile drop := by
    rw [trimChars, ← List.reverse_suffix, List.reverse_reverse]
    exact List.dropWhile_suffix _
  -- What comes first in a trimmed text was first already when the front was dropped.
  cases trimmed : trimChars drop text with
  | nil => rfl
  | cons first rest =>
    rw [trimmed] at front
    obtain ⟨more, same⟩ := front
    have head := List.head?_dropWhile_not drop text
    rw [← same] at head
    have kept : drop first = false := by simpa using head
    exact List.dropWhile_cons_of_neg (by simp [kept])

theorem trimChars_trimChars (drop : Char -> Bool) (text : List Char) :
    trimChars drop (trimChars drop text) = trimChars drop text := by
  rw [trimChars, dropWhile_trimChars]
  nth_rewrite 1 [trimChars]
  rw [List.reverse_reverse, List.dropWhile_idempotent]
  rfl

theorem trim_trim (text : String) : trim (trim text) = trim text := by
  rw [trim, trim, String.toList_ofList, trimChars_trimChars]

end Text

/-- As long as the world is of some kind, it answers a query in some way and stays of that kind. -/
structure World.Echoes {W T : Type} (world : World W T) (target : Target) (asked : Query)
    (reports : asked.Answer -> Prop) (holds : W -> Prop) : Prop where
  answered : ∀ state, holds state → ∃ answer after,
    world.perform (.query target asked) state = (.ok answer, after) ∧ reports answer ∧ holds after
  slept : ∀ span state, holds state → holds (world.clock.sleep span state)

/-- A list that reports a label as it was asked for shows it if that label is trimmed. -/
theorem Mutation.shows_select_iff {label : String} {texts : List String}
    (echoed : label ∈ texts) :
    (Mutation.select label).shows texts = true ↔ Text.trim label = label := by
  rw [shows, List.contains_iff_mem, List.mem_map]
  constructor
  · rintro ⟨text, -, trimmed⟩
    rw [← trimmed, Text.trim_trim]
  · intro trimmed
    exact ⟨label, echoed, trimmed⟩

namespace Scenario

section

variable {W T : Type} {scenario : Scenario W T} {target : Target} {mutation : Mutation}
  {reports : mutation.asked.Answer -> Prop} {holds : W -> Prop} {shown : Bool}

theorem test_of_echoes (echoes : scenario.world.Echoes target mutation.asked reports holds)
    (same : ∀ answer, reports answer → mutation.shows answer = shown) {scene : Scene W}
    (held : holds scene.world) :
    ∃ after, mutation.test scenario target scene = (.ok shown, after) ∧ holds after.world := by
  obtain ⟨answer, after, answered, reported, stays⟩ := echoes.answered scene.world held
  refine ⟨{ scene with world := after }, ?_, stays⟩
  rw [Mutation.test, bind_run, ask, call, answered]
  exact congrArg (fun shown => (Outcome.ok shown, _)) (same answer reported)

variable [Scale T] {patience : Patience T} {timeout : T} {scene changed : Scene W}

theorem run_of_made
    (made : mutation.make scenario target patience.limit scene = (.ok (), changed)) :
    mutation.run scenario target patience timeout scene =
      (mutation.polling timeout).test scenario.clock scenario.fuel (mutation.test scenario target)
        changed := by
  rw [Mutation.run_eq, bind_run, made]

variable (made : mutation.make scenario target patience.limit scene = (.ok (), changed))
  (echoes : scenario.world.Echoes target mutation.asked reports holds) (held : holds changed.world)

include made echoes held

theorem run_of_shown (looks : 0 < scenario.fuel)
    (same : ∀ answer, reports answer → mutation.shows answer = true) :
    (mutation.run scenario target patience timeout scene).1 = .ok () := by
  obtain ⟨spare, fuel⟩ := Nat.exists_eq_add_one_of_ne_zero looks.ne'
  -- The first look finds the change already.
  obtain ⟨after, tested, -⟩ := test_of_echoes echoes same held
  have found : Polling.Finds (Polling.probing (mutation.test scenario target)) changed
      (.found ()) after := .found (by rw [Polling.probing_run, tested])
  rw [run_of_made made, Polling.test_eq_run, Polling.run, fuel, Polling.rounds_of_finds found]
  rfl

theorem run_of_unshown (same : ∀ answer, reports answer → mutation.shows answer = false)
    (ended : (mutation.run scenario target patience timeout scene).1 ≠ .stalled) :
    ∃ failure, (mutation.run scenario target patience timeout scene).1 = .failed failure ∧
      failure.kind? = some .mutationNotConfirmed := by
  have sleeps : ∀ span (scene : Scene W), holds scene.world →
      holds (scenario.clock.sleep span scene).world :=
    fun span scene => echoes.slept span scene.world
  have tests : (mutation.test scenario target).Settles (fun scene => holds scene.world)
      (.ok false) := by
    intro scene held
    obtain ⟨after, tested, stays⟩ := test_of_echoes echoes same held
    rw [tested]
    exact ⟨stays, rfl⟩
  rw [run_of_made made] at ended ⊢
  exact ⟨_, (Polling.test_settles sleeps tests scenario.fuel).outcome held ended, rfl⟩

end

end Scenario

/-- A list that goes on to report the label it was asked for is confirmed if and only if that label
is trimmed, and if it is not, the time for the confirmation runs out. A field that goes on to report
its value is always confirmed. -/
theorem selection_is_confirmed_iff_trimmed {W : Type} (target : Target) (text : String) :
    (∀ {T : Type} [Scale T] {scenario : Scenario W T} {holds : W -> Prop}
        {patience : Patience T} {scene changed : Scene W} (timeout : T),
      0 < scenario.fuel → holds changed.world →
        ((Mutation.select text).make scenario target patience.limit scene = (.ok (), changed) →
          scenario.world.Echoes target .selection (text ∈ ·) holds →
            ((scenario.selectOption target text patience timeout scene).1 = .ok () ↔
              Text.trim text = text)) ∧
        ((Mutation.fill text).make scenario target patience.limit scene = (.ok (), changed) →
          scenario.world.Echoes target .inputValue (· = text) holds →
            (scenario.fillField target text patience timeout scene).1 = .ok ())) ∧
    ∀ {scenario : Scenario W Rat} {holds : W -> Prop} {patience : Patience Rat}
        {scene changed : Scene W} (timeout : Rat),
      scenario.KeepsTime → ((Mutation.select text).polling timeout).limit ≤ scenario.fuel →
        (Mutation.select text).make scenario target patience.limit scene = (.ok (), changed) →
        scenario.world.Echoes target .selection (text ∈ ·) holds → holds changed.world →
        Text.trim text ≠ text →
          ∃ failure,
            (scenario.selectOption target text patience timeout scene).1 = .failed failure ∧
            failure.kind? = some .mutationNotConfirmed := by
  have unshown (untrimmed : Text.trim text ≠ text) {texts : List String} (echoed : text ∈ texts) :
      (Mutation.select text).shows texts = false :=
    Bool.eq_false_iff.mpr (mt (Mutation.shows_select_iff echoed).mp untrimmed)
  refine ⟨?_, ?_⟩
  · intro T _ scenario holds patience scene changed timeout looks held
    refine ⟨fun made echoes => ⟨fun passed => ?_, fun trimmed => ?_⟩, fun made echoes => ?_⟩
    · by_contra untrimmed
      -- It has ended, so it ended as one that was not confirmed.
      have ended : ((Mutation.select text).run scenario target patience timeout scene).1 ≠
          .stalled := fun stalled => nomatch stalled.symm.trans passed
      obtain ⟨failure, failed, -⟩ :=
        Scenario.run_of_unshown made echoes held (fun _ => unshown untrimmed) ended
      exact nomatch failed.symm.trans passed
    · exact Scenario.run_of_shown made echoes held looks
        fun _ echoed => (Mutation.shows_select_iff echoed).mpr trimmed
    · have shown : ∀ answer, answer = text → (Mutation.fill text).shows answer = true :=
        fun _ same => beq_iff_eq.mpr same
      exact Scenario.run_of_shown made echoes held looks shown
  · intro scenario holds patience scene changed timeout timed enough made echoes held untrimmed
    exact Scenario.run_of_unshown made echoes held (fun _ => unshown untrimmed)
      (Scenario.run_ends timed enough scene)

/-! ## A list with one option -/

/-- A list with one option, which is selected; a field shows its value. -/
def World.offering (text value : String) : (call : Call Rat) -> Except Fault call.Answer
  | .act _ (.select key wanted _) =>
    let offered := match key with
      | .label => text
      | .value => value
    if wanted = offered then .ok () else .error ⟨.browser, s!"No option {wanted}"⟩
  | .query _ .selection => .ok [text, value]
  | .query _ .inputValue => .ok value
  | call => World.willing call

namespace Scenario

def choosing (text value : String) : Scenario Rat Rat :=
  .standard (World.prompt (World.offering text value)) (onePage World.willing).catalog .plain
    "run" 5

def choosingOpen : Scene Rat :=
  { Scene.opening 0 (Files.empty "/") with
    session := { Session.idle with page := some ⟨0⟩ } }

theorem choosing_echoes {text value label : String} (offered : label ∈ [text, value]) :
    (choosing text value).world.Echoes onePageTarget .selection (label ∈ ·) fun _ => True where
  answered := fun now _ => ⟨[text, value], now, rfl, offered, trivial⟩
  slept := fun _ _ _ => trivial

end Scenario

theorem city_is_confirmed_and_blank_is_not :
    ((Scenario.choosing "New York" "NY").selectOption Scenario.onePageTarget "New York" .standard 1
      Scenario.choosingOpen).1 = .ok () ∧
    ((Scenario.choosing "New York" "NY ").fillField Scenario.onePageTarget "NY " .standard 1
      Scenario.choosingOpen).1 = .ok () ∧
    ∃ failure,
      ((Scenario.choosing "New York" "NY ").selectOption Scenario.onePageTarget "NY " .standard 1
        Scenario.choosingOpen).1 = .failed failure ∧
      failure.kind? = some .mutationNotConfirmed := by
  have confirms (text : String) :=
    selection_is_confirmed_iff_trimmed (W := Rat) Scenario.onePageTarget text
  refine ⟨?_, ?_, ?_⟩
  · have made : (Mutation.select "New York").make (Scenario.choosing "New York" "NY")
        Scenario.onePageTarget (Patience.limit .standard) Scenario.choosingOpen =
        (.ok (), Scenario.choosingOpen) := rfl
    exact (((confirms "New York").1 1 (by decide) trivial).1 made
      (Scenario.choosing_echoes (by simp))).mpr (by decide)
  · have made : (Mutation.fill "NY ").make (Scenario.choosing "New York" "NY ")
        Scenario.onePageTarget (Patience.limit .standard) Scenario.choosingOpen =
        (.ok (), Scenario.choosingOpen) := rfl
    have echoes : (Scenario.choosing "New York" "NY ").world.Echoes Scenario.onePageTarget
        .inputValue (· = "NY ") fun _ => True :=
      { answered := fun now _ => ⟨_, now, rfl, rfl, trivial⟩
        slept := fun _ _ _ => trivial }
    exact ((confirms "NY ").1 1 (by decide) trivial).2 made echoes
  · have made : (Mutation.select "NY ").make (Scenario.choosing "New York" "NY ")
        Scenario.onePageTarget (Patience.limit .standard) Scenario.choosingOpen =
        (.ok (), Scenario.choosingOpen) := rfl
    have timed : (Scenario.choosing "New York" "NY ").KeepsTime :=
      { sleeps := fun _ _ => rfl
        queries := fun _ _ _ => le_rfl }
    have enough : ((Mutation.select "NY ").polling (1 : Rat)).limit ≤
        (Scenario.choosing "New York" "NY ").fuel := (Mutation.limit_polling_one _).le
    exact (confirms "NY ").2 1 timed enough made (Scenario.choosing_echoes (by simp)) trivial
      (by decide)

theorem value_with_blank_is_not_confirmed :
    (Scenario.choosing "Red" "r ").world.Echoes Scenario.onePageTarget .selection ("r " ∈ ·)
      (fun _ => True) ∧
    (∃ changed, (Mutation.select "r ").make (Scenario.choosing "Red" "r ") Scenario.onePageTarget
      (Patience.limit .standard) Scenario.choosingOpen = (.ok (), changed)) ∧
    ∃ failure,
      ((Scenario.choosing "Red" "r ").selectOption Scenario.onePageTarget "r " .standard 1
        Scenario.choosingOpen).1 = .failed failure ∧
      failure.kind? = some .mutationNotConfirmed := by
  refine ⟨Scenario.choosing_echoes (by simp), ⟨_, rfl⟩, ?_⟩
  have told : ((Scenario.choosing "Red" "r ").selectOption Scenario.onePageTarget "r " .standard 1
      Scenario.choosingOpen).1.fails (·.kind? == some .mutationNotConfirmed) = true := by
    decide +kernel
  obtain ⟨failure, failed, kind⟩ := Outcome.of_fails told
  exact ⟨failure, failed, eq_of_beq kind⟩

end Rehearsal
