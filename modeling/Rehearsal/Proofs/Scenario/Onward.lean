import Rehearsal.Proofs.Scenario.Accounting
import Rehearsal.Proofs.Scenario.RowTurns
import Rehearsal.Proofs.Script.Ordering

/-!
Runs that only go forward. If no check of a script leads back, the indices that a run visits
ascend, so it comes to its end after as many visits as there are actions at most. A run of more
visits was led back by a check.
-/

set_option autoImplicit false

namespace Rehearsal

def Script.LeadsForward (script : Script) : Prop :=
  ∀ action ∈ script.actions, ∀ target ∈ action.targets, action.header.index < target

/-- A check passed and led to its own index or to one before it. -/
structure Visit.LeadsBack {W : Type} (visit : Visit W) (target : Nat) : Prop where
  passed : ∃ outcome, visit.answer = .ok (.ok outcome) ∧ outcome.nextIndex = some (target : Int)
  branch : ∃ condition ifTrueNext ifFalseNext,
    visit.action.operation = .check condition ifTrueNext ifFalseNext ∧
      (target = ifTrueNext ∨ target = ifFalseNext)
  back : target ≤ visit.action.header.index

theorem Action.branch_of_target {action : Action} {target : Nat}
    (member : target ∈ action.targets) :
    ∃ condition ifTrueNext ifFalseNext,
      action.operation = .check condition ifTrueNext ifFalseNext ∧
        (target = ifTrueNext ∨ target = ifFalseNext) := by
  unfold targets at member
  split at member
  next condition ifTrueNext ifFalseNext check =>
    exact ⟨condition, ifTrueNext, ifFalseNext, check, by simpa using member⟩
  next => simp at member

theorem Action.target_of_branch {action : Action} {condition : Condition}
    {target ifTrueNext ifFalseNext : Nat}
    (check : action.operation = .check condition ifTrueNext ifFalseNext)
    (branch : target = ifTrueNext ∨ target = ifFalseNext) : target ∈ action.targets := by
  simpa [targets, check] using branch

namespace Scenario

variable {W T : Type} [Scale T] {scenario : Scenario W T} {script : Script} {row : Option Row}
  {number : Option Nat} {fuel index : Nat} {scene final : Scene W} {visit next : Visit W}
  {visits : List (Visit W)} {result : Outcome RunState}

/-! ## One visit -/

theorem Takes.leadsTo (taken : scenario.Takes script row visit) {outcome : StepOutcome}
    (answered : visit.answer = .ok (.ok outcome)) : outcome.LeadsTo visit.action.targets := by
  have retried := taken.retried
  rw [answered] at retried
  exact Retrier.run_yields (scenario.takeAction_yields row visit.action) retried

/-- The next visit is of a later index, unless a check has led back to it. -/
theorem Takes.onward (taken : scenario.Takes script row visit)
    (leads : scenario.Leads script number visit next) :
    visit.index < next.index ∨ visit.LeadsBack next.index := by
  obtain ⟨outcome, concludes, place⟩ := leads
  cases named : outcome.nextIndex with
  | none =>
    rw [named, Option.getD_none] at place
    left
    omega
  | some target =>
    rw [named, Option.getD_some] at place
    subst place
    obtain ⟨branch, member, same⟩ := taken.leadsTo concludes.answered _ named
    obtain rfl : next.index = branch := Int.ofNat_inj.mp same
    by_cases later : visit.index < next.index
    · exact .inl later
    · refine .inr ⟨⟨outcome, concludes.answered, named⟩, Action.branch_of_target member, ?_⟩
      rw [taken.numbered]
      exact Nat.le_of_not_lt later

theorem Takes.not_leadsBack (forward : script.LeadsForward)
    (taken : scenario.Takes script row visit) (target : Nat) : ¬ visit.LeadsBack target := by
  intro turned
  obtain ⟨condition, ifTrueNext, ifFalseNext, check, branch⟩ := turned.branch
  have member := List.mem_of_getElem? taken.found
  have later := forward _ member _ (Action.target_of_branch check branch)
  exact Nat.not_lt.mpr turned.back later

/-! ## Courses -/

section

variable (course : scenario.Course script row number fuel index scene visits result final)

include course

theorem Course.ascends (onward : ∀ visit ∈ visits, ∀ target, ¬ visit.LeadsBack target) :
    (visits.map Visit.index).Pairwise (· < ·) := by
  have chained : (visits.map Visit.index).IsChain (· < ·) := by
    rw [List.isChain_map]
    apply course.chained.imp_of_mem_imp
    intro visit next member _ leads
    exact ((course.taken visit member).onward leads).resolve_right (onward visit member _)
  exact chained.pairwise

/-- Indices that ascend are all different, and there are no more of them than the script has. -/
theorem Course.few (ascending : (visits.map Visit.index).Pairwise (· < ·)) :
    visits.length ≤ script.actions.length := by
  have within : visits.map Visit.index ⊆ List.range' 1 script.actions.length := by
    intro place member
    obtain ⟨visit, visited, rfl⟩ := List.mem_map.mp member
    have taken := course.taken visit visited
    have begun := taken.begun
    have ends := taken.within
    rw [List.mem_range'_1]
    omega
  have fits := (List.subperm_of_subset (ascending.imp Nat.ne_of_lt) within).length_le
  rwa [List.length_map, List.length_range'] at fits

theorem Course.exists_leadsBack (long : script.actions.length < visits.length) :
    ∃ visit ∈ visits, ∃ target, visit.LeadsBack target := by
  by_contra onward
  push Not at onward
  have few := course.few (course.ascends onward)
  omega

/-- Where all visits were answered, a run that is still on its way has the fuel of its visits behind
it and gone forward by an index with each of them. -/
theorem Course.on_its_way (forward : script.LeadsForward)
    (answered : ∀ visit ∈ visits, visit.answer ≠ .stalled) (stalled : result = .stalled) :
    fuel + index ≤ script.actions.length := by
  -- From the last visit back: what is left of the fuel and of the script shrinks together.
  induction course with
  | spent within => omega
  | beyond => cases stalled
  | ends taken settled hung => exact absurd (hung stalled) (answered _ (by simp))
  | @passed fuel due visit outcome noted final visits result taken concludes leads rest ih =>
    have left := ih (fun visit member => answered visit (List.mem_cons_of_mem _ member)) stalled
    let next : Visit W := { visit with index := due, before := noted }
    have later : visit.index < next.index :=
      (taken.onward ⟨outcome, concludes, leads⟩).resolve_right (taken.not_leadsBack forward _)
    change visit.index < due at later
    omega

end

/-! ## Runs -/

/-- How a run goes through a script that only leads forward. -/
structure Proceeds (script : Script) (fuel : Nat) (visits : List (Visit W))
    (result : Outcome RunState) : Prop where
  few : visits.length ≤ script.actions.length
  ascending : visits.Pairwise fun earlier later =>
    earlier.action.header.index < later.action.header.index
  -- No record is executed twice, so none passes twice.
  once : (visits.map fun visit => visit.action.header.index).Nodup
  ended : script.actions.length ≤ fuel → (∀ visit ∈ visits, visit.answer ≠ .stalled) →
    result ≠ .stalled

theorem Course.proceeds (forward : script.LeadsForward)
    (course : scenario.Course script row number fuel 1 scene visits result final) :
    Proceeds script fuel visits result := by
  have ascending := course.ascends fun visit member target =>
    (course.taken visit member).not_leadsBack forward target
  have numbered : visits.map Visit.index = visits.map fun visit => visit.action.header.index :=
    List.map_congr_left fun visit member => (course.taken visit member).numbered.symm
  have few := course.few ascending
  rw [numbered] at ascending
  refine ⟨few, List.pairwise_map.mp ascending, ascending.imp Nat.ne_of_lt, ?_⟩
  intro enough answered stalled
  have onItsWay := course.on_its_way forward answered stalled
  omega

/-- A script that was read and only leads forward comes to its end with the first retry run that
does not pass, or after visits of ascending indices. Any other run of more visits than there are
actions is one that a check has led back. -/
theorem forward_scripts_end {value : Datum} {script : Script}
    (read : Script.ofDatum value = .ok script) (scenario : Scenario W T) (row : Option Row)
    (number : Option Nat) (scene : Scene W) :
    ∃ visits result final,
      scenario.runScript script row number scene = (result, final) ∧
      scenario.Accounts script row number scene visits result final ∧
      (script.LeadsForward → Proceeds script scenario.fuel visits result) ∧
      (script.actions.length < visits.length →
        ∃ visit ∈ visits, ∃ target, visit.LeadsBack target) := by
  have accepted := Script.wellNumbered_of_read read
  obtain ⟨visits, result, final, ran, course⟩ :=
    exists_course scenario row number accepted scenario.fuel (Nat.le_refl 1) scene
  rw [← runScript_eq_runFrom] at ran
  exact ⟨visits, result, final, ran, course.accounts, course.proceeds, course.exists_leadsBack⟩

/-- A check that leads to the next index if the element is there, and beyond that one if not. -/
def onwardRecord (index : Nat) : Table Datum :=
  [("index", .int index), ("operation", .text "check"), ("page", .text "login"),
   ("element", .text "user"), ("condition", .text "present"), ("if_true_next", .int (index + 1)),
   ("if_false_next", .int (index + 2))]

def onwardAction (index : Nat) : Action :=
  { header :=
      { index, page := some "login", element := some "user", wait := none, timeout := none }
    value := none, operation := .check .present (index + 1) (index + 2) }

def onwardFields : Table Datum :=
  [("test_id", .text "entry"),
   ("actions", .list [.object (onwardRecord 2), .object (onwardRecord 1)])]

def onwardScript : Script :=
  { test := "entry", actions := [onwardAction 1, onwardAction 2], assertions := [] }

theorem read_onwardFields : Script.ofDatum (.object onwardFields) = .ok onwardScript := by
  have presents : Script.Presents onwardFields "entry" [onwardAction 2, onwardAction 1] [] :=
    ⟨rfl, rfl, rfl, rfl⟩
  have turned : Script.ofRecords "entry" [onwardAction 2, onwardAction 1] [] =
      Script.ofRecords "entry" [onwardAction 1, onwardAction 2] [] :=
    Script.ofRecords_perm (.swap ..) (.refl _)
  have sorted : Script.ascending Script.actionIndex [onwardAction 1, onwardAction 2] =
      [onwardAction 1, onwardAction 2] := List.mergeSort_of_pairwise (by decide)
  have ordered : Script.ofRecords "entry" [onwardAction 1, onwardAction 2] [] = .ok onwardScript :=
    Script.ofRecords_eq_ok.mpr
      ⟨.refl _, .refl _, by rw [sorted, Script.ascending, List.mergeSort_nil]; rfl⟩
  rw [presents.read, turned, ordered]
  rfl

theorem onward_script_ends :
    let scenario := { onePage (World.closedBy .isVisible) with fuel := 2 }
    Script.ofDatum (.object onwardFields) = .ok onwardScript ∧ onwardScript.LeadsForward ∧
      ∃ (visits : List (Visit (Unit × List (Called Rat)))) (state : RunState) (final : Scene _),
        scenario.runScript onwardScript none none onePageOpen = (.ok state, final) ∧
        Proceeds onwardScript 2 visits (.ok state) := by
  intro scenario
  have forward : onwardScript.LeadsForward := by
    intro action member
    simp only [onwardScript, List.mem_cons, List.not_mem_nil, or_false] at member
    rcases member with rfl | rfl <;> decide
  obtain ⟨visits, result, final, ran, -, proceeds, -⟩ :=
    forward_scripts_end read_onwardFields scenario none none onePageOpen
  have passes : (scenario.runScript onwardScript none none onePageOpen).1.passes = true := by
    decide +kernel
  rw [ran] at passes
  obtain ⟨state, rfl⟩ := Outcome.of_passes passes
  exact ⟨read_onwardFields, forward, visits, state, final, ran, proceeds forward⟩

end Scenario

end Rehearsal
