import Rehearsal.Proofs.Scenario.Arrival
import Rehearsal.Proofs.Scenario.LostSession
import Rehearsal.Proofs.Time.PollHistory

/-!
The candidates of an element, one after the other. A candidate is polled for; it comes to nothing
when its time is up or when its match gives no handle, and only then is the next one looked at.
-/

set_option autoImplicit false

namespace Rehearsal

open Activity

/-- A call on behalf of a candidate: it counts the matches, or takes the handle of the first. -/
def Scenario.Lead.Asks {T : Type} (lead : Scenario.Lead) (called : Called T) : Prop :=
  called.call = .query lead.target .count ∨ called.call = .query lead.target.first .handle

namespace Scenario

variable {W T : Type} {scenario : Scenario W T} {page element : String} {row : Option Row}
  {live : PageId} {candidates : List Candidate}

def leadOf (scenario : Scenario W T) (live : PageId) (row : Option Row) (candidate : Candidate) :
    Lead :=
  let selector := Selector.build candidate.strategy (scenario.fill row candidate.value)
  { candidate, selector, target := { page := live, selector, index := none } }

theorem leads_of_live {scene : Scene W} (lives : scenario.IsLive scene live)
    (listed : scenario.catalog.candidates page element = .ok candidates) :
    scenario.leads page element row scene =
      (.ok (candidates.map (scenario.leadOf live row)), scene) := by
  simp only [leads, bind_run, livePage_of_live lives, listed]
  rfl

theorem resolve_uncached [Scale T] {timeout : T} {scene : Scene W}
    (uncached : scene.handles.get? page element = none) :
    scenario.resolve page element row timeout scene =
      scenario.discover page element row timeout scene := by
  simp [resolve, bind_run, uncached]

/-! ## One candidate -/

variable [Scale T]

def leadPolling (scenario : Scenario W T) (element : String) (timeout : T) (lead : Lead) :
    Polling T :=
  scenario.polling .waitTimeout timeout s!"{element} via {lead.selector}"

/-- The polling for a candidate from its first look to its last. -/
def Polls (scenario : Scenario W T) (element : String) (timeout : T) (lead : Lead)
    (before : Scene W) (earlier : List (Look (Scene W) Unit)) (last : Look (Scene W) Unit)
    (after : Scene W) : Prop :=
  (scenario.leadPolling element timeout lead).Concludes scenario.clock
    (Polling.probing (scenario.hasMatch lead.target))
    (Scale.add (scenario.clock.now before) timeout) before earlier last after

inductive Hits (scenario : Scenario W T) (element : String) (timeout : T) (lead : Lead)
    (before : Scene W) (handle : Option Handle) (after : Scene W) : Prop where
  | taken {earlier : List (Look (Scene W) Unit)} {last : Look (Scene W) Unit} {between : Scene W}
      (polled : scenario.Polls element timeout lead before earlier last between)
      (found : last.finding = .found ())
      (given : scenario.ask lead.target.first .handle between = (.ok handle, after)) :
      Hits scenario element timeout lead before handle after

inductive Misses (scenario : Scenario W T) (element : String) (timeout : T) (lead : Lead)
    (before after : Scene W) : Prop where
  -- The looks were in vain up to the last, which left no time.
  | expired {earlier : List (Look (Scene W) Unit)} {last : Look (Scene W) Unit}
      (polled : scenario.Polls element timeout lead before earlier last after)
      (vain : last.finding.isVain = true) : Misses scenario element timeout lead before after
  | refused {earlier : List (Look (Scene W) Unit)} {last : Look (Scene W) Unit}
      {between : Scene W} {failure : Failure}
      (polled : scenario.Polls element timeout lead before earlier last between)
      (found : last.finding = .found ())
      (refused : scenario.ask lead.target.first .handle between = (.failed failure, after)) :
      Misses scenario element timeout lead before after

variable {timeout : T} {lead : Lead} {scene between after final : Scene W}
  {noted fell : List (String × String)} {missed rest : List Lead}

theorem awaitLead_run (scenario : Scenario W T) (element : String) (timeout : T) (lead : Lead) :
    scenario.awaitLead element timeout lead =
      (scenario.leadPolling element timeout lead).run scenario.clock scenario.fuel
        (Polling.probing (scenario.hasMatch lead.target)) >>= fun _ =>
          scenario.ask lead.target.first .handle := rfl

theorem hits_of_ok {handle : Option Handle}
    (ran : scenario.awaitLead element timeout lead scene = (.ok handle, after)) :
    scenario.Hits element timeout lead scene handle after := by
  rw [awaitLead_run, bind_ok] at ran
  obtain ⟨_, between, polled, given⟩ := ran
  rcases (scenario.leadPolling element timeout lead).run_of_history scenario.clock scenario.fuel
    (Polling.probing (scenario.hasMatch lead.target)) scene with
    ⟨earlier, last, final, concludes, -, ended⟩ | ⟨_, _, -, stalled⟩
  · rw [ended] at polled
    cases finding : last.finding with
    | found =>
      simp only [finding, Polling.verdict, Prod.mk.injEq, true_and] at polled
      exact .taken (polled ▸ concludes) finding given
    | nothing | erred failure | lost failure => simp [finding, Polling.verdict] at polled
  · simp [stalled] at polled

theorem misses_of_failed {failure : Failure}
    (ran : scenario.awaitLead element timeout lead scene = (.failed failure, after))
    (reachable : failure.kind? ≠ some .sessionUnreachable) :
    scenario.Misses element timeout lead scene after := by
  rw [awaitLead_run, bind_run] at ran
  rcases (scenario.leadPolling element timeout lead).run_of_history scenario.clock scenario.fuel
    (Polling.probing (scenario.hasMatch lead.target)) scene with
    ⟨earlier, last, final, concludes, -, ended⟩ | ⟨_, _, -, stalled⟩
  · rw [ended] at ran
    cases finding : last.finding with
    | found =>
      simp only [finding, Polling.verdict] at ran
      exact .refused concludes finding ran
    | nothing | erred cause =>
      have vain : last.finding.isVain = true := by rw [finding, Sight.isVain]
      simp only [finding, Polling.verdict, Prod.mk.injEq] at ran
      exact .expired (ran.2 ▸ concludes) vain
    | lost cause =>
      simp only [finding, Polling.verdict, Prod.mk.injEq, Outcome.failed.injEq] at ran
      exact absurd (Polling.kind_asUnreachable cause) (ran.1 ▸ reachable)
  · simp [stalled] at ran

/-! ## One candidate after the other -/

/-- Candidates that come to nothing, with what is noted of each. -/
inductive Falls (scenario : Scenario W T) (element : String) (timeout : T) :
    Scene W -> List Lead -> List (String × String) -> Scene W -> Prop where
  | none {scene : Scene W} : Falls scenario element timeout scene [] [] scene
  | next {scene between last : Scene W} {lead : Lead} {rest : List Lead} {failure : Failure}
      {noted : List (String × String)}
      (ran : scenario.awaitLead element timeout lead scene = (.failed failure, between))
      (missed : scenario.Misses element timeout lead scene between)
      (falls : Falls scenario element timeout between rest noted last) :
      Falls scenario element timeout scene (lead :: rest)
        ((lead.selector, failure.message) :: noted) last

theorem Falls.selectors (falls : scenario.Falls element timeout scene missed fell between) :
    fell.map Prod.fst = missed.map Lead.selector := by
  induction falls with
  | none => rfl
  | next _ _ _ ih => rw [List.map_cons, List.map_cons, ih]

theorem tryLeads_ok {leads : List Lead} {resolved : Resolved}
    (ran : scenario.tryLeads page element timeout noted leads scene = (.ok resolved, final)) :
    ∃ missed chosen rest fell between handle after, leads = missed ++ chosen :: rest ∧
      scenario.Falls element timeout scene missed fell between ∧
      scenario.awaitLead element timeout chosen between = (.ok handle, after) ∧
      scenario.keep page element chosen handle (noted.length + missed.length) after =
        (.ok resolved, final) := by
  induction leads generalizing noted scene with
  | nil => cases ran
  | cons lead rest ih =>
    rw [tryLeads, bind_run, attempt_run] at ran
    rcases awaited : scenario.awaitLead element timeout lead scene
      with ⟨handle | failure | _, between⟩ <;> rw [awaited] at ran
    · exact ⟨[], lead, rest, [], scene, handle, between, rfl, .none, awaited, ran⟩
    · cases unreachable : failure.kind? == some FailureKind.sessionUnreachable with
      | true => simp [unreachable] at ran
      | false =>
        simp only [unreachable, Bool.false_eq_true, if_false] at ran
        obtain ⟨missed, chosen, rest, fell, last, handle, after, rfl, falls, hit, kept⟩ := ih ran
        -- This candidate is noted and no longer to be missed, so the sum is the same.
        have counted : noted.length + (missed.length + 1) =
            (noted ++ [(lead.selector, failure.message)]).length + missed.length := by
          rw [List.length_append, List.length_singleton, Nat.add_assoc, Nat.add_comm 1]
        have falls := Falls.next awaited
          (misses_of_failed awaited (by simpa using unreachable)) falls
        refine ⟨lead :: missed, chosen, rest, _, last, handle, after, rfl, falls, hit, ?_⟩
        rwa [List.length_cons, counted]
    · cases ran

/-- A search in vain has been through all candidates, or has met the loss of the session. -/
theorem tryLeads_failed {log : W -> List (Called T)} (logs : scenario.world.IsLog log)
    {leads : List Lead} {failure : Failure}
    (ran : scenario.tryLeads page element timeout noted leads scene = (.failed failure, final)) :
    (∃ fell, scenario.Falls element timeout scene leads fell final ∧
        failure = .notFound page element (noted ++ fell)) ∨
      ∃ made, log final.world = log scene.world ++ made ∧ ¬ Called.AllLive made := by
  induction leads generalizing noted scene with
  | nil =>
    cases ran
    exact .inl ⟨[], .none, by rw [List.append_nil]⟩
  | cons lead rest ih =>
    obtain ⟨made, awaits⟩ := awaitLead_awaits logs element timeout lead scene
    rw [tryLeads, bind_run, attempt_run] at ran
    rcases awaited : scenario.awaitLead element timeout lead scene
      with ⟨handle | met | _, between⟩ <;> rw [awaited] at ran awaits
    · cases ran
    · cases unreachable : met.kind? == some FailureKind.sessionUnreachable with
      | true =>
        simp only [unreachable, if_true, throw_run, Prod.mk.injEq] at ran
        obtain ⟨-, rfl⟩ := ran
        refine .inr ⟨made, awaits.grown, fun live => ?_⟩
        have kind : met.kind? = some .sessionUnreachable := by simpa using unreachable
        -- The fault of a handle has no kind, so this one is the loss that a count met.
        rcases awaits.ending with ⟨-, known⟩ | reported | ⟨_, _, fault, -, -, -, failed⟩
        · exact absurd kind (by simpa using known)
        · obtain ⟨before, called, rfl, -, lost, -⟩ := reported.last
          exact live called (by simp) lost
        · cases failed
          cases kind
      | false =>
        simp only [unreachable, Bool.false_eq_true, if_false] at ran
        rcases ih ran with ⟨fell, falls, rfl⟩ | ⟨more, grown, lost⟩
        · have missed := misses_of_failed awaited (by simpa using unreachable)
          exact .inl ⟨_, .next awaited missed falls, by rw [List.append_assoc]; rfl⟩
        · refine .inr ⟨made ++ more, ?_, fun live => lost (Called.allLive_append.mp live).2⟩
          rw [grown, awaits.grown, List.append_assoc]
    · cases ran

/-! ## Calls on behalf of candidates -/

section

variable {V : Type} {log : W -> List (Called T)} {view : Scene W -> V} {kind : Called T -> Prop}
  (logs : scenario.world.IsLog log) (worldless : Scene.Worldless view)

include logs worldless

omit [Scale T] in
theorem call_logging (call : Call T) (allowed : ∀ fault?, kind ⟨call, fault?⟩) :
    (scenario.call call).Follows (adding log kind view) := by
  intro scene
  exact ⟨⟨scenario.call_keeps worldless call scene, adds_call logs call allowed scene⟩,
    fun _ _ => trivial⟩

theorem awaitLead_logging (element : String) (timeout : T)
    (asks : ∀ called, lead.Asks called → kind called) :
    (scenario.awaitLead element timeout lead).Follows (adding log kind view) := by
  rw [awaitLead_run]
  refine follows_bind ?_ fun _ => call_logging logs worldless _ fun _ => asks _ (.inr rfl)
  refine Polling.run_follows ⟨?_, fun _ _ => trivial, fun _ _ => trivial⟩ _ ?_
  · intro span scene
    exact ⟨worldless _ _, [], by rw [List.append_nil]; exact logs.slept span scene.world, by simp⟩
  · refine follows_bind ?_ fun found => ?_
    · refine follows_bind ?_ fun _ => follows_pure _
      exact call_logging logs worldless _ fun _ => asks _ (.inl rfl)
    · cases found <;> exact follows_pure _

theorem Falls.adding (falls : scenario.Falls element timeout scene missed fell between)
    (asks : ∀ lead ∈ missed, ∀ called, lead.Asks called → kind called) :
    (adding log kind view).leads scene between := by
  induction falls with
  | none => exact (Scenario.adding log kind view).still _
  | next ran _ _ ih =>
    have first := (awaitLead_logging logs worldless element timeout (asks _ (by simp))).of_run ran
    exact (Scenario.adding log kind view).onward first.1
      (ih fun lead among => asks lead (List.mem_cons_of_mem _ among))

end

end Scenario

end Rehearsal
