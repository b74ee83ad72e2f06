import Rehearsal.Proofs.Time.PollHistory
import Rehearsal.Proofs.World.CallLog
import Rehearsal.Scenario.Judging

/-!
What a search for an element makes of a lost session. The search asks for the number of matches
and for a handle of the first; only the loss that a count meets ends the search. The loss that the
handle meets is taken for the failure of one candidate.
-/

set_option autoImplicit false

namespace Rehearsal

open Called (AllLive)

def Outcome.Unreachable {A : Type} (outcome : Outcome A) : Prop :=
  ∃ failure, outcome = .failed failure ∧ failure.kind? = some .sessionUnreachable

namespace Outcome

variable {A : Type}

@[simp] theorem unreachable_failed (failure : Failure) :
    (.failed failure : Outcome A).Unreachable ↔ failure.kind? = some .sessionUnreachable := by
  simp [Unreachable]

@[simp] theorem not_unreachable_ok (value : A) : ¬ (Outcome.ok value).Unreachable := by
  simp [Unreachable]

@[simp] theorem not_unreachable_stalled : ¬ (.stalled : Outcome A).Unreachable := by
  simp [Unreachable]

end Outcome

namespace Called

variable {T A B : Type}

def IsCount (called : Called T) : Prop := ∃ target, called.call = .query target .count

def IsHandle (called : Called T) : Prop := ∃ target, called.call = .query target .handle

theorem IsHandle.not_isCount {called : Called T} (handle : called.IsHandle) :
    ¬ called.IsCount := by
  obtain ⟨target, asked⟩ := handle
  rintro ⟨other, count⟩
  cases asked.symm.trans count

/-- A count met the loss of the session, which was reported at once. -/
structure Reported (made : List (Called T)) (outcome : Outcome A) : Prop where
  last : ∃ before called, made = before ++ [called] ∧ AllLive before ∧ called.IsLost ∧
    called.IsCount
  unreachable : outcome.Unreachable

/-- A handle met the loss of the session. What was done after that, and if nothing was, what was
reported, has to do with other candidates. -/
structure Overlooked (made : List (Called T)) (outcome : Outcome A) : Prop where
  split : ∃ before called after, made = before ++ called :: after ∧ called.IsLost ∧
    called.IsHandle ∧ (after = [] → ¬ outcome.Unreachable)

inductive Search (made : List (Called T)) (outcome : Outcome A) : Prop where
  | live (live : AllLive made) (idle : made = [] → ¬ outcome.Unreachable)
  | reported (reported : Reported made outcome)
  | overlooked (overlooked : Overlooked made outcome)

variable {made more : List (Called T)} {outcome : Outcome A}

theorem Reported.prepend (live : AllLive made) (reported : Reported more outcome) :
    Reported (made ++ more) outcome := by
  obtain ⟨before, called, rfl, others, lost, count⟩ := reported.last
  refine ⟨⟨made ++ before, called, ?_, ?_, lost, count⟩, reported.unreachable⟩
  · rw [List.append_assoc]
  · exact allLive_append.mpr ⟨live, others⟩

theorem Reported.ne_nil (reported : Reported made outcome) : made ≠ [] := by
  obtain ⟨before, called, rfl, -⟩ := reported.last
  simp

theorem Search.prepend (live : AllLive made) (search : Search more outcome) :
    Search (made ++ more) outcome := by
  cases search with
  | live others idle =>
    refine .live (allLive_append.mpr ⟨live, others⟩) ?_
    intro none
    exact idle (List.append_eq_nil_iff.mp none).2
  | reported reported => exact .reported (reported.prepend live)
  | overlooked overlooked =>
    obtain ⟨before, called, after, rfl, lost, handle, silent⟩ := overlooked.split
    refine .overlooked ⟨⟨made ++ before, called, after, ?_, lost, handle, silent⟩⟩
    rw [List.append_assoc]

theorem Search.after_handle {called : Called T} (lost : called.IsLost) (handle : called.IsHandle)
    (search : Search more outcome) : Search (made ++ [called] ++ more) outcome := by
  refine .overlooked ⟨⟨made, called, more, by simp, lost, handle, ?_⟩⟩
  intro none
  cases search with
  | live _ idle => exact idle none
  | reported reported => exact absurd none reported.ne_nil
  | overlooked overlooked =>
    obtain ⟨before, called, after, rfl, -⟩ := overlooked.split
    simp at none

/-- A loss ends the search with a report, wherever it is met. -/
def EndsAtLoss (made : List (Called T)) (outcome : Outcome A) : Prop :=
  ∀ before called after, made = before ++ called :: after → called.IsLost →
    after = [] ∧ outcome.Unreachable

theorem endsAtLoss_of_live (live : AllLive made) : EndsAtLoss made outcome := by
  rintro before called after rfl lost
  exact absurd lost (live called (by simp))

theorem endsAtLoss_nil (outcome : Outcome A) :
    EndsAtLoss ([] : List (Called T)) outcome ↔
      ∀ called ∈ ([] : List (Called T)), called.IsLost → called.IsCount :=
  iff_of_true (endsAtLoss_of_live allLive_nil) (by simp)

theorem Search.endsAtLoss_iff (search : Search made outcome) :
    EndsAtLoss made outcome ↔ ∀ called ∈ made, called.IsLost → called.IsCount := by
  cases search with
  | live live idle =>
    exact iff_of_true (endsAtLoss_of_live live)
      fun called member lost => absurd lost (live called member)
  | reported reported =>
    obtain ⟨before, called, rfl, live, lost, count⟩ := reported.last
    constructor
    · intro _ other member otherLost
      rcases List.mem_append.mp member with among | last
      · exact absurd otherLost (live other among)
      · exact List.mem_singleton.mp last ▸ count
    · intro _ start other after split otherLost
      refine ⟨?_, reported.unreachable⟩
      -- Any call that another one follows is among those before the last.
      rcases List.eq_nil_or_concat after with none | ⟨middle, last, rfl⟩
      · exact none
      · rw [List.concat_eq_append, ← List.cons_append, ← List.append_assoc] at split
        have among := (List.append_inj' split rfl).1
        exact absurd otherLost (live other (by simp [among]))
  | overlooked overlooked =>
    obtain ⟨before, called, after, rfl, lost, handle, silent⟩ := overlooked.split
    constructor
    · intro ends
      obtain ⟨none, unreachable⟩ := ends before called after rfl lost
      exact absurd unreachable (silent none)
    · intro counted
      exact absurd (counted called (by simp) lost) handle.not_isCount

end Called

namespace Scenario

open Called (Search Reported)

variable {W T : Type} {scenario : Scenario W T} {log : W -> List (Called T)}

/-! ## One candidate -/

theorem hasMatch_cases (logs : scenario.world.IsLog log) (target : Target) (scene : Scene W) :
    (∃ found after, scenario.hasMatch target scene = (.ok found, after) ∧
        log after.world = log scene.world ++ [⟨.query target .count, none⟩]) ∨
      ∃ fault after, scenario.hasMatch target scene = (.failed (.fault fault), after) ∧
        log after.world = log scene.world ++ [⟨.query target .count, some fault⟩] := by
  rcases call_cases logs (.query target .count) scene with
    ⟨count, after, ran, logged⟩ | ⟨fault, after, ran, logged⟩
  · refine .inl ⟨decide (0 < count), after, ?_, logged⟩
    simp only [hasMatch, ask, Activity.bind_run, ran, Activity.pure_run]
  · refine .inr ⟨fault, after, ?_, logged⟩
    simp only [hasMatch, ask, Activity.bind_run, ran]

structure Counts {A : Type} (log : W -> List (Called T)) (target : Target) (before : Scene W)
    (ran : Outcome A × Scene W) (made : List (Called T)) : Prop where
  grown : log ran.2.world = log before.world ++ made
  counted : ∀ called ∈ made, called.call = .query target .count
  ending : (AllLive made ∧ ¬ ran.1.Unreachable) ∨ Reported made ran.1

section

variable {A : Type} {target : Target} {before between : Scene W} {ran : Outcome A × Scene W}
  {made : List (Called T)} {called : Called T}

theorem Counts.none (same : log ran.2.world = log before.world) (known : ¬ ran.1.Unreachable) :
    Counts log target before ran [] where
  grown := by rw [same, List.append_nil]
  counted := by simp
  ending := .inl ⟨Called.allLive_nil, known⟩

theorem Counts.next (asked : called.call = .query target .count) (live : ¬ called.IsLost)
    (logged : log between.world = log before.world ++ [called])
    (rest : Counts log target between ran made) :
    Counts log target before ran ([called] ++ made) where
  grown := by rw [rest.grown, logged, List.append_assoc]
  counted := by simpa [asked] using rest.counted
  ending := by
    have single : AllLive [called] := by simpa [AllLive] using live
    rcases rest.ending with ⟨others, known⟩ | reported
    · exact .inl ⟨Called.allLive_append.mpr ⟨single, others⟩, known⟩
    · exact .inr (reported.prepend single)

theorem Counts.live_of_known (counts : Counts log target before ran made)
    (known : ¬ ran.1.Unreachable) : AllLive made := by
  rcases counts.ending with ⟨live, -⟩ | reported
  · exact live
  · exact absurd reported.unreachable known

theorem Counts.asked (counts : Counts log target before ran made) :
    ∀ called ∈ made, called.IsCount ∨ called.IsHandle :=
  fun called member => .inl ⟨target, counts.counted called member⟩

theorem Counts.with_handle {after : Scene W} (counts : Counts log target before ran made)
    (logged : log after.world = log ran.2.world ++ [called]) (handle : called.IsHandle) :
    log after.world = log before.world ++ (made ++ [called]) ∧
      ∀ other ∈ made ++ [called], other.IsCount ∨ other.IsHandle := by
  refine ⟨by rw [logged, counts.grown, List.append_assoc], ?_⟩
  exact List.forall_mem_append.mpr ⟨counts.asked, by simpa using .inr handle⟩

end

variable [Scale T]

/-- Polling for a match counts until it ends, and reports the loss of the session at once. -/
theorem polling_counts (logs : scenario.world.IsLog log) (polling : Polling T)
    (kind : polling.kind = .waitTimeout) (deadline : T) (target : Target) (fuel : Nat)
    (last : Option Failure) (scene : Scene W) :
    ∃ made, Counts log target scene
      (polling.rounds scenario.clock deadline
        (do if ← scenario.hasMatch target then return some () else return none) fuel last scene)
      made := by
  induction fuel generalizing last scene with
  | zero => exact ⟨[], .none rfl (by simp [Polling.rounds, Activity.stall])⟩
  | succ fuel ih =>
    -- After a probe without success it is either too late or there is another round.
    have pause : ∀ (last : Option Failure) (after : Scene W), ∃ made, Counts log target after
        (if Scale.le (Scale.sub deadline (scenario.clock.now after)) Scale.zero then
          (.failed (polling.timeoutFailure last), after)
        else
          polling.rounds scenario.clock deadline
            (do if ← scenario.hasMatch target then return some () else return none) fuel last
            (scenario.clock.sleep
              (Scale.earlier polling.interval (Scale.sub deadline (scenario.clock.now after)))
              after)) made := by
      intro last after
      split
      · refine ⟨[], .none rfl ?_⟩
        simp [Polling.timeoutFailure, Failure.kind?, kind]
      · obtain ⟨made, counts⟩ := ih last (scenario.clock.sleep
          (Scale.earlier polling.interval (Scale.sub deadline (scenario.clock.now after))) after)
        refine ⟨made, ?_, counts.counted, counts.ending⟩
        rw [counts.grown]
        exact congrArg (· ++ made) (logs.slept _ _)
    rcases hasMatch_cases logs target scene with
      ⟨found, after, ran, logged⟩ | ⟨fault, after, ran, logged⟩
    · have live : ¬ Called.IsLost ⟨Call.query (T := T) target .count, none⟩ := by
        simp [Called.IsLost]
      cases found with
      | true =>
        refine ⟨_, Counts.next rfl live logged (.none ?_ ?_)⟩ <;>
          simp [Polling.rounds, Activity.bind_run, ran]
      | false =>
        obtain ⟨made, counts⟩ := pause last after
        refine ⟨[_] ++ made, .next rfl live logged ?_⟩
        simpa [Polling.rounds, Activity.bind_run, ran] using counts
    · cases lost : (Failure.fault fault).isSessionLost with
      | true =>
        refine ⟨[⟨.query target .count, some fault⟩], ?_, by simp, .inr ⟨⟨[], _, rfl, ?_⟩, ?_⟩⟩
        · simp [Polling.rounds, Activity.bind_run, ran, lost, logged]
        · exact ⟨Called.allLive_nil, ⟨fault, rfl, lost⟩, target, rfl⟩
        · simp [Polling.rounds, Activity.bind_run, ran, lost, Polling.kind_asUnreachable]
      | false =>
        have live : ¬ Called.IsLost ⟨Call.query (T := T) target .count, some fault⟩ := by
          simp [Called.IsLost, lost]
        obtain ⟨made, counts⟩ := pause (some (.fault fault)) after
        refine ⟨[_] ++ made, .next rfl live logged ?_⟩
        simpa [Polling.rounds, Activity.bind_run, ran, lost] using counts

structure Awaits {A : Type} (log : W -> List (Called T)) (before : Scene W)
    (ran : Outcome A × Scene W) (made : List (Called T)) : Prop where
  grown : log ran.2.world = log before.world ++ made
  asked : ∀ called ∈ made, called.IsCount ∨ called.IsHandle
  ending : (AllLive made ∧ ¬ ran.1.Unreachable) ∨ Reported made ran.1 ∨
    ∃ counts called fault, made = counts ++ [called] ∧ called.IsLost ∧ called.IsHandle ∧
      ran.1 = .failed (.fault fault)

omit [Scale T] in
theorem Awaits.live_of_not_failed {A : Type} {before : Scene W} {ran : Outcome A × Scene W}
    {made : List (Called T)} (awaits : Awaits log before ran made)
    (known : ∀ failure, ran.1 ≠ .failed failure) : AllLive made := by
  rcases awaits.ending with ⟨live, -⟩ | reported | ⟨_, _, fault, -, -, -, failed⟩
  · exact live
  · obtain ⟨failure, failed, -⟩ := reported.unreachable
    exact absurd failed (known failure)
  · exact absurd failed (known _)

theorem awaitLead_awaits (logs : scenario.world.IsLog log) (element : String) (timeout : T)
    (lead : Lead) (scene : Scene W) :
    ∃ made, Awaits log scene (scenario.awaitLead element timeout lead scene) made := by
  let polling := scenario.polling .waitTimeout timeout s!"{element} via {lead.selector}"
  obtain ⟨made, counts⟩ : ∃ made, Counts log lead.target scene
      (polling.test scenario.clock scenario.fuel (scenario.hasMatch lead.target) scene) made :=
    polling_counts logs polling rfl _ lead.target scenario.fuel none scene
  have runs : scenario.awaitLead element timeout lead scene =
      (polling.test scenario.clock scenario.fuel (scenario.hasMatch lead.target) >>= fun _ =>
        scenario.ask lead.target.first .handle) scene := rfl
  rw [runs, Activity.bind_run]
  rcases polled : polling.test scenario.clock scenario.fuel (scenario.hasMatch lead.target) scene
    with ⟨_ | failure | _, between⟩
  all_goals rw [polled] at counts
  · -- The handle is asked for after a count that was answered, so no loss was met before it.
    have live := counts.live_of_known (by simp)
    rcases call_cases logs (.query lead.target.first .handle) between with
      ⟨handle, after, ran, logged⟩ | ⟨fault, after, ran, logged⟩
    all_goals
      obtain ⟨grown, asked⟩ := counts.with_handle logged ⟨_, rfl⟩
      simp only [ask, ran]
    · refine ⟨_, grown, asked, .inl ⟨?_, by simp⟩⟩
      exact Called.allLive_append.mpr ⟨live, by simp [AllLive, Called.IsLost]⟩
    · cases lost : (Failure.fault fault).isSessionLost with
      | true =>
        refine ⟨_, grown, asked, .inr (.inr ⟨made, _, fault, rfl, ?_, ⟨_, rfl⟩, rfl⟩)⟩
        exact ⟨fault, rfl, lost⟩
      | false =>
        refine ⟨_, grown, asked, .inl ⟨?_, by simp [Failure.kind?]⟩⟩
        exact Called.allLive_append.mpr ⟨live, by simp [AllLive, Called.IsLost, lost]⟩
  · refine ⟨made, counts.grown, counts.asked, ?_⟩
    rcases counts.ending with ⟨live, known⟩ | reported
    · exact .inl ⟨live, by simpa using known⟩
    · exact .inr (.inl ⟨reported.last, by simpa using reported.unreachable⟩)
  · refine ⟨made, counts.grown, counts.asked, ?_⟩
    exact .inl ⟨counts.live_of_known (by simp), by simp⟩

/-! ## All candidates -/

structure Searches {A : Type} (log : W -> List (Called T)) (before : Scene W)
    (ran : Outcome A × Scene W) (made : List (Called T)) : Prop where
  grown : log ran.2.world = log before.world ++ made
  asked : ∀ called ∈ made, called.IsCount ∨ called.IsHandle
  ending : Search made ran.1

theorem tryLeads_searches (logs : scenario.world.IsLog log) (page element : String) (timeout : T)
    (noted : List (String × String)) (leads : List Lead) (scene : Scene W) :
    ∃ made, Searches log scene (scenario.tryLeads page element timeout noted leads scene) made := by
  induction leads generalizing noted scene with
  | nil =>
    refine ⟨[], by simp [tryLeads], by simp, .live Called.allLive_nil ?_⟩
    simp [tryLeads, Failure.kind?]
  | cons lead rest ih =>
    obtain ⟨made, awaits⟩ := awaitLead_awaits logs element timeout lead scene
    rw [tryLeads, Activity.bind_run]
    unfold Activity.attempt
    rcases awaited : scenario.awaitLead element timeout lead scene
      with ⟨handle | failure | _, between⟩
    all_goals rw [awaited] at awaits
    · have live := awaits.live_of_not_failed (by simp)
      exact ⟨made, awaits.grown, awaits.asked, .live live (by simp [keep])⟩
    · cases unreachable : failure.kind? == some FailureKind.sessionUnreachable with
      | true =>
        simp only [unreachable, if_true, Activity.throw_run]
        have kind : failure.kind? = some .sessionUnreachable := by simpa using unreachable
        refine ⟨made, awaits.grown, awaits.asked, ?_⟩
        rcases awaits.ending with ⟨-, known⟩ | reported | ⟨_, _, fault, -, -, -, failed⟩
        · exact absurd kind (by simpa using known)
        · exact .reported ⟨reported.last, by simpa using kind⟩
        · cases failed
          cases kind
      | false =>
        simp only [unreachable, Bool.false_eq_true, if_false]
        -- The fault of a handle has no kind, so the search goes on even if it is a loss.
        obtain ⟨more, searches⟩ := ih (noted ++ [(lead.selector, failure.message)]) between
        refine ⟨made ++ more, ?_, ?_, ?_⟩
        · rw [searches.grown, awaits.grown, List.append_assoc]
        · exact List.forall_mem_append.mpr ⟨awaits.asked, searches.asked⟩
        rcases awaits.ending with ⟨live, -⟩ | reported | ⟨counts, called, _, rfl, lost, handle, -⟩
        · exact searches.ending.prepend live
        · have kind : failure.kind? = some .sessionUnreachable := by
            simpa using reported.unreachable
          simp [kind] at unreachable
        · exact searches.ending.after_handle lost handle
    · have live := awaits.live_of_not_failed (by simp)
      exact ⟨made, awaits.grown, awaits.asked, .live live (by simp)⟩

omit [Scale T] in
theorem leads_run (scenario : Scenario W T) (page element : String) (row : Option Row)
    (scene : Scene W) :
    (∃ found, scenario.leads page element row scene = (.ok found, scene)) ∨
      ∃ failure, scenario.leads page element row scene = (.failed failure, scene) := by
  unfold leads livePage
  simp only [Activity.bind_run, Activity.look_run]
  cases scene.session.page with
  | none => exact .inr ⟨.noPage, rfl⟩
  | some live =>
    cases closed : scenario.world.isClosed scene.world live with
    | true => exact .inr ⟨.noPage, by simp [Activity.bind_run, closed]⟩
    | false =>
      simp only [Activity.bind_run, Activity.look_run, closed, Bool.false_eq_true, if_false,
        Activity.pure_run]
      cases scenario.catalog.candidates page element with
      | error failure => exact .inr ⟨failure, rfl⟩
      | ok candidates => exact .inl ⟨_, rfl⟩

theorem resolve_calls (logs : scenario.world.IsLog log) (page element : String) (row : Option Row)
    (timeout : T) (scene : Scene W) :
    ∃ made, log (scenario.resolve page element row timeout scene).2.world =
        log scene.world ++ made ∧
      (∀ called ∈ made, called.IsCount ∨ called.IsHandle) ∧
      (Called.EndsAtLoss made (scenario.resolve page element row timeout scene).1 ↔
        ∀ called ∈ made, called.IsLost → called.IsCount) := by
  unfold resolve discover
  simp only [Activity.bind_run, Activity.look_run]
  cases scene.handles.get? page element with
  | some resolved => exact ⟨[], by simp, by simp, Called.endsAtLoss_nil _⟩
  | none =>
    simp only [Activity.bind_run]
    rcases scenario.leads_run page element row scene with ⟨found, ran⟩ | ⟨failure, ran⟩
    · obtain ⟨made, searches⟩ := tryLeads_searches logs page element timeout [] found scene
      simp only [ran]
      exact ⟨made, searches.grown, searches.asked, searches.ending.endsAtLoss_iff⟩
    · simp only [ran]
      exact ⟨[], by simp, by simp, Called.endsAtLoss_nil _⟩

/-! ## Those who search -/

theorem check_of_unreachable {action : Action} {row : Option Row} {condition : Condition}
    {ifTrueNext ifFalseNext : Nat} {scene after : Scene W} {failure : Failure}
    (unreachable : failure.kind? = some .sessionUnreachable)
    (resolved : scenario.resolveFor action.header row scene = (.failed failure, after)) :
    scenario.check action row condition ifTrueNext ifFalseNext scene =
      (.failed failure, after) := by
  simp [check, Activity.bind_run, Activity.attempt, resolved, unreachable]

theorem seesElement_of_unreachable {header : Header} {row : Option Row} {scene after : Scene W}
    {failure : Failure} (unreachable : failure.kind? = some .sessionUnreachable)
    (resolved : scenario.resolveFor header row scene = (.failed failure, after)) :
    scenario.seesElement header row scene = (.failed failure, after) := by
  simp [seesElement, Activity.bind_run, Activity.attempt, resolved, unreachable]

/-- A search ends at the loss of the session, and reports it, exactly if the loss is met by a
count and not by a handle. Then those who take a missing element for an answer do not get one. -/
theorem resolve_reports_loss_iff (logs : scenario.world.IsLog log) (page element : String)
    (row : Option Row) (timeout : T) (scene : Scene W) :
    let made := callsOf log (scenario.resolve page element row timeout) scene
    (∀ called ∈ made, called.IsCount ∨ called.IsHandle) ∧
    (Called.EndsAtLoss made (scenario.resolve page element row timeout scene).1 ↔
      ∀ called ∈ made, called.IsLost → called.IsCount) ∧
    ((∀ called ∈ made, called.IsLost → called.IsCount) → (∃ called ∈ made, called.IsLost) →
      ∀ header : Header, header.page.getD "" = page → header.element.getD "" = element →
        scenario.effectiveTimeout header = timeout →
        ∃ failure, failure.kind? = some .sessionUnreachable ∧
          (∀ (action : Action) (condition : Condition) (ifTrueNext ifFalseNext : Nat),
            action.header = header →
            (scenario.check action row condition ifTrueNext ifFalseNext scene).1 =
              .failed failure) ∧
          ∀ assertion : Assertion, assertion.header = header → assertion.aspect = .visible →
            (scenario.observe assertion row scene).1 = .failed failure) := by
  intro made
  obtain ⟨calls, grown, asked, ends⟩ := resolve_calls logs page element row timeout scene
  have same : made = calls := callsOf_of_append grown
  rw [same]
  refine ⟨asked, ends, ?_⟩
  rintro counted ⟨called, member, lost⟩ header rfl rfl rfl
  obtain ⟨before, after, split⟩ := List.append_of_mem member
  obtain ⟨-, failure, failed, unreachable⟩ := ends.mpr counted before called after split lost
  have resolved : scenario.resolveFor header row scene =
      (.failed failure, (scenario.resolveFor header row scene).2) := Prod.ext failed rfl
  refine ⟨failure, unreachable, ?_, ?_⟩
  · rintro action condition ifTrueNext ifFalseNext rfl
    rw [check_of_unreachable unreachable resolved]
  · rintro assertion rfl visible
    have unseen := seesElement_of_unreachable unreachable resolved
    simp [observe, visible, Activity.bind_run, unseen]

theorem closed_by_count_is_reported :
    let scenario := onePage (World.closedBy .count)
    let search := scenario.resolve "login" "user" none 1
    scenario.world.IsLog Prod.snd ∧
      (∃ called ∈ callsOf Prod.snd search onePageOpen, called.IsLost) ∧
      Called.EndsAtLoss (callsOf Prod.snd search onePageOpen) (search onePageOpen).1 := by
  intro scenario search
  have logs : scenario.world.IsLog Prod.snd := World.recorded_isLog _
  have law := resolve_reports_loss_iff logs "login" "user" none 1 onePageOpen
  have lost : (Failure.fault World.pageClosed).isSessionLost = true := by decide +kernel
  have made : callsOf Prod.snd search onePageOpen =
      [⟨.query onePageTarget .count, some World.pageClosed⟩] := rfl
  refine ⟨logs, ?_, law.2.1.mpr ?_⟩
  · exact ⟨_, by rw [made]; exact List.mem_singleton_self _, _, rfl, lost⟩
  · intro called member _
    rw [made] at member
    exact List.mem_singleton.mp member ▸ ⟨_, rfl⟩

/-- A page that is closed by the query for the handle is taken for one without the element: a check
takes its false branch, and the element is judged not to be visible. -/
theorem closed_by_handle_is_overlooked :
    let scenario := onePage (World.closedBy .handle)
    let search := scenario.resolve "login" "user" none 1
    let header : Header :=
      { index := 1, page := some "login", element := some "user", wait := none, timeout := none }
    let action : Action := { header, value := none, operation := .check .present 2 3 }
    (∃ called ∈ callsOf Prod.snd search onePageOpen, called.IsLost) ∧
      (search onePageOpen).1 =
        .failed (.notFound "login" "user" [(onePageTarget.selector, "Target closed")]) ∧
      (∃ outcome after, scenario.check action none .present 2 3 onePageOpen = (.ok outcome, after) ∧
        outcome.nextIndex = some 3) ∧
      (scenario.seesElement header none onePageOpen).1 = .ok false := by
  intro scenario search header action
  have lost : (Failure.fault World.pageClosed).isSessionLost = true := by decide +kernel
  have made : callsOf Prod.snd search onePageOpen =
      [⟨.query onePageTarget .count, none⟩,
       ⟨.query onePageTarget.first .handle, some World.pageClosed⟩] := rfl
  refine ⟨?_, rfl, ⟨_, _, rfl, rfl⟩, rfl⟩
  exact ⟨_, by rw [made]; exact List.mem_cons_of_mem _ (List.mem_singleton_self _), _, rfl, lost⟩

end Scenario

end Rehearsal
