import Rehearsal.Proofs.Scenario.Attempt
import Rehearsal.Proofs.Scenario.Consuming
import Rehearsal.Proofs.Time.PollBudget
import Rehearsal.Proofs.World.Transcript

/-!
What a record that consumes comes to. Out of all that its looks at the broker have fetched it takes
the first message that suits it, and looks no further; without one it fails, but not before its time
is up.
-/

set_option autoImplicit false

namespace Rehearsal

open Activity

section

variable {T A : Type}

def Answered.fetched? : Answered T -> Option (List Delivery)
  | ⟨.fetch _ _, .ok messages⟩ => some (messages.map Message.read)
  | _ => none

/-- What some calls have fetched, batch by batch. -/
def fetched (made : List (Answered T)) : List (List Delivery) :=
  made.filterMap Answered.fetched?

@[simp] theorem fetched_append (made more : List (Answered T)) :
    fetched (made ++ more) = fetched made ++ fetched more :=
  List.filterMap_append

/-- A message that has no value counts as an empty one. -/
structure Delivery.Suits (message : Delivery) (topic key : String) (part : Option String) :
    Prop where
  topic : message.topic = topic
  key : message.key = some key
  part : ∀ piece, part = some piece → piece.toList <:+: (message.value.getD "").toList

theorem Delivery.isWanted_iff {message : Delivery} {topic key : String} {part : Option String} :
    message.isWanted topic key part = true ↔ message.Suits topic key part := by
  have contains : ∀ piece : String, Text.contains (message.value.getD "") piece = true ↔
      piece.toList <:+: (message.value.getD "").toList := by
    intro piece
    rw [Text.contains, Text.occursIn_iff]
    exact exists_congr fun before => exists_congr fun after => eq_comm
  simp only [isWanted, Bool.and_eq_true, beq_iff_eq, Option.all_eq_true, contains, and_assoc]
  constructor
  · exact fun ⟨topic, key, part⟩ => ⟨topic, key, part⟩
  · exact fun suits => ⟨suits.topic, suits.key, suits.part⟩

def Lacks (suits : Delivery -> Prop) (batches : List (List Delivery)) : Prop :=
  ∀ batch ∈ batches, ∀ message ∈ batch, ¬ suits message

/-- The last of some batches has a message that suits, and none that came before it does. -/
def EndsWith (suits : Delivery -> Prop) (batches : List (List Delivery)) (message : Delivery) :
    Prop :=
  ∃ earlier before after, batches = earlier ++ [before ++ message :: after] ∧ suits message ∧
    Lacks suits (earlier ++ [before])

/-- What was fetched tells what a search comes to. -/
structure Inspects (suits : Delivery -> Prop) (report : Delivery -> A) (made : List (Answered T))
    (outcome : Outcome A) : Prop where
  found : ∀ value, outcome = .ok value → ∃ message, value = report message ∧
    EndsWith suits (fetched made) message
  missed : ∀ failure, outcome = .failed failure → failure.kind? = some .brokerTimeout →
    Lacks suits (fetched made)
  overdue : ∀ failure, outcome = .failed failure →
    (∀ answered ∈ made, ¬ answered.called.IsLost) → failure.kind? = some .brokerTimeout

theorem Inspects.report {suits : Delivery -> Prop} {report : Delivery -> A}
    {made : List (Answered T)} {message : Delivery}
    (searched : Inspects suits id made (.ok message)) :
    Inspects suits report made (.ok (report message)) := by
  refine ⟨fun value ended => ?_, nofun, nofun⟩
  cases ended
  obtain ⟨_, rfl, ends⟩ := searched.found message rfl
  exact ⟨_, rfl, ends⟩

theorem Inspects.of_failed {suits : Delivery -> Prop} {report : Delivery -> A}
    {made : List (Answered T)} {failure : Failure}
    (searched : Inspects suits id made (.failed failure)) :
    Inspects suits report made (.failed failure) := by
  refine ⟨nofun, ?_, ?_⟩
  · rintro _ ⟨⟩
    exact searched.missed failure rfl
  · rintro _ ⟨⟩
    exact searched.overdue failure rfl

theorem inspects_stalled {suits : Delivery -> Prop} {report : Delivery -> A}
    {made : List (Answered T)} : Inspects suits report made .stalled :=
  ⟨nofun, nofun, nofun⟩

theorem lacks_nil {suits : Delivery -> Prop} : Lacks suits [] := by simp [Lacks]

theorem lacks_fetched_iff {suits : Delivery -> Prop} {made : List (Answered T)} :
    Lacks suits (fetched made) ↔ ∀ answered ∈ made, ∀ batch, answered.fetched? = some batch →
      ∀ message ∈ batch, ¬ suits message := by
  simp only [Lacks, fetched, List.mem_filterMap]
  constructor
  · exact fun lacks answered member batch fetched => lacks batch ⟨answered, member, fetched⟩
  · exact fun lacks batch ⟨answered, member, fetched⟩ => lacks answered member batch fetched

theorem endsWith_of_find? {suits : Delivery -> Prop} {wanted : Delivery -> Bool}
    (wants : ∀ message, wanted message = true ↔ suits message) {earlier : List (List Delivery)}
    (lacks : Lacks suits earlier) {batch : List Delivery} {message : Delivery}
    (first : batch.find? wanted = some message) : EndsWith suits (earlier ++ [batch]) message := by
  -- What stands before the message in its own batch does not suit either.
  obtain ⟨found, before, after, rfl, none⟩ := List.find?_eq_some_iff_append.mp first
  refine ⟨earlier, before, after, rfl, (wants message).mp found, ?_⟩
  refine List.forall_mem_append.mpr ⟨lacks, List.forall_mem_singleton.mpr fun other member => ?_⟩
  rw [← wants]
  simpa using none other member

/-! ## One look -/

/-- What a look at the broker may come to. -/
inductive Fetches : List (Answered T) -> Outcome (List Delivery) -> Prop where
  | unasked : Fetches [] (.ok [])
  | overflows :
      Fetches [] (.failed (.fault ⟨.overflow, "cannot convert float infinity to integer"⟩))
  | batch {consumer : ConsumerId} {span : Int} (messages : List Message) :
      Fetches [⟨.fetch consumer span, .ok messages⟩] (.ok (messages.map Message.read))
  | refused {consumer : ConsumerId} {span : Int} (fault : Fault) :
      Fetches [⟨.fetch consumer span, .error fault⟩] (.failed (.fault fault))

/-- What was fetched tells what a look for a message comes to. -/
inductive Looked (wanted : Delivery -> Bool) : List (Answered T) -> Sight Delivery -> Prop where
  | found {answered : Answered T} {batch : List Delivery} {message : Delivery}
      (fetched : answered.fetched? = some batch) (first : batch.find? wanted = some message) :
      Looked wanted [answered] (.found message)
  | vain {made : List (Answered T)} {finding : Sight Delivery} (vain : finding.isVain = true)
      (lacks : Lacks (wanted · = true) (fetched made)) : Looked wanted made finding
  | lost {answered : Answered T} {failure : Failure} (lost : answered.called.IsLost) :
      Looked wanted [answered] (.lost failure)

theorem Looked.lacks {wanted : Delivery -> Bool} {made : List (Answered T)}
    {finding : Sight Delivery} (looked : Looked wanted made finding)
    (vain : finding.isVain = true) : Lacks (wanted · = true) (fetched made) := by
  cases looked with
  | vain _ lacks => exact lacks
  | found _ _ | lost _ => cases vain

end

namespace Scenario

variable {W T : Type} [Scale T] {scenario : Scenario W T} {transcript : W -> List (Answered T)}
  {row : Option Row} {action : Action}

theorem overflow_live :
    (Failure.fault ⟨.overflow, "cannot convert float infinity to integer"⟩).isSessionLost =
      false := by
  decide +kernel

theorem looksFor_run (scenario : Scenario W T) (row : Option Row) (action : Action)
    (state : Scene W) :
    scenario.looksFor row action state =
      match scenario.fetch brokerPause state with
      | (.ok batch, last) => (.ok (batch.find? (scenario.seeks row action)), last)
      | (.failed failure, last) => (.failed failure, last)
      | (.stalled, last) => (.stalled, last) := by
  rw [looksFor, bind_run]
  rcases scenario.fetch brokerPause state with ⟨_ | _ | _, _⟩ <;> rfl

theorem looksFor_after (scenario : Scenario W T) (row : Option Row) (action : Action)
    (scene : Scene W) :
    (scenario.looksFor row action scene).1 ≠ .stalled ∧
      ((scenario.looksFor row action scene).2.world = scene.world ∨
        ∃ consumer span, (scenario.looksFor row action scene).2.world =
          (scenario.world.perform (.fetch consumer span) scene.world).2) := by
  rw [looksFor_run, fetch, bind_run, look_run]
  cases scene.broker.consumer with
  | none => exact ⟨Outcome.ok_ne_stalled _, .inl rfl⟩
  | some consumer =>
    cases Scale.whole? (Scale.thousandfold (brokerPause : T)) with
    | none => exact ⟨Outcome.failed_ne_stalled _, .inl rfl⟩
    | some count =>
      dsimp only
      rw [bind_run, call]
      rcases performed : scenario.world.perform (.fetch consumer count) scene.world with
        ⟨_ | messages, world⟩
      · exact ⟨Outcome.failed_ne_stalled _, .inr ⟨consumer, count, by rw [performed]⟩⟩
      · exact ⟨Outcome.ok_ne_stalled _, .inr ⟨consumer, count, by rw [performed]; rfl⟩⟩

section

variable (transcribes : scenario.world.IsTranscript transcript)

include transcribes

theorem fetch_tells (span : T) : Tells transcript Fetches (scenario.fetch span) := by
  intro scene
  rw [fetch, bind_run, look_run]
  cases scene.broker.consumer with
  | none => exact ⟨[], (List.append_nil _).symm, .unasked⟩
  | some consumer =>
    cases Scale.whole? (Scale.thousandfold span) with
    | none => exact ⟨[], (List.append_nil _).symm, .overflows⟩
    | some count =>
      exact tells_call_bind transcribes (fun messages => tells_pure (.batch messages))
        (fun fault => .refused fault) scene

theorem finds_looked {state after : Scene W} {finding : Sight Delivery}
    (found : Polling.Finds (scenario.looksFor row action) state finding after) :
    ∃ made, transcript after.world = transcript state.world ++ made ∧
      Looked (scenario.seeks row action) made finding := by
  obtain ⟨made, grown, fetches⟩ := fetch_tells transcribes brokerPause state
  have looked := scenario.looksFor_run row action state
  rcases ran : scenario.fetch brokerPause state with ⟨outcome, last⟩
  rw [ran] at looked grown fetches
  refine ⟨made, found.after ▸ looked ▸ ?_, ?_⟩
  · cases outcome <;> exact grown
  cases fetches with
  | unasked =>
    cases found with
    | nothing ran => exact .vain rfl lacks_nil
    | found ran | erred ran | lost ran => cases looked.symm.trans ran
  | overflows =>
    cases found with
    | erred ran live => exact .vain rfl lacks_nil
    | lost ran lost =>
      cases looked.symm.trans ran
      rw [overflow_live] at lost
      cases lost
    | found ran | nothing ran => cases looked.symm.trans ran
  | batch messages =>
    cases found with
    | found ran =>
      refine .found rfl ?_
      simpa using congrArg Prod.fst (looked.symm.trans ran)
    | nothing ran =>
      have none : (messages.map Message.read).find? (scenario.seeks row action) = none := by
        simpa using congrArg Prod.fst (looked.symm.trans ran)
      refine .vain rfl (List.forall_mem_singleton.mpr ?_)
      simpa using none
    | erred ran | lost ran => cases looked.symm.trans ran
  | refused fault =>
    cases found with
    | erred ran live => exact .vain rfl lacks_nil
    | lost ran lost =>
      cases looked.symm.trans ran
      exact .lost ⟨fault, rfl, lost⟩
    | found ran | nothing ran => cases looked.symm.trans ran

/-! ## All looks -/

theorem search_tells {suits : Delivery -> Prop} {polling : Polling T}
    (wants : ∀ message, scenario.seeks row action message = true ↔ suits message)
    (kind : polling.kind = .brokerTimeout) :
    Tells transcript (Inspects suits id)
      (polling.run scenario.clock scenario.fuel (scenario.looksFor row action)) := by
  simp only [← funext fun message => propext (wants message)]
  refine tells_polling transcribes (finds_looked transcribes)
    (fun state => (scenario.looksFor_after row action state).1)
    (fun looked vain => lacks_fetched_iff.mp (looked.lacks vain)) ?_ fun _ => inspects_stalled
  intro made last finding latest none looked
  have lacks := lacks_fetched_iff.mpr none
  cases looked with
  | @found answered batch message one first =>
    refine ⟨fun value ended => ?_, nofun, nofun⟩
    cases ended
    have last : fetched [answered] = [batch] := by simp [fetched, one]
    rw [fetched_append, last]
    exact ⟨message, rfl, endsWith_of_find? (fun _ => Iff.rfl) lacks first⟩
  | vain vain lacksOn =>
    -- The search ends with a look in vain only because the time is up.
    have lacksAll := List.forall_mem_append.mpr ⟨lacks, lacksOn⟩
    rw [← fetched_append] at lacksAll
    cases finding with
    | nothing | erred cause =>
      refine ⟨nofun, fun _ _ _ => lacksAll, fun failure ended _ => ?_⟩
      cases ended
      exact congrArg some kind
    | found message | lost cause => cases vain
  | lost lost =>
    refine ⟨nofun, fun failure ended overdue => ?_, fun failure ended live => ?_⟩
    · cases ended
      cases (Polling.kind_asUnreachable _).symm.trans overdue
    · exact absurd lost (live _ (by simp))

end

/-! ## Records -/

def seeking (scenario : Scenario W T) (header : Header) (topic key : String) : Polling T :=
  { timeout := scenario.effectiveTimeout header, interval := brokerPause
    awaited := s!"message with key '{key}' on topic '{topic}'", kind := .brokerTimeout }

def consumed (topic key : String) (message : Delivery) : StepOutcome :=
  .passed [("topic", .text topic), ("key", .text key), ("value", .ofOption message.value)]

section

variable {topic key : String} {part : Option String} {scene opened final : Scene W}
  (enabled : scenario.settings.brokerEnabled = true)
  (consumes : action.operation = .consume topic key part)
  (opens : (scenario.preparing action.header row >>= fun _ =>
    scenario.subscribe (scenario.fill row topic)) scene = (.ok (), opened))

include consumes

omit [Scale T] in
theorem seeks_iff (message : Delivery) : scenario.seeks row action message = true ↔
    message.Suits (scenario.fill row topic) (scenario.fill row key) (scenario.fill? row part) := by
  rw [seeks, consumes]
  exact Delivery.isWanted_iff

include enabled opens

theorem takeAction_consumes :
    scenario.takeAction action row scene =
      ((scenario.seeking action.header (scenario.fill row topic) (scenario.fill row key)).run
        scenario.clock scenario.fuel (scenario.looksFor row action) >>= fun found =>
          pure (consumed (scenario.fill row topic) (scenario.fill row key) found)) opened := by
  have sought : scenario.seeks row action = Delivery.isWanted (scenario.fill row topic)
      (scenario.fill row key) (scenario.fill? row part) := by rw [seeks, consumes]
  have split : scenario.takeAction action row =
      (scenario.preparing action.header row >>= fun _ =>
        scenario.subscribe (scenario.fill row topic)) >>= fun _ =>
          (scenario.seeking action.header (scenario.fill row topic) (scenario.fill row key)).run
            scenario.clock scenario.fuel (scenario.looksFor row action) >>= fun found =>
              pure (consumed (scenario.fill row topic) (scenario.fill row key) found) := by
    rw [takeAction, prepared_eq, perform, consumes, bind_assoc]
    simp only [looksFor, sought, withBroker, enabled, if_true]
    rfl
  rw [split, bind_run, opens]

theorem takeAction_searches (transcribes : scenario.world.IsTranscript transcript) :
    ∃ made, transcript (scenario.takeAction action row scene).2.world =
        transcript opened.world ++ made ∧
      Inspects (·.Suits (scenario.fill row topic) (scenario.fill row key) (scenario.fill? row part))
        (consumed (scenario.fill row topic) (scenario.fill row key)) made
        (scenario.takeAction action row scene).1 := by
  rw [takeAction_consumes enabled consumes opens]
  refine (tells_bind (search_tells transcribes (seeks_iff consumes) rfl) ?_ ?_ ?_) opened
  · intro made message searched
    refine tells_pure ?_
    rw [List.append_nil]
    exact searched.report
  · exact fun made failure searched => searched.of_failed
  · exact fun made searched => inspects_stalled

theorem takeAction_overdue {failure : Failure}
    (ran : scenario.takeAction action row scene = (.failed failure, final))
    (timedOut : failure.kind? = some .brokerTimeout) :
    ∃ earlier last,
      (scenario.seeking action.header (scenario.fill row topic) (scenario.fill row key)).Concludes
        scenario.clock (scenario.looksFor row action)
        (Scale.add (scenario.clock.now opened) (scenario.effectiveTimeout action.header)) opened
        earlier last final ∧
      last.finding.isVain = true := by
  rw [takeAction_consumes enabled consumes opens, bind_run] at ran
  rcases polled : (scenario.seeking action.header (scenario.fill row topic)
      (scenario.fill row key)).run scenario.clock scenario.fuel (scenario.looksFor row action)
      opened with ⟨_ | _ | _, last⟩ <;> rw [polled] at ran <;> cases ran
  refine Polling.concludes_of_failed polled ?_
  rw [timedOut]
  nofun

end

end Scenario

/-! ## Time -/

namespace Scenario

variable {W : Type} {scenario : Scenario W Rat} {row : Option Row} {action : Action}

structure FetchesInTime (scenario : Scenario W Rat) : Prop where
  sleeps : ∀ span world, scenario.world.clock.now (scenario.world.clock.sleep span world) =
    scenario.world.clock.now world + span
  fetches : ∀ consumer span world, scenario.world.clock.now world ≤
    scenario.world.clock.now (scenario.world.perform (.fetch consumer span) world).2

def FreeFetches (scenario : Scenario W Rat) : Prop :=
  ∀ consumer span world, scenario.world.clock.now
    (scenario.world.perform (.fetch consumer span) world).2 = scenario.world.clock.now world

theorem FetchesInTime.looks (timed : scenario.FetchesInTime) (row : Option Row) (action : Action) :
    Polling.KeepsTime scenario.clock (scenario.looksFor row action) where
  sleeps span scene := timed.sleeps span scene.world
  probes := by
    intro scene
    obtain ⟨ends, untouched | ⟨consumer, span, fetched⟩⟩ := looksFor_after scenario row action scene
    · exact ⟨ends, (congrArg scenario.world.clock.now untouched).ge⟩
    · refine ⟨ends, (timed.fetches consumer span scene.world).trans ?_⟩
      exact (congrArg scenario.world.clock.now fetched).ge

theorem FreeFetches.looks (free : scenario.FreeFetches) (row : Option Row) (action : Action) :
    Polling.Free scenario.clock (scenario.looksFor row action) := by
  intro scene
  obtain ⟨-, untouched | ⟨consumer, span, fetched⟩⟩ := looksFor_after scenario row action scene
  · exact congrArg scenario.world.clock.now untouched
  · exact (congrArg scenario.world.clock.now fetched).trans (free consumer span scene.world)

section

variable {topic key : String} {part : Option String} {scene opened final : Scene W}
  (enabled : scenario.settings.brokerEnabled = true)
  (consumes : action.operation = .consume topic key part)
  (opens : (scenario.preparing action.header row >>= fun _ =>
    scenario.subscribe (scenario.fill row topic)) scene = (.ok (), opened))

include enabled consumes opens

theorem takeAction_concludes (timed : scenario.FetchesInTime)
    (enough : (scenario.seeking action.header (scenario.fill row topic)
      (scenario.fill row key)).limit ≤ scenario.fuel) :
    (scenario.takeAction action row scene).1 ≠ .stalled := by
  have spaced : (0 : Rat) < brokerPause := by norm_num [brokerPause_exact]
  have ended := Polling.run_not_stalled (timed.looks row action) (fun _ => spaced) enough opened
  rw [takeAction_consumes enabled consumes opens, bind_run]
  rcases polled : (scenario.seeking action.header (scenario.fill row topic)
      (scenario.fill row key)).run scenario.clock scenario.fuel (scenario.looksFor row action)
      opened with ⟨_ | _ | _, last⟩ <;> rw [polled] at ended
  · exact nofun
  · exact nofun
  · exact absurd rfl ended

theorem takeAction_punctual (timed : scenario.FetchesInTime) (free : scenario.FreeFetches)
    (room : 0 < scenario.effectiveTimeout action.header) {failure : Failure}
    (ran : scenario.takeAction action row scene = (.failed failure, final))
    (timedOut : failure.kind? = some .brokerTimeout) :
    scenario.clock.now final =
      scenario.clock.now opened + scenario.effectiveTimeout action.header := by
  obtain ⟨earlier, last, concludes, vain⟩ :=
    takeAction_overdue enabled consumes opens ran timedOut
  exact (timed.looks row action).expires_exactly room concludes vain
    ((free.looks row action).now_finds concludes.finds)

end

end Scenario

/-- A record that consumes takes the first message that suits it of all that were fetched, and
fetches no more. If there is none, and the session is not lost, it fails when the time is up: at the
deadline if fetching takes no time. -/
theorem first_suiting_message_is_consumed :
    (∀ {W T : Type} [Scale T] {scenario : Scenario W T} {transcript : W -> List (Answered T)}
        {action : Action} {row : Option Row} {topic key : String} {part : Option String}
        {scene opened : Scene W},
      scenario.world.IsTranscript transcript → scenario.settings.brokerEnabled = true →
      action.operation = .consume topic key part →
      (scenario.preparing action.header row >>= fun _ =>
        scenario.subscribe (scenario.fill row topic)) scene = (.ok (), opened) →
        (∃ made, transcript (scenario.takeAction action row scene).2.world =
            transcript opened.world ++ made ∧
          Inspects
            (·.Suits (scenario.fill row topic) (scenario.fill row key) (scenario.fill? row part))
            (Scenario.consumed (scenario.fill row topic) (scenario.fill row key)) made
            (scenario.takeAction action row scene).1) ∧
        ∀ failure final, scenario.takeAction action row scene = (.failed failure, final) →
          failure.kind? = some .brokerTimeout →
            Polling.isOver scenario.clock
              (Scale.add (scenario.clock.now opened) (scenario.effectiveTimeout action.header))
              final = true) ∧
    ∀ {W : Type} {scenario : Scenario W Rat} {action : Action} {row : Option Row}
        {topic key : String} {part : Option String} {scene opened : Scene W},
      scenario.settings.brokerEnabled = true → action.operation = .consume topic key part →
      (scenario.preparing action.header row >>= fun _ =>
        scenario.subscribe (scenario.fill row topic)) scene = (.ok (), opened) →
      scenario.FetchesInTime →
        ((scenario.seeking action.header (scenario.fill row topic)
            (scenario.fill row key)).limit ≤ scenario.fuel →
          (scenario.takeAction action row scene).1 ≠ .stalled) ∧
        ∀ failure final, scenario.takeAction action row scene = (.failed failure, final) →
          failure.kind? = some .brokerTimeout →
            scenario.clock.now opened + scenario.effectiveTimeout action.header ≤
              scenario.clock.now final ∧
            (scenario.FreeFetches → 0 < scenario.effectiveTimeout action.header →
              scenario.clock.now final =
                scenario.clock.now opened + scenario.effectiveTimeout action.header) := by
  refine ⟨?_, ?_⟩
  · intro W T _ scenario transcript action row topic key part scene opened transcribes enabled
      consumes opens
    refine ⟨Scenario.takeAction_searches enabled consumes opens transcribes, ?_⟩
    intro failure final ran timedOut
    obtain ⟨earlier, last, concludes, vain⟩ :=
      Scenario.takeAction_overdue enabled consumes opens ran timedOut
    exact concludes.overdue vain
  · intro W scenario action row topic key part scene opened enabled consumes opens timed
    refine ⟨Scenario.takeAction_concludes enabled consumes opens timed, ?_⟩
    intro failure final ran timedOut
    refine ⟨?_, fun free room =>
      Scenario.takeAction_punctual enabled consumes opens timed free room ran timedOut⟩
    obtain ⟨earlier, last, concludes, vain⟩ :=
      Scenario.takeAction_overdue enabled consumes opens ran timedOut
    exact Polling.isOver_exact.mp (concludes.overdue vain)

/-! ## Orders -/

namespace Scenario

def fetching : Scenario ((List (List Message) × Rat) × List (Answered Rat)) Rat :=
  .standard World.handing.transcribed { pages := [], tests := [], params := [] }
    { Settings.plain with brokerEnabled := true } "run" 20

def fetchingFrom (batches : List (List Message)) :
    Scene ((List (List Message) × Rat) × List (Answered Rat)) :=
  { Scene.opening ((batches, 0), []) (Files.empty "/") with
    broker := { BrokerClients.none with consumer := some ⟨0⟩, topics := ["orders"] } }

theorem fetching_fills :
    fetching.fill none "orders" = "orders" ∧ fetching.fill none "a" = "a" := by
  decide +kernel

theorem fetchingFrom_opens (batches : List (List Message)) :
    (fetching.preparing (consuming "a").header none >>= fun _ =>
      fetching.subscribe (fetching.fill none "orders")) (fetchingFrom batches) =
      (.ok (), fetchingFrom batches) := by
  rw [fetching_fills.1]
  rfl

end Scenario

theorem order_is_consumed_from_second_batch :
    (∃ final message,
      Scenario.fetching.takeAction (Scenario.consuming "a") none (Scenario.fetchingFrom
        [[Scenario.order "b"], [Scenario.order "b", Scenario.order "a"], [Scenario.order "a"]]) =
        (.ok (Scenario.consumed "orders" "a" message), final) ∧
      EndsWith (·.Suits "orders" "a" none) (fetched final.world.2) message) ∧
    ∃ failure final,
      Scenario.fetching.takeAction (Scenario.consuming "a") none (Scenario.fetchingFrom
        [[Scenario.order "b"]]) = (.failed failure, final) ∧
      failure.kind? = some .brokerTimeout ∧ final.world.1.2 = 1 := by
  have transcribes : Scenario.fetching.world.IsTranscript Prod.snd :=
    World.transcribed_isTranscript _
  have timed : Scenario.fetching.FetchesInTime :=
    { sleeps := fun _ _ => rfl
      fetches := fun _ _ _ => le_rfl }
  obtain ⟨topic, key⟩ := Scenario.fetching_fills
  obtain ⟨searches, timely⟩ := first_suiting_message_is_consumed
  refine ⟨?_, ?_⟩
  · obtain ⟨⟨made, grown, searched⟩, -⟩ := searches transcribes rfl rfl
      (Scenario.fetchingFrom_opens [[Scenario.order "b"],
        [Scenario.order "b", Scenario.order "a"], [Scenario.order "a"]])
    have passed : (Scenario.fetching.takeAction (Scenario.consuming "a") none (Scenario.fetchingFrom
        [[Scenario.order "b"], [Scenario.order "b", Scenario.order "a"],
          [Scenario.order "a"]])).1.value?.isSome = true := by decide +kernel
    obtain ⟨report, ended⟩ := Option.isSome_iff_exists.mp passed
    have ran := run_of_outcome (Outcome.of_value? ended)
    rw [ran] at grown searched
    obtain ⟨message, rfl, ends⟩ := searched.found report rfl
    -- Nothing was called before.
    obtain rfl : _ = made := grown
    rw [topic, key] at ran ends
    exact ⟨_, message, ran, ends⟩
  · have told : (Scenario.fetching.takeAction (Scenario.consuming "a") none (Scenario.fetchingFrom
        [[Scenario.order "b"]])).1.fails (·.kind? == some .brokerTimeout) = true := by
      decide +kernel
    rcases ran : Scenario.fetching.takeAction (Scenario.consuming "a") none (Scenario.fetchingFrom
        [[Scenario.order "b"]]) with ⟨outcome, final⟩
    rw [ran] at told
    obtain ⟨failure, rfl, kind⟩ := Outcome.of_fails told
    have second : Scenario.fetching.effectiveTimeout (Scenario.consuming "a").header = 1 := by
      change (Scale.ofSeconds 1.0 : Rat) = 1
      decide
    have start : Scenario.fetching.clock.now (Scenario.fetchingFrom [[Scenario.order "b"]]) = 0 :=
      rfl
    obtain ⟨-, expires⟩ :=
      timely rfl rfl (Scenario.fetchingFrom_opens [[Scenario.order "b"]]) timed
    have late := (expires failure final ran (eq_of_beq kind)).2 (fun _ _ _ => rfl)
    rw [start, second, zero_add] at late
    exact ⟨failure, final, rfl, eq_of_beq kind, late one_pos⟩

end Rehearsal
