import Rehearsal.Proofs.Scenario.BrokerRequests

/-!
Subscriptions as the broker knows them. A topic counts as asked for from before the broker is told
of it, so an asked topic is served only where nothing failed in between: exactly in the settled
states. A request for a topic that failed leaves them, and repeating it changes nothing.
-/

set_option autoImplicit false

namespace Rehearsal

/-- What the broker knows of a consumer: whether it was started, and the topics that it was last
told of. -/
structure Consumption where
  started : Bool
  topics : List String

namespace Consumption

variable {T : Type}

def fresh : Consumption := { started := false, topics := [] }

def next (consumer : ConsumerId) (known : Consumption) (called : Called T) : Consumption :=
  match called.call, called.fault? with
  | .newConsumer _ _, none => fresh
  | .startConsumer other, none =>
    if other = consumer then { known with started := true } else known
  | .subscribe other topics, none => if other = consumer then { known with topics } else known
  | .stopConsumer other, none =>
    if other = consumer then { known with started := false } else known
  | _, _ => known

def after (consumer : ConsumerId) (made : List (Called T)) : Consumption :=
  made.foldl (next consumer) fresh

theorem after_append (consumer : ConsumerId) (past made : List (Called T)) :
    after consumer (past ++ made) = made.foldl (next consumer) (after consumer past) :=
  List.foldl_append

theorem next_elsewhere {consumer : ConsumerId} {known : Consumption} {called : Called T}
    (elsewhere : called.call.isToBroker = false) : next consumer known called = known := by
  rcases called with ⟨call, fault?⟩
  cases call <;> first | rfl | cases elsewhere

theorem foldl_elsewhere {consumer : ConsumerId} {known : Consumption} {made : List (Called T)}
    (elsewhere : ∀ called ∈ made, called.call.isToBroker = false) :
    made.foldl (next consumer) known = known := by
  induction made with
  | nil => rfl
  | cons called made ih =>
    rw [List.foldl_cons, next_elsewhere (elsewhere called List.mem_cons_self)]
    exact ih fun other member => elsewhere other (List.mem_cons_of_mem _ member)

end Consumption

namespace Subscription

variable {T : Type} {settings : Settings} {past made : List (Called T)}
  {held after : BrokerClients}

/-- The topics reach the consumer that is held: it is started, and was last told of all of them. -/
def Serves (made : List (Called T)) (held : BrokerClients) (topics : List String) : Prop :=
  ∃ consumer, held.consumer = some consumer ∧
    (Consumption.after consumer made).started = true ∧
    topics ⊆ (Consumption.after consumer made).topics

/-- All topics that count as asked for are served. -/
def IsSettled (made : List (Called T)) (held : BrokerClients) : Prop :=
  match held.consumer with
  | none => held.topics = []
  | some consumer =>
    (Consumption.after consumer made).started = true ∧
      held.topics ⊆ (Consumption.after consumer made).topics

/-- A consumer is only made for a topic, and is told of none but those asked for. -/
def Accounts (made : List (Called T)) (held : BrokerClients) : Prop :=
  ∀ consumer, held.consumer = some consumer →
    held.topics ≠ [] ∧ (Consumption.after consumer made).topics ⊆ held.topics

theorem IsSettled.serves (settled : IsSettled made held) {topic : String}
    (asked : topic ∈ held.topics) : Serves made held held.topics := by
  unfold IsSettled at settled
  split at settled
  next =>
    rw [settled] at asked
    cases asked
  next consumer present => exact ⟨consumer, present, settled⟩

theorem exists_unserved (accounts : Accounts made held) (unsettled : ¬ IsSettled made held) :
    ∃ topic ∈ held.topics, ¬ Serves made held [topic] := by
  unfold IsSettled at unsettled
  split at unsettled
  next absent =>
    obtain ⟨topic, asked⟩ := List.exists_mem_of_ne_nil _ unsettled
    refine ⟨topic, asked, ?_⟩
    rintro ⟨consumer, present, -⟩
    cases absent.symm.trans present
  next consumer present =>
    obtain ⟨topics, -⟩ := accounts consumer present
    by_cases started : (Consumption.after consumer made).started = true
    · obtain ⟨topic, asked, untold⟩ :
          ∃ topic ∈ held.topics, topic ∉ (Consumption.after consumer made).topics := by
        simpa [started, List.subset_def] using unsettled
      refine ⟨topic, asked, ?_⟩
      rintro ⟨other, same, -, told⟩
      cases present.symm.trans same
      exact untold (told List.mem_cons_self)
    · obtain ⟨topic, asked⟩ := List.exists_mem_of_ne_nil _ topics
      refine ⟨topic, asked, ?_⟩
      rintro ⟨other, same, running, -⟩
      cases present.symm.trans same
      exact started running

theorem mem_sortTopics {topic : String} {topics : List String} :
    topic ∈ Scenario.sortTopics topics ↔ topic ∈ topics :=
  List.mem_mergeSort

/-! ## One request -/

variable {outcome : Outcome Unit} {topic : String}

theorem apart_of_answered {request : BrokerRequest T}
    (answered : request.Answered settings held made outcome after)
    (other : ∀ topic, request ≠ .subscribe topic) :
    (after.consumer = none ∧ after.topics = [] ∧ request = .close ∧ outcome = .ok ()) ∨
      (after.consumer = held.consumer ∧ after.topics = held.topics ∧
        (request = .close → outcome ≠ .ok ()) ∧
        ∀ consumer known, made.foldl (Consumption.next consumer) known = known) := by
  -- Only an end of the broker touches the subscription; a close that failed got no further than
  -- the clients, of which the consumer comes last.
  cases answered with
  | unready obtained =>
    obtain ⟨-, fault, ⟨-, rfl⟩ | ⟨client, -, rfl⟩⟩ := obtained.of_failed
    all_goals exact .inr ⟨rfl, rfl, nofun, fun _ _ => rfl⟩
  | unsent obtained message fault =>
    obtain ⟨-, ⟨-, rfl⟩ | ⟨-, rfl⟩⟩ := obtained.of_ok
    all_goals exact .inr ⟨rfl, rfl, nofun, fun _ _ => rfl⟩
  | sent obtained message fault? =>
    obtain ⟨-, ⟨-, rfl⟩ | ⟨-, rfl⟩⟩ := obtained.of_ok
    all_goals exact .inr ⟨rfl, rfl, nofun, fun _ _ => rfl⟩
  | known | unheard | told => exact absurd rfl (other _)
  | unfetched => exact .inr ⟨rfl, rfl, nofun, fun _ _ => rfl⟩
  | fetched => exact .inr ⟨rfl, rfl, nofun, fun _ _ => rfl⟩
  | unclosed producers =>
    obtain ⟨-, client, fault, -, rfl⟩ := producers.of_failed
    exact .inr ⟨rfl, rfl, nofun, fun _ _ => rfl⟩
  | halfClosed producers consumers =>
    obtain ⟨same, client, fault, -, rfl⟩ := consumers.of_failed
    obtain ⟨-, ⟨-, rfl⟩ | ⟨other, -, rfl⟩⟩ := producers.of_ok
    all_goals exact .inr ⟨same, rfl, nofun, fun _ _ => rfl⟩
  | closed producers consumers => exact .inl ⟨consumers.of_ok.1, rfl, rfl, rfl⟩

theorem accounts_of_told (accounts : Accounts past held)
    (answered : (BrokerRequest.subscribe topic : BrokerRequest T).Answered settings held made
      outcome after) :
    Accounts (past ++ made) after := by
  cases answered with
  | known known => simpa using accounts
  | unheard unasked obtained =>
    obtain ⟨absent, fault, ⟨rfl, rfl⟩ | ⟨client, rfl, rfl⟩⟩ := obtained.of_failed
    · rintro consumer ⟨⟩
    · rintro consumer ⟨⟩
      simp [Consumption.after_append, Consumption.next, Consumption.fresh]
  | told unasked obtained fault? =>
    obtain ⟨rfl, ⟨present, rfl⟩ | ⟨absent, rfl⟩⟩ := obtained.of_ok
    all_goals
      rintro consumer ⟨⟩
      refine ⟨by simp, ?_⟩
    · have earlier := (accounts _ present).2
      cases fault? with
      | none => simp [Consumption.after_append, Consumption.next, List.subset_def, mem_sortTopics]
      | some fault =>
        exact List.subset_append_of_subset_left _ (by
          simpa [Consumption.after_append, Consumption.next] using earlier)
    · cases fault? <;>
        simp [Consumption.after_append, Consumption.next, Consumption.fresh, List.subset_def,
          mem_sortTopics]

theorem asked_of_told
    (answered : (BrokerRequest.subscribe topic : BrokerRequest T).Answered settings held made
      outcome after) :
    topic ∈ after.topics ∧ held.topics ⊆ after.topics := by
  cases answered with
  | known known => exact ⟨known, List.Subset.refl _⟩
  | unheard | told => simp

theorem settled_of_told (settled : IsSettled past held)
    (answered : (BrokerRequest.subscribe topic : BrokerRequest T).Answered settings held made
      (.ok ()) after) :
    IsSettled (past ++ made) after := by
  generalize ended : Outcome.ok () = outcome at answered
  cases answered with
  | known known => simpa using settled
  | unheard => cases ended
  | told unasked obtained fault? =>
    cases fault? with
    | some fault => cases ended
    | none =>
    obtain ⟨rfl, ⟨present, rfl⟩ | ⟨absent, rfl⟩⟩ := obtained.of_ok
    · simp only [IsSettled, present] at settled
      simp [IsSettled, Consumption.after_append, Consumption.next, settled.1, List.subset_def,
        mem_sortTopics]
    · simp [IsSettled, Consumption.after_append, Consumption.next, List.subset_def, mem_sortTopics]

theorem unserved_of_refused {failure : Failure} (accounts : Accounts past held)
    (answered : (BrokerRequest.subscribe topic : BrokerRequest T).Answered settings held made
      (.failed failure) after) :
    ¬ Serves (past ++ made) after [topic] := by
  generalize ended : Outcome.failed failure = outcome at answered
  rintro ⟨consumer, present, started, told⟩
  cases answered with
  | known => cases ended
  | unheard unasked obtained =>
    obtain ⟨absent, fault, ⟨rfl, rfl⟩ | ⟨client, rfl, rfl⟩⟩ := obtained.of_failed
    · cases present
    · -- The consumer is held all the same, but never started.
      cases present
      simp [Consumption.after_append, Consumption.next, Consumption.fresh] at started
  | told unasked obtained fault? =>
    cases fault? with
    | none => cases ended
    | some fault =>
    obtain ⟨rfl, ⟨held, rfl⟩ | ⟨absent, rfl⟩⟩ := obtained.of_ok
    all_goals cases present
    · -- The broker still goes by what it was told before, which has none but older topics.
      have earlier := (accounts _ held).2
      simp only [List.nil_append, Consumption.after_append, List.foldl_cons, List.foldl_nil,
        Consumption.next] at told
      exact unasked (earlier (told List.mem_cons_self))
    · simp [Consumption.after_append, Consumption.next, Consumption.fresh] at told

theorem isSettled_kept (sameConsumer : after.consumer = held.consumer)
    (sameTopics : after.topics = held.topics)
    (untouched : ∀ consumer known, made.foldl (Consumption.next consumer) known = known) :
    IsSettled (past ++ made) after ↔ IsSettled past held := by
  simp only [IsSettled, sameConsumer, sameTopics, Consumption.after_append, untouched]

theorem accounts_of_answered {request : BrokerRequest T} (accounts : Accounts past held)
    (answered : request.Answered settings held made outcome after) :
    Accounts (past ++ made) after := by
  by_cases asks : ∃ topic, request = .subscribe topic
  · obtain ⟨topic, rfl⟩ := asks
    exact accounts_of_told accounts answered
  · rcases apart_of_answered answered fun topic same => asks ⟨topic, same⟩
      with ⟨absent, -⟩ | ⟨sameConsumer, sameTopics, -, untouched⟩
    · intro consumer present
      cases absent.symm.trans present
    · intro consumer present
      rw [Consumption.after_append, untouched, sameTopics]
      exact accounts consumer (sameConsumer ▸ present)

end Subscription

/-! ## A whole dialogue -/

namespace BrokerTurn

variable {T : Type}

def closes : BrokerTurn T -> Bool
  | ⟨.close, .ok ()⟩ => true
  | _ => false

def subscribed? : BrokerTurn T -> Option String
  | ⟨.subscribe topic, .ok ()⟩ => some topic
  | _ => none

def IsRefused (turn : BrokerTurn T) : Prop :=
  (∃ topic, turn.request = .subscribe topic) ∧ turn.outcome ≠ .ok ()

/-- The turns after the latest one that closed the broker. -/
def sinceClose (turns : List (BrokerTurn T)) : List (BrokerTurn T) :=
  turns.foldl (fun kept turn => if turn.closes then [] else kept ++ [turn]) []

/-- The topics that were asked for with success since the broker was closed. -/
def subscribed (turns : List (BrokerTurn T)) : List String :=
  (sinceClose turns).filterMap subscribed?

theorem not_closes {request : BrokerRequest T} {outcome : Outcome Unit}
    (goesOn : request = .close → outcome ≠ .ok ()) : ¬ closes ⟨request, outcome⟩ = true := by
  intro closing
  unfold closes at closing
  split at closing
  next same =>
    cases same
    exact goesOn rfl rfl
  next => cases closing

theorem subscribed?_of_apart {request : BrokerRequest T} {outcome : Outcome Unit}
    (apart : ¬ ∃ topic, request = .subscribe topic) : subscribed? ⟨request, outcome⟩ = none := by
  cases request with
  | subscribe topic => exact absurd ⟨topic, rfl⟩ apart
  | produce | fetch | close => rfl

theorem sinceClose_append (turns : List (BrokerTurn T)) (turn : BrokerTurn T) :
    sinceClose (turns ++ [turn]) = if turn.closes then [] else sinceClose turns ++ [turn] := by
  simp [sinceClose]

theorem subscribed_append (turns : List (BrokerTurn T)) (turn : BrokerTurn T) :
    subscribed (turns ++ [turn]) =
      if turn.closes then [] else subscribed turns ++ turn.subscribed?.toList := by
  rw [subscribed, sinceClose_append]
  split
  · rfl
  · rw [List.filterMap_append]
    cases topic : turn.subscribed? <;> simp [subscribed, topic]

end BrokerTurn

namespace BrokerRequest.Dialogue

open BrokerTurn Subscription

variable {T : Type} {settings : Settings} {turns : List (BrokerTurn T)} {made : List (Called T)}
  {held : BrokerClients}

theorem accounts (dialogue : Dialogue settings turns made held) : Accounts made held := by
  induction dialogue with
  | opening => rintro consumer ⟨⟩
  | meanwhile before elsewhere ih =>
    intro consumer present
    rw [Consumption.after_append, Consumption.foldl_elsewhere elsewhere]
    exact ih consumer present
  | turn before answered ih => exact accounts_of_answered ih answered

theorem subscribed_subset (dialogue : Dialogue settings turns made held) :
    subscribed turns ⊆ held.topics := by
  induction dialogue with
  | opening => simp [subscribed, sinceClose]
  | meanwhile before elsewhere ih => exact ih
  | @turn turns made more held after request outcome before answered ih =>
    rw [subscribed_append]
    split
    next => exact List.nil_subset _
    next goesOn =>
      rw [List.append_subset]
      by_cases asks : ∃ topic, request = .subscribe topic
      · -- A topic counts as asked for however the request for it ends.
        obtain ⟨topic, rfl⟩ := asks
        obtain ⟨asked, kept⟩ := asked_of_told answered
        refine ⟨List.Subset.trans ih kept, ?_⟩
        rcases outcome with ⟨⟩ | _ | _ <;> simp [subscribed?, asked]
      · rcases apart_of_answered answered fun topic same => asks ⟨topic, same⟩
          with ⟨-, -, rfl, rfl⟩ | ⟨-, sameTopics, -⟩
        · exact absurd rfl goesOn
        · rw [subscribed?_of_apart asks, sameTopics]
          exact ⟨ih, List.nil_subset _⟩

theorem settled (dialogue : Dialogue settings turns made held)
    (accepted : ∀ turn ∈ sinceClose turns, ¬ turn.IsRefused) : IsSettled made held := by
  -- By induction on the dialogue. A close that succeeds starts afresh, so what was refused before it
  -- does not count.
  induction dialogue with
  | opening => rfl
  | meanwhile before elsewhere ih =>
    exact (isSettled_kept rfl rfl fun _ _ => Consumption.foldl_elsewhere elsewhere).mpr (ih accepted)
  | @turn turns made more held after request outcome before answered ih =>
    rw [sinceClose_append] at accepted
    by_cases asks : ∃ topic, request = .subscribe topic
    · obtain ⟨topic, rfl⟩ := asks
      simp only [closes, Bool.false_eq_true, if_false, List.mem_append, List.mem_singleton]
        at accepted
      have before := ih fun turn member => accepted turn (.inl member)
      obtain rfl : outcome = .ok () :=
        Classical.not_not.mp fun failed => accepted _ (.inr rfl) ⟨⟨topic, rfl⟩, failed⟩
      exact settled_of_told before answered
    · rcases apart_of_answered answered fun topic same => asks ⟨topic, same⟩
        with ⟨absent, cleared, -⟩ | ⟨sameConsumer, sameTopics, goesOn, untouched⟩
      · simp [IsSettled, absent, cleared]
      · refine (isSettled_kept sameConsumer sameTopics untouched).mpr (ih fun turn member => ?_)
        rw [if_neg (not_closes goesOn)] at accepted
        exact accepted turn (List.mem_append_left _ member)

end BrokerRequest.Dialogue

namespace Scenario

open BrokerTurn Subscription

variable {W T : Type} [Scale T] {scenario : Scenario W T} {log : W -> List (Called T)}

omit [Scale T] in
theorem subscribe_asked {topic : String} {scene : Scene W} (asked : topic ∈ scene.broker.topics) :
    scenario.subscribe topic scene = (.ok (), scene) := by
  simp [Scenario.subscribe, Activity.bind_run, asked]

/-- Every topic is served that was asked for with success, exactly where the broker is settled. It
is settled as long as no topic was refused since the broker was closed. A topic that was refused is
answered with success from then on, without any call, and is not served. -/
theorem subscribe_serves_iff (logs : scenario.world.IsLog log) {turns : List (BrokerTurn T)}
    {scene : Scene W} (run : scenario.Converses log turns scene) :
    ((∀ topic after, scenario.subscribe topic scene = (.ok (), after) →
        Serves (log after.world) after.broker (subscribed turns ++ [topic])) ↔
      IsSettled (log scene.world) scene.broker) ∧
    ((∀ turn ∈ sinceClose turns, ¬ turn.IsRefused) →
      IsSettled (log scene.world) scene.broker) ∧
    ∀ topic failure after, scenario.subscribe topic scene = (.failed failure, after) →
      scenario.subscribe topic after = (.ok (), after) ∧
        ¬ Serves (log after.world) after.broker [topic] := by
  have dialogue := run.dialogue logs
  refine ⟨⟨?_, ?_⟩, dialogue.settled, ?_⟩
  · -- Otherwise some topic that was asked for is not served, and a request for it succeeds at once.
    intro promised
    apply Classical.byContradiction
    intro unsettled
    obtain ⟨topic, asked, unserved⟩ := exists_unserved dialogue.accounts unsettled
    obtain ⟨consumer, present, started, told⟩ := promised topic scene (subscribe_asked asked)
    have served := List.Subset.trans (List.subset_append_right _ _) told
    exact unserved ⟨consumer, present, started, served⟩
  · intro settled topic after ran
    obtain ⟨made, grown, answered⟩ := subscribe_answered logs ran
    obtain ⟨asked, kept⟩ := asked_of_told answered
    obtain ⟨consumer, present, started, told⟩ := (settled_of_told settled answered).serves asked
    rw [← grown] at started told
    refine ⟨consumer, present, started, List.Subset.trans ?_ told⟩
    have known := List.Subset.trans dialogue.subscribed_subset kept
    exact List.append_subset.mpr ⟨known, by simpa using asked⟩
  · intro topic failure after ran
    obtain ⟨made, grown, answered⟩ := subscribe_answered logs ran
    refine ⟨subscribe_asked (asked_of_told answered).1, ?_⟩
    rw [grown]
    exact unserved_of_refused dialogue.accounts answered

theorem orders_and_audit_are_served :
    let scenario := brokerOnly true
    let scene := (scenario.subscribe "orders" brokerOpening).2
    let after := (scenario.subscribe "audit" scene).2
    scenario.world.IsLog Prod.snd ∧
      scenario.Converses Prod.snd [⟨.subscribe "orders", .ok ()⟩] scene ∧
      Serves after.world.2 after.broker ["orders", "audit"] := by
  intro scenario scene after
  have logs : scenario.world.IsLog Prod.snd := World.recorded_isLog _
  have opening : scenario.Converses Prod.snd [] brokerOpening := .opening rfl rfl
  have run : scenario.Converses Prod.snd [⟨.subscribe "orders", .ok ()⟩] scene := .turn opening rfl
  obtain ⟨serves, settled, -⟩ := subscribe_serves_iff logs run
  refine ⟨logs, run, serves.mpr (settled ?_) "audit" after rfl⟩
  simp [sinceClose, closes, IsRefused]

/-- A consumer that cannot be started is taken for one that is subscribed, once it was tried. -/
theorem unstarted_consumer_counts_as_subscribed :
    let scenario := brokerOnly false
    let scene := (scenario.subscribe "orders" brokerOpening).2
    scenario.Converses Prod.snd
        [⟨.subscribe "orders", .failed (.fault ⟨.runtime, "no broker"⟩)⟩] scene ∧
      scenario.subscribe "orders" scene = (.ok (), scene) ∧
      ¬ Serves scene.world.2 scene.broker ["orders"] := by
  intro scenario scene
  have opening : scenario.Converses Prod.snd [] brokerOpening := .opening rfl rfl
  refine ⟨.turn opening rfl, rfl, ?_⟩
  rintro ⟨consumer, present, started, -⟩
  cases present
  cases started

end Scenario

end Rehearsal
