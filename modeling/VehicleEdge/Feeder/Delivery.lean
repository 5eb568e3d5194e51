import VehicleEdge.Feeder.Run

/-
This file proves that the feeder neither loses nor reverses an update.
A fed value lives in the store, in the batch in flight, or in a delivered request.
The invariant reads these three places as one trail from the newest to the oldest feed.
-/

namespace VehicleEdge.Feeder

variable {V : Type}

/-- A batch is in flight from the swap until its update succeeds or its values are restored. -/
def RunPc.inFlight : RunPc V → Option (DatapointValues V)
  | .insertInitialValues _ values => some values
  | .feedToBroker values => some values
  | .awaitUpdate send => some send.values
  | .updateError values => some values
  | .restoreValues values => some values
  | _ => none

/-- The latest feed of a name has the number of feeds before it. -/
def latestFeed (name : String) : List (String × V) → Option (Nat × V)
  | [] => none
  | (other, value) :: fed => if other = name then some (fed.length, value) else latestFeed name fed

/-- A successful update delivers the fed value that its request carries. -/
def Call.delivered (name : String) : Call V → Option (Nat × V)
  | .updated send =>
      (send.idMap.lookup name).bind fun id => (send.datapoints.lookup id).bind Sample.fed?
  | _ => none

/-- These are the delivered feeds of a name in the order of their requests. -/
def deliveredFeeds (name : String) (calls : List (Call V)) : List (Nat × V) :=
  (calls.filterMap (Call.delivered name)).reverse

def State.storedFeed (state : State V) (name : String) : Option (Nat × V) :=
  (state.storedValues.lookup name).bind Sample.fed?

def State.flightFeed (state : State V) (name : String) : Option (Nat × V) :=
  (state.run.inFlight.bind fun batch => batch.lookup name).bind Sample.fed?

/-- The trail lists the surviving feeds of a name with the newest first. -/
def State.trail (state : State V) (name : String) : List (Nat × V) :=
  (state.storedFeed name).toList ++
    ((state.flightFeed name).toList ++ state.calls.filterMap (Call.delivered name))

/-- The trail is ordered, stays below the feed count, and starts with the latest feed. -/
structure Tracked (name : String) (state : State V) : Prop where
  ordered : (state.trail name).Pairwise fun later earlier => earlier.1 < later.1
  bounded : ∀ entry ∈ state.trail name, entry.1 < state.fed.length
  latest : latestFeed name state.fed = (state.trail name).head?

/-- While a batch is in flight, every value in the store was fed after the swap. -/
def StoreIsFed (state : State V) : Prop :=
  state.run.inFlight.isSome → ∀ name sample, state.storedValues.lookup name = some sample →
    sample.fed?.isSome

/-- A pending update is in the call history. -/
def PendingIsIssued (state : State V) : Prop :=
  ∀ send, state.run = .awaitUpdate send → .issued send ∈ state.calls

/-- Every request of the history was built with an id of its own for the name. -/
def Registered (name : String) (state : State V) : Prop :=
  ∀ send, .issued send ∈ state.calls → OwnId send.idMap name

/-- The guard describes the runs before the critical section of `Shutdown`. -/
def beforeShutdown (_ : State V) (event : Event V) : Prop := event.clears = false

instance : DecidableRel (@beforeShutdown V) :=
  fun _ event => inferInstanceAs (Decidable (event.clears = false))

@[simp] theorem inFlight_notify (pc : RunPc V) : pc.notify.inFlight = pc.inFlight := by
  cases pc <;> rfl

theorem inFlight_ite (test : Prop) [Decidable test] (yes no : RunPc V) :
    (if test then yes else no).inFlight = if test then yes.inFlight else no.inFlight := by
  split <;> rfl

/-- The invariant reads only the trail and the feed history. -/
theorem Tracked.congr {name : String} {state next : State V} (tracked : Tracked name state)
    (sameTrail : next.trail name = state.trail name) (sameFed : next.fed = state.fed) :
    Tracked name next where
  ordered := sameTrail ▸ tracked.ordered
  bounded := by rw [sameTrail, sameFed]; exact tracked.bounded
  latest := by rw [sameTrail, sameFed]; exact tracked.latest

/-- A step outside the store and the batch leaves the trail unchanged. -/
theorem trail_congr {state next : State V} (name : String)
    (stored : next.storedValues = state.storedValues)
    (flight : next.run.inFlight = state.run.inFlight)
    (calls : next.calls.filterMap (Call.delivered name) = state.calls.filterMap (Call.delivered name)) :
    next.trail name = state.trail name := by
  simp only [State.trail, State.storedFeed, State.flightFeed, stored, flight, calls]

/-- One feed becomes the head of the trail. -/
theorem Tracked.feed {name : String} {state : State V} (tracked : Tracked name state)
    (entry : Σ _ : String, V) : Tracked name (state.feed entry) := by
  obtain ⟨other, value⟩ := entry
  by_cases same : other = name
  · subst same
    -- the overwritten stored value leaves the trail
    let rest := (state.flightFeed other).toList ++ state.calls.filterMap (Call.delivered other)
    have trail : (state.feed ⟨other, value⟩).trail other = (state.fed.length, value) :: rest := by
      simp only [State.trail, State.storedFeed, State.feed, lookup_storeValue_self]
      rfl
    have kept : rest.Sublist (state.trail other) := List.sublist_append_right _ _
    refine ⟨?_, ?_, ?_⟩
    · rw [trail, List.pairwise_cons]
      exact ⟨fun older member => tracked.bounded older (kept.subset member),
        tracked.ordered.sublist kept⟩
    · intro older member
      rw [trail] at member
      change older.1 < state.fed.length + 1
      rcases List.mem_cons.mp member with rfl | member
      · exact Nat.lt_succ_self _
      · exact Nat.lt_succ_of_lt (tracked.bounded older (kept.subset member))
    · rw [trail]
      simp [State.feed, latestFeed]
  · have trail : (state.feed ⟨other, value⟩).trail name = state.trail name := by
      simp only [State.trail, State.storedFeed, State.feed,
        lookup_storeValue_of_ne _ (Ne.symm same)]
      rfl
    refine ⟨trail ▸ tracked.ordered, ?_, ?_⟩
    · intro older member
      rw [trail] at member
      exact Nat.lt_succ_of_lt (tracked.bounded older member)
    · rw [trail, ← tracked.latest]
      simp [State.feed, latestFeed, same]

theorem Tracked.storeValues {name : String} {state : State V} (tracked : Tracked name state)
    (entries : List (Σ _ : String, V)) : Tracked name (state.storeValues entries) := by
  induction entries generalizing state with
  | nil => exact tracked
  | cons entry entries ih => exact ih (tracked.feed entry)

/-- More feeds keep a fed value or a missing value of a name free of placeholders. -/
theorem storeValues_fed {state : State V} {name : String}
    (fed : ∀ sample, state.storedValues.lookup name = some sample → sample.fed?.isSome)
    (entries : List (Σ _ : String, V)) (sample : Sample V)
    (found : (state.storeValues entries).storedValues.lookup name = some sample) :
    sample.fed?.isSome := by
  induction entries generalizing state with
  | nil => exact fed sample found
  | cons entry entries ih =>
      refine ih ?_ found
      intro stored present
      by_cases same : name = entry.1
      · subst same
        rw [State.feed, lookup_storeValue_self] at present
        cases present
        rfl
      · rw [State.feed, lookup_storeValue_of_ne _ same] at present
        exact fed stored present

theorem storeIsFed_step {config : DatapointConfiguration V} {state next : State V}
    {event : Event V} (fed : StoreIsFed state) (taken : Step config state event next) :
    StoreIsFed next := by
  have idle (notFlying : next.run.inFlight = none) : StoreIsFed next := by
    intro flying
    rw [notFlying] at flying
    cases flying
  cases taken with
  | swapped initial here =>
      intro _ name sample found
      simp at found
  | merged initial values here => exact fun _ => fed (by rw [here]; rfl)
  | issued values here => exact fun _ => fed (by rw [here]; rfl)
  | updateFailed send here => exact fun _ => fed (by rw [here]; rfl)
  | updateError values here => exact fun _ => fed (by rw [here]; rfl)
  | feedCalled => exact fed
  | feedRefused => exact fed
  | shutdownTested => exact fed
  | subscriberWrote => exact fed
  | feedStored producer call pending =>
      intro flying name
      simp only [inFlight_notify] at flying
      exact storeValues_fed (fed flying name) call.entries
  | shutdownNotified =>
      intro flying
      simp only [inFlight_notify] at flying
      exact fed flying
  | shutdownCleared =>
      intro _ name sample found
      simp at found
  | waited | registered | registerFailed | registerError | updated | restored | spuriousWakeup
  | notified => exact idle rfl
  | loopTest | registerTestActive | registerTestConnected | feedTestActive | feedTestConnected
  | waitTestActive | waitTestConnected | locked =>
      apply idle
      simp only [inFlight_ite]
      split <;> rfl

theorem pendingIsIssued_step {config : DatapointConfiguration V} {state next : State V}
    {event : Event V} (issued : PendingIsIssued state) (taken : Step config state event next) :
    PendingIsIssued next := by
  intro send pending
  cases taken with
  | issued values here =>
      cases pending
      exact List.mem_cons_self
  | feedCalled | feedRefused | shutdownTested | subscriberWrote | shutdownCleared =>
      exact issued send pending
  | feedStored producer call _ =>
      rw [storeValues_calls]
      apply issued
      cases run : state.run <;> simp_all [RunPc.notify]
  | shutdownNotified =>
      apply issued
      cases run : state.run <;> simp_all [RunPc.notify]
  | waited | registered | registerFailed | registerError | updated | restored | spuriousWakeup
  | notified | swapped | merged | updateFailed | updateError => cases pending
  | loopTest | registerTestActive | registerTestConnected | feedTestActive | feedTestConnected
  | waitTestActive | waitTestConnected | locked =>
      simp only at pending
      split at pending <;> cases pending

/-- The call history only grows. -/
theorem calls_suffix {config : DatapointConfiguration V} {state next : State V} {event : Event V}
    (taken : Step config state event next) : state.calls <:+ next.calls := by
  cases taken with
  | feedStored => simp only [storeValues_calls, List.suffix_refl]
  | _ => first | exact List.suffix_refl _ | exact List.suffix_cons _ _

theorem Registered.before {config : DatapointConfiguration V} {name : String}
    {state next : State V} {event : Event V} (registered : Registered name next)
    (taken : Step config state event next) : Registered name state :=
  fun send member => registered send ((calls_suffix taken).subset member)

/-- A request with an id of its own delivers the batch value of the name. -/
theorem delivered_updated {send : Send V} {name : String} (owned : OwnId send.idMap name) :
    Call.delivered name (.updated send) = (send.values.lookup name).bind Sample.fed? := by
  obtain ⟨member, unique⟩ := owned
  obtain ⟨id, named⟩ := Option.isSome_iff_exists.mp (AList.lookup_isSome.mpr member)
  simp only [Call.delivered, named, Option.bind_some, send.lookup_datapoints unique named]

theorem tracked_step {config : DatapointConfiguration V} {name : String} {state next : State V}
    {event : Event V} (allowed : event.clears = false) (tracked : Tracked name state)
    (fed : StoreIsFed state) (issued : PendingIsIssued state) (registered : Registered name state)
    (taken : Step config state event next) : Tracked name next := by
  cases taken with
  | swapped initial here =>
      refine tracked.congr ?_ rfl
      simp [State.trail, State.storedFeed, State.flightFeed, here, RunPc.inFlight]
  | merged initial values here =>
      refine tracked.congr ?_ rfl
      have same : ((if initial then insertInitialValues config values else values).lookup name).bind
          Sample.fed? = (values.lookup name).bind Sample.fed? := by
        split
        · exact fed_insertInitialValues config values name
        · rfl
      simp only [State.trail, State.storedFeed, State.flightFeed, here, RunPc.inFlight,
        Option.bind_some, same]
  | updated send here =>
      refine tracked.congr ?_ rfl
      have owned := registered send (issued send here)
      simp only [State.trail, State.storedFeed, State.flightFeed, here, RunPc.inFlight,
        Option.bind_none, Option.bind_some, Option.toList_none, List.nil_append,
        List.filterMap_cons, delivered_updated owned]
      cases (send.values.lookup name).bind Sample.fed? <;> rfl
  | restored values here =>
      have flying : state.run.inFlight = some values := by rw [here]; rfl
      cases stored : state.storedValues.lookup name with
      | none =>
          -- the batch value returns to the store, so the trail is unchanged
          refine tracked.congr ?_ rfl
          simp [State.trail, State.storedFeed, State.flightFeed, here, RunPc.inFlight,
            lookup_restoreValues, stored]
      | some sample =>
          -- the newer stored value wins, so the batch value leaves the trail
          obtain ⟨newest, fedSample⟩ :=
            Option.isSome_iff_exists.mp (fed (by simp [flying]) name sample stored)
          have trail : State.trail { state with
              storedValues := restoreValues state.storedValues values, run := .waitTestActive } name =
                newest :: state.calls.filterMap (Call.delivered name) := by
            simp [State.trail, State.storedFeed, State.flightFeed, RunPc.inFlight,
              lookup_restoreValues, stored, fedSample]
          have before : state.trail name = newest ::
              ((state.flightFeed name).toList ++ state.calls.filterMap (Call.delivered name)) := by
            simp [State.trail, State.storedFeed, stored, fedSample]
          have kept : List.Sublist (newest :: state.calls.filterMap (Call.delivered name))
              (state.trail name) := by
            rw [before]
            exact (List.sublist_append_right _ _).cons_cons newest
          refine ⟨?_, ?_, ?_⟩
          · rw [trail]
            exact tracked.ordered.sublist kept
          · rw [trail]
            exact fun entry member => tracked.bounded entry (kept.subset member)
          · rw [trail, tracked.latest, before]
            rfl
  | feedStored producer call pending =>
      refine (tracked.storeValues call.entries).congr (trail_congr name rfl ?_ rfl) rfl
      simp
  | shutdownCleared => simp [Event.clears] at allowed
  | shutdownNotified => exact tracked.congr (trail_congr name rfl (by simp) rfl) rfl
  | feedCalled | feedRefused | shutdownTested | subscriberWrote =>
      exact tracked.congr (trail_congr name rfl rfl rfl) rfl
  | waited here | registered here | registerFailed here | registerError here | spuriousWakeup here
  | notified here | issued _ here | updateFailed _ here | updateError _ here =>
      exact tracked.congr (trail_congr name rfl (by rw [here]; rfl) rfl) rfl
  | loopTest here | registerTestActive here | registerTestConnected here | feedTestActive _ here
  | feedTestConnected _ here | waitTestActive here | waitTestConnected here | locked here =>
      refine tracked.congr (trail_congr name rfl ?_ rfl) rfl
      simp only [inFlight_ite, here]
      split <;> rfl

/-- These facts hold together in every state before a shutdown. -/
structure Sound (name : String) (state : State V) : Prop where
  fed : StoreIsFed state
  issued : PendingIsIssued state
  tracked : Registered name state → Tracked name state

theorem sound_reached {config : DatapointConfiguration V} (name : String) {state : State V}
    (reached : (machine config).Reached beforeShutdown state) : Sound name state := by
  refine reached.invariant ⟨?_, ?_, ?_⟩ ?_
  · intro flying
    cases flying
  · intro send pending
    cases pending
  · exact fun _ => ⟨List.Pairwise.nil, fun _ member => absurd member List.not_mem_nil, rfl⟩
  · intro state event next sound allowed taken
    have listed := step_cases taken
    refine ⟨storeIsFed_step sound.fed listed, pendingIsIssued_step sound.issued listed, ?_⟩
    intro registered
    have before := registered.before listed
    exact tracked_step allowed (sound.tracked before) sound.fed sound.issued before listed

/-- The latest feed of a name is the newest entry of the trail. -/
theorem latest_place {name : String} {state : State V} (sound : Sound name state)
    (registered : Registered name state) {feed : Nat} {value : V}
    (latest : latestFeed name state.fed = some (feed, value)) :
    state.storedValues.lookup name = some ⟨.fed feed, value⟩ ∨
      (state.storedValues.lookup name = none ∧ ∃ batch, state.run.inFlight = some batch ∧
        batch.lookup name = some ⟨.fed feed, value⟩) ∨
      ∃ send, .updated send ∈ state.calls ∧ send.Carries name ⟨.fed feed, value⟩ := by
  rw [(sound.tracked registered).latest, State.trail] at latest
  cases stored : state.storedFeed name with
  | some newest =>
      left
      simp only [stored, Option.toList_some, List.singleton_append, List.head?_cons,
        Option.some.injEq] at latest
      subst latest
      obtain ⟨sample, found, fedSample⟩ := Option.bind_eq_some_iff.mp stored
      rw [found, Sample.fed?_eq_some.mp fedSample]
  | none =>
      right
      simp only [stored, Option.toList_none, List.nil_append] at latest
      cases flight : state.flightFeed name with
      | some newest =>
          left
          simp only [flight, Option.toList_some, List.singleton_append, List.head?_cons,
            Option.some.injEq] at latest
          subst latest
          obtain ⟨sample, found, fedSample⟩ := Option.bind_eq_some_iff.mp flight
          obtain ⟨batch, flying, present⟩ := Option.bind_eq_some_iff.mp found
          refine ⟨?_, batch, flying, by rw [present, Sample.fed?_eq_some.mp fedSample]⟩
          cases entry : state.storedValues.lookup name with
          | none => rfl
          | some stale =>
              have isFed := sound.fed (by simp [flying]) name stale entry
              simp [State.storedFeed, entry, Option.isSome_iff_ne_none.mp isFed] at stored
      | none =>
          right
          simp only [flight, Option.toList_none, List.nil_append] at latest
          have member := List.mem_of_mem_head? latest
          obtain ⟨call, called, delivered⟩ := List.mem_filterMap.mp member
          cases call with
          | updated send =>
              obtain ⟨id, named, carried⟩ := Option.bind_eq_some_iff.mp delivered
              obtain ⟨sample, found, fedSample⟩ := Option.bind_eq_some_iff.mp carried
              exact ⟨send, called, id, named, by rw [found, Sample.fed?_eq_some.mp fedSample]⟩
          | _ => cases delivered

/-- Before a shutdown, the latest feed of a registered name waits in the store, flies in the batch
while the store has no entry for the name, or was delivered; and the delivered feeds of the name
have strictly increasing numbers. -/
theorem feeder_keeps_updates (config : DatapointConfiguration V) (name : String) {state : State V}
    (reached : (machine config).Reached beforeShutdown state)
    (registered : ∀ send, .issued send ∈ state.calls → OwnId send.idMap name) :
    (∀ feed value, latestFeed name state.fed = some (feed, value) →
      state.storedValues.lookup name = some ⟨.fed feed, value⟩ ∨
        (state.storedValues.lookup name = none ∧ ∃ batch, state.run.inFlight = some batch ∧
          batch.lookup name = some ⟨.fed feed, value⟩) ∨
        ∃ send, .updated send ∈ state.calls ∧ send.Carries name ⟨.fed feed, value⟩) ∧
      (deliveredFeeds name state.calls).Pairwise fun earlier later => earlier.1 < later.1 := by
  have sound := sound_reached name reached
  constructor
  · intro feed value latest
    exact latest_place sound registered latest
  · rw [deliveredFeeds, List.pairwise_reverse]
    have kept : (state.calls.filterMap (Call.delivered name)).Sublist (state.trail name) :=
      (List.sublist_append_right _ _).trans (List.sublist_append_right _ _)
    exact (sound.tracked registered).ordered.sublist kept

/-- The second feed arrives while the first batch is in flight, the update fails, and the feeder
reconnects and delivers the second value. -/
def retryEvents : List (Event Sdv.Datapoint) :=
  let failing : List (Event Sdv.Datapoint) :=
    [.run, .updateReturned false, .run, .run, .run, .run, .run, .run]
  let sending : List (Event Sdv.Datapoint) := [.run, .run, .run, .run]
  let delivering : List (Event Sdv.Datapoint) := [.run, .updateReturned true]
  feedHazard true ++ connectHazard ++ sending ++ feedHazard false ++ failing ++ connectHazard ++
    sending ++ delivering

theorem retry_executes :
    ((machine hazardConfig).execute beforeShutdown (initialState _) retryEvents).isSome = true := by
  decide

def retryState : State Sdv.Datapoint :=
  ((machine hazardConfig).execute beforeShutdown (initialState _) retryEvents).get retry_executes

theorem retry_reached : (machine hazardConfig).Reached beforeShutdown retryState :=
  Machine.reached_get retry_executes

/-- The retried run meets the hypotheses, and its second feed is delivered. -/
theorem feeder_keeps_updates_retry :
    latestFeed "Vehicle.Body.Lights.Hazard.IsSignaling" retryState.fed = some (1, .boolValue false) ∧
      (deliveredFeeds "Vehicle.Body.Lights.Hazard.IsSignaling" retryState.calls).Pairwise
        fun earlier later => earlier.1 < later.1 := by
  refine ⟨by decide, (feeder_keeps_updates hazardConfig _ retry_reached ?_).2⟩
  intro send member
  have same : send.idMap = hazardIds := issuedWith_idMap (by decide) member
  exact same ▸ hazardIds_own

end VehicleEdge.Feeder
