import VehicleEdge.Feeder.Delivery
import VehicleEdge.Library.Progress

/-
This file bounds how long a fed value waits.
While the broker answers, the Run thread brings a value from the store to a successful update in a fixed
number of its own steps, whatever the producers do in between.
-/

namespace VehicleEdge.Feeder

variable {V : Type}

/-- The broker answers, the flag is not cleared from outside, and the store is not cleared. -/
def Event.healthy : Event V → Bool
  | .waitForConnectedReturned connected => connected
  | .registerReturned results => results.isSome
  | .updateReturned ok => ok
  | .subscriberWrote connected => connected
  | .shutdownCleared => false
  | _ => true

def brokerAnswers (_ : State V) (event : Event V) : Prop := event.healthy = true

instance : DecidableRel (@brokerAnswers V) :=
  fun _ event => inferInstanceAs (Decidable (event.healthy = true))

/-- These are the steps of the Run thread. -/
def Event.ofRunThread : Event V → Bool
  | .run | .waitForConnectedReturned _ | .registerReturned _ | .updateReturned _ => true
  | _ => false

/-- The Run thread needs at most this number of its steps to take the next batch from the store. -/
def RunPc.toSwap (connected : Bool) : RunPc V → Nat
  | .swapStoredValues _ => 1
  | .feedTestConnected _ => if connected then 2 else 9
  | .feedTestActive _ => if connected then 3 else 10
  | .registerDatapoints => if connected then 4 else 11
  | .registerTestConnected => if connected then 5 else 11
  | .registerTestActive => if connected then 6 else 12
  | .waitForConnected => 7
  | .loopTest => 8
  | .registerError => 9
  | .lockStoredValues | .notified => if connected then 4 else 11
  | .waitTestConnected => if connected then 5 else 11
  | .waitTestActive => if connected then 6 else 12
  | .restoreValues _ => if connected then 7 else 13
  | .awaitUpdate _ => if connected then 7 else 13
  | .feedToBroker _ => if connected then 8 else 14
  | .insertInitialValues _ _ => if connected then 9 else 15
  | .updateError _ => 14
  | .asleep | .returned => 12

/-- The batch in flight needs at most this number of steps of the Run thread until it is delivered, where a
failed batch goes through the store once more. -/
def RunPc.toUpdate (connected : Bool) : RunPc V → Nat
  | .insertInitialValues _ _ => 3
  | .feedToBroker _ => 2
  | .awaitUpdate _ => 1
  | pc => pc.toSwap connected + 3

/-- The feed or a later feed of the name is delivered, or it is on its way and arrives within the bound. -/
def ArrivesWithin (name : String) (feed bound : Nat) (state : State V) : Prop :=
  (∃ entry ∈ state.calls.filterMap (Call.delivered name), feed ≤ entry.1) ∨
    (∃ entry ∈ state.flightFeed name, feed ≤ entry.1 ∧ state.run.toUpdate state.connected ≤ bound) ∨
    ∃ entry ∈ state.storedFeed name, feed ≤ entry.1 ∧ state.run.toSwap state.connected + 3 ≤ bound

/-- The Run thread sleeps only while nothing is stored. -/
def SleepsOnEmpty (state : State V) : Prop := state.run = .asleep → state.storedValues.entries = []

theorem notify_eq_asleep {pc : RunPc V} : ¬ pc.notify = .asleep := by
  cases pc <;> simp [RunPc.notify]

theorem sleepsOnEmpty_step {config : DatapointConfiguration V} {state next : State V} {event : Event V}
    (sleeps : SleepsOnEmpty state) (taken : Step config state event next) : SleepsOnEmpty next := by
  intro asleep
  cases taken with
  | locked here =>
      simp only at asleep ⊢
      split at asleep
      case isTrue empty => exact List.isEmpty_iff.mp empty
      case isFalse => cases asleep
  | feedStored => exact absurd asleep notify_eq_asleep
  | shutdownNotified => exact absurd asleep notify_eq_asleep
  | shutdownCleared => rfl
  | feedCalled | feedRefused | shutdownTested | subscriberWrote => exact sleeps asleep
  | waited | registered | registerFailed | registerError | swapped | merged | issued | updated
  | updateFailed | updateError | restored | spuriousWakeup | notified => cases asleep
  | loopTest | registerTestActive | registerTestConnected | feedTestActive | feedTestConnected
  | waitTestActive | waitTestConnected =>
      simp only at asleep
      split at asleep <;> cases asleep

/-- Until its critical section, a shutdown leaves the flag set and the Run thread in its loop. -/
def Running (state : State V) : Prop :=
  state.feederActive = true ∧ state.run ≠ .returned

theorem running_step {config : DatapointConfiguration V} {state next : State V} {event : Event V}
    (allowed : event.clears = false) (running : Running state) (taken : Step config state event next) :
    Running next := by
  obtain ⟨active, looping⟩ := running
  have notified : state.run.notify ≠ .returned := by
    cases here : state.run <;> simp_all [RunPc.notify]
  cases taken with
  | shutdownCleared => cases allowed
  | feedStored => exact ⟨by simp only [storeValues_feederActive, active], notified⟩
  | shutdownNotified => exact ⟨active, notified⟩
  | feedCalled | feedRefused | shutdownTested | subscriberWrote => exact ⟨active, looping⟩
  | waited | registered | registerFailed | registerError | swapped | merged | issued | updated
  | updateFailed | updateError | restored | spuriousWakeup | notified =>
      exact ⟨active, fun ended => by cases ended⟩
  | loopTest => exact ⟨active, by simp [active]⟩
  | registerTestActive | registerTestConnected | feedTestActive | feedTestConnected | waitTestActive
  | waitTestConnected | locked =>
      refine ⟨active, ?_⟩
      simp only
      split <;> exact fun ended => by cases ended

theorem running_reached {config : DatapointConfiguration V} {state : State V}
    (reached : (machine config).Reached beforeShutdown state) : Running state := by
  refine reached.invariant ⟨rfl, fun ended => by cases ended⟩ ?_
  intro state event next running allowed taken
  exact running_step allowed running (step_cases taken)

theorem sleepsOnEmpty_reached {config : DatapointConfiguration V} {state : State V}
    {guard : State V → Event V → Prop} (reached : (machine config).Reached guard state) :
    SleepsOnEmpty state := by
  refine reached.invariant (fun asleep => by cases asleep) ?_
  intro state event next sleeps _ taken
  exact sleepsOnEmpty_step sleeps (step_cases taken)

theorem toSwap_notify (connected : Bool) (pc : RunPc V) :
    pc.notify.toSwap connected ≤ pc.toSwap connected := by
  cases pc <;> cases connected <;> simp [RunPc.notify, RunPc.toSwap]

theorem toUpdate_notify (connected : Bool) (pc : RunPc V) :
    pc.notify.toUpdate connected ≤ pc.toUpdate connected := by
  cases pc <;> cases connected <;> simp [RunPc.notify, RunPc.toUpdate, RunPc.toSwap]

/-- The flag comes back only to shorten the way. -/
theorem toSwap_connected (connected : Bool) (pc : RunPc V) :
    pc.toSwap true ≤ pc.toSwap connected := by
  cases pc <;> cases connected <;> simp [RunPc.toSwap]

theorem toUpdate_connected (connected : Bool) (pc : RunPc V) :
    pc.toUpdate true ≤ pc.toUpdate connected := by
  cases pc <;> cases connected <;> simp [RunPc.toUpdate, RunPc.toSwap]

/-- One feed leaves this feed or a later one of the name in the store. -/
theorem feed_storedFeed {state : State V} {name : String} {feed : Nat} (below : feed ≤ state.fed.length)
    (stored : ∃ entry ∈ state.storedFeed name, feed ≤ entry.1) (entry : Σ _ : String, V) :
    ∃ newest ∈ (state.feed entry).storedFeed name, feed ≤ newest.1 := by
  by_cases same : name = entry.1
  · subst same
    refine ⟨(state.fed.length, entry.2), ?_, below⟩
    rw [State.storedFeed, State.feed, lookup_storeValue_self]
    rfl
  · rw [State.storedFeed, State.feed, lookup_storeValue_of_ne _ same]
    exact stored

theorem storeValues_storedFeed {state : State V} {name : String} {feed : Nat}
    (below : feed ≤ state.fed.length) (stored : ∃ entry ∈ state.storedFeed name, feed ≤ entry.1)
    (entries : List (Σ _ : String, V)) :
    ∃ newest ∈ (state.storeValues entries).storedFeed name, feed ≤ newest.1 := by
  induction entries generalizing state with
  | nil => exact stored
  | cons entry entries ih =>
      exact ih (Nat.le_succ_of_le below) (feed_storedFeed below stored entry)

/-- A stored value stays stored until the swap, and each step of the Run thread brings the swap nearer. -/
theorem arrives_stored_step {config : DatapointConfiguration V} {name : String} {feed bound : Nat}
    {state next : State V} {event : Event V} (healthy : event.healthy = true) (running : Running state)
    (below : feed ≤ state.fed.length) (stored : ∃ entry ∈ state.storedFeed name, feed ≤ entry.1)
    (near : state.run.toSwap state.connected + 3 ≤ bound) (taken : Step config state event next) :
    ArrivesWithin name feed (bound - event.ofRunThread.toNat) next := by
  obtain ⟨entry, held, late⟩ := stored
  have stay (same : next.storedFeed name = state.storedFeed name)
      (nearer : next.run.toSwap next.connected + 3 ≤ bound - event.ofRunThread.toNat) :
      ArrivesWithin name feed (bound - event.ofRunThread.toNat) next :=
    .inr (.inr ⟨entry, same ▸ held, late, nearer⟩)
  have active := running.1
  cases taken with
  | swapped initial here =>
      refine .inr (.inl ⟨entry, held, late, ?_⟩)
      simp only [here, RunPc.toSwap] at near
      simp only [RunPc.toUpdate, Event.ofRunThread, Bool.toNat_true]
      omega
  | locked here =>
      have nonempty : state.storedValues.entries.isEmpty = false := by
        cases empty : state.storedValues.entries with
        | nil => simp [State.storedFeed, AList.lookup, empty] at held
        | cons => rfl
      refine stay rfl ?_
      cases connected : state.connected <;>
        simp [here, RunPc.toSwap, nonempty, connected, Event.ofRunThread] at near ⊢ <;> omega
  | restored values here =>
      have kept : entry ∈ State.storedFeed { state with
          storedValues := restoreValues state.storedValues values, run := .waitTestActive } name := by
        obtain ⟨sample, found, isFed⟩ := Option.bind_eq_some_iff.mp held
        simp [State.storedFeed, lookup_restoreValues, found, isFed]
      refine .inr (.inr ⟨entry, kept, late, ?_⟩)
      cases connected : state.connected <;>
        simp [here, RunPc.toSwap, connected, Event.ofRunThread] at near ⊢ <;> omega
  | feedStored producer call pending =>
      obtain ⟨newest, kept, later⟩ := storeValues_storedFeed below ⟨entry, held, late⟩ call.entries
      refine .inr (.inr ⟨newest, kept, later, ?_⟩)
      have notified := toSwap_notify state.connected state.run
      simp only [storeValues_connected, Event.ofRunThread, Bool.toNat_false]
      omega
  | shutdownNotified =>
      refine stay rfl ?_
      have notified := toSwap_notify state.connected state.run
      simp only [Event.ofRunThread, Bool.toNat_false]
      omega
  | subscriberWrote connected =>
      refine stay rfl ?_
      have shorter := toSwap_connected state.connected state.run
      simp only [Event.healthy] at healthy
      simp only [healthy, Event.ofRunThread, Bool.toNat_false]
      omega
  | shutdownCleared | registerFailed | updateFailed => cases healthy
  | feedCalled | feedRefused | shutdownTested =>
      refine stay rfl ?_
      simp only [Event.ofRunThread, Bool.toNat_false]
      omega
  | waited here connected =>
      refine stay rfl ?_
      simp only [Event.healthy] at healthy
      simp only [here, RunPc.toSwap, healthy, Event.ofRunThread, Bool.toNat_true] at near ⊢
      simp only [if_true]
      omega
  | spuriousWakeup here | registerTestActive here | registerTestConnected here | registered here
  | registerError here | feedTestActive _ here | feedTestConnected _ here | merged _ _ here
  | issued _ here | updated _ here | updateError _ here | waitTestActive here | waitTestConnected here
  | notified here | loopTest here =>
      refine stay rfl ?_
      cases connected : state.connected <;>
        simp [here, RunPc.toSwap, active, connected, Event.ofRunThread] at near ⊢ <;> omega

/-- The batch in flight keeps its value until it is delivered, or returns it to a store that has nothing
newer. -/
theorem arrives_flight_step {config : DatapointConfiguration V} {name : String} {feed bound : Nat}
    {state next : State V} {event : Event V} (healthy : event.healthy = true) (sound : Sound name state)
    (registered : Registered name state) (flying : ∃ entry ∈ state.flightFeed name, feed ≤ entry.1)
    (near : state.run.toUpdate state.connected ≤ bound) (taken : Step config state event next) :
    ArrivesWithin name feed (bound - event.ofRunThread.toNat) next := by
  obtain ⟨entry, held, late⟩ := flying
  have stay (same : next.flightFeed name = state.flightFeed name)
      (nearer : next.run.toUpdate next.connected ≤ bound - event.ofRunThread.toNat) :
      ArrivesWithin name feed (bound - event.ofRunThread.toNat) next :=
    .inr (.inl ⟨entry, same ▸ held, late, nearer⟩)
  have grounded (idle : state.run.inFlight = none) : False := by
    simp [State.flightFeed, idle] at held
  cases taken with
  | merged initial values here =>
      refine stay ?_ ?_
      · have same : ((if initial then insertInitialValues config values else values).lookup name).bind
            Sample.fed? = (values.lookup name).bind Sample.fed? := by
          split
          · exact fed_insertInitialValues config values name
          · rfl
        simp only [State.flightFeed, here, RunPc.inFlight, Option.bind_some, same]
      · simp only [here, RunPc.toUpdate] at near
        simp only [RunPc.toUpdate, Event.ofRunThread, Bool.toNat_true]
        omega
  | issued values here =>
      refine stay ?_ ?_
      · simp only [State.flightFeed, here, RunPc.inFlight]
      · simp only [here, RunPc.toUpdate] at near
        simp only [RunPc.toUpdate, Event.ofRunThread, Bool.toNat_true]
        omega
  | updated send here =>
      refine .inl ⟨entry, ?_, late⟩
      have owned := registered send (sound.issued send here)
      simp only [State.flightFeed, here, RunPc.inFlight, Option.bind_some, Option.mem_def] at held
      simp [delivered_updated owned, held]
  | updateError values here =>
      refine stay ?_ ?_
      · simp only [State.flightFeed, here, RunPc.inFlight]
      · simp [here, RunPc.toUpdate, RunPc.toSwap, Event.ofRunThread] at near ⊢
        omega
  | restored values here =>
      simp only [State.flightFeed, here, RunPc.inFlight, Option.bind_some, Option.mem_def] at held
      have nearer : RunPc.toSwap state.connected (.waitTestActive : RunPc V) + 3 ≤ bound - 1 := by
        cases connected : state.connected <;>
          simp [here, RunPc.toUpdate, RunPc.toSwap, connected] at near ⊢ <;> omega
      cases stored : state.storedValues.lookup name with
      | none =>
          refine .inr (.inr ⟨entry, ?_, late, nearer⟩)
          simp [State.storedFeed, lookup_restoreValues, stored, held]
      | some sample =>
          -- the trail puts the stored feed before the feed of the batch
          obtain ⟨newest, isFed⟩ :=
            Option.isSome_iff_exists.mp (sound.fed (by rw [here]; rfl) name sample stored)
          have ordered := (sound.tracked registered).ordered
          simp only [State.trail, State.storedFeed, State.flightFeed, here, RunPc.inFlight, stored,
            Option.bind_some, isFed, held, Option.toList_some, List.singleton_append,
            List.pairwise_cons, List.mem_cons, forall_eq_or_imp] at ordered
          refine .inr (.inr ⟨newest, ?_, Nat.le_of_lt (Nat.lt_of_le_of_lt late ordered.1.1), nearer⟩)
          simp [State.storedFeed, lookup_restoreValues, stored, isFed]
  | feedStored producer call pending =>
      refine stay ?_ ?_
      · simp only [State.flightFeed, inFlight_notify]
      · have notified := toUpdate_notify state.connected state.run
        simp only [storeValues_connected, Event.ofRunThread, Bool.toNat_false]
        omega
  | shutdownNotified =>
      refine stay ?_ ?_
      · simp only [State.flightFeed, inFlight_notify]
      · have notified := toUpdate_notify state.connected state.run
        simp only [Event.ofRunThread, Bool.toNat_false]
        omega
  | subscriberWrote connected =>
      refine stay rfl ?_
      have shorter := toUpdate_connected state.connected state.run
      simp only [Event.healthy] at healthy
      simp only [healthy, Event.ofRunThread, Bool.toNat_false]
      omega
  | shutdownCleared | registerFailed | updateFailed => cases healthy
  | feedCalled | feedRefused | shutdownTested =>
      refine stay rfl ?_
      simp only [Event.ofRunThread, Bool.toNat_false]
      omega
  | waited here | swapped _ here | locked here | spuriousWakeup here | registerTestActive here
  | registerTestConnected here | registered here | registerError here | feedTestActive _ here
  | feedTestConnected _ here | waitTestActive here | waitTestConnected here | notified here
  | loopTest here => exact (grounded (by rw [here]; rfl)).elim

theorem arrives_step {config : DatapointConfiguration V} {name : String} {feed bound : Nat}
    {state next : State V} {event : Event V} (healthy : event.healthy = true)
    (reached : (machine config).Reached beforeShutdown state) (registered : Registered name state)
    (arrives : ArrivesWithin name feed bound state) (taken : Step config state event next) :
    ArrivesWithin name feed (bound - event.ofRunThread.toNat) next := by
  have sound := sound_reached name reached
  rcases arrives with ⟨entry, delivered, late⟩ | ⟨entry, held, late, near⟩ | ⟨entry, held, late, near⟩
  · exact .inl ⟨entry, ((calls_suffix taken).filterMap _).subset delivered, late⟩
  · exact arrives_flight_step healthy sound registered ⟨entry, held, late⟩ near taken
  · have member : entry ∈ state.trail name := by simp [State.trail, Option.mem_def.mp held]
    have below := (sound.tracked registered).bounded entry member
    exact arrives_stored_step healthy (running_reached reached) (by omega) ⟨entry, held, late⟩ near taken

/-- Eighteen steps are enough from every place of the Run thread. -/
theorem arrives_latest {name : String} {state : State V} (tracked : Tracked name state) {feed : Nat}
    {value : V} (latest : latestFeed name state.fed = some (feed, value)) :
    ArrivesWithin name feed 18 state := by
  have toSwap : state.run.toSwap state.connected ≤ 15 := by
    cases state.run <;> cases state.connected <;> simp [RunPc.toSwap]
  have toUpdate : state.run.toUpdate state.connected ≤ 18 := by
    cases state.run <;> cases state.connected <;> simp [RunPc.toUpdate, RunPc.toSwap]
  rw [tracked.latest] at latest
  have member := List.mem_of_mem_head? latest
  simp only [State.trail, List.mem_append, Option.mem_toList] at member
  rcases member with stored | flying | delivered
  · exact .inr (.inr ⟨_, stored, Nat.le_refl feed, by omega⟩)
  · exact .inr (.inl ⟨_, flying, Nat.le_refl feed, toUpdate⟩)
  · exact .inl ⟨_, delivered, Nat.le_refl feed⟩

/-- A sleeping Run thread has nothing left to deliver. -/
theorem ArrivesWithin.asleep {name : String} {feed bound : Nat} {state : State V}
    (arrives : ArrivesWithin name feed bound state) (sleeps : SleepsOnEmpty state)
    (asleep : state.run = .asleep) :
    ∃ entry ∈ state.calls.filterMap (Call.delivered name), feed ≤ entry.1 := by
  rcases arrives with delivered | ⟨entry, held, _⟩ | ⟨entry, held, _⟩
  · exact delivered
  · simp [State.flightFeed, asleep, RunPc.inFlight] at held
  · simp [State.storedFeed, AList.lookup, sleeps asleep] at held

theorem ArrivesWithin.elapsed {name : String} {feed : Nat} {state : State V}
    (arrives : ArrivesWithin name feed 0 state) :
    ∃ entry ∈ state.calls.filterMap (Call.delivered name), feed ≤ entry.1 := by
  rcases arrives with delivered | ⟨entry, _, _, near⟩ | ⟨entry, _, _, near⟩
  · exact delivered
  · cases here : state.run <;> simp [here, RunPc.toUpdate] at near
  · omega

/-- While the Run thread sleeps, the feed that was delivered last is the latest feed. -/
theorem delivered_asleep {name : String} {state : State V} (sound : Sound name state)
    (registered : Registered name state) (sleeps : SleepsOnEmpty state) (asleep : state.run = .asleep) :
    (deliveredFeeds name state.calls).getLast? = latestFeed name state.fed := by
  have stored : state.storedFeed name = none := by simp [State.storedFeed, AList.lookup, sleeps asleep]
  have flying : state.flightFeed name = none := by simp [State.flightFeed, asleep, RunPc.inFlight]
  rw [(sound.tracked registered).latest, State.trail, stored, flying, deliveredFeeds,
    List.getLast?_reverse]
  rfl

/-- The Run thread waits for nothing but a notification and the answers of the broker. -/
theorem run_enabled (config : DatapointConfiguration V) {state : State V} (running : Running state)
    (awake : state.run ≠ .asleep) :
    ∃ event : Event V, event.healthy = true ∧ event.ofRunThread = true ∧
      (step config state event).isSome = true := by
  have steps (enabled : (runStep config state).isSome = true) :
      ∃ event : Event V, event.healthy = true ∧ event.ofRunThread = true ∧
        (step config state event).isSome = true := ⟨.run, rfl, rfl, enabled⟩
  cases here : state.run with
  | waitForConnected => exact ⟨.waitForConnectedReturned true, rfl, rfl, by simp [step, here]⟩
  | registerDatapoints => exact ⟨.registerReturned (some ∅), rfl, rfl, by simp [step, here]⟩
  | awaitUpdate send => exact ⟨.updateReturned true, rfl, rfl, by simp [step, here]⟩
  | asleep => exact absurd here awake
  | returned => exact absurd here running.2
  | _ => exact steps (by simp [runStep, here])

/-- While the broker answers, the latest feed of a registered name or a later feed of it is delivered once
the Run thread sleeps or has taken eighteen steps, and a Run thread that does not sleep can take a step. -/
theorem fed_value_arrives (config : DatapointConfiguration V) (name : String) {start final : State V}
    {events : List (Event V)} (reached : (machine config).Reached beforeShutdown start)
    (executed : (machine config).execute brokerAnswers start events = some final)
    (registered : ∀ send, .issued send ∈ final.calls → OwnId send.idMap name) :
    (∀ feed value, latestFeed name start.fed = some (feed, value) →
      final.run = .asleep ∨ 18 ≤ events.countP Event.ofRunThread →
      ∃ entry ∈ deliveredFeeds name final.calls, feed ≤ entry.1) ∧
    (final.run ≠ .asleep → ∃ event : Event V, event.healthy = true ∧ event.ofRunThread = true ∧
      (step config final event).isSome = true) := by
  have later : (machine config).Reached beforeShutdown final :=
    reached.along (fun _ event healthy => by cases event <;> first | rfl | cases healthy) executed
  constructor
  · intro feed value latest enough
    -- the registration is known only at the end, so every earlier bound is conditional on it
    let within (bound : Nat) (state : State V) : Prop :=
      (machine config).Reached beforeShutdown state ∧
        (Registered name state → ArrivesWithin name feed bound state)
    have arrives : within (18 - events.countP Event.ofRunThread) final := by
      refine Machine.execute_within ?_ ⟨reached, fun held => ?_⟩ executed
      · intro bound state event next ⟨before, arrives⟩ healthy taken
        have listed := step_cases taken
        refine ⟨before.next event (by cases event <;> first | rfl | cases healthy) taken, fun held => ?_⟩
        have earlier := held.before listed
        exact arrives_step healthy before earlier (arrives earlier) listed
      · exact arrives_latest ((sound_reached name reached).tracked held) latest
    have bounded := arrives.2 registered
    have delivered : ∃ entry ∈ final.calls.filterMap (Call.delivered name), feed ≤ entry.1 := by
      rcases enough with asleep | counted
      · exact bounded.asleep (sleepsOnEmpty_reached later) asleep
      · rw [Nat.sub_eq_zero_of_le counted] at bounded
        exact bounded.elapsed
    obtain ⟨entry, member, late⟩ := delivered
    exact ⟨entry, List.mem_reverse.mpr member, late⟩
  · exact run_enabled config (running_reached later)

/-- The update of the first hazard value has failed. -/
def failedEvents : List (Event Sdv.Datapoint) :=
  feedHazard true ++ connectHazard ++ [.run, .run, .run, .run, .run, .updateReturned false]

theorem failed_executes :
    ((machine hazardConfig).execute beforeShutdown (initialState _) failedEvents).isSome = true := by
  decide

def failedState : State Sdv.Datapoint :=
  ((machine hazardConfig).execute beforeShutdown (initialState _) failedEvents).get failed_executes

/-- The Run thread restores the batch, reconnects and sends it. -/
def recoveryEvents : List (Event Sdv.Datapoint) :=
  [.run, .run, .run, .run, .run, .run] ++ connectHazard ++
    [.run, .run, .run, .run, .run, .updateReturned true, .run, .run, .run]

theorem recovery_executes :
    ((machine hazardConfig).execute brokerAnswers failedState recoveryEvents).isSome = true := by
  decide

def recoveredState : State Sdv.Datapoint :=
  ((machine hazardConfig).execute brokerAnswers failedState recoveryEvents).get recovery_executes

/-- The recovery meets the hypotheses, and the value of the failed update arrives. -/
theorem fed_value_arrives_recovery : 18 ≤ recoveryEvents.countP Event.ofRunThread ∧
    ∃ entry ∈ deliveredFeeds "Vehicle.Body.Lights.Hazard.IsSignaling" recoveredState.calls,
      0 ≤ entry.1 := by
  have reached : (machine hazardConfig).Reached beforeShutdown failedState :=
    Machine.reached_get failed_executes
  have registered : ∀ send, .issued send ∈ recoveredState.calls →
      OwnId send.idMap "Vehicle.Body.Lights.Hazard.IsSignaling" := by
    intro send member
    have same : send.idMap = hazardIds := issuedWith_idMap (by decide) member
    exact same ▸ hazardIds_own
  have arrives := (fed_value_arrives hazardConfig _ reached (Option.some_get recovery_executes).symm
    registered).1 0 (.boolValue true) (by decide) (.inr (by decide))
  exact ⟨by decide, arrives⟩

end VehicleEdge.Feeder
