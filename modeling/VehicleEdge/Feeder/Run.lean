import VehicleEdge.Feeder.Values
import VehicleEdge.Library.Machine

/-
This file models the threads of the data broker feeder as one machine.
A step is one read of a shared flag, one critical section of `stored_values_mutex_`, one remote
call, one wait, or one notification.
-/

namespace VehicleEdge.Feeder

/-- A producer passes one value or a set of values with distinct names. -/
inductive FeedCall (V : Type) where
  | feedValue (name : String) (value : V)
  | feedValues (values : KeyedMap String V)

/-- The loop of `storeValues` takes the entries in the order of the map. -/
def FeedCall.entries {V : Type} : FeedCall V → List (Σ _ : String, V)
  | .feedValue name value => [⟨name, value⟩]
  | .feedValues values => values.entries

/-- The Run thread is at one of these places. -/
inductive RunPc (V : Type) where
  | loopTest
  | waitForConnected
  | registerTestActive
  | registerTestConnected
  | registerDatapoints
  | registerError
  | feedTestActive (alsoFeedInitialValues : Bool)
  | feedTestConnected (alsoFeedInitialValues : Bool)
  | swapStoredValues (feedInitialValues : Bool)
  | insertInitialValues (feedInitialValues : Bool) (valuesToFeed : DatapointValues V)
  | feedToBroker (valuesToFeed : DatapointValues V)
  | awaitUpdate (send : Send V)
  | updateError (valuesToFeed : DatapointValues V)
  | restoreValues (valuesToFeed : DatapointValues V)
  | waitTestActive
  | waitTestConnected
  | lockStoredValues
  | asleep
  | notified
  | returned

/-- The caller of `Shutdown` is at one of these places. -/
inductive ShutdownPc where
  | idle
  | clearing
  | notifying
  | returned
  deriving DecidableEq

/-- The call history records the remote calls of the Run thread. -/
inductive Call (V : Type) where
  | waited (connected : Bool)
  | registered (results : IdMap)
  | registerFailed
  | issued (send : Send V)
  | updated (send : Send V)
  | updateFailed (send : Send V)

/-- The fields `fed` and `calls` are histories with the newest entry first. -/
structure State (V : Type) where
  feederActive : Bool
  connected : Bool
  storedValues : DatapointValues V
  idMap : IdMap
  run : RunPc V
  producers : Nat → Option (FeedCall V)
  shutdown : ShutdownPc
  fed : List (String × V)
  calls : List (Call V)

/-- An event names the thread that steps and the outcome of the outside world. -/
inductive Event (V : Type) where
  | run
  | waitForConnectedReturned (connected : Bool)
  | registerReturned (results : Option IdMap)
  | updateReturned (ok : Bool)
  | spuriousWakeup
  | feedCalled (producer : Nat) (call : FeedCall V)
  | feedStored (producer : Nat)
  | shutdownTested
  | shutdownCleared
  | shutdownNotified
  | subscriberWrote (connected : Bool)

variable {V : Type}

/-- The constructor leaves the store and the id map empty. -/
def initialState (V : Type) : State V where
  feederActive := true
  connected := false
  storedValues := ∅
  idMap := ∅
  run := .loopTest
  producers := fun _ => none
  shutdown := .idle
  fed := []
  calls := []

/-- One store gives its value the next feed number. -/
def State.feed (state : State V) (entry : Σ _ : String, V) : State V :=
  { state with
    storedValues := storeValue state.storedValues entry.1 ⟨.fed state.fed.length, entry.2⟩
    fed := (entry.1, entry.2) :: state.fed }

/-- The critical section of a feeding call stores all its entries. -/
def State.storeValues (state : State V) (entries : List (Σ _ : String, V)) : State V :=
  entries.foldl State.feed state

/-- A notification wakes the Run thread only when it sleeps. -/
def RunPc.notify : RunPc V → RunPc V
  | .asleep => .notified
  | pc => pc

/-- The Run thread takes one step that needs no answer from outside. -/
def runStep (config : DatapointConfiguration V) (state : State V) : Option (State V) :=
  match state.run with
  | .loopTest =>
      some { state with run := if state.feederActive then .waitForConnected else .returned }
  | .registerTestActive =>
      some { state with
        run := if state.feederActive then .registerTestConnected else .feedTestActive true }
  | .registerTestConnected =>
      some { state with
        run := if state.connected then .registerDatapoints else .feedTestActive true }
  -- `handleGrpcError` clears the flag for every error code, then `continue` leaves the pass
  | .registerError => some { state with connected := false, run := .loopTest }
  | .feedTestActive initial =>
      some { state with run := if state.feederActive then .feedTestConnected initial else .loopTest }
  | .feedTestConnected initial =>
      some { state with run := if state.connected then .swapStoredValues initial else .loopTest }
  | .swapStoredValues initial =>
      some { state with storedValues := ∅, run := .insertInitialValues initial state.storedValues }
  | .insertInitialValues initial values =>
      some { state with
        run := .feedToBroker (if initial then insertInitialValues config values else values) }
  | .feedToBroker values =>
      let send : Send V := ⟨state.idMap, values⟩
      some { state with calls := .issued send :: state.calls, run := .awaitUpdate send }
  | .updateError values => some { state with connected := false, run := .restoreValues values }
  | .restoreValues values =>
      some { state with
        storedValues := restoreValues state.storedValues values, run := .waitTestActive }
  | .waitTestActive =>
      some { state with
        run := if state.feederActive then .waitTestConnected else .feedTestActive false }
  | .waitTestConnected =>
      some { state with run := if state.connected then .lockStoredValues else .feedTestActive false }
  -- the mutex is held from the emptiness test until the thread sleeps
  | .lockStoredValues =>
      some { state with
        run := if state.storedValues.entries.isEmpty then .asleep else .feedTestActive false }
  | .notified => some { state with run := .feedTestActive false }
  | .waitForConnected | .registerDatapoints | .awaitUpdate _ | .asleep | .returned => none

/-- The feeder takes one step for each event that its threads allow. -/
def step (config : DatapointConfiguration V) (state : State V) : Event V → Option (State V)
  | .run => runStep config state
  | .waitForConnectedReturned connected =>
      match state.run with
      | .waitForConnected =>
          some { state with
            connected := connected, calls := .waited connected :: state.calls
            run := .registerTestActive }
      | _ => none
  | .registerReturned results =>
      match state.run, results with
      | .registerDatapoints, some results =>
          some { state with
            idMap := results, calls := .registered results :: state.calls
            run := .feedTestActive true }
      | .registerDatapoints, none =>
          some { state with calls := .registerFailed :: state.calls, run := .registerError }
      | _, _ => none
  | .updateReturned ok =>
      match state.run, ok with
      | .awaitUpdate send, true =>
          some { state with calls := .updated send :: state.calls, run := .waitTestActive }
      | .awaitUpdate send, false =>
          some { state with calls := .updateFailed send :: state.calls, run := .updateError send.values }
      | _, _ => none
  | .spuriousWakeup =>
      match state.run with
      | .asleep => some { state with run := .notified }
      | _ => none
  | .feedCalled producer call =>
      match state.producers producer with
      | some _ => none
      | none =>
          if state.feederActive then
            some { state with producers := Function.update state.producers producer (some call) }
          else some state
  | .feedStored producer =>
      match state.producers producer with
      | none => none
      | some call =>
          let stored := state.storeValues call.entries
          some { stored with
            producers := Function.update state.producers producer none
            run := state.run.notify }
  | .shutdownTested =>
      match state.shutdown with
      | .idle =>
          some { state with shutdown := if state.feederActive then .clearing else .returned }
      | _ => none
  | .shutdownCleared =>
      match state.shutdown with
      | .clearing =>
          some { state with storedValues := ∅, feederActive := false, shutdown := .notifying }
      | _ => none
  | .shutdownNotified =>
      match state.shutdown with
      | .notifying => some { state with shutdown := .returned, run := state.run.notify }
      | _ => none
  | .subscriberWrote connected => some { state with connected := connected }

/-- Only the critical section of `Shutdown` clears the store. -/
def Event.clears : Event V → Bool
  | .shutdownCleared => true
  | _ => false

/-- The feeder machine starts in the constructor's state. -/
def machine (config : DatapointConfiguration V) : Machine (State V) (Event V) where
  initial := initialState V
  step := step config

/-- The relation lists every step of the machine with its guard and its effect. -/
inductive Step (config : DatapointConfiguration V) (state : State V) : Event V → State V → Prop where
  | loopTest (here : state.run = .loopTest) :
      Step config state .run
        { state with run := if state.feederActive then .waitForConnected else .returned }
  | waited (here : state.run = .waitForConnected) (connected : Bool) :
      Step config state (.waitForConnectedReturned connected)
        { state with
          connected := connected, calls := .waited connected :: state.calls
          run := .registerTestActive }
  | registerTestActive (here : state.run = .registerTestActive) :
      Step config state .run
        { state with
          run := if state.feederActive then .registerTestConnected else .feedTestActive true }
  | registerTestConnected (here : state.run = .registerTestConnected) :
      Step config state .run
        { state with run := if state.connected then .registerDatapoints else .feedTestActive true }
  | registered (here : state.run = .registerDatapoints) (results : IdMap) :
      Step config state (.registerReturned (some results))
        { state with
          idMap := results, calls := .registered results :: state.calls, run := .feedTestActive true }
  | registerFailed (here : state.run = .registerDatapoints) :
      Step config state (.registerReturned none)
        { state with calls := .registerFailed :: state.calls, run := .registerError }
  | registerError (here : state.run = .registerError) :
      Step config state .run { state with connected := false, run := .loopTest }
  | feedTestActive (initial : Bool) (here : state.run = .feedTestActive initial) :
      Step config state .run
        { state with run := if state.feederActive then .feedTestConnected initial else .loopTest }
  | feedTestConnected (initial : Bool) (here : state.run = .feedTestConnected initial) :
      Step config state .run
        { state with run := if state.connected then .swapStoredValues initial else .loopTest }
  | swapped (initial : Bool) (here : state.run = .swapStoredValues initial) :
      Step config state .run
        { state with storedValues := ∅, run := .insertInitialValues initial state.storedValues }
  | merged (initial : Bool) (values : DatapointValues V)
      (here : state.run = .insertInitialValues initial values) :
      Step config state .run
        { state with
          run := .feedToBroker (if initial then insertInitialValues config values else values) }
  | issued (values : DatapointValues V) (here : state.run = .feedToBroker values) :
      Step config state .run
        { state with
          calls := .issued ⟨state.idMap, values⟩ :: state.calls
          run := .awaitUpdate ⟨state.idMap, values⟩ }
  | updated (send : Send V) (here : state.run = .awaitUpdate send) :
      Step config state (.updateReturned true)
        { state with calls := .updated send :: state.calls, run := .waitTestActive }
  | updateFailed (send : Send V) (here : state.run = .awaitUpdate send) :
      Step config state (.updateReturned false)
        { state with calls := .updateFailed send :: state.calls, run := .updateError send.values }
  | updateError (values : DatapointValues V) (here : state.run = .updateError values) :
      Step config state .run { state with connected := false, run := .restoreValues values }
  | restored (values : DatapointValues V) (here : state.run = .restoreValues values) :
      Step config state .run
        { state with
          storedValues := restoreValues state.storedValues values, run := .waitTestActive }
  | waitTestActive (here : state.run = .waitTestActive) :
      Step config state .run
        { state with
          run := if state.feederActive then .waitTestConnected else .feedTestActive false }
  | waitTestConnected (here : state.run = .waitTestConnected) :
      Step config state .run
        { state with run := if state.connected then .lockStoredValues else .feedTestActive false }
  | locked (here : state.run = .lockStoredValues) :
      Step config state .run
        { state with
          run := if state.storedValues.entries.isEmpty then .asleep else .feedTestActive false }
  | spuriousWakeup (here : state.run = .asleep) :
      Step config state .spuriousWakeup { state with run := .notified }
  | notified (here : state.run = .notified) :
      Step config state .run { state with run := .feedTestActive false }
  | feedCalled (producer : Nat) (call : FeedCall V) (active : state.feederActive = true) :
      Step config state (.feedCalled producer call)
        { state with producers := Function.update state.producers producer (some call) }
  | feedRefused (producer : Nat) (call : FeedCall V) (inactive : state.feederActive = false) :
      Step config state (.feedCalled producer call) state
  | feedStored (producer : Nat) (call : FeedCall V) (pending : state.producers producer = some call) :
      Step config state (.feedStored producer)
        { state.storeValues call.entries with
          producers := Function.update state.producers producer none
          run := state.run.notify }
  | shutdownTested (here : state.shutdown = .idle) :
      Step config state .shutdownTested
        { state with shutdown := if state.feederActive then .clearing else .returned }
  | shutdownCleared (here : state.shutdown = .clearing) :
      Step config state .shutdownCleared
        { state with storedValues := ∅, feederActive := false, shutdown := .notifying }
  | shutdownNotified (here : state.shutdown = .notifying) :
      Step config state .shutdownNotified
        { state with shutdown := .returned, run := state.run.notify }
  | subscriberWrote (connected : Bool) :
      Step config state (.subscriberWrote connected) { state with connected := connected }

theorem runStep_cases {config : DatapointConfiguration V} {state next : State V}
    (taken : runStep config state = some next) : Step config state .run next := by
  unfold runStep at taken
  split at taken <;> cases taken
  case h_1 here => exact .loopTest here
  case h_2 here => exact .registerTestActive here
  case h_3 here => exact .registerTestConnected here
  case h_4 here => exact .registerError here
  case h_5 initial here => exact .feedTestActive initial here
  case h_6 initial here => exact .feedTestConnected initial here
  case h_7 initial here => exact .swapped initial here
  case h_8 initial values here => exact .merged initial values here
  case h_9 values here => exact .issued values here
  case h_10 values here => exact .updateError values here
  case h_11 values here => exact .restored values here
  case h_12 here => exact .waitTestActive here
  case h_13 here => exact .waitTestConnected here
  case h_14 here => exact .locked here
  case h_15 here => exact .notified here

/-- Every step of the machine is one of the listed steps. -/
theorem step_cases {config : DatapointConfiguration V} {state next : State V} {event : Event V}
    (taken : step config state event = some next) : Step config state event next := by
  cases event with
  | run => exact runStep_cases taken
  | waitForConnectedReturned connected =>
      simp only [step] at taken
      split at taken <;> cases taken
      case h_1 here => exact .waited here connected
  | registerReturned results =>
      simp only [step] at taken
      split at taken <;> cases taken
      case h_1 results here => exact .registered here results
      case h_2 here => exact .registerFailed here
  | updateReturned ok =>
      simp only [step] at taken
      split at taken <;> cases taken
      case h_1 send here => exact .updated send here
      case h_2 send here => exact .updateFailed send here
  | spuriousWakeup =>
      simp only [step] at taken
      split at taken <;> cases taken
      case h_1 here => exact .spuriousWakeup here
  | feedCalled producer call =>
      simp only [step] at taken
      split at taken
      case h_1 => cases taken
      case h_2 =>
        cases active : state.feederActive with
        | true =>
            cases (if_pos active).symm.trans taken
            exact .feedCalled producer call active
        | false =>
            have refused : ¬ state.feederActive = true := by simp [active]
            cases (if_neg refused).symm.trans taken
            exact .feedRefused producer call active
  | feedStored producer =>
      simp only [step] at taken
      split at taken <;> cases taken
      case h_2 call pending => exact .feedStored producer call pending
  | shutdownTested =>
      simp only [step] at taken
      split at taken <;> cases taken
      case h_1 here => exact .shutdownTested here
  | shutdownCleared =>
      simp only [step] at taken
      split at taken <;> cases taken
      case h_1 here => exact .shutdownCleared here
  | shutdownNotified =>
      simp only [step] at taken
      split at taken <;> cases taken
      case h_1 here => exact .shutdownNotified here
  | subscriberWrote connected =>
      cases taken
      exact .subscriberWrote connected

/-- This configuration has one datapoint of the light feeder mapping. -/
def hazardConfig : DatapointConfiguration Sdv.Datapoint :=
  [⟨"Vehicle.Body.Lights.Hazard.IsSignaling", .bool, .onChange, Sdv.createNotAvailableValue,
    "No description"⟩]

/-- The broker answers the registration of this configuration with one id. -/
def hazardIds : IdMap := AList.singleton "Vehicle.Body.Lights.Hazard.IsSignaling" 7

theorem hazardIds_own : OwnId hazardIds "Vehicle.Body.Lights.Hazard.IsSignaling" := by
  refine ⟨by decide, ?_⟩
  intro id other _ shared
  have member : other ∈ hazardIds := AList.lookup_isSome.mp (by simp [shared])
  simpa [hazardIds, AList.mem_keys] using member

/-- The check compares the id map of each request of a call history. -/
def Call.issuedWith (ids : IdMap) : Call V → Bool
  | .issued send => decide (send.idMap.entries = ids.entries)
  | _ => true

/-- A checked history has only requests with this id map. -/
theorem issuedWith_idMap {ids : IdMap} {calls : List (Call V)}
    (checked : calls.all (Call.issuedWith ids) = true) {send : Send V}
    (member : .issued send ∈ calls) : send.idMap = ids :=
  AList.ext (of_decide_eq_true (List.all_eq_true.mp checked _ member))

/-- One producer feeds the hazard signal. -/
def feedHazard (value : Bool) : List (Event Sdv.Datapoint) :=
  [.feedCalled 0 (.feedValue "Vehicle.Body.Lights.Hazard.IsSignaling" (.boolValue value)),
    .feedStored 0]

/-- The Run thread connects and registers. -/
def connectHazard : List (Event Sdv.Datapoint) :=
  [.run, .waitForConnectedReturned true, .run, .run, .registerReturned (some hazardIds)]

section StoreValues

variable (state : State V) (entries : List (Σ _ : String, V))

@[simp] theorem storeValues_nil : state.storeValues [] = state := rfl

@[simp] theorem storeValues_cons (entry : Σ _ : String, V) :
    state.storeValues (entry :: entries) = (state.feed entry).storeValues entries := rfl

/-- The critical section of a feeding call changes only the store and the feed history. -/
theorem storeValues_frame :
    (state.storeValues entries).feederActive = state.feederActive ∧
      (state.storeValues entries).connected = state.connected ∧
      (state.storeValues entries).idMap = state.idMap ∧
      (state.storeValues entries).shutdown = state.shutdown ∧
      (state.storeValues entries).run = state.run ∧
      (state.storeValues entries).calls = state.calls := by
  induction entries generalizing state with
  | nil => exact ⟨rfl, rfl, rfl, rfl, rfl, rfl⟩
  | cons entry entries ih => exact ih (state.feed entry)

@[simp] theorem storeValues_feederActive :
    (state.storeValues entries).feederActive = state.feederActive :=
  (storeValues_frame state entries).1

@[simp] theorem storeValues_connected :
    (state.storeValues entries).connected = state.connected :=
  (storeValues_frame state entries).2.1

@[simp] theorem storeValues_shutdown : (state.storeValues entries).shutdown = state.shutdown :=
  (storeValues_frame state entries).2.2.2.1

@[simp] theorem storeValues_run : (state.storeValues entries).run = state.run :=
  (storeValues_frame state entries).2.2.2.2.1

@[simp] theorem storeValues_calls : (state.storeValues entries).calls = state.calls :=
  (storeValues_frame state entries).2.2.2.2.2

end StoreValues

end VehicleEdge.Feeder
