import VehicleEdge.Library.KeyedMap
import VehicleEdge.Library.Machine

/-
This file models the thread of the actuator subscriber and its `Shutdown`.
A step is one read or write of a shared flag, one critical section of `context_mutex_`, or one
return of a blocking call.
-/

namespace VehicleEdge.Subscriber

/-- The context of one subscription records whether it was cancelled. -/
structure ClientContext where
  cancelled : Bool
  deriving DecidableEq

/-- The Run thread is at one of these places. -/
inductive RunPc (U : Type) where
  | testActuators
  | setActive
  | loopTest
  | waitForConnected
  | connectedTest
  | createContext
  | readTest
  | reading
  | collecting (updates : List (String × U)) (changes : KeyedMap String U)
  | callbackTest (changes : KeyedMap String U)
  | finishing
  | finished (ok : Bool)
  | handleError
  | destroyContext
  | returned

/-- The caller of `Shutdown` is at one of these places. -/
inductive ShutdownPc where
  | idle
  | deactivating
  | cancelling
  | returned
  deriving DecidableEq

/-- The field `callbacks` is a history with the newest call first. -/
structure State (U : Type) where
  subscriberActive : Bool
  connected : Bool
  context : Option ClientContext
  run : RunPc U
  shutdown : ShutdownPc
  callbacks : List (KeyedMap String U)

/-- An event names the thread that steps and the outcome of the outside world. -/
inductive Event (U : Type) where
  | run
  | waitForConnectedReturned (connected : Bool)
  | readReturned (response : Option (List (String × U)))
  | finishReturned (ok : Bool)
  | shutdownTested
  | shutdownDeactivated
  | shutdownCancelled
  | feederWrote (connected : Bool)

variable {U : Type}

/-- The constructor leaves the subscriber inactive and without a context. -/
def initialState (U : Type) : State U where
  subscriberActive := false
  connected := false
  context := none
  run := .testActuators
  shutdown := .idle
  callbacks := []

/-- The Run thread takes one step that needs no answer from outside. -/
def runStep (actuators : List String) (state : State U) : Option (State U) :=
  match state.run with
  | .testActuators =>
      if actuators.isEmpty then some { state with subscriberActive := false, run := .returned }
      else some { state with run := .setActive }
  | .setActive => some { state with subscriberActive := true, run := .loopTest }
  | .loopTest =>
      some { state with run := if state.subscriberActive then .waitForConnected else .returned }
  -- `WaitForConnected` returns the shared flag, which the feeder may have written since
  | .connectedTest =>
      some { state with run := if state.connected then .createContext else .loopTest }
  | .createContext => some { state with context := some ⟨false⟩, run := .readTest }
  | .readTest =>
      some { state with run := if state.subscriberActive then .reading else .finishing }
  | .collecting [] changes => some { state with run := .callbackTest changes }
  | .collecting ((path, value) :: updates) changes =>
      some { state with
        run := if state.subscriberActive then
            .collecting updates (KeyedMap.insertNew changes path value)
          else .callbackTest changes }
  | .callbackTest changes =>
      some { state with
        callbacks := if state.subscriberActive then changes :: state.callbacks else state.callbacks
        run := .readTest }
  | .finished ok =>
      some { state with
        run := if ok then .destroyContext
          else if state.subscriberActive then .handleError else .destroyContext }
  | .handleError => some { state with connected := false, run := .destroyContext }
  | .destroyContext => some { state with context := none, run := .loopTest }
  | .waitForConnected | .reading | .finishing | .returned => none

/-- The subscriber takes one step for each event that its threads allow. -/
def step (actuators : List String) (state : State U) : Event U → Option (State U)
  | .run => runStep actuators state
  | .waitForConnectedReturned connected =>
      match state.run with
      | .waitForConnected => some { state with connected := connected, run := .connectedTest }
      | _ => none
  | .readReturned response =>
      match state.run, response with
      | .reading, some updates => some { state with run := .collecting updates ∅ }
      | .reading, none => some { state with run := .finishing }
      | _, _ => none
  | .finishReturned ok =>
      match state.run with
      | .finishing => some { state with run := .finished ok }
      | _ => none
  | .shutdownTested =>
      match state.shutdown with
      | .idle =>
          some { state with shutdown := if state.subscriberActive then .deactivating else .returned }
      | _ => none
  | .shutdownDeactivated =>
      match state.shutdown with
      | .deactivating => some { state with subscriberActive := false, shutdown := .cancelling }
      | _ => none
  | .shutdownCancelled =>
      match state.shutdown with
      | .cancelling =>
          some { state with context := state.context.map fun _ => ⟨true⟩, shutdown := .returned }
      | _ => none
  | .feederWrote connected => some { state with connected := connected }

/-- The subscriber machine starts in the constructor's state. -/
def machine (U : Type) (actuators : List String) : Machine (State U) (Event U) where
  initial := initialState U
  step := step actuators

/-- The relation lists every step of the machine with its guard and its effect. -/
inductive Step (state : State U) : Event U → State U → Prop where
  | noActuators (here : state.run = .testActuators) :
      Step state .run { state with subscriberActive := false, run := .returned }
  | hasActuators (here : state.run = .testActuators) :
      Step state .run { state with run := .setActive }
  | activated (here : state.run = .setActive) :
      Step state .run { state with subscriberActive := true, run := .loopTest }
  | loopTest (here : state.run = .loopTest) :
      Step state .run
        { state with run := if state.subscriberActive then .waitForConnected else .returned }
  | waited (here : state.run = .waitForConnected) (connected : Bool) :
      Step state (.waitForConnectedReturned connected)
        { state with connected := connected, run := .connectedTest }
  | connectedTest (here : state.run = .connectedTest) :
      Step state .run { state with run := if state.connected then .createContext else .loopTest }
  | created (here : state.run = .createContext) :
      Step state .run { state with context := some ⟨false⟩, run := .readTest }
  | readTest (here : state.run = .readTest) :
      Step state .run
        { state with run := if state.subscriberActive then .reading else .finishing }
  | read (here : state.run = .reading) (updates : List (String × U)) :
      Step state (.readReturned (some updates)) { state with run := .collecting updates ∅ }
  | readEnded (here : state.run = .reading) :
      Step state (.readReturned none) { state with run := .finishing }
  | collected (changes : KeyedMap String U) (here : state.run = .collecting [] changes) :
      Step state .run { state with run := .callbackTest changes }
  | collecting (path : String) (value : U) (updates : List (String × U))
      (changes : KeyedMap String U) (here : state.run = .collecting ((path, value) :: updates) changes) :
      Step state .run
        { state with
          run := if state.subscriberActive then
              .collecting updates (KeyedMap.insertNew changes path value)
            else .callbackTest changes }
  | called (changes : KeyedMap String U) (here : state.run = .callbackTest changes) :
      Step state .run
        { state with
          callbacks := if state.subscriberActive then changes :: state.callbacks else state.callbacks
          run := .readTest }
  | finishEnded (here : state.run = .finishing) (ok : Bool) :
      Step state (.finishReturned ok) { state with run := .finished ok }
  | finished (ok : Bool) (here : state.run = .finished ok) :
      Step state .run
        { state with
          run := if ok then .destroyContext
            else if state.subscriberActive then .handleError else .destroyContext }
  | disconnected (here : state.run = .handleError) :
      Step state .run { state with connected := false, run := .destroyContext }
  | destroyed (here : state.run = .destroyContext) :
      Step state .run { state with context := none, run := .loopTest }
  | shutdownTested (here : state.shutdown = .idle) :
      Step state .shutdownTested
        { state with shutdown := if state.subscriberActive then .deactivating else .returned }
  | shutdownDeactivated (here : state.shutdown = .deactivating) :
      Step state .shutdownDeactivated
        { state with subscriberActive := false, shutdown := .cancelling }
  | shutdownCancelled (here : state.shutdown = .cancelling) :
      Step state .shutdownCancelled
        { state with context := state.context.map fun _ => ⟨true⟩, shutdown := .returned }
  | feederWrote (connected : Bool) :
      Step state (.feederWrote connected) { state with connected := connected }

theorem runStep_cases {actuators : List String} {state next : State U}
    (taken : runStep actuators state = some next) : Step state .run next := by
  unfold runStep at taken
  split at taken
  case h_1 here =>
    cases actuators with
    | nil =>
        cases taken
        exact .noActuators here
    | cons =>
        cases taken
        exact .hasActuators here
  all_goals cases taken
  case h_2 here => exact .activated here
  case h_3 here => exact .loopTest here
  case h_4 here => exact .connectedTest here
  case h_5 here => exact .created here
  case h_6 here => exact .readTest here
  case h_7 changes here => exact .collected changes here
  case h_8 path value updates changes here => exact .collecting path value updates changes here
  case h_9 changes here => exact .called changes here
  case h_10 ok here => exact .finished ok here
  case h_11 here => exact .disconnected here
  case h_12 here => exact .destroyed here

/-- Every step of the machine is one of the listed steps. -/
theorem step_cases {actuators : List String} {state next : State U} {event : Event U}
    (taken : step actuators state event = some next) : Step state event next := by
  cases event with
  | run => exact runStep_cases taken
  | waitForConnectedReturned connected =>
      simp only [step] at taken
      split at taken <;> cases taken
      case h_1 here => exact .waited here connected
  | readReturned response =>
      simp only [step] at taken
      split at taken <;> cases taken
      case h_1 updates here => exact .read here updates
      case h_2 here => exact .readEnded here
  | finishReturned ok =>
      simp only [step] at taken
      split at taken <;> cases taken
      case h_1 here => exact .finishEnded here ok
  | shutdownTested =>
      simp only [step] at taken
      split at taken <;> cases taken
      case h_1 here => exact .shutdownTested here
  | shutdownDeactivated =>
      simp only [step] at taken
      split at taken <;> cases taken
      case h_1 here => exact .shutdownDeactivated here
  | shutdownCancelled =>
      simp only [step] at taken
      split at taken <;> cases taken
      case h_1 here => exact .shutdownCancelled here
  | feederWrote connected =>
      cases taken
      exact .feederWrote connected

end VehicleEdge.Subscriber
