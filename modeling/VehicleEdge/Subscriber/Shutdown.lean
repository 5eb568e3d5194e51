import VehicleEdge.Subscriber.Run
import VehicleEdge.Broker.Types

/-
This file finds when `Shutdown` of the actuator subscriber takes effect.
`Shutdown` does nothing before the Run thread has set its flag, and it cancels no context while
the Run thread is between its loop test and the next subscription.
-/

namespace VehicleEdge.Subscriber

variable {U : Type}

/-- The Run thread blocks inside `Read` or `Finish` of its subscription. -/
def RunPc.inCall : RunPc U → Bool
  | .reading => true
  | .finishing => true
  | _ => false

/-- The context of the current subscription was never cancelled. -/
def Uncancelled (state : State U) : Prop := state.context = some ⟨false⟩

/-- After `Shutdown` returned, the flag is clear and no blocking call lives on without a cancel. -/
def ShutdownEffective (state : State U) : Prop :=
  state.shutdown = .returned →
    state.subscriberActive = false ∧ ¬ (state.run.inCall = true ∧ Uncancelled state)

/-- A late step sets the flag after `Shutdown` tested it, or opens a subscription after the
critical section of `Shutdown`. -/
def State.late (state : State U) : Bool :=
  match state.run with
  | .setActive => decide (state.shutdown ≠ .idle)
  | .createContext => decide (state.shutdown = .returned)
  | _ => false

def Event.isRun : Event U → Bool
  | .run => true
  | _ => false

/-- The guard excludes the late steps of the Run thread. -/
def noLateStep (state : State U) (event : Event U) : Prop :=
  event.isRun = true → state.late = false

instance : DecidableRel (@noLateStep U) :=
  fun state event => inferInstanceAs (Decidable (event.isRun = true → state.late = false))

/-- The Run thread has not opened a subscription in this pass. -/
def RunPc.beforeContext : RunPc U → Bool
  | .testActuators | .setActive | .loopTest | .waitForConnected | .connectedTest | .createContext
  | .returned => true
  | _ => false

/-- The Run thread has not set the flag yet, or it has ended. -/
def RunPc.outsideLoop : RunPc U → Bool
  | .testActuators | .setActive | .returned => true
  | _ => false

/-- The invariant follows the flag and the context through the phases of `Shutdown`. -/
structure Stopping (state : State U) : Prop where
  inactive : state.shutdown = .cancelling ∨ state.shutdown = .returned →
    state.subscriberActive = false
  cancelled : state.shutdown = .returned → ¬ Uncancelled state
  outside : state.shutdown = .idle → state.subscriberActive = false → state.run.outsideLoop = true
  closed : state.run.beforeContext = true → state.context = none

theorem beforeContext_of_outsideLoop {pc : RunPc U} (outside : pc.outsideLoop = true) :
    pc.beforeContext = true := by
  cases pc <;> first | rfl | cases outside

/-- Before a shutdown the flag is set everywhere inside the loop. -/
theorem Stopping.active_inside {state : State U} (stopping : Stopping state)
    (inside : state.run.outsideLoop = false) (idle : state.shutdown = .idle) :
    state.subscriberActive ≠ false := by
  intro inactive
  have outside := stopping.outside idle inactive
  rw [inside] at outside
  cases outside

theorem stopping_step {state next : State U} {event : Event U} (stopping : Stopping state)
    (allowed : noLateStep state event) (taken : Step state event next) : Stopping next := by
  cases taken with
  | noActuators here =>
      exact ⟨fun _ => rfl, stopping.cancelled, fun _ _ => rfl,
        fun _ => stopping.closed (by rw [here]; rfl)⟩
  | hasActuators here =>
      exact ⟨stopping.inactive, stopping.cancelled, fun _ _ => rfl,
        fun _ => stopping.closed (by rw [here]; rfl)⟩
  | activated here =>
      have idle : state.shutdown = .idle := by simpa [State.late, here] using allowed rfl
      refine ⟨fun late => ?_, stopping.cancelled, nofun, fun _ => stopping.closed (by rw [here]; rfl)⟩
      rcases late with late | late <;> exact absurd (idle.symm.trans late) nofun
  | created here =>
      have early : state.shutdown ≠ .returned := by simpa [State.late, here] using allowed rfl
      refine ⟨stopping.inactive, fun returned => absurd returned early, ?_, nofun⟩
      exact fun idle inactive => absurd inactive (stopping.active_inside (by rw [here]; rfl) idle)
  | shutdownTested here =>
      cases active : state.subscriberActive with
      | true => exact ⟨nofun, nofun, nofun, stopping.closed⟩
      | false =>
          refine ⟨fun _ => rfl, fun _ => ?_, nofun, stopping.closed⟩
          have none := stopping.closed (beforeContext_of_outsideLoop (stopping.outside here active))
          simp [Uncancelled, none]
  | shutdownDeactivated here => exact ⟨fun _ => rfl, nofun, nofun, stopping.closed⟩
  | shutdownCancelled here =>
      refine ⟨fun _ => stopping.inactive (Or.inl here), fun _ => ?_, nofun, fun early => ?_⟩
      · cases state.context <;> simp [Uncancelled]
      · simp [stopping.closed early]
  | destroyed here =>
      refine ⟨stopping.inactive, fun _ => nofun, ?_, fun _ => rfl⟩
      exact fun idle inactive => absurd inactive (stopping.active_inside (by rw [here]; rfl) idle)
  | feederWrote =>
      exact ⟨stopping.inactive, stopping.cancelled, stopping.outside, stopping.closed⟩
  | loopTest here | waited here | connectedTest here =>
      refine ⟨stopping.inactive, stopping.cancelled, ?_, fun _ => stopping.closed (by rw [here]; rfl)⟩
      exact fun idle inactive => absurd inactive (stopping.active_inside (by rw [here]; rfl) idle)
  | read here | readEnded here | collected _ here | called _ here | finishEnded here
  | disconnected here =>
      refine ⟨stopping.inactive, stopping.cancelled, ?_, nofun⟩
      exact fun idle inactive => absurd inactive (stopping.active_inside (by rw [here]; rfl) idle)
  | readTest here | collecting _ _ _ _ here | finished _ here =>
      refine ⟨stopping.inactive, stopping.cancelled, ?_, fun early => ?_⟩
      · exact fun idle inactive => absurd inactive (stopping.active_inside (by rw [here]; rfl) idle)
      · dsimp only at early
        split_ifs at early <;> cases early

/-- When the Run thread sets its flag before `Shutdown` reads it and opens no subscription after
the critical section of `Shutdown`, the shutdown takes effect. -/
theorem shutdown_takes_effect (actuators : List String) {state : State U}
    (reached : (machine U actuators).Reached noLateStep state) : ShutdownEffective state := by
  have stopping : Stopping state := by
    refine reached.invariant ⟨fun _ => rfl, nofun, fun _ _ => rfl, fun _ => rfl⟩ ?_
    intro state event next stopping allowed taken
    exact stopping_step stopping allowed (step_cases taken)
  intro returned
  exact ⟨stopping.inactive (Or.inr returned), fun stuck => stopping.cancelled returned stuck.2⟩

/-- These actuators come from the drive feeder mapping. -/
def driveActuators : List String :=
  ["Vehicle.Chassis.SteeringWheel.AngleControl", "Vehicle.Chassis.Accelerator.PedalPositionControl"]

def driveMachine : Machine (State Kuksa.Datapoint) (Event Kuksa.Datapoint) :=
  machine Kuksa.Datapoint driveActuators

def shutdownEvents : List (Event Kuksa.Datapoint) :=
  [.shutdownTested, .shutdownDeactivated, .shutdownCancelled]

/-- `Shutdown` runs while the Run thread reads from its subscription. -/
def orderlyEvents : List (Event Kuksa.Datapoint) :=
  let reading : List (Event Kuksa.Datapoint) :=
    [.run, .run, .run, .waitForConnectedReturned true, .run, .run, .run]
  reading ++ shutdownEvents

theorem orderly_executes :
    (driveMachine.execute noLateStep (initialState _) orderlyEvents).isSome = true := by decide

def orderlyState : State Kuksa.Datapoint :=
  (driveMachine.execute noLateStep (initialState _) orderlyEvents).get orderly_executes

/-- The orderly shutdown returns and takes effect inside the blocking call. -/
theorem shutdown_takes_effect_orderly :
    orderlyState.shutdown = .returned ∧ orderlyState.run.inCall = true ∧
      ShutdownEffective orderlyState :=
  ⟨by decide, by decide, shutdown_takes_effect driveActuators
    (Machine.reached_get orderly_executes)⟩

/-- `Shutdown` returns before the Run thread sets its flag. -/
def earlyEvents : List (Event Kuksa.Datapoint) := [.shutdownTested, .run, .run]

theorem early_executes :
    (driveMachine.execute Machine.anyStep (initialState _) earlyEvents).isSome = true := by decide

def earlyState : State Kuksa.Datapoint :=
  (driveMachine.execute Machine.anyStep (initialState _) earlyEvents).get early_executes

/-- `Shutdown` runs while the Run thread waits for a connection, so it finds no context. -/
def unseenEvents : List (Event Kuksa.Datapoint) :=
  let waiting : List (Event Kuksa.Datapoint) := [.run, .run, .run]
  let finishing : List (Event Kuksa.Datapoint) := [.waitForConnectedReturned true, .run, .run, .run]
  waiting ++ shutdownEvents ++ finishing

theorem unseen_executes :
    (driveMachine.execute Machine.anyStep (initialState _) unseenEvents).isSome = true := by decide

def unseenState : State Kuksa.Datapoint :=
  (driveMachine.execute Machine.anyStep (initialState _) unseenEvents).get unseen_executes

/-- After `Shutdown` returned, the flag can be set, and the Run thread can block in `Finish` of a
subscription that nobody cancelled. -/
theorem shutdown_without_effect :
    (¬ ∀ state, driveMachine.Reached Machine.anyStep state → state.shutdown = .returned →
      state.subscriberActive = false) ∧
      ¬ ∀ state, driveMachine.Reached Machine.anyStep state → state.shutdown = .returned →
        ¬ (state.run.inCall = true ∧ Uncancelled state) := by
  constructor
  · intro effective
    have reached : driveMachine.Reached Machine.anyStep earlyState :=
      Machine.reached_get early_executes
    have inactive := effective earlyState reached (by decide)
    revert inactive
    decide
  · intro effective
    have reached : driveMachine.Reached Machine.anyStep unseenState :=
      Machine.reached_get unseen_executes
    exact effective unseenState reached (by decide) ⟨by decide, rfl⟩

end VehicleEdge.Subscriber
