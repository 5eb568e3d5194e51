import VehicleEdge.Subscriber.Shutdown

/-
This file bounds how long the Run thread of the subscriber lives after `Shutdown`.
-/

namespace VehicleEdge.Subscriber

variable {U : Type}

/-- These are the steps of the Run thread. -/
def Event.ofRunThread : Event U → Bool
  | .run | .waitForConnectedReturned _ | .readReturned _ | .finishReturned _ => true
  | _ => false

/-- With a cleared flag the Run thread needs at most this number of its steps to return. -/
def RunPc.toReturn : RunPc U → Nat
  | .returned => 0
  | .loopTest => 1
  | .destroyContext => 2
  | .finished _ | .handleError => 3
  | .finishing => 4
  | .readTest => 5
  | .callbackTest _ | .createContext => 6
  | .collecting _ _ | .connectedTest => 7
  | .reading | .waitForConnected => 8
  | .testActuators | .setActive => 0

/-- The Run thread is past the statement that sets the flag. -/
def RunPc.started : RunPc U → Bool
  | .testActuators | .setActive => false
  | _ => true

/-- The flag is cleared for good. -/
structure Ending (state : State U) : Prop where
  inactive : state.subscriberActive = false
  started : state.run.started = true

/-- Every step of the Run thread lowers the rank, no other thread can raise it, and the callback is not
called any more. -/
theorem ending_step {state next : State U} {event : Event U} (ending : Ending state)
    (taken : Step state event next) :
    Ending next ∧ next.run.toReturn + event.ofRunThread.toNat ≤ state.run.toReturn ∧
      next.callbacks = state.callbacks := by
  obtain ⟨inactive, started⟩ := ending
  cases taken with
  | noActuators here | hasActuators here | activated here =>
      rw [here] at started
      cases started
  | loopTest here | readTest here | collecting _ _ _ _ here =>
      refine ⟨⟨inactive, ?_⟩, ?_, rfl⟩
      · simp only [inactive]
        rfl
      · simp [here, inactive, RunPc.toReturn, Event.ofRunThread]
  | called changes here =>
      refine ⟨⟨inactive, rfl⟩, ?_, by simp [inactive]⟩
      simp [here, RunPc.toReturn, Event.ofRunThread]
  | connectedTest here =>
      refine ⟨⟨inactive, ?_⟩, ?_, rfl⟩
      · cases connected : state.connected <;> rfl
      · cases connected : state.connected <;> simp [here, RunPc.toReturn, Event.ofRunThread]
  | finished ok here =>
      refine ⟨⟨inactive, ?_⟩, ?_, rfl⟩
      · simp only [inactive, Bool.false_eq_true, if_false, ite_self]
        rfl
      · simp [here, inactive, RunPc.toReturn, Event.ofRunThread]
  | waited here | created here | read here | readEnded here | collected _ here | finishEnded here
  | disconnected here | destroyed here =>
      exact ⟨⟨inactive, rfl⟩, by simp [here, RunPc.toReturn, Event.ofRunThread], rfl⟩
  | shutdownTested | shutdownCancelled | feederWrote =>
      exact ⟨⟨inactive, started⟩, by simp [Event.ofRunThread], rfl⟩
  | shutdownDeactivated => exact ⟨⟨rfl, started⟩, by simp [Event.ofRunThread], rfl⟩

/-- A Run thread that has not returned can take a step. -/
theorem ending_enabled (actuators : List String) {state : State U} (ending : Ending state)
    (running : state.run ≠ .returned) :
    ∃ event : Event U, event.ofRunThread = true ∧ (step actuators state event).isSome = true := by
  have started := ending.started
  cases here : state.run with
  | waitForConnected => exact ⟨.waitForConnectedReturned false, rfl, by simp [step, here]⟩
  | reading => exact ⟨.readReturned none, rfl, by simp [step, here]⟩
  | finishing => exact ⟨.finishReturned true, rfl, by simp [step, here]⟩
  | testActuators | setActive =>
      rw [here] at started
      cases started
  | returned => exact absurd here running
  | collecting updates changes =>
      refine ⟨.run, rfl, ?_⟩
      cases updates <;> simp [step, runStep, here]
  | _ => exact ⟨.run, rfl, by simp [step, runStep, here]⟩

end VehicleEdge.Subscriber
