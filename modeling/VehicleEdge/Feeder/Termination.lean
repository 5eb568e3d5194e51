import VehicleEdge.Feeder.Progress
import VehicleEdge.Feeder.Shutdown

/-
This file bounds how long the Run thread of the feeder lives after `Shutdown`.
-/

namespace VehicleEdge.Feeder

variable {V : Type}

/-- With a cleared flag the Run thread needs at most this number of its steps to return. -/
def RunPc.toReturn : RunPc V → Nat
  | .returned => 0
  | .loopTest => 1
  | .registerError | .feedTestActive _ => 2
  | .notified | .waitTestActive | .registerDatapoints | .registerTestActive => 3
  | .restoreValues _ | .registerTestConnected | .waitForConnected => 4
  | .updateError _ => 5
  | .awaitUpdate _ => 6
  | .feedToBroker _ => 7
  | .insertInitialValues _ _ => 8
  | .swapStoredValues _ => 9
  | .feedTestConnected _ => 10
  | .waitTestConnected | .lockStoredValues | .asleep => 0

/-- The flag is cleared, and the Run thread is not on its way into the wait. -/
structure Ending (state : State V) : Prop where
  inactive : state.feederActive = false
  awake : state.run.needsNotification = false

theorem toReturn_notify (pc : RunPc V) (awake : pc.needsNotification = false) :
    pc.notify = pc := by
  cases pc <;> first | rfl | cases awake

/-- Every step of the Run thread lowers the rank, and no other thread can raise it. -/
theorem ending_step {config : DatapointConfiguration V} {state next : State V} {event : Event V}
    (ending : Ending state) (taken : Step config state event next) :
    Ending next ∧ next.run.toReturn + event.ofRunThread.toNat ≤ state.run.toReturn := by
  obtain ⟨inactive, awake⟩ := ending
  have notified := toReturn_notify state.run awake
  cases taken with
  | feedCalled producer call active =>
      rw [inactive] at active
      cases active
  | feedStored =>
      refine ⟨⟨by simp only [storeValues_feederActive, inactive], ?_⟩, ?_⟩
      · simpa only [notified] using awake
      · simp [notified, Event.ofRunThread]
  | shutdownNotified =>
      refine ⟨⟨inactive, ?_⟩, ?_⟩
      · simpa only [notified] using awake
      · simp [notified, Event.ofRunThread]
  | shutdownCleared => exact ⟨⟨rfl, awake⟩, by simp [Event.ofRunThread]⟩
  | feedRefused | shutdownTested | subscriberWrote =>
      exact ⟨⟨inactive, awake⟩, by simp [Event.ofRunThread]⟩
  | waitTestConnected here | locked here | spuriousWakeup here =>
      rw [here] at awake
      cases awake
  | waited here | registered here | registerFailed here | registerError here | swapped _ here
  | merged _ _ here | issued _ here | updated _ here | updateFailed _ here | updateError _ here
  | restored _ here | notified here =>
      exact ⟨⟨inactive, rfl⟩, by simp [here, RunPc.toReturn, Event.ofRunThread]⟩
  | loopTest here | registerTestActive here | feedTestActive _ here | waitTestActive here =>
      refine ⟨⟨inactive, ?_⟩, ?_⟩
      · simp only [inactive]
        rfl
      · simp [here, inactive, RunPc.toReturn, Event.ofRunThread]
  | registerTestConnected here | feedTestConnected _ here =>
      refine ⟨⟨inactive, ?_⟩, ?_⟩
      · cases connected : state.connected <;> rfl
      · cases connected : state.connected <;>
          simp [here, RunPc.toReturn, Event.ofRunThread]

/-- A Run thread that has not returned can take a step. -/
theorem ending_enabled (config : DatapointConfiguration V) {state : State V} (ending : Ending state)
    (running : state.run ≠ .returned) :
    ∃ event : Event V, event.ofRunThread = true ∧ (step config state event).isSome = true := by
  have awake := ending.awake
  cases here : state.run with
  | waitForConnected => exact ⟨.waitForConnectedReturned true, rfl, by simp [step, here]⟩
  | registerDatapoints => exact ⟨.registerReturned none, rfl, by simp [step, here]⟩
  | awaitUpdate send => exact ⟨.updateReturned true, rfl, by simp [step, here]⟩
  | asleep =>
      rw [here] at awake
      cases awake
  | returned => exact absurd here running
  | _ => exact ⟨.run, rfl, by simp [step, runStep, here]⟩

/-- The flag is clear from the critical section of `Shutdown` on. -/
structure Halted (state : State V) : Prop where
  settled : Settled state
  cleared : state.shutdown = .notifying ∨ state.shutdown = .returned → state.feederActive = false

theorem halted_step {config : DatapointConfiguration V} {state next : State V} {event : Event V}
    (halted : Halted state) (allowed : notifiesOutsideWindow state event)
    (taken : Step config state event next) : Halted next := by
  refine ⟨settled_step halted.settled allowed taken, ?_⟩
  cases taken with
  | shutdownTested here =>
      have active := halted.settled.active (.inl here)
      intro late
      simp [active] at late
  | shutdownCleared => exact fun _ => rfl
  | shutdownNotified here => exact fun _ => halted.cleared (.inl here)
  | feedStored => simpa using halted.cleared
  | _ => exact halted.cleared

end VehicleEdge.Feeder
