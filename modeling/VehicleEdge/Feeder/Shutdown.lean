import VehicleEdge.Feeder.Run

/-
This file finds the lost wakeup between the Run thread and `Shutdown`.
The Run thread reads `feeder_active_` without the mutex, so the critical section and the
notification of `Shutdown` can both fall between that read and the wait.
-/

namespace VehicleEdge.Feeder

variable {V : Type}

/-- The shutdown is complete when the flag is cleared and its notification is done. -/
def ShutdownComplete (state : State V) : Prop :=
  state.feederActive = false ∧ state.shutdown = .returned

/-- The Run thread sleeps in the wait with no notification pending. -/
def Asleep (state : State V) : Prop := state.run = .asleep

/-- The Run thread has read `feeder_active_` as true at line 98 and is not in the wait yet. -/
def RunPc.beforeWait : RunPc V → Bool
  | .waitTestConnected => true
  | .lockStoredValues => true
  | _ => false

def Event.notifiesShutdown : Event V → Bool
  | .shutdownNotified => true
  | _ => false

/-- The guard keeps the notification of `Shutdown` out of that window. -/
def notifiesOutsideWindow (state : State V) (event : Event V) : Prop :=
  event.notifiesShutdown = true → state.run.beforeWait = false

instance : DecidableRel (@notifiesOutsideWindow V) :=
  fun state event =>
    inferInstanceAs (Decidable (event.notifiesShutdown = true → state.run.beforeWait = false))

/-- A Run thread in the window or in the wait needs one more notification. -/
def RunPc.needsNotification : RunPc V → Bool
  | .asleep => true
  | pc => pc.beforeWait

/-- A completed shutdown leaves no Run thread that needs a notification. -/
structure Settled (state : State V) : Prop where
  active : state.shutdown = .idle ∨ state.shutdown = .clearing → state.feederActive = true
  awake : ShutdownComplete state → state.run.needsNotification = false

theorem needsNotification_notify {pc : RunPc V} (outside : pc.beforeWait = false) :
    pc.notify.needsNotification = false := by
  cases pc <;> first | rfl | cases outside

/-- A notification never puts the Run thread to sleep. -/
theorem needsNotification_of_notify {pc : RunPc V} (settled : pc.needsNotification = false) :
    pc.notify.needsNotification = false := by
  cases pc <;> first | rfl | cases settled

theorem settled_step {config : DatapointConfiguration V} {state next : State V}
    {event : Event V} (settled : Settled state) (allowed : notifiesOutsideWindow state event)
    (taken : Step config state event next) : Settled next := by
  cases taken with
  | waitTestActive here =>
      refine ⟨settled.active, fun complete => ?_⟩
      have inactive : state.feederActive = false := complete.1
      simp only [inactive, Bool.false_eq_true, if_false]
      rfl
  | waitTestConnected here | locked here =>
      -- a completed shutdown is impossible inside the window
      refine ⟨settled.active, fun complete => ?_⟩
      have awake := settled.awake complete
      rw [here] at awake
      cases awake
  | feedStored =>
      refine ⟨fun early => ?_, fun complete => ?_⟩
      · rw [storeValues_feederActive]
        exact settled.active (by simpa using early)
      · exact needsNotification_of_notify (settled.awake (by simpa [ShutdownComplete] using complete))
  | shutdownTested here =>
      have active := settled.active (Or.inl here)
      refine ⟨fun _ => active, fun complete => ?_⟩
      have inactive : state.feederActive = false := complete.1
      rw [active] at inactive
      cases inactive
  | shutdownCleared => exact ⟨fun early => by simp at early, fun complete => by cases complete.2⟩
  | shutdownNotified =>
      exact ⟨fun early => by simp at early, fun _ => needsNotification_notify (allowed rfl)⟩
  | feedCalled | feedRefused | subscriberWrote => exact ⟨settled.active, settled.awake⟩
  | waited | registered | registerFailed | registerError | swapped | merged | issued | updated
  | updateFailed | updateError | restored | spuriousWakeup | notified =>
      exact ⟨settled.active, fun _ => rfl⟩
  | loopTest | registerTestActive | registerTestConnected | feedTestActive | feedTestConnected =>
      refine ⟨settled.active, fun _ => ?_⟩
      dsimp only
      split <;> rfl

/-- When no notification of `Shutdown` falls between the read of `feeder_active_` at line 98 and
the wait, a completed shutdown never leaves the Run thread asleep. -/
theorem shutdown_wakes_run (config : DatapointConfiguration V) {state : State V}
    (reached : (machine config).Reached notifiesOutsideWindow state) :
    ¬ (ShutdownComplete state ∧ Asleep state) := by
  have settled : Settled state := by
    refine reached.invariant ⟨fun _ => rfl, fun complete => by cases complete.1⟩ ?_
    intro state event next settled allowed taken
    exact settled_step settled allowed (step_cases taken)
  rintro ⟨complete, asleep⟩
  have awake := settled.awake complete
  rw [asleep] at awake
  cases awake

/-- The feeder delivers one batch and returns to its read of `feeder_active_`. -/
def deliverHazard : List (Event Sdv.Datapoint) :=
  let delivering : List (Event Sdv.Datapoint) := [.run, .run, .run, .run, .run, .updateReturned true]
  connectHazard ++ delivering

/-- The whole of `Shutdown` runs before the Run thread reads the flag. -/
def orderlyEvents : List (Event Sdv.Datapoint) :=
  let early : List (Event Sdv.Datapoint) := [.shutdownTested, .shutdownCleared, .shutdownNotified, .run]
  deliverHazard ++ early

theorem orderly_executes : ((machine hazardConfig).execute notifiesOutsideWindow
    (initialState _) orderlyEvents).isSome = true := by decide

def orderlyState : State Sdv.Datapoint :=
  ((machine hazardConfig).execute notifiesOutsideWindow (initialState _) orderlyEvents).get
    orderly_executes

/-- The orderly shutdown completes and leaves the Run thread awake. -/
theorem shutdown_wakes_run_orderly : ShutdownComplete orderlyState ∧ ¬ Asleep orderlyState := by
  have complete : ShutdownComplete orderlyState := ⟨by decide, by decide⟩
  have reached : (machine hazardConfig).Reached notifiesOutsideWindow orderlyState :=
    Machine.reached_get orderly_executes
  exact ⟨complete, fun asleep => shutdown_wakes_run hazardConfig reached ⟨complete, asleep⟩⟩

/-- The whole of `Shutdown` runs after the Run thread read the flag and before it waits. -/
def lostWakeupEvents : List (Event Sdv.Datapoint) :=
  let late : List (Event Sdv.Datapoint) :=
    [.run, .run, .shutdownTested, .shutdownCleared, .shutdownNotified, .run]
  deliverHazard ++ late

theorem lostWakeup_executes : ((machine hazardConfig).execute Machine.anyStep
    (initialState _) lostWakeupEvents).isSome = true := by decide

def lostWakeupState : State Sdv.Datapoint :=
  ((machine hazardConfig).execute Machine.anyStep (initialState _) lostWakeupEvents).get
    lostWakeup_executes

/-- A completed shutdown can leave the Run thread asleep for good. -/
theorem shutdown_loses_wakeup :
    ¬ ∀ state, (machine hazardConfig).Reached Machine.anyStep state →
      ¬ (ShutdownComplete state ∧ Asleep state) := by
  intro safe
  have reached : (machine hazardConfig).Reached Machine.anyStep lostWakeupState :=
    Machine.reached_get lostWakeup_executes
  exact safe lostWakeupState reached ⟨⟨by decide, by decide⟩, rfl⟩

end VehicleEdge.Feeder
