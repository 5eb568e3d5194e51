import VehicleEdge.Adapter.Registration
import VehicleEdge.Feeder.Termination
import VehicleEdge.Subscriber.Termination

/-
This file models `Shutdown` of the adapter, which stops the subscriber, the feeder, and the SOME/IP client,
and joins their threads in the order SOME/IP, feeder, subscriber.
Once both threads are stopped, every further step brings all of them nearer to their end, unless the client is
stopped before its application has started.
-/

namespace VehicleEdge.Adapter.Lifecycle

open Feeder (DatapointConfiguration)

variable {V U : Type}

/-- The caller of `Shutdown` is before one of these statements. -/
inductive CallerPc where
  | idle
  | subscriberShutdown
  | feederShutdown
  | clientShutdown
  | appStop
  | joinSomeip
  | joinFeeder
  | joinSubscriber
  | returned
  deriving DecidableEq

/-- The main thread of SOME/IP initializes its application and is inside of `app_->start()` until the
application is stopped. -/
inductive SomeipPc where
  | initializing
  | registering (stopCalled : Bool)
  | running
  | stopping
  | returned
  deriving DecidableEq

structure State (V U : Type) where
  threads : Adapter.State V U
  caller : CallerPc
  someip : SomeipPc
  initialized : Bool

/-- The application may refuse to start after a stop, and it returns from its start after a stop only. -/
inductive SomeipEvent where
  | initReturned (success : Bool)
  | startCalled (refused : Bool)
  | startReturned

inductive Event (V U : Type) where
  | threads (event : Adapter.Event V U)
  | caller
  | someip (event : SomeipEvent)

/-- A stop reaches an application that has started, and what one before the start does is left to the library. -/
def SomeipPc.stop : SomeipPc → SomeipPc
  | .registering _ => .registering true
  | .running => .stopping
  | phase => phase

/-- Only the caller takes the steps inside of the two `Shutdown` functions. -/
def ofShutdown : Adapter.Event V U → Bool
  | .feeder .shutdownTested | .feeder .shutdownCleared | .feeder .shutdownNotified => true
  | .subscriber .shutdownTested | .subscriber .shutdownDeactivated | .subscriber .shutdownCancelled => true
  | _ => false

/-- This is the next step inside of `Shutdown` of the subscriber. -/
def subscriberEvent : Subscriber.ShutdownPc → Option (Adapter.Event V U)
  | .idle => some (.subscriber .shutdownTested)
  | .deactivating => some (.subscriber .shutdownDeactivated)
  | .cancelling => some (.subscriber .shutdownCancelled)
  | .returned => none

/-- This is the next step inside of `Shutdown` of the feeder. -/
def feederEvent : Feeder.ShutdownPc → Option (Adapter.Event V U)
  | .idle => some (.feeder .shutdownTested)
  | .clearing => some (.feeder .shutdownCleared)
  | .notifying => some (.feeder .shutdownNotified)
  | .returned => none

section Step

variable (config : DatapointConfiguration V) (actuators : List String)

/-- The caller takes the next step of the function it is in, or goes on when the function has returned. -/
def inside (state : State V U) (event : Option (Adapter.Event V U)) (after : CallerPc) :
    Option (State V U) :=
  match event with
  | some event => (Adapter.step config actuators state.threads event).map fun threads =>
      { state with threads := threads }
  | none => some { state with caller := after }

/-- A join waits until the thread has returned. -/
def callerStep (state : State V U) : Option (State V U) :=
  match state.caller with
  | .idle => some { state with caller := .subscriberShutdown }
  | .subscriberShutdown =>
      inside config actuators state (subscriberEvent state.threads.subscriber.shutdown) .feederShutdown
  | .feederShutdown =>
      inside config actuators state (feederEvent state.threads.feeder.shutdown) .clientShutdown
  -- the stop is left out for an application that is not initialized
  | .clientShutdown => some { state with caller := if state.initialized then .appStop else .joinSomeip }
  | .appStop => some { state with someip := state.someip.stop, caller := .joinSomeip }
  | .joinSomeip =>
      match state.someip with
      | .returned => some { state with caller := .joinFeeder }
      | _ => none
  | .joinFeeder =>
      match state.threads.feeder.run with
      | .returned => some { state with caller := .joinSubscriber }
      | _ => none
  | .joinSubscriber =>
      match state.threads.subscriber.run with
      | .returned => some { state with caller := .returned }
      | _ => none
  | .returned => none

/-- `Run` of the client returns at once when the application cannot be initialized. -/
def someipStep (state : State V U) (event : SomeipEvent) : Option (State V U) :=
  match event, state.someip with
  | .initReturned true, .initializing => some { state with someip := .registering false, initialized := true }
  | .initReturned false, .initializing => some { state with someip := .returned }
  | .startCalled refused, .registering stopCalled =>
      some { state with someip := if stopCalled && refused then .returned else .running }
  | .startReturned, .stopping => some { state with someip := .returned }
  | _, _ => none

def step (state : State V U) : Event V U → Option (State V U)
  | .threads event =>
      if ofShutdown event then none
      else (Adapter.step config actuators state.threads event).map fun threads =>
        { state with threads := threads }
  | .caller => callerStep config actuators state
  | .someip event => someipStep state event

/-- The adapter starts its threads before anyone shuts it down. -/
def machine (U : Type) : Machine (State V U) (Event V U) where
  initial := ⟨(Adapter.machine U config actuators).initial, .idle, .initializing, false⟩
  step := step config actuators

end Step

/-- The thread has come to `app_->start()`, or it has returned. -/
def SomeipPc.started : SomeipPc → Bool
  | .initializing | .registering _ => false
  | _ => true

/-- The client is shut down only after its thread has come to `app_->start()`. -/
def stopsStarted (state : State V U) : Event V U → Prop
  | .caller => state.caller = .clientShutdown → state.someip.started = true
  | _ => True

instance : DecidableRel (@stopsStarted V U)
  | _, .caller => inferInstanceAs (Decidable (_ = _ → _ = _))
  | _, .threads _ | _, .someip _ => inferInstanceAs (Decidable True)

/-- The notification of the feeder does not fall into the window before its wait, the subscriber is neither
activated nor subscribed behind the back of its `Shutdown`, and the client is not shut down too early. -/
def orderly (state : State V U) : Event V U → Prop
  | .caller => (state.caller = .feederShutdown → state.threads.feeder.shutdown = .notifying →
      state.threads.feeder.run.beforeWait = false) ∧ stopsStarted state .caller
  | .threads (.subscriber event) => Subscriber.noLateStep state.threads.subscriber event
  | _ => True

instance : DecidableRel (@orderly V U)
  | _, .caller => inferInstanceAs (Decidable ((_ = _ → _ = _ → _ = _) ∧ (_ = _ → _ = _)))
  | _, .threads (.subscriber _) => inferInstanceAs (Decidable (Subscriber.noLateStep _ _))
  | _, .threads (.feeder _) => inferInstanceAs (Decidable True)
  | _, .someip _ => inferInstanceAs (Decidable True)

theorem stopsStarted_of_orderly {state : State V U} {event : Event V U} (allowed : orderly state event) :
    stopsStarted state event := by
  cases event with
  | caller => exact allowed.2
  | threads => trivial
  | someip => trivial

/-- The caller has left `Shutdown` of the subscriber. -/
def CallerPc.pastSubscriber : CallerPc → Bool
  | .idle | .subscriberShutdown => false
  | _ => true

/-- The caller has left `Shutdown` of the feeder. -/
def CallerPc.pastFeeder : CallerPc → Bool
  | .idle | .subscriberShutdown | .feederShutdown => false
  | _ => true

/-- The caller has left `Shutdown` of the client. -/
def CallerPc.pastClient : CallerPc → Bool
  | .joinSomeip | .joinFeeder | .joinSubscriber | .returned => true
  | _ => false

/-- A thread inside of `app_->start()` has initialized its application, and a caller past the client has
stopped it. -/
structure Stoppable (state : State V U) : Prop where
  initialized : state.someip ≠ .initializing → state.someip ≠ .returned → state.initialized = true
  testing : state.caller = .appStop → state.someip.started = true
  joining : state.caller.pastClient = true → state.someip = .stopping ∨ state.someip = .returned

/-- The invariants of the two threads hold together with the progress of the caller. -/
structure Stopped (state : State V U) : Prop where
  feeder : Feeder.Halted state.threads.feeder
  subscriber : Subscriber.Stopping state.threads.subscriber
  pastSubscriber : state.caller.pastSubscriber = true → state.threads.subscriber.shutdown = .returned
  pastFeeder : state.caller.pastFeeder = true → state.threads.feeder.shutdown = .returned

section Invariant

variable {config : DatapointConfiguration V} {actuators : List String}

/-- A function that has returned stays returned. -/
theorem feeder_returned {feeder next : Feeder.State V} {event : Feeder.Event V}
    (returned : feeder.shutdown = .returned) (taken : Feeder.Step config feeder event next) :
    next.shutdown = .returned := by
  cases taken with
  | shutdownTested here | shutdownCleared here | shutdownNotified here =>
      cases returned.symm.trans here
  | feedStored => simpa using returned
  | _ => exact returned

theorem subscriber_returned {subscriber next : Subscriber.State U} {event : Subscriber.Event U}
    (returned : subscriber.shutdown = .returned) (taken : Subscriber.Step subscriber event next) :
    next.shutdown = .returned := by
  cases taken with
  | shutdownTested here | shutdownDeactivated here | shutdownCancelled here =>
      cases returned.symm.trans here
  | _ => exact returned

/-- A step of the threads keeps both invariants and leaves a returned function returned. -/
theorem threads_step {threads next : Adapter.State V U} {event : Adapter.Event V U}
    (halted : Feeder.Halted threads.feeder) (stopping : Subscriber.Stopping threads.subscriber)
    (window : ∀ own, event = .feeder own → Feeder.notifiesOutsideWindow threads.feeder own)
    (early : ∀ own, event = .subscriber own → Subscriber.noLateStep threads.subscriber own)
    (taken : Adapter.step config actuators threads event = some next) :
    Feeder.Halted next.feeder ∧ Subscriber.Stopping next.subscriber ∧
      (threads.feeder.shutdown = .returned → next.feeder.shutdown = .returned) ∧
      (threads.subscriber.shutdown = .returned → next.subscriber.shutdown = .returned) := by
  rcases Adapter.step_cases taken with ⟨own, feeder, rfl, -, moved, rfl⟩ |
    ⟨own, subscriber, rfl, -, moved, rfl⟩
  · have listed := Feeder.step_cases moved
    exact ⟨Feeder.halted_step halted (window own rfl) listed,
      ⟨stopping.inactive, stopping.cancelled, stopping.outside, stopping.closed⟩,
      fun returned => feeder_returned returned listed, fun returned => returned⟩
  · exact ⟨⟨⟨halted.settled.active, halted.settled.awake⟩, halted.cleared⟩,
      Subscriber.stopping_step stopping (early own rfl) moved, fun returned => returned,
      fun returned => subscriber_returned returned moved⟩

/-- The caller steps inside of a function, or it leaves a function that has returned. -/
theorem inside_cases {state next : State V U} {event : Option (Adapter.Event V U)} {after : CallerPc}
    (taken : inside config actuators state event after = some next) :
    (∃ own threads, event = some own ∧ Adapter.step config actuators state.threads own = some threads ∧
      next = { state with threads := threads }) ∨
    (event = none ∧ next = { state with caller := after }) := by
  unfold inside at taken
  split at taken
  case h_1 own =>
    obtain ⟨threads, moved, rfl⟩ := Option.map_eq_some_iff.mp taken
    exact .inl ⟨own, threads, rfl, moved, rfl⟩
  case h_2 =>
    cases taken
    exact .inr ⟨rfl, rfl⟩

theorem Stopped.threads {state : State V U} (stopped : Stopped state) {event : Adapter.Event V U}
    {threads : Adapter.State V U}
    (window : ∀ own, event = .feeder own → Feeder.notifiesOutsideWindow state.threads.feeder own)
    (early : ∀ own, event = .subscriber own → Subscriber.noLateStep state.threads.subscriber own)
    (taken : Adapter.step config actuators state.threads event = some threads) :
    Stopped { state with threads := threads } := by
  obtain ⟨halted, stopping, feeder, subscriber⟩ :=
    threads_step stopped.feeder stopped.subscriber window early taken
  exact ⟨halted, stopping, fun past => subscriber (stopped.pastSubscriber past),
    fun past => feeder (stopped.pastFeeder past)⟩

theorem stopped_caller {state next : State V U} (stopped : Stopped state)
    (allowed : orderly state .caller) (taken : callerStep config actuators state = some next) :
    Stopped next := by
  have onward (after : CallerPc)
      (subscriber : after.pastSubscriber = true → state.threads.subscriber.shutdown = .returned)
      (feeder : after.pastFeeder = true → state.threads.feeder.shutdown = .returned) :
      Stopped { state with caller := after } :=
    ⟨stopped.feeder, stopped.subscriber, subscriber, feeder⟩
  cases here : state.caller with
  | idle =>
      simp only [callerStep, here, Option.some.injEq] at taken
      subst taken
      exact onward .subscriberShutdown (fun past => by cases past) (fun past => by cases past)
  | subscriberShutdown =>
      simp only [callerStep, here] at taken
      rcases inside_cases taken with ⟨own, threads, named, moved, rfl⟩ | ⟨none, rfl⟩
      · cases phase : state.threads.subscriber.shutdown <;> rw [phase] at named <;> cases named <;>
          exact stopped.threads (fun _ same => by cases same)
            (fun _ same => by cases same; exact fun run => by cases run) moved
      · refine onward .feederShutdown (fun _ => ?_) (fun past => by cases past)
        cases phase : state.threads.subscriber.shutdown <;> rw [phase] at none <;> first | rfl | cases none
  | feederShutdown =>
      simp only [callerStep, here] at taken
      have subscriber := stopped.pastSubscriber (by rw [here]; rfl)
      rcases inside_cases taken with ⟨own, threads, named, moved, rfl⟩ | ⟨none, rfl⟩
      · refine stopped.threads (fun event same notifies => ?_) (fun _ same => ?_) moved
        · subst same
          cases phase : state.threads.feeder.shutdown with
          | notifying => exact allowed.1 here phase
          | idle | clearing | returned =>
              rw [phase] at named
              cases named <;> cases notifies
        · subst same
          cases phase : state.threads.feeder.shutdown <;> rw [phase] at named <;> cases named
      · refine onward .clientShutdown (fun _ => subscriber) (fun _ => ?_)
        cases phase : state.threads.feeder.shutdown <;> rw [phase] at none <;> first | rfl | cases none
  | clientShutdown | appStop =>
      simp only [callerStep, here, Option.some.injEq] at taken
      subst taken
      exact ⟨stopped.feeder, stopped.subscriber, fun _ => stopped.pastSubscriber (by rw [here]; rfl),
        fun _ => stopped.pastFeeder (by rw [here]; rfl)⟩
  | joinSomeip | joinFeeder | joinSubscriber =>
      simp only [callerStep, here] at taken
      split at taken <;> cases taken
      exact onward _ (fun _ => stopped.pastSubscriber (by rw [here]; rfl))
        (fun _ => stopped.pastFeeder (by rw [here]; rfl))
  | returned =>
      simp only [callerStep, here] at taken
      cases taken

/-- The thread of the client moves alone. -/
theorem someipStep_cases {state next : State V U} {event : SomeipEvent}
    (taken : someipStep state event = some next) :
    (state.someip = .initializing ∧
      (next = { state with someip := .registering false, initialized := true } ∨
        next = { state with someip := .returned })) ∨
    (∃ stopCalled, state.someip = .registering stopCalled ∧
      (next = { state with someip := .running } ∨ next = { state with someip := .returned })) ∨
    (state.someip = .stopping ∧ next = { state with someip := .returned }) := by
  unfold someipStep at taken
  split at taken <;> cases taken
  case h_1 here => exact .inl ⟨here, .inl rfl⟩
  case h_2 here => exact .inl ⟨here, .inr rfl⟩
  case h_3 refused stopCalled here =>
    refine .inr (.inl ⟨stopCalled, here, ?_⟩)
    split
    · exact .inr rfl
    · exact .inl rfl
  case h_4 here => exact .inr (.inr ⟨here, rfl⟩)

theorem stopped_step {state next : State V U} {event : Event V U} (stopped : Stopped state)
    (allowed : orderly state event) (taken : step config actuators state event = some next) :
    Stopped next := by
  cases event with
  | caller => exact stopped_caller stopped allowed taken
  | someip event =>
      rcases someipStep_cases taken with ⟨-, rfl | rfl⟩ | ⟨_, -, rfl | rfl⟩ | ⟨-, rfl⟩ <;>
        exact ⟨stopped.feeder, stopped.subscriber, stopped.pastSubscriber, stopped.pastFeeder⟩
  | threads event =>
      simp only [step] at taken
      split at taken
      case isTrue => cases taken
      case isFalse quiet =>
        obtain ⟨threads, moved, rfl⟩ := Option.map_eq_some_iff.mp taken
        refine stopped.threads (fun own same notifies => ?_) (fun own same => ?_) moved
        · subst same
          cases own with
          | shutdownNotified => exact absurd rfl quiet
          | _ => cases notifies
        · subst same
          exact allowed

/-- The stop of a thread that has come to its start is on its way, or the thread has returned. -/
theorem SomeipPc.stop_of_started {phase : SomeipPc} (started : phase.started = true) :
    phase.stop = .returned ∨ (phase.stop = .stopping ∧ phase ≠ .initializing ∧ phase ≠ .returned) := by
  cases phase with
  | initializing | registering => cases started
  | running | stopping => exact .inr ⟨rfl, by decide, by decide⟩
  | returned => exact .inl rfl

/-- The caller goes on with the same client. -/
theorem Stoppable.onward {state : State V U} (stoppable : Stoppable state) {threads : Adapter.State V U}
    {after : CallerPc} (early : after ≠ .appStop)
    (before : after.pastClient = true → state.caller.pastClient = true) :
    Stoppable { state with threads := threads, caller := after } :=
  ⟨stoppable.initialized, fun here => absurd here early, fun past => stoppable.joining (before past)⟩

theorem stoppable_caller {state next : State V U} (stoppable : Stoppable state)
    (allowed : stopsStarted state .caller) (taken : callerStep config actuators state = some next) :
    Stoppable next := by
  cases here : state.caller with
  | idle =>
      simp only [callerStep, here, Option.some.injEq] at taken
      subst taken
      exact stoppable.onward (by decide) (fun past => by cases past)
  | subscriberShutdown | feederShutdown =>
      simp only [callerStep, here] at taken
      rcases inside_cases taken with ⟨own, threads, -, -, rfl⟩ | ⟨-, rfl⟩
      · exact stoppable.onward (by rw [here]; decide) id
      · exact stoppable.onward (by decide) (fun past => by cases past)
  | clientShutdown =>
      simp only [callerStep, here, Option.some.injEq] at taken
      subst taken
      have started := allowed here
      by_cases initialized : state.initialized = true
      · rw [if_pos initialized]
        exact ⟨stoppable.initialized, fun _ => started, fun past => by cases past⟩
      · -- only a thread that failed to initialize has come so far
        have failed : state.someip = .returned := by
          by_contra alive
          refine initialized (stoppable.initialized (fun initializing => ?_) alive)
          rw [initializing] at started
          cases started
        rw [if_neg initialized]
        exact ⟨stoppable.initialized, fun past => (by cases past), fun _ => .inr failed⟩
  | appStop =>
      simp only [callerStep, here, Option.some.injEq] at taken
      subst taken
      rcases SomeipPc.stop_of_started (stoppable.testing here) with ended | ⟨stopping, begun, alive⟩
      · exact ⟨fun _ open_ => absurd ended open_, fun past => (by cases past), fun _ => .inr ended⟩
      · exact ⟨fun _ _ => stoppable.initialized begun alive, fun past => (by cases past), fun _ => .inl stopping⟩
  | joinSomeip | joinFeeder | joinSubscriber =>
      simp only [callerStep, here] at taken
      split at taken <;> cases taken
      exact stoppable.onward (by decide) (fun _ => by rw [here]; rfl)
  | returned =>
      simp only [callerStep, here] at taken
      cases taken

theorem Stoppable.early {state : State V U} (stoppable : Stoppable state)
    (unstarted : state.someip.started = false) :
    state.caller ≠ .appStop ∧ state.caller.pastClient ≠ true := by
  refine ⟨fun late => ?_, fun past => ?_⟩
  · rw [stoppable.testing late] at unstarted
    cases unstarted
  · rcases stoppable.joining past with phase | phase <;> (rw [phase] at unstarted; cases unstarted)

theorem stoppable_someip {state next : State V U} {event : SomeipEvent} (stoppable : Stoppable state)
    (taken : someipStep state event = some next) : Stoppable next := by
  rcases someipStep_cases taken with ⟨here, moved⟩ | ⟨stopCalled, here, moved⟩ | ⟨here, rfl⟩
  · obtain ⟨testing, joining⟩ := stoppable.early (by rw [here]; rfl)
    rcases moved with rfl | rfl
    · exact ⟨fun _ _ => rfl, fun late => absurd late testing, fun past => absurd past joining⟩
    · exact ⟨fun _ alive => absurd rfl alive, fun late => absurd late testing, fun past => absurd past joining⟩
  · obtain ⟨testing, joining⟩ := stoppable.early (by rw [here]; rfl)
    have begun := stoppable.initialized (by simp [here]) (by simp [here])
    rcases moved with rfl | rfl
    · exact ⟨fun _ _ => begun, fun late => absurd late testing, fun past => absurd past joining⟩
    · exact ⟨fun _ alive => absurd rfl alive, fun late => absurd late testing, fun past => absurd past joining⟩
  · exact ⟨fun _ alive => absurd rfl alive, fun _ => rfl, fun _ => .inr rfl⟩

theorem stoppable_step {state next : State V U} {event : Event V U} (stoppable : Stoppable state)
    (allowed : stopsStarted state event) (taken : step config actuators state event = some next) :
    Stoppable next := by
  cases event with
  | caller => exact stoppable_caller stoppable allowed taken
  | someip event => exact stoppable_someip stoppable taken
  | threads event =>
      simp only [step] at taken
      split at taken
      case isTrue => cases taken
      case isFalse =>
        obtain ⟨threads, -, rfl⟩ := Option.map_eq_some_iff.mp taken
        exact ⟨stoppable.initialized, stoppable.testing, stoppable.joining⟩

theorem stoppable_reached {state : State V U}
    (reached : (machine config actuators U).Reached orderly state) : Stoppable state := by
  have initially : Stoppable (machine config actuators U).initial :=
    ⟨fun begun => absurd rfl begun, fun late => (by cases late), fun past => by cases past⟩
  refine reached.invariant initially ?_
  intro state event next stoppable allowed taken
  exact stoppable_step stoppable (stopsStarted_of_orderly allowed) taken

theorem stopped_reached {state : State V U} (reached : (machine config actuators U).Reached orderly state) :
    Stopped state := by
  have feeder : Feeder.Halted (Feeder.initialState V) :=
    ⟨⟨fun _ => rfl, fun complete => by cases complete.1⟩, fun late => by simp [Feeder.initialState] at late⟩
  have subscriber : Subscriber.Stopping (Subscriber.initialState U) :=
    ⟨fun _ => rfl, fun returned => (by cases returned), fun _ _ => rfl, fun _ => rfl⟩
  refine reached.invariant ⟨feeder, subscriber, ?_, ?_⟩ ?_
  · intro past
    cases past
  · intro past
    cases past
  · intro state event next stopped allowed taken
    exact stopped_step stopped allowed taken

end Invariant

/-- These steps bring the end of the adapter nearer. -/
def counted : Event V U → Bool
  | .threads (.feeder event) => event.ofRunThread
  | .threads (.subscriber event) => event.ofRunThread
  | .caller | .someip _ => true

/-- The caller needs at most this number of its steps to return. -/
def CallerPc.toReturn : CallerPc → Nat
  | .clientShutdown => 5
  | .appStop => 4
  | .joinSomeip => 3
  | .joinFeeder => 2
  | .joinSubscriber => 1
  | _ => 0

/-- The thread of the client needs at most this number of its steps to return. -/
def SomeipPc.toReturn : SomeipPc → Nat
  | .initializing => 3
  | .registering _ => 2
  | .running | .stopping => 1
  | .returned => 0

def State.toReturn (state : State V U) : Nat :=
  state.caller.toReturn + state.someip.toReturn +
    (state.threads.feeder.run.toReturn + state.threads.subscriber.run.toReturn)

/-- Both threads are stopped, the remaining steps are bounded, and no callback was called since. -/
structure Closing (callbacks : List (KeyedMap String U)) (bound : Nat) (state : State V U) : Prop where
  past : state.caller.pastFeeder = true
  feeder : Feeder.Ending state.threads.feeder
  subscriber : Subscriber.Ending state.threads.subscriber
  client : Stoppable state
  near : state.toReturn ≤ bound
  silent : state.threads.subscriber.callbacks = callbacks

section Closing

variable {config : DatapointConfiguration V} {actuators : List String}
  {callbacks : List (KeyedMap String U)} {bound : Nat} {state next : State V U}

theorem closing_caller (closing : Closing callbacks bound state) (allowed : stopsStarted state .caller)
    (taken : callerStep config actuators state = some next) : Closing callbacks (bound - 1) next := by
  have client := stoppable_caller closing.client allowed taken
  obtain ⟨past, feeder, subscriber, -, near, silent⟩ := closing
  unfold State.toReturn at near
  cases here : state.caller with
  | idle | subscriberShutdown | feederShutdown =>
      rw [here] at past
      cases past
  | clientShutdown =>
      simp only [callerStep, here, Option.some.injEq] at taken
      subst taken
      refine ⟨?_, feeder, subscriber, client, ?_, silent⟩
      · dsimp only
        split <;> rfl
      · rw [here] at near
        unfold State.toReturn
        dsimp only
        split <;> simp only [CallerPc.toReturn] at near ⊢ <;> omega
  | appStop =>
      simp only [callerStep, here, Option.some.injEq] at taken
      subst taken
      have same : state.someip.stop.toReturn = state.someip.toReturn := by cases state.someip <;> rfl
      refine ⟨rfl, feeder, subscriber, client, ?_, silent⟩
      rw [here] at near
      simp only [State.toReturn, same, CallerPc.toReturn] at near ⊢
      omega
  | joinSomeip | joinFeeder | joinSubscriber =>
      simp only [callerStep, here] at taken
      split at taken <;> cases taken
      refine ⟨rfl, feeder, subscriber, client, ?_, silent⟩
      rw [here] at near
      simp only [State.toReturn, CallerPc.toReturn] at near ⊢
      omega
  | returned =>
      simp only [callerStep, here] at taken
      cases taken

theorem closing_someip {event : SomeipEvent} (closing : Closing callbacks bound state)
    (taken : someipStep state event = some next) : Closing callbacks (bound - 1) next := by
  have client := stoppable_someip closing.client taken
  obtain ⟨past, feeder, subscriber, -, near, silent⟩ := closing
  unfold State.toReturn at near
  rcases someipStep_cases taken with ⟨here, rfl | rfl⟩ | ⟨_, here, rfl | rfl⟩ | ⟨here, rfl⟩ <;>
  · refine ⟨past, feeder, subscriber, client, ?_, silent⟩
    rw [here] at near
    simp only [State.toReturn, SomeipPc.toReturn] at near ⊢
    omega

theorem closing_step (event : Event V U) (closing : Closing callbacks bound state)
    (allowed : stopsStarted state event) (taken : step config actuators state event = some next) :
    Closing callbacks (bound - (counted event).toNat) next := by
  have client := stoppable_step closing.client allowed taken
  cases event with
  | caller => exact closing_caller closing allowed taken
  | someip event => exact closing_someip closing taken
  | threads event =>
      simp only [step] at taken
      split at taken
      case isTrue => cases taken
      case isFalse quiet =>
        obtain ⟨threads, moved, rfl⟩ := Option.map_eq_some_iff.mp taken
        have near := closing.near
        unfold State.toReturn at near
        rcases Adapter.step_cases moved with ⟨own, feeder, rfl, -, stepped, rfl⟩ |
          ⟨own, subscriber, rfl, -, stepped, rfl⟩
        · obtain ⟨ending, lower⟩ := Feeder.ending_step closing.feeder (Feeder.step_cases stepped)
          refine ⟨closing.past, ending, ⟨closing.subscriber.inactive, closing.subscriber.started⟩, client, ?_,
            closing.silent⟩
          simp only [State.toReturn, counted]
          omega
        · obtain ⟨ending, lower, silent⟩ := Subscriber.ending_step closing.subscriber stepped
          refine ⟨closing.past, ⟨closing.feeder.inactive, closing.feeder.awake⟩, ending, client, ?_,
            silent.trans closing.silent⟩
          simp only [State.toReturn, counted]
          omega

theorem Closing.returned (closing : Closing callbacks 0 state) :
    state.caller = .returned ∧ state.someip = .returned ∧ state.threads.feeder.run = .returned ∧
      state.threads.subscriber.run = .returned := by
  obtain ⟨past, ⟨-, awake⟩, ⟨-, started⟩, -, near, -⟩ := closing
  unfold State.toReturn at near
  have caller : state.caller.toReturn = 0 := by omega
  have someip : state.someip.toReturn = 0 := by omega
  have feeder : state.threads.feeder.run.toReturn = 0 := by omega
  have subscriber : state.threads.subscriber.run.toReturn = 0 := by omega
  refine ⟨?_, ?_, ?_, ?_⟩
  · cases here : state.caller <;> simp_all [CallerPc.toReturn, CallerPc.pastFeeder]
  · cases here : state.someip <;> simp_all [SomeipPc.toReturn]
  · cases here : state.threads.feeder.run <;>
      simp_all [Feeder.RunPc.toReturn, Feeder.RunPc.needsNotification, Feeder.RunPc.beforeWait]
  · cases here : state.threads.subscriber.run <;>
      simp_all [Subscriber.RunPc.toReturn, Subscriber.RunPc.started]

/-- While the caller has not returned, it can go on or the thread it waits for can. -/
theorem Closing.enabled (closing : Closing callbacks bound state) (waits : state.caller ≠ .returned) :
    ∃ event : Event V U, counted event = true ∧ stopsStarted state event ∧
      (step config actuators state event).isSome = true := by
  have free (here : state.caller ≠ .clientShutdown) : stopsStarted state (.caller : Event V U) :=
    fun there => absurd there here
  cases here : state.caller with
  | idle | subscriberShutdown | feederShutdown =>
      have past := closing.past
      rw [here] at past
      cases past
  | clientShutdown =>
      -- a thread before its start can go on, and later the caller can
      cases phase : state.someip with
      | initializing =>
          exact ⟨.someip (.initReturned true), rfl, trivial, by simp [step, someipStep, phase]⟩
      | registering stopCalled =>
          exact ⟨.someip (.startCalled false), rfl, trivial, by simp [step, someipStep, phase]⟩
      | running | stopping | returned =>
          exact ⟨.caller, rfl, fun _ => by rw [phase]; rfl, by simp [step, callerStep, here]⟩
  | appStop => exact ⟨.caller, rfl, free (by simp [here]), by simp [step, callerStep, here]⟩
  | joinSomeip =>
      rcases closing.client.joining (by rw [here]; rfl) with phase | phase
      · exact ⟨.someip .startReturned, rfl, trivial, by simp [step, someipStep, phase]⟩
      · exact ⟨.caller, rfl, free (by simp [here]), by simp [step, callerStep, here, phase]⟩
  | joinFeeder =>
      by_cases ended : state.threads.feeder.run = .returned
      · exact ⟨.caller, rfl, free (by simp [here]), by simp [step, callerStep, here, ended]⟩
      · obtain ⟨event, counts, enabled⟩ := Feeder.ending_enabled config closing.feeder ended
        refine ⟨.threads (.feeder event), counts, trivial, ?_⟩
        cases event <;> first | simp [step, ofShutdown, Adapter.step, enabled]; done | cases counts
  | joinSubscriber =>
      by_cases ended : state.threads.subscriber.run = .returned
      · exact ⟨.caller, rfl, free (by simp [here]), by simp [step, callerStep, here, ended]⟩
      · obtain ⟨event, counts, enabled⟩ := Subscriber.ending_enabled actuators closing.subscriber ended
        refine ⟨.threads (.subscriber event), counts, trivial, ?_⟩
        cases event <;> first | simp [step, ofShutdown, Adapter.step, enabled]; done | cases counts
  | returned => exact absurd here waits

end Closing

/-- A client that was shut down too early leaves its application running, and the join waits for it forever. -/
theorem early_stop_blocks (config : DatapointConfiguration V) (actuators : List String)
    {start final : State V U} {events : List (Event V U)}
    (joining : start.caller = .joinSomeip) (running : start.someip = .running)
    (executed : (machine config actuators U).execute Machine.anyStep start events = some final) :
    final.caller = .joinSomeip ∧ final.someip = .running := by
  let Blocked (state : State V U) : Prop := state.caller = .joinSomeip ∧ state.someip = .running
  have initially : Blocked start := ⟨joining, running⟩
  suffices blocked : Blocked final from blocked
  refine Machine.execute_invariant (fun state event next blocked _ taken => ?_) initially executed
  obtain ⟨joining, running⟩ := blocked
  cases event with
  | caller => simp [machine, step, callerStep, joining, running] at taken
  | someip event =>
      rcases someipStep_cases taken with ⟨here, -⟩ | ⟨_, here, -⟩ | ⟨here, -⟩ <;>
        cases running.symm.trans here
  | threads event =>
      simp only [machine, step] at taken
      split at taken
      case isTrue => cases taken
      case isFalse =>
        obtain ⟨threads, -, rfl⟩ := Option.map_eq_some_iff.mp taken
        exact ⟨joining, running⟩

abbrev HazardEvent := Event Sdv.Datapoint Kuksa.Datapoint

def hazardLifecycle : Machine (State Sdv.Datapoint Kuksa.Datapoint) HazardEvent :=
  machine Feeder.hazardConfig ["Vehicle.Body.Lights.ExteriorLightControl"] Kuksa.Datapoint

/-- The adapter is shut down while `app_->init()` is running, and the application is started afterwards. -/
def earlyEvents : List HazardEvent :=
  List.flatten [List.replicate 8 .caller, [.someip (.initReturned true), .someip (.startCalled false)]]

example : ((hazardLifecycle.execute Machine.anyStep hazardLifecycle.initial earlyEvents).map fun state =>
    (state.caller, state.someip)) = some (.joinSomeip, .running) := by
  decide

def feederRun : HazardEvent := .threads (.feeder .run)

def subscriberRun : HazardEvent := .threads (.subscriber .run)

/-- The shutdown finds the feeder before its next batch, the subscriber inside of `Read`, and the application
before its start. -/
def stoppingEvents : List HazardEvent :=
  Feeder.connectHazard.map (fun event => .threads (.feeder event)) ++ [feederRun] ++
    connectSubscriber.map .threads ++ [subscriberRun, subscriberRun, subscriberRun] ++
    List.replicate 9 .caller

theorem stopping_executes :
    (hazardLifecycle.execute orderly hazardLifecycle.initial stoppingEvents).isSome = true := by decide

def stoppingState : State Sdv.Datapoint Kuksa.Datapoint :=
  (hazardLifecycle.execute orderly hazardLifecycle.initial stoppingEvents).get stopping_executes

/-- The application starts and is stopped, the last batch fails, a last response arrives, and the joins return
one after the other. -/
def closingEvents : List HazardEvent :=
  List.flatten
    [[.someip (.initReturned true), .someip (.startCalled false), .caller, .caller,
        .someip .startReturned, .caller],
      List.replicate 4 feederRun, [.threads (.feeder (.updateReturned false))],
      List.replicate 5 feederRun, [.caller],
      [.threads (.subscriber (.readReturned
        (some [("Vehicle.Body.Lights.ExteriorLightControl", .uint32ArrayValue [1, 0])])))],
      List.replicate 3 subscriberRun, [.threads (.subscriber (.finishReturned true))],
      List.replicate 3 subscriberRun, [.caller]]

theorem closing_executes :
    (hazardLifecycle.execute stopsStarted stoppingState closingEvents).isSome = true := by decide

def closedState : State Sdv.Datapoint Kuksa.Datapoint :=
  (hazardLifecycle.execute stopsStarted stoppingState closingEvents).get closing_executes

end VehicleEdge.Adapter.Lifecycle
