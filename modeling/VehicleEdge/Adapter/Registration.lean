import VehicleEdge.Feeder.Run
import VehicleEdge.Subscriber.Run

/-
This file runs the feeder and the subscriber together on their shared connection flag.
The feeder samples the flag once for the registration and once for the feeding loop, and the
subscriber can set it between the two samples.
-/

namespace VehicleEdge.Adapter

open Feeder (Call Send DatapointConfiguration RunPc)

variable {V U : Type}

/-- Both threads hold the flag of one `CollectorClient`, so the two copies always agree. -/
structure State (V U : Type) where
  feeder : Feeder.State V
  subscriber : Subscriber.State U

inductive Event (V U : Type) where
  | feeder (event : Feeder.Event V)
  | subscriber (event : Subscriber.Event U)

/-- A step of one thread passes its flag to the other thread. -/
def step (config : DatapointConfiguration V) (actuators : List String) (state : State V U) :
    Event V U → Option (State V U)
  | .feeder (.subscriberWrote _) => none
  | .subscriber (.feederWrote _) => none
  | .feeder event =>
      (Feeder.step config state.feeder event).map fun feeder =>
        ⟨feeder, { state.subscriber with connected := feeder.connected }⟩
  | .subscriber event =>
      (Subscriber.step actuators state.subscriber event).map fun subscriber =>
        ⟨{ state.feeder with connected := subscriber.connected }, subscriber⟩

def machine (U : Type) (config : DatapointConfiguration V) (actuators : List String) :
    Machine (State V U) (Event V U) where
  initial := ⟨Feeder.initialState V, Subscriber.initialState U⟩
  step := step config actuators

/-- These calls of the feeder failed. -/
def failed : Call V → Bool
  | .registerFailed => true
  | .updateFailed _ => true
  | _ => false

/-- A registration succeeded and no call of the feeder failed since. -/
def Fresh (calls : List (Call V)) : Prop :=
  ∃ recent results older, calls = recent ++ .registered results :: older ∧
    ∀ call ∈ recent, failed call = false

/-- The executable form of a fresh registration reads the history from its newest call. -/
def isFresh : List (Call V) → Bool
  | [] => false
  | .registered _ :: _ => true
  | call :: calls => !failed call && isFresh calls

theorem isFresh_iff (calls : List (Call V)) : isFresh calls = true ↔ Fresh calls := by
  constructor
  · intro fresh
    induction calls with
    | nil => cases fresh
    | cons call calls ih =>
        cases call with
        | registered results => exact ⟨[], results, calls, rfl, fun _ member => nomatch member⟩
        | registerFailed | updateFailed => cases fresh
        | waited | issued | updated =>
            obtain ⟨recent, results, older, rfl, clean⟩ := ih fresh
            refine ⟨_ :: recent, results, older, rfl, fun call member => ?_⟩
            rcases List.mem_cons.mp member with rfl | member
            · rfl
            · exact clean call member
  · rintro ⟨recent, results, older, rfl, clean⟩
    induction recent with
    | nil => rfl
    | cons call recent ih =>
        have rest := ih fun call member => clean call (List.mem_cons_of_mem _ member)
        have head := clean call List.mem_cons_self
        cases call with
        | registered => rfl
        | registerFailed | updateFailed => cases head
        | waited | issued | updated => exact rest

/-- Every issued update has a fresh registration behind it. -/
def SendsAreRegistered (calls : List (Call V)) : Prop :=
  ∀ send later earlier, calls = later ++ .issued send :: earlier → Fresh earlier

/-- The Run thread relies on a false flag to return to its connection loop. -/
def trustsFlag : RunPc V → Bool
  | .feedTestActive _ | .feedTestConnected _ | .restoreValues _ | .waitTestActive
  | .waitTestConnected | .lockStoredValues | .asleep | .notified => true
  | _ => false

/-- The Run thread is inside `feedStoredValues` before the answer to its update. -/
def sending : RunPc V → Bool
  | .swapStoredValues _ | .insertInitialValues _ _ | .feedToBroker _ | .awaitUpdate _ => true
  | _ => false

/-- The Run thread has still to read `feeder_active_` before it feeds. -/
def readsActive : RunPc V → Bool
  | .feedTestActive _ => true
  | _ => false

/-- The subscriber sets the flag in this step. -/
def setsFlag : Feeder.Event V → Bool
  | .subscriberWrote connected => connected
  | _ => false

/-- The guard forbids setting the flag while the feeder relies on it without a registration. -/
def flagOutsideWindow (state : Feeder.State V) (event : Feeder.Event V) : Prop :=
  setsFlag event = true → isFresh state.calls = true ∨ trustsFlag state.run = false

/-- Without a fresh registration the flag keeps the Run thread away from sending. -/
structure Guarded (state : Feeder.State V) : Prop where
  sent : SendsAreRegistered state.calls
  sending : sending state.run = true → isFresh state.calls = true
  window : trustsFlag state.run = true → isFresh state.calls = true ∨ state.connected = false ∨
    (readsActive state.run = true ∧ state.feederActive = false)

theorem sendsAreRegistered_cons {call : Call V} {calls : List (Call V)}
    (sent : SendsAreRegistered calls) (fresh : ∀ send, call = .issued send → isFresh calls = true) :
    SendsAreRegistered (call :: calls) := by
  intro send later earlier split
  cases later with
  | nil =>
      obtain ⟨head, tail⟩ := List.cons.inj split
      exact tail ▸ (isFresh_iff calls).mp (fresh send head)
  | cons newest later => exact sent send later earlier (List.cons.inj split).2

@[simp] theorem trustsFlag_notify (pc : RunPc V) : trustsFlag pc.notify = trustsFlag pc := by
  cases pc <;> rfl

@[simp] theorem sending_notify (pc : RunPc V) : sending pc.notify = sending pc := by
  cases pc <;> rfl

@[simp] theorem readsActive_notify (pc : RunPc V) : readsActive pc.notify = readsActive pc := by
  cases pc <;> rfl

/-- Past the read of `feeder_active_` the registration is fresh or the flag is false. -/
theorem Guarded.quiet {state : Feeder.State V} (guarded : Guarded state)
    (trusts : trustsFlag state.run = true) (past : readsActive state.run = false) :
    isFresh state.calls = true ∨ state.connected = false := by
  rcases guarded.window trusts with fresh | disconnected | ⟨reads, _⟩
  · exact .inl fresh
  · exact .inr disconnected
  · rw [past] at reads
    cases reads

theorem guarded_step {config : DatapointConfiguration V} {state next : Feeder.State V}
    {event : Feeder.Event V} (guarded : Guarded state) (allowed : flagOutsideWindow state event)
    (taken : Feeder.Step config state event next) : Guarded next := by
  cases taken with
  | waited here connected => exact ⟨sendsAreRegistered_cons guarded.sent nofun, nofun, nofun⟩
  | registerTestActive here =>
      cases active : state.feederActive with
      | true => exact ⟨guarded.sent, nofun, nofun⟩
      | false => exact ⟨guarded.sent, nofun, fun _ => .inr (.inr ⟨rfl, rfl⟩)⟩
  | registerTestConnected here =>
      cases connected : state.connected with
      | true => exact ⟨guarded.sent, nofun, nofun⟩
      | false => exact ⟨guarded.sent, nofun, fun _ => .inr (.inl rfl)⟩
  | registered here results =>
      exact ⟨sendsAreRegistered_cons guarded.sent nofun, nofun, fun _ => .inl rfl⟩
  | registerFailed here => exact ⟨sendsAreRegistered_cons guarded.sent nofun, nofun, nofun⟩
  | registerError here => exact ⟨guarded.sent, nofun, nofun⟩
  | feedTestActive initial here =>
      cases active : state.feederActive with
      | true =>
          refine ⟨guarded.sent, nofun, fun _ => ?_⟩
          rcases guarded.window (by rw [here]; rfl) with fresh | disconnected | ⟨_, inactive⟩
          · exact .inl fresh
          · exact .inr (.inl disconnected)
          · rw [active] at inactive
            cases inactive
      | false => exact ⟨guarded.sent, nofun, nofun⟩
  | feedTestConnected initial here =>
      cases connected : state.connected with
      | true =>
          -- a set flag in this place comes with a fresh registration
          refine ⟨guarded.sent, fun _ => ?_, nofun⟩
          rcases guarded.quiet (by rw [here]; rfl) (by rw [here]; rfl) with fresh | disconnected
          · exact fresh
          · rw [connected] at disconnected
            cases disconnected
      | false => exact ⟨guarded.sent, nofun, nofun⟩
  | swapped initial here | merged initial values here =>
      exact ⟨guarded.sent, fun _ => guarded.sending (by rw [here]; rfl), nofun⟩
  | issued values here =>
      have fresh := guarded.sending (by rw [here]; rfl)
      exact ⟨sendsAreRegistered_cons guarded.sent fun _ _ => fresh, fun _ => fresh, nofun⟩
  | updated send here =>
      have fresh := guarded.sending (by rw [here]; rfl)
      exact ⟨sendsAreRegistered_cons guarded.sent nofun, nofun, fun _ => .inl fresh⟩
  | updateFailed send here => exact ⟨sendsAreRegistered_cons guarded.sent nofun, nofun, nofun⟩
  | updateError values here => exact ⟨guarded.sent, nofun, fun _ => .inr (.inl rfl)⟩
  | loopTest here =>
      refine ⟨guarded.sent, fun sends => ?_, fun trusts => ?_⟩
      · dsimp only at sends
        split at sends <;> cases sends
      · dsimp only at trusts
        split at trusts <;> cases trusts
  | restored _ here | spuriousWakeup here | notified here =>
      have quiet := guarded.quiet (by rw [here]; rfl) (by rw [here]; rfl)
      exact ⟨guarded.sent, nofun, fun _ => quiet.imp_right .inl⟩
  | waitTestActive here | waitTestConnected here | locked here =>
      have quiet := guarded.quiet (by rw [here]; rfl) (by rw [here]; rfl)
      refine ⟨guarded.sent, fun sends => ?_, fun _ => quiet.imp_right .inl⟩
      dsimp only at sends
      split at sends <;> cases sends
  | feedCalled | feedRefused | shutdownTested => exact ⟨guarded.sent, guarded.sending, guarded.window⟩
  | feedStored =>
      exact ⟨by simpa using guarded.sent, by simpa using guarded.sending,
        by simpa using guarded.window⟩
  | shutdownCleared =>
      refine ⟨guarded.sent, guarded.sending, fun trusts => ?_⟩
      rcases guarded.window trusts with fresh | disconnected | ⟨reads, _⟩
      · exact .inl fresh
      · exact .inr (.inl disconnected)
      · exact .inr (.inr ⟨reads, rfl⟩)
  | shutdownNotified =>
      exact ⟨guarded.sent, by simpa using guarded.sending, by simpa using guarded.window⟩
  | subscriberWrote connected =>
      refine ⟨guarded.sent, guarded.sending, fun trusts => ?_⟩
      cases connected with
      | true =>
          rcases allowed rfl with fresh | distrusts
          · exact .inl fresh
          · exact absurd trusts (by simp [distrusts])
      | false => exact .inr (.inl rfl)

theorem guarded_reached {config : DatapointConfiguration V} {state : Feeder.State V}
    (reached : (Feeder.machine config).Reached flagOutsideWindow state) : Guarded state := by
  refine reached.invariant ⟨?_, nofun, nofun⟩ ?_
  · intro send later earlier split
    cases later <;> cases split
  · intro state event next guarded allowed taken
    exact guarded_step guarded allowed (Feeder.step_cases taken)

/-- The `WaitForConnected` of the subscriber sets the flag in this step. -/
def connects : Event V U → Bool
  | .subscriber (.waitForConnectedReturned connected) => connected
  | _ => false

/-- The subscriber connects only while the feeder is freshly registered or does not rely on a
false flag. -/
def connectsOutsideWindow (state : State V U) (event : Event V U) : Prop :=
  connects event = true → isFresh state.feeder.calls = true ∨ trustsFlag state.feeder.run = false

instance : DecidableRel (@connectsOutsideWindow V U) :=
  fun state event => inferInstanceAs (Decidable (connects event = true →
    isFresh state.feeder.calls = true ∨ trustsFlag state.feeder.run = false))

/-- A step of the system is a step of one thread that passes its flag to the other. -/
theorem step_cases {config : DatapointConfiguration V} {actuators : List String}
    {state next : State V U} {event : Event V U} (taken : step config actuators state event = some next) :
    (∃ own feeder, event = .feeder own ∧ setsFlag own = false ∧
      Feeder.step config state.feeder own = some feeder ∧
      next = ⟨feeder, { state.subscriber with connected := feeder.connected }⟩) ∨
    ∃ own subscriber, event = .subscriber own ∧ (∀ connected, own ≠ .feederWrote connected) ∧
      Subscriber.Step state.subscriber own subscriber ∧
      next = ⟨{ state.feeder with connected := subscriber.connected }, subscriber⟩ := by
  unfold step at taken
  split at taken
  case h_1 => cases taken
  case h_2 => cases taken
  case h_3 own foreign =>
    obtain ⟨feeder, moved, rfl⟩ := Option.map_eq_some_iff.mp taken
    refine .inl ⟨own, feeder, rfl, ?_, moved, rfl⟩
    cases own with
    | subscriberWrote connected => exact absurd rfl (foreign connected)
    | _ => rfl
  case h_4 own foreign =>
    obtain ⟨subscriber, moved, rfl⟩ := Option.map_eq_some_iff.mp taken
    exact .inr ⟨own, subscriber, rfl, foreign, Subscriber.step_cases moved, rfl⟩

/-- Both copies of the flag agree in every reached state. -/
theorem connected_agrees {config : DatapointConfiguration V} {actuators : List String}
    {guard : State V U → Event V U → Prop} {state : State V U}
    (reached : (machine U config actuators).Reached guard state) :
    state.subscriber.connected = state.feeder.connected := by
  induction reached with
  | start => rfl
  | next event _ _ taken _ =>
      rcases step_cases taken with ⟨_, _, _, _, _, rfl⟩ | ⟨_, _, _, _, _, rfl⟩ <;> rfl

/-- A step of the subscriber keeps the flag, clears it, or sets it in `WaitForConnected`. -/
theorem subscriber_flag {state next : Subscriber.State U} {event : Subscriber.Event U}
    (own : ∀ connected, event ≠ .feederWrote connected) (taken : Subscriber.Step state event next) :
    next.connected = state.connected ∨ next.connected = false ∨
      event = .waitForConnectedReturned true := by
  cases taken with
  | waited here connected => cases connected <;> simp
  | disconnected here => exact .inr (.inl rfl)
  | feederWrote connected => exact absurd rfl (own connected)
  | _ => exact .inl rfl

/-- The feeder sees the subscriber only as a writer of the shared flag. -/
theorem feeder_reached {config : DatapointConfiguration V} {actuators : List String}
    {state : State V U} (reached : (machine U config actuators).Reached connectsOutsideWindow state) :
    (Feeder.machine config).Reached flagOutsideWindow state.feeder := by
  refine Machine.Reached.project State.feeder rfl ?_ reached
  intro state event next before allowed taken
  rcases step_cases taken with ⟨own, feeder, rfl, quiet, moved, rfl⟩ |
    ⟨own, subscriber, rfl, foreign, moved, rfl⟩
  · exact .inr ⟨own, fun sets => by simp [quiet] at sets, moved⟩
  · rcases subscriber_flag foreign moved with kept | cleared | rfl
    · left
      rw [kept, connected_agrees before]
    · refine .inr ⟨.subscriberWrote subscriber.connected, fun sets => ?_, rfl⟩
      simp [setsFlag, cleared] at sets
    · exact .inr ⟨.subscriberWrote subscriber.connected, fun _ => allowed rfl, rfl⟩

/-- When the subscriber never connects while the feeder relies on a false flag without a fresh
registration, every update has a fresh registration behind it. -/
theorem updates_are_registered (config : DatapointConfiguration V) (actuators : List String)
    {state : State V U} (reached : (machine U config actuators).Reached connectsOutsideWindow state) :
    SendsAreRegistered state.feeder.calls :=
  (guarded_reached (feeder_reached reached)).sent

def hazardMachine : Machine (State Sdv.Datapoint Kuksa.Datapoint) (Event Sdv.Datapoint Kuksa.Datapoint) :=
  machine Kuksa.Datapoint Feeder.hazardConfig ["Vehicle.Body.Lights.ExteriorLightControl"]

/-- The subscriber starts and connects. -/
def connectSubscriber : List (Event Sdv.Datapoint Kuksa.Datapoint) :=
  [.subscriber .run, .subscriber .run, .subscriber .run,
    .subscriber (.waitForConnectedReturned true)]

/-- The Run thread of the feeder reads both flags and issues an update. -/
def sendHazard : List (Event Sdv.Datapoint Kuksa.Datapoint) :=
  [.feeder .run, .feeder .run, .feeder .run, .feeder .run, .feeder .run]

/-- The feeder registers before the subscriber connects, and then it sends. -/
def registeredEvents : List (Event Sdv.Datapoint Kuksa.Datapoint) :=
  (Feeder.feedHazard true ++ Feeder.connectHazard).map .feeder ++ connectSubscriber ++ sendHazard

theorem registered_executes : (hazardMachine.execute connectsOutsideWindow
    hazardMachine.initial registeredEvents).isSome = true := by decide

def registeredState : State Sdv.Datapoint Kuksa.Datapoint :=
  (hazardMachine.execute connectsOutsideWindow hazardMachine.initial registeredEvents).get
    registered_executes

/-- The registered run has sent an update, and its registration is fresh. -/
theorem updates_are_registered_hazard :
    registeredState.feeder.calls.length = 3 ∧ SendsAreRegistered registeredState.feeder.calls :=
  ⟨by decide, updates_are_registered Feeder.hazardConfig _
    (Machine.reached_get registered_executes)⟩

/-- The wait of the feeder fails, and the subscriber connects after the feeder has skipped the
registration. -/
def unregisteredEvents : List (Event Sdv.Datapoint Kuksa.Datapoint) :=
  let skipping : List (Event Sdv.Datapoint Kuksa.Datapoint) :=
    [.feeder .run, .feeder (.waitForConnectedReturned false), .feeder .run, .feeder .run]
  (Feeder.feedHazard true).map .feeder ++ skipping ++ connectSubscriber ++ sendHazard

theorem unregistered_executes : (hazardMachine.execute Machine.anyStep
    hazardMachine.initial unregisteredEvents).isSome = true := by decide

def unregisteredState : State Sdv.Datapoint Kuksa.Datapoint :=
  (hazardMachine.execute Machine.anyStep hazardMachine.initial unregisteredEvents).get
    unregistered_executes

/-- The feeder can send its values without any registration. -/
theorem updates_without_registration :
    ¬ ∀ state, hazardMachine.Reached Machine.anyStep state →
      SendsAreRegistered state.feeder.calls := by
  intro registered
  have reached : hazardMachine.Reached Machine.anyStep unregisteredState :=
    Machine.reached_get unregistered_executes
  have calls : unregisteredState.feeder.calls = [] ++
      .issued ⟨∅, Feeder.insertInitialValues Feeder.hazardConfig
        (Feeder.storeValue ∅ "Vehicle.Body.Lights.Hazard.IsSignaling" ⟨.fed 0, .boolValue true⟩)⟩ ::
      [.waited false] := rfl
  have fresh := registered unregisteredState reached _ _ _ calls
  have evaluated := (isFresh_iff _).mpr fresh
  revert evaluated
  decide

end VehicleEdge.Adapter
