import VehicleEdge.Feeder.Progress
import VehicleEdge.Feeder.Provenance
import VehicleEdge.Library.LastWrite
import VehicleEdge.Someip.Signals

/-
This file runs the message handler of the adapter on the threads of the feeder.
A dispatcher thread of vsomeip decodes one message at a time and feeds its values one after the other, while
the Run thread and the other dispatchers take their own steps.
-/

namespace VehicleEdge.Adapter.Uplink

open Sdv (Datapoint)
open Feeder (Call Send OwnId FeedCall)
open Someip

/-- A received message brings the bytes that lie behind its payload with it. -/
structure Message where
  host : Host
  serviceId : UInt16
  instanceId : UInt16
  methodId : UInt16
  payload : Payload

/-- These are the calls of `FeedValue` that the handler makes for the message. -/
def Message.feeds (config : SomeIPConfig) (message : Message) : List (String × Datapoint) :=
  (onSomeipMessage message.host config message.serviceId message.instanceId message.methodId
    message.payload).feeds.map fun feed => (feed.node.name, feed.value)

/-- The fields `received` and `order` are histories with the newest entry first. -/
structure State where
  feeder : Feeder.State Datapoint
  pending : Nat → List (String × Datapoint)
  received : List (Nat × Message)
  order : List (Nat × String × Datapoint)

/-- A dispatcher takes a message or makes its next feeding call, or the feeder takes a step. -/
inductive Event where
  | messageReceived (dispatcher : Nat) (message : Message)
  | feedValue (dispatcher : Nat)
  | feeder (event : Feeder.Event Datapoint)

/-- Only the handler calls `FeedValue`. -/
def callsFeed : Feeder.Event Datapoint → Bool
  | .feedCalled _ _ => true
  | _ => false

/-- The critical section of a feeding call stores these values. -/
def storedBy (feeder : Feeder.State Datapoint) : Feeder.Event Datapoint → List (Nat × String × Datapoint)
  | .feedStored dispatcher =>
      ((feeder.producers dispatcher).elim [] FeedCall.entries).map fun entry =>
        (dispatcher, entry.1, entry.2)
  | _ => []

def step (config : SomeIPConfig) (state : State) : Event → Option State
  | .messageReceived dispatcher message =>
      match state.pending dispatcher, state.feeder.producers dispatcher with
      | [], none =>
          some { state with
            pending := Function.update state.pending dispatcher (message.feeds config)
            received := (dispatcher, message) :: state.received }
      | _, _ => none
  | .feedValue dispatcher =>
      match state.pending dispatcher with
      | [] => none
      | (name, value) :: rest =>
          (Feeder.step (initDataBrokerFeeder config).metadata state.feeder
            (.feedCalled dispatcher (.feedValue name value))).map fun feeder =>
              { state with feeder := feeder, pending := Function.update state.pending dispatcher rest }
  | .feeder event =>
      if callsFeed event then none
      else
        (Feeder.step (initDataBrokerFeeder config).metadata state.feeder event).map fun feeder =>
          { state with feeder := feeder, order := (storedBy state.feeder event).reverse ++ state.order }

def initialState : State where
  feeder := Feeder.initialState Datapoint
  pending := fun _ => []
  received := []
  order := []

def machine (config : SomeIPConfig) : Machine State Event where
  initial := initialState
  step := step config

/-- The guard describes the runs before the critical section of `Shutdown`. -/
def beforeShutdown (_ : State) : Event → Prop
  | .feeder event => event.clears = false
  | _ => True

instance : DecidableRel beforeShutdown
  | _, .feeder _ => inferInstanceAs (Decidable (_ = _))
  | _, .messageReceived _ _ => inferInstanceAs (Decidable True)
  | _, .feedValue _ => inferInstanceAs (Decidable True)

/-- The relation lists every step of the machine with its guard and its effect. -/
inductive Step (config : SomeIPConfig) (state : State) : Event → State → Prop where
  | messageReceived (dispatcher : Nat) (message : Message) (done : state.pending dispatcher = [])
      (free : state.feeder.producers dispatcher = none) :
      Step config state (.messageReceived dispatcher message)
        { state with
          pending := Function.update state.pending dispatcher (message.feeds config)
          received := (dispatcher, message) :: state.received }
  | feedValue (dispatcher : Nat) (name : String) (value : Datapoint) (rest : List (String × Datapoint))
      (feeder : Feeder.State Datapoint) (here : state.pending dispatcher = (name, value) :: rest)
      (stepped : Feeder.step (initDataBrokerFeeder config).metadata state.feeder
        (.feedCalled dispatcher (.feedValue name value)) = some feeder) :
      Step config state (.feedValue dispatcher)
        { state with feeder := feeder, pending := Function.update state.pending dispatcher rest }
  | feeder (event : Feeder.Event Datapoint) (feeder : Feeder.State Datapoint)
      (quiet : callsFeed event = false)
      (stepped : Feeder.step (initDataBrokerFeeder config).metadata state.feeder event = some feeder) :
      Step config state (.feeder event)
        { state with feeder := feeder, order := (storedBy state.feeder event).reverse ++ state.order }

theorem step_cases {config : SomeIPConfig} {state next : State} {event : Event}
    (taken : step config state event = some next) : Step config state event next := by
  cases event with
  | messageReceived dispatcher message =>
      simp only [step] at taken
      split at taken
      case h_1 done free =>
        cases taken
        exact .messageReceived dispatcher message done free
      case h_2 => cases taken
  | feedValue dispatcher =>
      simp only [step] at taken
      split at taken
      case h_1 => cases taken
      case h_2 name value rest here =>
        obtain ⟨feeder, called, rfl⟩ := Option.map_eq_some_iff.mp taken
        exact .feedValue dispatcher name value rest feeder here called
  | feeder event =>
      simp only [step] at taken
      split at taken
      case isTrue => cases taken
      case isFalse quiet =>
        obtain ⟨feeder, stepped, rfl⟩ := Option.map_eq_some_iff.mp taken
        exact .feeder event feeder (Bool.eq_false_iff.mpr quiet) stepped

/-- The feeder of the adapter runs as the feeder machine does. -/
theorem feeder_reached {config : SomeIPConfig} {guard : State → Event → Prop}
    (target : Feeder.State Datapoint → Feeder.Event Datapoint → Prop)
    (calls : ∀ feeder dispatcher call, target feeder (.feedCalled dispatcher call))
    (allows : ∀ state event, guard state (.feeder event) → target state.feeder event) {state : State}
    (reached : (machine config).Reached guard state) :
    (Feeder.machine (initDataBrokerFeeder config).metadata).Reached target state.feeder := by
  refine Machine.Reached.project State.feeder rfl ?_ reached
  intro state event next _ allowed taken
  cases step_cases taken with
  | messageReceived => exact .inl rfl
  | feedValue dispatcher name value rest feeder here stepped => exact .inr ⟨_, calls _ _ _, stepped⟩
  | feeder event feeder quiet stepped => exact .inr ⟨_, allows _ _ allowed, stepped⟩

/-- The values of a feeding call that waits for the mutex are on their way to the store. -/
def inCall (feeder : Feeder.State Datapoint) (dispatcher : Nat) : List (String × Datapoint) :=
  ((feeder.producers dispatcher).elim [] FeedCall.entries).map fun entry => (entry.1, entry.2)

section FeederSteps

variable {metadata : Feeder.DatapointConfiguration Datapoint} {feeder next : Feeder.State Datapoint}

/-- An accepted feeding call waits for the mutex, and a refused one leaves the feeder as it was. -/
theorem feedCalled_effect {dispatcher : Nat} {name : String} {value : Datapoint}
    (stepped : Feeder.step metadata feeder (.feedCalled dispatcher (.feedValue name value)) = some next) :
    inCall feeder dispatcher = [] ∧ next.fed = feeder.fed ∧
      ∀ other, inCall next other =
        if other = dispatcher ∧ feeder.feederActive = true then [(name, value)] else inCall feeder other := by
  simp only [Feeder.step] at stepped
  split at stepped
  case h_1 => cases stepped
  case h_2 free =>
    have idle : inCall feeder dispatcher = [] := by simp [inCall, free]
    cases active : feeder.feederActive with
    | true =>
        rw [if_pos active] at stepped
        cases stepped
        refine ⟨idle, rfl, fun other => ?_⟩
        by_cases own : other = dispatcher
        · subst own
          simp [inCall, FeedCall.entries]
        · simp [inCall, own]
    | false =>
        rw [if_neg (by simp [active])] at stepped
        cases stepped
        exact ⟨idle, rfl, fun other => by simp⟩

/-- A critical section moves the values of its call to the feed history, and no other step touches it. -/
theorem quiet_effect {event : Feeder.Event Datapoint} (quiet : callsFeed event = false)
    (stepped : Feeder.step metadata feeder event = some next) :
    next.fed = ((storedBy feeder event).map Prod.snd).reverse ++ feeder.fed ∧
      ∀ dispatcher, ((storedBy feeder event).filter fun entry => entry.1 = dispatcher).map Prod.snd ++
        inCall next dispatcher = inCall feeder dispatcher := by
  cases Feeder.step_cases stepped with
  | feedCalled | feedRefused => cases quiet
  | feedStored producer call pending =>
      refine ⟨?_, fun dispatcher => ?_⟩
      · simp [storedBy, pending, Feeder.storeValues_history, Function.comp_def]
      · by_cases own : dispatcher = producer
        · subst own
          simp [storedBy, pending, inCall, Function.comp_def, List.filter_map]
        · simp [storedBy, pending, inCall, Function.comp_def, List.filter_map, own, Ne.symm own]
  | _ => exact ⟨rfl, fun _ => rfl⟩

end FeederSteps

/-- The entry is one of the values that the handler decodes from a received message. -/
def Decoded (config : SomeIPConfig) (received : List (Nat × Message)) (entry : String × Datapoint) : Prop :=
  ∃ dispatch ∈ received, entry ∈ dispatch.2.feeds config

/-- Everything that is fed, waits for the mutex, or is still to be fed was decoded. -/
structure Traced (config : SomeIPConfig) (state : State) : Prop where
  fed : ∀ entry ∈ state.feeder.fed, Decoded config state.received entry
  calling : ∀ dispatcher, ∀ entry ∈ inCall state.feeder dispatcher, Decoded config state.received entry
  pending : ∀ dispatcher, ∀ entry ∈ state.pending dispatcher, Decoded config state.received entry

theorem Decoded.later {config : SomeIPConfig} {received : List (Nat × Message)}
    {entry : String × Datapoint} (decoded : Decoded config received entry) (newest : Nat × Message) :
    Decoded config (newest :: received) entry := by
  obtain ⟨dispatch, member, fed⟩ := decoded
  exact ⟨dispatch, List.mem_cons_of_mem _ member, fed⟩

theorem traced_step {config : SomeIPConfig} {state next : State} {event : Event}
    (traced : Traced config state) (taken : Step config state event next) : Traced config next := by
  obtain ⟨fed, calling, pending⟩ := traced
  cases taken with
  | messageReceived dispatcher message done free =>
      refine ⟨fun entry member => (fed entry member).later _,
        fun other entry member => (calling other entry member).later _, fun other entry member => ?_⟩
      by_cases own : other = dispatcher
      · subst own
        simp only [Function.update_self] at member
        exact ⟨_, List.mem_cons_self, member⟩
      · simp only [Function.update_of_ne own] at member
        exact (pending other entry member).later _
  | feedValue dispatcher name value rest feeder here stepped =>
      obtain ⟨-, sameFed, called⟩ := feedCalled_effect stepped
      have listed := pending dispatcher
      rw [here] at listed
      refine ⟨fun entry member => fed entry (sameFed ▸ member), fun other entry member => ?_,
        fun other entry member => ?_⟩
      · rw [called other] at member
        split at member
        · cases List.mem_singleton.mp member
          exact listed _ List.mem_cons_self
        · exact calling other entry member
      · by_cases own : other = dispatcher
        · subst own
          simp only [Function.update_self] at member
          exact listed entry (List.mem_cons_of_mem _ member)
        · simp only [Function.update_of_ne own] at member
          exact pending other entry member
  | feeder event feeder quiet stepped =>
      obtain ⟨history, calls⟩ := quiet_effect quiet stepped
      refine ⟨fun entry member => ?_, fun other entry member => ?_, pending⟩
      · rw [history, List.mem_append, List.mem_reverse, List.mem_map] at member
        rcases member with ⟨stored, member, rfl⟩ | older
        · refine calling stored.1 stored.2 ?_
          rw [← calls stored.1]
          exact List.mem_append_left _ (List.mem_map_of_mem (List.mem_filter.mpr ⟨member, by simp⟩))
        · exact fed entry older
      · refine calling other entry ?_
        rw [← calls other]
        exact List.mem_append_right _ member

theorem traced_reached {config : SomeIPConfig} {guard : State → Event → Prop} {state : State}
    (reached : (machine config).Reached guard state) : Traced config state := by
  refine reached.invariant ⟨?_, ?_, ?_⟩ fun state event next traced _ taken =>
    traced_step traced (step_cases taken)
  · exact fun entry member => nomatch member
  · exact fun dispatcher entry member => nomatch member
  · exact fun dispatcher entry member => nomatch member

/-- The value is the placeholder of an event node of the name, or what an event node of the name decodes
from a received message. -/
def Sourced (config : SomeIPConfig) (received : List (Nat × Message)) (name : String) (value : Datapoint) :
    Prop :=
  (value = Sdv.createNotAvailableValue ∧
      ∃ mapping ∈ config.vssMap, mapping.metaData.serviceType = "Event" ∧
        ∃ node ∈ mapping.vssNodes, node.name = name) ∨
    ∃ dispatch ∈ received,
      ∃ node ∈ eventNodes config dispatch.2.serviceId dispatch.2.instanceId dispatch.2.methodId,
        node.name = name ∧ fedValue dispatch.2.host dispatch.2.payload node = some value

/-- In every state, each datapoint of each request to the broker belongs to a name with its id, and it has
a source under that name. -/
theorem requests_come_from_messages (config : SomeIPConfig) {state : State}
    (reached : (machine config).Reached Machine.anyStep state) {send : Send Datapoint}
    (issued : .issued send ∈ state.feeder.calls) {id : Int32} {sample : Feeder.Sample Datapoint}
    (carried : send.datapoints.lookup id = some sample) :
    ∃ name, send.idMap.lookup name = some id ∧ Sourced config state.received name sample.value := by
  have feeder := feeder_reached Machine.anyStep (fun _ _ _ => trivial)
    (fun _ _ _ => trivial) reached
  obtain ⟨name, named, genuine⟩ :=
    Feeder.request_genuine (Feeder.authentic_reached feeder) issued carried
  refine ⟨name, named, ?_⟩
  unfold Feeder.Genuine at genuine
  split at genuine
  case h_1 =>
    obtain ⟨metadata, member, rfl, value⟩ := genuine
    obtain ⟨mapping, inMap, isEvent, node, inNodes, rfl⟩ := mem_metadata.mp member
    exact .inl ⟨value.symm, mapping, inMap, isEvent, node, inNodes, rfl⟩
  case h_2 feed isFed =>
    have fed : (name, sample.value) ∈ state.feeder.fed :=
      List.mem_reverse.mp (List.mem_of_getElem? genuine)
    obtain ⟨dispatch, received, decoded⟩ := (traced_reached reached).fed _ fed
    obtain ⟨entry, fedEntry, equal⟩ := List.mem_map.mp decoded
    obtain ⟨addressed, value⟩ := (mem_feeds dispatch.2.host dispatch.2.payload).mp fedEntry
    obtain ⟨sameName, sameValue⟩ := Prod.mk.inj equal
    exact .inr ⟨dispatch, received, entry.node, addressed, sameName, by rw [value, sameValue]⟩

/-- The broker answers the registration of the brake light with one id. -/
def lightIds : Feeder.IdMap := AList.singleton brakeLight.name 7

/-- A message of the light service arrives and is fed before the first batch is taken. -/
def lightEvents : List Event :=
  [.feeder .run, .feeder (.waitForConnectedReturned true), .feeder .run, .feeder .run,
    .feeder (.registerReturned (some lightIds)),
    .messageReceived 0 ⟨zeroHost, 18464, 3, 32773, lightPayload⟩, .feedValue 0, .feeder (.feedStored 0),
    .feeder .run, .feeder .run, .feeder .run, .feeder .run, .feeder .run, .feeder (.updateReturned true),
    .feeder .run, .feeder .run, .feeder .run]

theorem light_executes :
    ((machine lightConfig).execute beforeShutdown initialState lightEvents).isSome = true := by
  decide +kernel

def lightState : State :=
  ((machine lightConfig).execute beforeShutdown initialState lightEvents).get light_executes

/-- The batch of the brake light has the text of its transform. -/
def lightSend : Send Datapoint :=
  ⟨lightIds, AList.singleton brakeLight.name ⟨.fed 0, createDatapoint (.string "INACTIVE")⟩⟩

theorem light_issued : lightState.feeder.calls[1]? = some (.issued lightSend) := by
  rfl

/-- The brake light of the light service is sent as a decoded value. -/
theorem requests_come_from_messages_light :
    ∃ name, lightSend.idMap.lookup name = some 7 ∧
      Sourced lightConfig lightState.received name (createDatapoint (.string "INACTIVE")) := by
  have reached : (machine lightConfig).Reached Machine.anyStep lightState :=
    Machine.Reached.along .start (fun _ _ _ => trivial) (Option.some_get light_executes).symm
  have carried : lightSend.datapoints.lookup 7 =
      some ⟨.fed 0, createDatapoint (.string "INACTIVE")⟩ := by decide +kernel
  exact requests_come_from_messages lightConfig reached (List.mem_of_getElem? light_issued) carried

/-- The stores of one dispatcher, from the oldest on. -/
def storedFrom (order : List (Nat × String × Datapoint)) (dispatcher : Nat) : List (String × Datapoint) :=
  (order.filter fun entry => entry.1 = dispatcher).map Prod.snd

/-- The values that one dispatcher decodes from its messages, from the oldest on. -/
def decodedBy (config : SomeIPConfig) (received : List (Nat × Message)) (dispatcher : Nat) :
    List (String × Datapoint) :=
  (received.filter fun dispatch => dispatch.1 = dispatcher).flatMap fun dispatch =>
    dispatch.2.feeds config

/-- Each dispatcher has stored what it decoded, up to the values of its current message. -/
structure Ordered (config : SomeIPConfig) (state : State) : Prop where
  history : state.order.map Prod.snd = state.feeder.fed
  complete : ∀ dispatcher, storedFrom state.order.reverse dispatcher ++
    (inCall state.feeder dispatcher ++ state.pending dispatcher) =
      decodedBy config state.received.reverse dispatcher

theorem ordered_step {config : SomeIPConfig} {state next : State} {event : Event}
    (ordered : Ordered config state) (active : state.feeder.feederActive = true)
    (taken : Step config state event next) : Ordered config next := by
  obtain ⟨history, complete⟩ := ordered
  cases taken with
  | messageReceived dispatcher message done free =>
      refine ⟨history, fun other => ?_⟩
      have before := complete other
      by_cases own : other = dispatcher
      · subst own
        simp only [inCall, free, done, Option.elim_none, List.map_nil, List.append_nil] at before
        simp [inCall, free, before, decodedBy]
      · simp [own, Ne.symm own, before, decodedBy]
  | feedValue dispatcher name value rest feeder here stepped =>
      obtain ⟨idle, sameFed, called⟩ := feedCalled_effect stepped
      refine ⟨history.trans sameFed.symm, fun other => ?_⟩
      have before := complete other
      rw [← before, called other]
      by_cases own : other = dispatcher
      · subst own
        simp [active, here, idle]
      · simp [own]
  | feeder event feeder quiet stepped =>
      obtain ⟨fed, calls⟩ := quiet_effect quiet stepped
      refine ⟨?_, fun dispatcher => ?_⟩
      · simp only [List.map_append, List.map_reverse, history, fed]
      · rw [← complete dispatcher, ← calls dispatcher]
        simp [storedFrom]

theorem ordered_reached {config : SomeIPConfig} {state : State}
    (reached : (machine config).Reached beforeShutdown state) : Ordered config state := by
  induction reached with
  | start => exact ⟨rfl, fun _ => rfl⟩
  | next event before allowed taken ih =>
      have feeder := feeder_reached Feeder.beforeShutdown (fun _ _ _ => rfl)
        (fun _ _ allowed => allowed) before
      exact ordered_step ih (Feeder.running_reached feeder).1 (step_cases taken)

/-- The latest feed of a name is the last write to it in the feed history. -/
theorem latestFeed_lastWrite (name : String) (fed : List (String × Datapoint)) :
    (Feeder.latestFeed name fed).map Prod.snd = (lastWrite Prod.fst fed.reverse name).map Prod.snd := by
  induction fed with
  | nil => rfl
  | cons entry fed ih =>
      obtain ⟨other, value⟩ := entry
      rw [List.reverse_cons, lastWrite_concat, Feeder.latestFeed]
      by_cases same : other = name
      · simp [same]
      · rw [if_neg same, if_neg same]
        exact ih

theorem lastWrite_order (order : List (Nat × String × Datapoint)) (name : String) :
    (lastWrite Prod.fst (order.map Prod.snd) name).map Prod.snd =
      (lastWrite (fun entry => entry.2.1) order name).map fun entry => entry.2.2 := by
  simp only [lastWrite, List.filter_map, Function.comp_def, List.getLast?_map, Option.map_map]

/-- No message is being handled. -/
def Idle (state : State) : Prop :=
  ∀ dispatcher, state.pending dispatcher = [] ∧ state.feeder.producers dispatcher = none

theorem light_idle : Idle lightState := by
  intro dispatcher
  cases dispatcher with
  | zero => exact ⟨rfl, rfl⟩
  | succ => exact ⟨rfl, rfl⟩

end VehicleEdge.Adapter.Uplink
