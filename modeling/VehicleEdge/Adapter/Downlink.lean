import VehicleEdge.Someip.Batch
import VehicleEdge.Someip.Client
import VehicleEdge.Someip.RoundTrip
import VehicleEdge.Someip.Signals
import VehicleEdge.Subscriber.Responses

/-
This file runs the change callback of the adapter on the thread of the actuator subscriber.
The callback sends its requests one after the other through `SendRequest`, which can wait for the request
service, while the client receives its own calls and `Shutdown` takes its steps.
-/

namespace VehicleEdge.Adapter.Downlink

open Kuksa (Datapoint)
open Someip

/-- The thread is inside `SendRequest` for the first of the open requests. -/
inductive SendPc where
  | entered
  | waiting
  | sending
  deriving DecidableEq

/-- The open requests belong to the running callback; the histories `responses`, `handled` and `sent` have
their newest entry first. -/
structure State where
  subscriber : Subscriber.State Datapoint
  client : Client
  open_ : List Request
  send : SendPc
  responses : List (List (String × Datapoint))
  handled : List (Host × KeyedMap String Datapoint)
  sent : List Request

/-- The callback step brings the bytes with it that lie behind the objects it reads. -/
inductive Event where
  | subscriber (event : Subscriber.Event Datapoint)
  | callback (host : Host)
  | sendRequest
  | waitEnded
  | client (event : ClientEvent)

/-- The callback runs on the Run thread, so that thread takes no other step in the meantime. -/
def ofRunThread : Subscriber.Event Datapoint → Bool
  | .run | .waitForConnectedReturned _ | .readReturned _ | .finishReturned _ => true
  | _ => false

def atCallback : Subscriber.RunPc Datapoint → Bool
  | .callbackTest _ => true
  | _ => false

/-- These requests are made by one call of `on_actuator_change`. -/
def requestsOf (config : SomeIPConfig) (call : Host × KeyedMap String Datapoint) : List Request :=
  (onActuatorChange call.1 true call.2 config.vssMap).requests

/-- The function `SendRequest` waits at most once and sends also without the service. -/
def sendStep (config : SomeIPConfig) (state : State) : Option State :=
  match state.open_, state.send with
  | [], _ => none
  | _ :: rest, .entered =>
      if config.req.useReq then
        some { state with send := if state.client.reqServiceAvailable then .sending else .waiting }
      else some { state with open_ := rest }
  | _ :: _, .waiting => none
  | request :: rest, .sending =>
      some { state with sent := request :: state.sent, open_ := rest, send := .entered }

def step (config : SomeIPConfig) (state : State) : Event → Option State
  | .subscriber event =>
      if ofRunThread event && (!state.open_.isEmpty || atCallback state.subscriber.run) then none
      else
        (Subscriber.step (initDataBrokerFeeder config).vssActuatorList state.subscriber event).map
          fun subscriber =>
            { state with
              subscriber := subscriber
              responses := Subscriber.responsesAfter state.responses event }
  | .callback host =>
      match state.open_, state.subscriber.run with
      | [], .callbackTest changes =>
          (Subscriber.step (initDataBrokerFeeder config).vssActuatorList state.subscriber .run).map
            fun subscriber =>
              if state.subscriber.subscriberActive then
                { state with
                  subscriber := subscriber
                  handled := (host, changes) :: state.handled
                  open_ := requestsOf config (host, changes) }
              else { state with subscriber := subscriber }
      | _, _ => none
  | .sendRequest => sendStep config state
  | .waitEnded =>
      match state.open_, state.send with
      | _ :: _, .waiting => some { state with send := .sending }
      | _, _ => none
  | .client event => some { state with client := state.client.step config event }

def initialState : State where
  subscriber := Subscriber.initialState Datapoint
  client := {}
  open_ := []
  send := .entered
  responses := []
  handled := []
  sent := []

def machine (config : SomeIPConfig) : Machine State Event where
  initial := initialState
  step := step config

/-- The relation lists every step of the machine with its guard and its effect. -/
inductive Step (config : SomeIPConfig) (state : State) : Event → State → Prop where
  | subscriber (event : Subscriber.Event Datapoint) (subscriber : Subscriber.State Datapoint)
      (free : ofRunThread event = true → state.open_ = [] ∧ atCallback state.subscriber.run = false)
      (stepped : Subscriber.Step state.subscriber event subscriber) :
      Step config state (.subscriber event)
        { state with
          subscriber := subscriber, responses := Subscriber.responsesAfter state.responses event }
  | called (host : Host) (changes : KeyedMap String Datapoint) (subscriber : Subscriber.State Datapoint)
      (done : state.open_ = []) (here : state.subscriber.run = .callbackTest changes)
      (active : state.subscriber.subscriberActive = true)
      (stepped : Subscriber.Step state.subscriber .run subscriber)
      (callbacks : subscriber.callbacks = changes :: state.subscriber.callbacks)
      (after : subscriber.run = .readTest) :
      Step config state (.callback host)
        { state with
          subscriber := subscriber
          handled := (host, changes) :: state.handled
          open_ := requestsOf config (host, changes) }
  | skipped (host : Host) (subscriber : Subscriber.State Datapoint) (done : state.open_ = [])
      (stepped : Subscriber.Step state.subscriber .run subscriber)
      (callbacks : subscriber.callbacks = state.subscriber.callbacks) :
      Step config state (.callback host) { state with subscriber := subscriber }
  | entered (request : Request) (rest : List Request) (here : state.open_ = request :: rest)
      (send : SendPc) : Step config state .sendRequest { state with send := send }
  | refused (request : Request) (rest : List Request) (here : state.open_ = request :: rest)
      (disabled : config.req.useReq = false) : Step config state .sendRequest { state with open_ := rest }
  | sent (request : Request) (rest : List Request) (here : state.open_ = request :: rest) :
      Step config state .sendRequest
        { state with sent := request :: state.sent, open_ := rest, send := .entered }
  | waitEnded : Step config state .waitEnded { state with send := .sending }
  | client (event : ClientEvent) :
      Step config state (.client event) { state with client := state.client.step config event }

theorem step_cases {config : SomeIPConfig} {state next : State} {event : Event}
    (taken : step config state event = some next) : Step config state event next := by
  cases event with
  | subscriber event =>
      simp only [step] at taken
      split at taken
      case isTrue => cases taken
      case isFalse free =>
        obtain ⟨subscriber, stepped, rfl⟩ := Option.map_eq_some_iff.mp taken
        refine .subscriber event subscriber (fun own => ?_) (Subscriber.step_cases stepped)
        simpa [own] using free
  | callback host =>
      simp only [step] at taken
      split at taken
      case h_1 changes done here =>
        obtain ⟨subscriber, stepped, effect⟩ := Option.map_eq_some_iff.mp taken
        have listed := Subscriber.step_cases stepped
        simp only [Subscriber.step, Subscriber.runStep, here, Option.some.injEq] at stepped
        cases active : state.subscriber.subscriberActive with
        | true =>
            rw [if_pos active] at effect
            subst effect stepped
            exact .called host changes _ done here active listed (by simp [active]) rfl
        | false =>
            rw [if_neg (by simp [active])] at effect
            subst effect stepped
            exact .skipped host _ done listed (by simp [active])
      case h_2 => cases taken
  | sendRequest =>
      simp only [step, sendStep] at taken
      split at taken
      case h_1 => cases taken
      case h_2 request rest here entered =>
        cases used : config.req.useReq with
        | true =>
            rw [if_pos used] at taken
            cases taken
            exact .entered request rest here _
        | false =>
            rw [if_neg (by simp [used])] at taken
            cases taken
            exact .refused request rest here used
      case h_3 => cases taken
      case h_4 request rest here sending =>
        cases taken
        exact .sent request rest here
  | waitEnded =>
      simp only [step] at taken
      split at taken
      case h_1 =>
        cases taken
        exact .waitEnded
      case h_2 => cases taken
  | client event =>
      cases taken
      exact .client event

/-- Outside the callback step the subscriber makes no call, and its other threads leave the Run thread
where it is. -/
theorem subscriber_frame {state next : Subscriber.State Datapoint} {event : Subscriber.Event Datapoint}
    (stepped : Subscriber.Step state event next)
    (elsewhere : ofRunThread event = true → atCallback state.run = false) :
    next.callbacks = state.callbacks ∧ (ofRunThread event = false → next.run = state.run) := by
  cases stepped with
  | called changes here =>
      have noCallback := elsewhere rfl
      rw [here] at noCallback
      cases noCallback
  | shutdownTested | shutdownDeactivated | shutdownCancelled | feederWrote => exact ⟨rfl, fun _ => rfl⟩
  | _ => exact ⟨rfl, fun other => by cases other⟩

/-- The requests of the handled responses are those that were sent and those that are still open. -/
structure Conserved (config : SomeIPConfig) (state : State) : Prop where
  faithful : Subscriber.Faithful state.responses state.subscriber
  called : state.handled.map Prod.snd = state.subscriber.callbacks
  kept : config.req.useReq = true →
    state.handled.reverse.flatMap (requestsOf config) = state.sent.reverse ++ state.open_
  blocked : state.open_ ≠ [] → state.subscriber.run = .readTest

theorem conserved_step {config : SomeIPConfig} {state next : State} {event : Event}
    (conserved : Conserved config state) (taken : Step config state event next) :
    Conserved config next := by
  obtain ⟨faithful, called, kept, blocked⟩ := conserved
  cases taken with
  | subscriber event subscriber free stepped =>
      obtain ⟨callbacks, beside⟩ := subscriber_frame stepped fun own => (free own).2
      refine ⟨Subscriber.faithful_step faithful stepped, called.trans callbacks.symm, kept, fun busy => ?_⟩
      have other : ofRunThread event = false := by
        cases own : ofRunThread event with
        | true => exact absurd (free own).1 busy
        | false => rfl
      exact (beside other).trans (blocked busy)
  | called host changes subscriber done here active stepped callbacks after =>
      refine ⟨Subscriber.faithful_step faithful stepped, ?_, fun used => ?_, fun _ => after⟩
      · rw [callbacks, List.map_cons, called]
      · have before := kept used
        rw [done, List.append_nil] at before
        rw [List.reverse_cons, List.flatMap_append, before, List.flatMap_singleton]
  | skipped host subscriber done stepped callbacks =>
      exact ⟨Subscriber.faithful_step faithful stepped, called.trans callbacks.symm, kept,
        fun busy => absurd done busy⟩
  | entered | waitEnded | client => exact ⟨faithful, called, kept, blocked⟩
  | refused request rest here disabled =>
      refine ⟨faithful, called, fun used => ?_, fun _ => blocked (by simp [here])⟩
      rw [disabled] at used
      cases used
  | sent request rest here =>
      refine ⟨faithful, called, fun used => ?_, fun _ => blocked (by simp [here])⟩
      rw [kept used, here, List.reverse_cons, List.append_assoc, List.singleton_append]

theorem conserved_reached {config : SomeIPConfig} {guard : State → Event → Prop} {state : State}
    (reached : (machine config).Reached guard state) : Conserved config state := by
  refine reached.invariant ⟨⟨rfl, rfl⟩, rfl, fun _ => rfl, fun busy => absurd rfl busy⟩ ?_
  intro state event next conserved _ taken
  exact conserved_step conserved (step_cases taken)

/-- The calls of the callback are the responses with the memory that each call found. -/
theorem exists_calls {handled : List (Host × KeyedMap String Datapoint)}
    {responses : List (List (String × Datapoint))}
    (same : handled.map Prod.snd = responses.map Subscriber.collect) :
    ∃ calls : List (Host × List (String × Datapoint)), calls.map Prod.snd = responses ∧
      handled = calls.map fun call => (call.1, Subscriber.collect call.2) := by
  induction handled generalizing responses with
  | nil =>
      have none : responses = [] := List.map_eq_nil_iff.mp same.symm
      exact ⟨[], none.symm, rfl⟩
  | cons first handled ih =>
      cases responses with
      | nil => cases same
      | cons response responses =>
          obtain ⟨head, tail⟩ := List.cons.inj same
          obtain ⟨calls, read, rfl⟩ := ih tail
          exact ⟨(first.1, response) :: calls, by simp [read], by simp [← head]⟩

/-- The Run thread is between the first update of a response and its callback. -/
def midResponse : Subscriber.RunPc Datapoint → Bool
  | .collecting _ _ | .callbackTest _ => true
  | _ => false

/-- All responses are passed on, or all but the newest one while that one is collected or after a
shutdown. -/
def PassedOn (responses : List (List (String × Datapoint))) (subscriber : Subscriber.State Datapoint) :
    Prop :=
  ∃ dropped passed, responses = dropped ++ passed ∧ subscriber.callbacks = passed.map Subscriber.collect ∧
    dropped.length ≤ 1 ∧ (dropped ≠ [] → subscriber.run ≠ .reading ∧
      (midResponse subscriber.run = true ∨ subscriber.subscriberActive = false))

theorem passed_on {responses : List (List (String × Datapoint))}
    {subscriber : Subscriber.State Datapoint} (faithful : Subscriber.Faithful responses subscriber) :
    PassedOn responses subscriber := by
  have all (callbacks : subscriber.callbacks = responses.map Subscriber.collect) :
      PassedOn responses subscriber :=
    ⟨[], responses, rfl, callbacks, Nat.zero_le 1, fun some => absurd rfl some⟩
  have allButOne {newest : List (String × Datapoint)} {older : List (List (String × Datapoint))}
      (read : responses = newest :: older) (callbacks : subscriber.callbacks = older.map Subscriber.collect)
      (away : subscriber.run ≠ .reading)
      (reason : midResponse subscriber.run = true ∨ subscriber.subscriberActive = false) :
      PassedOn responses subscriber :=
    ⟨[newest], older, read, callbacks, Nat.le_refl 1, fun _ => ⟨away, reason⟩⟩
  cases here : subscriber.run with
  | testActuators | setActive =>
      simp only [Subscriber.Faithful, here] at faithful
      exact all (by simp [faithful])
  | reading =>
      simp only [Subscriber.Faithful, here] at faithful
      exact all faithful
  | collecting | callbackTest =>
      simp only [Subscriber.Faithful, here] at faithful
      obtain ⟨newest, older, read, callbacks, -⟩ := faithful
      exact allButOne read callbacks (by simp [here]) (.inl (by simp [here, midResponse]))
  | _ =>
      simp only [Subscriber.Faithful, here] at faithful
      rcases faithful with passed | ⟨inactive, newest, older, read, callbacks⟩
      · exact all passed
      · exact allButOne read callbacks (by simp [here]) (.inr inactive)

/-- In every state, the sent and the open requests are those of the read responses in their order, where at
most the newest response is missing, because it is being collected or because of a shutdown; and when the
thread waits for the next response, every request of every response has been sent. -/
theorem requests_follow_responses (config : SomeIPConfig) (enabled : config.req.useReq = true)
    {state : State} (reached : (machine config).Reached Machine.anyStep state) :
    ∃ (calls : List (Host × List (String × Datapoint))) (dropped : List (List (String × Datapoint))),
      state.responses.reverse = calls.map Prod.snd ++ dropped ∧
      state.sent.reverse ++ state.open_ =
        calls.flatMap (fun call => requestsOf config (call.1, Subscriber.collect call.2)) ∧
      dropped.length ≤ 1 ∧
      (dropped ≠ [] → midResponse state.subscriber.run = true ∨
        state.subscriber.subscriberActive = false) ∧
      (state.subscriber.run = .reading → dropped = [] ∧ state.open_ = []) := by
  obtain ⟨faithful, called, kept, blocked⟩ := conserved_reached reached
  obtain ⟨dropped, passed, read, callbacks, short, reason⟩ := passed_on faithful
  obtain ⟨calls, passedCalls, handled⟩ := exists_calls (called.trans callbacks)
  refine ⟨calls.reverse, dropped.reverse, ?_, ?_, by simpa using short, fun some => ?_, fun waits => ?_⟩
  · rw [read, List.reverse_append, ← passedCalls, List.map_reverse]
  · rw [← kept enabled, handled, ← List.map_reverse, List.flatMap_map]
  · exact (reason (by simpa using some)).2
  · constructor
    · by_contra some
      exact (reason (by simpa using some)).1 waits
    · by_contra busy
      rw [blocked busy] at waits
      cases waits

/-- The horn mapping has one method node. -/
def hornConfig : SomeIPConfig :=
  createEnvConfig [methodMapping 18512 10 ⟨"Vehicle.Body.Horn.HornControl", "uint8[]", 0, 4, 1, ∅⟩]

/-- One response is read, and its request is sent after a wait for the service. -/
def hornEvents : List Event :=
  [.subscriber .run, .subscriber .run, .subscriber .run, .subscriber (.waitForConnectedReturned true),
    .subscriber .run, .subscriber .run, .subscriber .run,
    .subscriber (.readReturned
      (some [("Vehicle.Body.Horn.HornControl", .uint32ArrayValue [1, 0, 7, 0])])),
    .subscriber .run, .subscriber .run, .callback zeroHost, .sendRequest,
    .client (.onAvailability 18512 10 true), .waitEnded, .sendRequest, .subscriber .run]

theorem horn_executes :
    ((machine hornConfig).execute Machine.anyStep initialState hornEvents).isSome = true := by
  decide +kernel

def hornState : State :=
  ((machine hornConfig).execute Machine.anyStep initialState hornEvents).get horn_executes

/-- The thread waits for the next response, and the request of the first one has been sent. -/
theorem requests_follow_responses_horn : hornState.subscriber.run = .reading ∧
    hornState.responses.length = 1 ∧
    ∃ calls : List (Host × List (String × Datapoint)),
      hornState.responses.reverse = calls.map Prod.snd ∧
      hornState.sent.reverse =
        calls.flatMap fun call => requestsOf hornConfig (call.1, Subscriber.collect call.2) := by
  have reached : (machine hornConfig).Reached Machine.anyStep hornState :=
    Machine.reached_get horn_executes
  obtain ⟨calls, dropped, read, sent, -, -, waits⟩ := requests_follow_responses hornConfig rfl reached
  obtain ⟨rfl, done⟩ := waits rfl
  refine ⟨rfl, rfl, calls, by simpa using read, ?_⟩
  rw [← sent, done, List.append_nil]

end VehicleEdge.Adapter.Downlink
