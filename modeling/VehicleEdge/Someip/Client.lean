import Mathlib.Data.Finset.Basic
import VehicleEdge.Someip.Config

/-
This file models `SomeIPClient`: its calls to the vsomeip application, its callbacks, and its shutdown.
-/

namespace VehicleEdge.Someip

/-- These are the calls of the client to the vsomeip application. -/
inductive AppCall where
  | registerHandlers
  | clearAllHandler
  | requestService (service instance_ : UInt16) (major : UInt8) (minor : UInt32)
  | releaseService (service instance_ : UInt16)
  | requestEvent (service instance_ event eventGroup : UInt16)
  | releaseEvent (service instance_ event : UInt16)
  | subscribe (service instance_ eventGroup : UInt16) (major : UInt8) (event : UInt16)
  | unsubscribe (service instance_ eventGroup event : UInt16)
  | stop
  deriving DecidableEq

/-- An event is addressed by its service, its instance, and its id. -/
abbrev EventKey := UInt16 × UInt16 × UInt16

/-- The application holds a set of subscriptions and a set of requested events. -/
structure Held where
  subscriptions : Finset EventKey := ∅
  requests : Finset EventKey := ∅

/-- A call adds or removes one event. -/
def Held.after (held : Held) : AppCall → Held
  | .requestEvent service instance_ event _ =>
      { held with requests := insert (service, instance_, event) held.requests }
  | .releaseEvent service instance_ event =>
      { held with requests := held.requests.erase (service, instance_, event) }
  | .subscribe service instance_ _ _ event =>
      { held with subscriptions := insert (service, instance_, event) held.subscriptions }
  | .unsubscribe service instance_ _ event =>
      { held with subscriptions := held.subscriptions.erase (service, instance_, event) }
  | _ => held

/-- The sum of the event id and the counter is passed in 16 bits. -/
def eventAt (config : SomeIPConfig) (i : Nat) : UInt16 := UInt16.ofNat (config.event.toNat + i)

/-- The loop requests and subscribes the events up to an offset of 33. -/
def initEventService (config : SomeIPConfig) : List AppCall :=
  (List.range 34).flatMap fun i =>
    [.requestEvent config.service config.instance_ (eventAt config i) config.eventGroup,
      .subscribe config.service config.instance_ config.eventGroup config.serviceMajor (eventAt config i)]

/-- The client keeps its flags and, as a history, its calls in order. -/
structure Client where
  stopRequested : Bool := false
  initialized : Bool := false
  reqServiceAvailable : Bool := false
  calls : List AppCall := []

/-- These functions of the client are called by its owner and by the application. -/
inductive ClientEvent where
  | init (initialized : Bool)
  | onState (registered : Bool)
  | onAvailability (service instance_ : UInt16) (isAvailable : Bool)
  | shutdown
  deriving DecidableEq

namespace Client

variable (config : SomeIPConfig) (client : Client)

/-- The client stops before any further call when the application cannot be initialized. -/
def init (initialized : Bool) : Client :=
  if initialized then
    { client with
      initialized := true
      calls := client.calls ++ .registerHandlers :: initEventService config }
  else client

def onState (registered : Bool) : Client :=
  if registered then
    { client with
      calls := client.calls ++
        .requestService config.service config.instance_ config.serviceMajor config.serviceMinor ::
          if config.req.useReq then
            [.requestService config.req.service config.req.instance_ config.req.serviceMajor
              config.req.serviceMinor]
          else [] }
  else client

/-- The event service is subscribed again or unsubscribed, and then the request service is marked. -/
def onAvailability (service instance_ : UInt16) (isAvailable : Bool) : Client :=
  { client with
    calls := client.calls ++
      if service = config.service ∧ instance_ = config.instance_ then
        if isAvailable then initEventService config
        else [.unsubscribe config.service config.instance_ config.eventGroup config.event]
      else []
    reqServiceAvailable :=
      if service = config.req.service ∧ instance_ = config.req.instance_ then isAvailable
      else client.reqServiceAvailable }

/-- The application is stopped only when it has been initialized. -/
def stop : Client :=
  { client with
    reqServiceAvailable := false
    calls := client.calls ++
      ([.clearAllHandler,
        .unsubscribe config.service config.instance_ config.eventGroup config.event,
        .releaseEvent config.service config.instance_ config.event,
        .releaseService config.service config.instance_] ++
        (if config.req.useReq then [.releaseService config.req.service config.req.instance_] else []) ++
        if client.initialized then [.stop] else []) }

/-- Only the first shutdown stops the client. -/
def shutdown : Client :=
  if client.stopRequested then client else stop config { client with stopRequested := true }

def step : ClientEvent → Client
  | .init initialized => client.init config initialized
  | .onState registered => client.onState config registered
  | .onAvailability service instance_ isAvailable =>
      client.onAvailability config service instance_ isAvailable
  | .shutdown => client.shutdown config

/-- These are the sets that the application holds for the client. -/
def held : Held := client.calls.foldl Held.after {}

/-- A new client takes the events in order. -/
def run (events : List ClientEvent) : Client := events.foldl (step config) {}

end Client

end VehicleEdge.Someip
