import VehicleEdge.Cloud.Proto
import VehicleEdge.Library.KeyedMap
import VehicleEdge.Library.Machine

/-
This file models the connection object of the cloud connector and its two threads.
The application thread runs `publishSignal`, and the connection thread calls `publishState` in a loop.
A step is one statement of one thread.
-/

namespace VehicleEdge.Cloud

/-- A publication of the vehicle state has a payload and a retain flag. -/
structure Publication (Payload : Type) where
  payload : Payload
  retain : Bool
  deriving DecidableEq

/-- The field `published` is a history with the newest publication last. -/
structure AWSConnection (Value Payload : Type) where
  stateUpdateRateMs : Int
  idleStateTriggerTimeMs : Int
  idleStatePublishIntervall : Int
  lastStatePublish : Int
  lastReceiveTime : Int
  userDefinedStateUpdateRateMs : Int
  proto : Proto Value
  deviceState : KeyedMap String Value
  protoMapping : KeyedMap String Path
  binary : Bool
  needTransmit : Bool
  statePublishRetain : Bool
  awsConnectionOk : Bool
  published : List (Publication Payload)

def statePublishIntervallMs : Int := 1000

def idleStatePublishIntervallMs : Int := 5000

def idleStateTriggerTimeMs : Int := 600000

variable {Value Payload : Type}

/-- The constructor reads the clock twice. -/
def AWSConnection.new (Value Payload : Type) (lastStatePublish lastReceiveTime : Int) :
    AWSConnection Value Payload where
  stateUpdateRateMs := statePublishIntervallMs
  idleStateTriggerTimeMs := Cloud.idleStateTriggerTimeMs
  idleStatePublishIntervall := idleStatePublishIntervallMs
  lastStatePublish := lastStatePublish
  lastReceiveTime := lastReceiveTime
  userDefinedStateUpdateRateMs := statePublishIntervallMs
  proto := Proto.empty Value
  deviceState := ∅
  protoMapping := ∅
  binary := true
  needTransmit := false
  statePublishRetain := true
  awsConnectionOk := false
  published := []

/-- The application thread is outside of `publishSignal` or before one of its statements. -/
inductive SignalPoint (Value : Type) where
  | idle
  | deviceState (signalName : String) (signalValue : Value)
  | split (signalName : String) (signalValue : Value)
  | mappingTest (signalName : String) (signalValue : Value)
  | descend (signalName : String) (signalValue : Value) (protoNode : Path) (nodes : List String)
  | labelTest (signalName : String) (signalValue : Value)
  | setattr (signalName : String) (signalValue : Value)
  | getattr (signalName : String) (signalValue : Value)
  | delete (signalValue : Value) (repeatedAttr : Path)
  | extend (signalValue : Value) (repeatedAttr : Path)
  | setNeedTransmit

/-- An exception is printed, and the call ends without the flag. -/
def publishSignal (protobuf : Protobuf Value Payload) (schema : Schema)
    (connection : AWSConnection Value Payload) :
    SignalPoint Value → AWSConnection Value Payload × SignalPoint Value
  | .idle => (connection, .idle)
  | .deviceState signalName signalValue =>
      ({ connection with deviceState := connection.deviceState.insert signalName signalValue },
        .split signalName signalValue)
  | .split signalName signalValue => (connection, .mappingTest signalName signalValue)
  | .mappingTest signalName signalValue =>
      if signalName ∈ connection.protoMapping then (connection, .labelTest signalName signalValue)
      else (connection, .descend signalName signalValue [] (nodePath signalName))
  | .descend signalName signalValue protoNode (node :: nodes) =>
      match Cloud.getattr schema protoNode node with
      | some child => (connection, .descend signalName signalValue child nodes)
      | none => (connection, .idle)
  -- The loop is over, and the node is stored under the name of the signal.
  | .descend signalName signalValue protoNode [] =>
      ({ connection with protoMapping := connection.protoMapping.insert signalName protoNode },
        .labelTest signalName signalValue)
  | .labelTest signalName signalValue =>
      match (connection.protoMapping.lookup signalName).bind fun node =>
        fieldLabel schema node (fieldName signalName) with
      | some label =>
          (connection,
            if label ≠ 3 then .setattr signalName signalValue else .getattr signalName signalValue)
      | none => (connection, .idle)
  | .setattr signalName signalValue =>
      match (connection.protoMapping.lookup signalName).bind fun node =>
        Cloud.setattr protobuf schema connection.proto node (fieldName signalName) signalValue with
      | some proto => ({ connection with proto := proto }, .setNeedTransmit)
      | none => (connection, .idle)
  | .getattr signalName signalValue =>
      match (connection.protoMapping.lookup signalName).bind fun node =>
        Cloud.getattr schema node (fieldName signalName) with
      | some repeatedAttr => (connection, .delete signalValue repeatedAttr)
      | none => (connection, .idle)
  | .delete signalValue repeatedAttr =>
      ({ connection with proto := deleteAll connection.proto repeatedAttr },
        .extend signalValue repeatedAttr)
  | .extend signalValue repeatedAttr =>
      match Cloud.extend protobuf schema connection.proto repeatedAttr signalValue with
      | some proto => ({ connection with proto := proto }, .setNeedTransmit)
      | none => (connection, .idle)
  | .setNeedTransmit => ({ connection with needTransmit := true }, .idle)

/-- The connection thread is before one of these statements. -/
inductive AwsPoint where
  | connecting
  | sleeping
  | idleTest (currentTime : Int)
  | entering
  | timeDiff (currentTime : Int)
  | connectionTest (currentTime timeDiffMs : Int)
  | accumulate (currentTime timeDiffMs : Int)
  | transmitTest (currentTime : Int)
  | publishing (currentTime : Int)
  | stamping (currentTime : Int)
  | clearing
  deriving DecidableEq, Repr

/-- The argument `now` is the clock of this step, and `raises` is the outcome of a publication. -/
def publishState (protobuf : Protobuf Value Payload) (connection : AWSConnection Value Payload)
    (now : Int) (raises : Bool) : AwsPoint → AWSConnection Value Payload × AwsPoint
  | .connecting => ({ connection with awsConnectionOk := true }, .sleeping)
  | .sleeping => (connection, .idleTest now)
  | .idleTest currentTime =>
      (if currentTime - connection.lastReceiveTime > Cloud.idleStateTriggerTimeMs then
        { connection with stateUpdateRateMs := idleStatePublishIntervallMs } else connection, .entering)
  | .entering => (connection, .timeDiff now)
  | .timeDiff currentTime =>
      (connection, .connectionTest currentTime (currentTime - connection.lastStatePublish))
  | .connectionTest currentTime timeDiffMs =>
      (connection, if connection.awsConnectionOk then .accumulate currentTime timeDiffMs else .sleeping)
  | .accumulate currentTime timeDiffMs =>
      ({ connection with needTransmit := connection.needTransmit || decide (timeDiffMs > 500) },
        .transmitTest currentTime)
  -- The other protocol transmits nothing.
  | .transmitTest currentTime =>
      (connection,
        if connection.binary && connection.needTransmit then .publishing currentTime else .sleeping)
  | .publishing currentTime =>
      if raises then (connection, .sleeping)
      else
        ({ connection with
            published := connection.published ++
              [⟨protobuf.serializeToString connection.proto, connection.statePublishRetain⟩] },
          .stamping currentTime)
  | .stamping currentTime => ({ connection with lastStatePublish := currentTime }, .clearing)
  | .clearing => ({ connection with needTransmit := false }, .sleeping)

/-- The two threads share the connection. -/
structure State (Value Payload : Type) where
  connection : AWSConnection Value Payload
  signal : SignalPoint Value
  aws : AwsPoint

/-- An event starts a call of `publishSignal` or steps one of the threads. -/
inductive Event (Value : Type) where
  | call (signalName : String) (signalValue : Value)
  | application
  | aws (now : Int) (raises : Bool)

/-- The event loop of the application runs one call at a time. -/
def connectorStep (protobuf : Protobuf Value Payload) (schema : Schema) (state : State Value Payload) :
    Event Value → Option (State Value Payload)
  | .call signalName signalValue =>
      match state.signal with
      | .idle => some { state with signal := .deviceState signalName signalValue }
      | _ => none
  | .application =>
      match state.signal with
      | .idle => none
      | point =>
          let next := publishSignal protobuf schema state.connection point
          some { state with connection := next.1, signal := next.2 }
  | .aws now raises =>
      let next := publishState protobuf state.connection now raises state.aws
      some { state with connection := next.1, aws := next.2 }

def connector (protobuf : Protobuf Value Payload) (schema : Schema)
    (lastStatePublish lastReceiveTime : Int) : Machine (State Value Payload) (Event Value) where
  initial := ⟨.new Value Payload lastStatePublish lastReceiveTime, .idle, .connecting⟩
  step := connectorStep protobuf schema

end VehicleEdge.Cloud
