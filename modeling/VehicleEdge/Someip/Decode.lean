import VehicleEdge.Library.ByteMemory
import VehicleEdge.Someip.Config

/-
This file models `on_someip_message`, which reads event fields and feeds them to the broker.
The indices that it reads are kept, so that a read past the payload stays visible.
-/

namespace VehicleEdge.Someip

open Sdv (Datapoint)

/-- A received payload has a length of type `size_t`. -/
structure Payload where
  bytes : List UInt8
  addressable : bytes.length < 2 ^ 64

/-- A read past the payload sees the bytes that follow it. -/
def Payload.read (host : Host) (payload : Payload) (index : Nat) : UInt8 :=
  payload.bytes.getD index (host.pastPayload index)

/-- The bytes are reversed before they are read as a pattern. -/
def bytesToFloat (data : Nat → UInt8) : UInt32 :=
  UInt32.ofNat (ofLittleEndian [data 3, data 2, data 1, data 0])

def floatToInt32 (host : Host) (bits : UInt32) : Int32 :=
  match BinaryFormat.single.truncate bits.toNat with
  | some number =>
      if -2 ^ 31 ≤ number ∧ number < 2 ^ 31 then Int32.ofInt number else host.floatToInt bits
  | none => host.floatToInt bits

/-- A transform value becomes a datapoint by its JSON type. -/
def createDatapoint (value : JsonValue) : Datapoint :=
  match value with
  | .boolean flag => .boolValue flag
  | .string text => .stringValue (JsonValue.utf8 text)
  | .int _ | .uint _ | .real _ =>
      let doubleValue := match value with
        | .real bits => Datapoint.doubleValue bits
        | _ => .notSet
      match value.integralValue with
      | some number =>
          if -2 ^ 31 ≤ number ∧ number < 2 ^ 31 then .int32Value (Int32.ofInt number)
          else if 0 ≤ number ∧ number < 2 ^ 32 then .uint32Value (UInt32.ofNat number.toNat)
          else if -2 ^ 63 ≤ number ∧ number < 2 ^ 63 then .int64Value (Int64.ofInt number)
          else if 0 ≤ number ∧ number < 2 ^ 64 then .uint64Value (UInt64.ofNat number.toNat)
          else doubleValue
      | none => doubleValue
  | .null | .array _ | .object _ => .notSet

/-- A decoded field has a value only when its datatype has a branch. -/
structure Field where
  reads : List Nat
  tmpValue : Int32
  value : Option Datapoint
  deriving DecidableEq

/-- A node is read by its datatype. -/
def decodeField (host : Host) (payload : Payload) (node : VSSNode) : Field :=
  let offset := node.byteOffset.toNat
  let next := (node.byteOffset + 1).toNat
  match getDataType node.datatype with
  | .bool =>
      let tmpValue := (payload.read host offset).toUInt32.toInt32
      ⟨[offset], tmpValue, some (.boolValue (tmpValue != 0))⟩
  | .uint8 =>
      let tmpValue := (payload.read host offset).toUInt32.toInt32
      ⟨[offset], tmpValue, some (.uint32Value tmpValue.toUInt32)⟩
  | .uint16 =>
      let word := (payload.read host next).toUInt16 ||| ((payload.read host offset).toUInt16 <<< 8)
      let tmpValue := word.toUInt32.toInt32
      ⟨[next, offset], tmpValue, some (.uint32Value tmpValue.toUInt32)⟩
  | .int16 =>
      let word := (payload.read host next).toUInt16 ||| ((payload.read host offset).toUInt16 <<< 8)
      let tmpValue := word.toInt16.toInt32
      ⟨[next, offset], tmpValue, some (.int32Value tmpValue)⟩
  | .int8 =>
      let tmpValue := (payload.read host offset).toInt8.toInt32
      ⟨[offset], tmpValue, some (.int32Value tmpValue)⟩
  | .uint32 =>
      let indices := List.range' offset 4
      let unsignedIntValue := UInt32.ofNat (ofLittleEndian (indices.map (payload.read host)))
      let tmpValue := unsignedIntValue.toInt32
      ⟨indices, tmpValue, some (.uint32Value tmpValue.toUInt32)⟩
  | .float =>
      let bits := bytesToFloat fun lane => payload.read host (offset + lane)
      ⟨List.range' offset 4, floatToInt32 host bits, some (.floatValue bits)⟩
  | .string =>
      let indices := List.range' offset node.length.toNat
      ⟨indices, 0, some (.stringValue (indices.map (payload.read host)))⟩
  | _ => ⟨[], 0, none⟩

/-- A feed is one call of `FeedValue` with the name of the node. -/
structure Feed where
  node : VSSNode
  value : Datapoint

/-- The frame of `on_someip_message` keeps its feeds and its reads as a history. -/
structure MessageFrame where
  value : Datapoint
  feeds : List Feed
  reads : List Nat

/-- A transform replaces the value or stops the feed. -/
def transformField (node : VSSNode) (field : Field) (value : Datapoint) : Datapoint × Bool :=
  if 0 < node.transformMapping.entries.length then
    match node.transformMapping.lookup (toString field.tmpValue.toInt) with
    | some json => (createDatapoint json, true)
    | none => (value, false)
  else (value, field.value.isSome)

/-- One addressed node is decoded, transformed, and fed. -/
def feedNode (host : Host) (payload : Payload) (frame : MessageFrame) (node : VSSNode) : MessageFrame :=
  let field := decodeField host payload node
  let (value, feedValue) := transformField node field (field.value.getD frame.value)
  { value := value
    feeds := if feedValue then frame.feeds ++ [⟨node, value⟩] else frame.feeds
    reads := frame.reads ++ field.reads }

/-- The inner loop takes the nodes of the received method. -/
def visitEvent (host : Host) (methodId : UInt16) (payload : Payload) (frame : MessageFrame)
    (node : VSSNode) : MessageFrame :=
  if node.methodId = methodId then
    if 0 < node.length then feedNode host payload frame node else frame
  else frame

/-- The outer loop visits the nodes of every event mapping when the service is the configured one. -/
def onSomeipMessage (host : Host) (config : SomeIPConfig) (serviceId instanceId methodId : UInt16)
    (payload : Payload) : MessageFrame :=
  config.vssMap.foldl (fun frame mapping =>
    if mapping.metaData.serviceType = "Event" ∧ serviceId = config.service ∧
        instanceId = config.instance_ then
      mapping.vssNodes.foldl (visitEvent host methodId payload) frame
    else frame) ⟨.notSet, [], []⟩

end VehicleEdge.Someip
