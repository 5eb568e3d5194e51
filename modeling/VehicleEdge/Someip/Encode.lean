import VehicleEdge.Library.ByteMemory
import VehicleEdge.Someip.Config

/-
This file models `on_actuator_change`, which writes target values into one request buffer.
A branch is the list of its byte stores, so that a store outside the buffer stays visible.
-/

namespace VehicleEdge.Someip

open Kuksa (Datapoint)

/-- This is `SOMEIP_METHOD_PAYLOAD_SIZE`. -/
def methodPayloadSize : Nat := 6

/-- The callback of the subscriber receives one target value for each changed path. -/
abbrev ActuatorValues := KeyedMap String Datapoint

/-- The subscriber keeps the first update of a path, and an update without a value is an empty datapoint. -/
def collectChanges (updates : List (String × Option Datapoint)) : ActuatorValues :=
  updates.foldl (fun changes update => KeyedMap.insertNew changes update.1 (update.2.getD .notSet)) ∅

/-- The copied size is not bounded by the size of the source object. -/
def memcpy (host : Host) (destination : Nat) (source : List UInt8) (size : Nat) : List Store :=
  Store.putBytes destination (copiedBytes source (host.pastSource source) size)

/-- The numeric tests run in this order, and each one has its own object size. -/
def numberBytes (value : JsonValue) : List UInt8 :=
  let doubleBytes := match value with
    | .real bits => littleEndian 8 bits.toNat
    | _ => []
  match value.integralValue with
  | some number =>
      if -2 ^ 31 ≤ number ∧ number < 2 ^ 31 then littleEndian 4 (number % 2 ^ 32).toNat
      else if 0 ≤ number ∧ number < 2 ^ 32 then littleEndian 4 number.toNat
      else if -2 ^ 63 ≤ number ∧ number < 2 ^ 63 then littleEndian 8 (number % 2 ^ 64).toNat
      else if 0 ≤ number ∧ number < 2 ^ 64 then littleEndian 8 number.toNat
      else doubleBytes
  | none => doubleBytes

/-- A transform value is copied by its JSON type. -/
def copyJsonValueType (host : Host) (payload : Nat) (value : JsonValue) (size : Nat) : List Store :=
  match value with
  | .boolean flag => memcpy host payload [if flag then 1 else 0] size
  | .string text => memcpy host payload (JsonValue.utf8 text ++ [0]) size
  | .int _ | .uint _ | .real _ => memcpy host payload (numberBytes value) size
  | .null | .array _ | .object _ =>
      let serializedJson := host.serialize value
      if serializedJson.length > size then [] else Store.putBytes payload serializedJson

/-- The array branches read an element without a test of the array size. -/
def uint32Element (host : Host) (values : List UInt32) (index : Nat) : UInt32 :=
  values.getD index (host.pastArray index)

def int32Element (host : Host) (values : List Int32) (index : Nat) : Int32 :=
  values.getD index (host.pastArray index).toInt32

def swapBytes (word : UInt16) : UInt16 := (word >>> 8) ||| (word <<< 8)

def floatToBytes (bits : UInt32) (data : Nat) : List Store :=
  Store.putBytes data (littleEndian 4 bits.toNat)

/-- A node without a transform is written by its datatype. -/
def encodeValue (host : Host) (node : VSSNode) (data : Datapoint) : List Store :=
  let offset := node.byteOffset.toNat
  -- an offset plus a constant is computed in 64 bits before it indexes the buffer
  let indexed (step : Nat) := (node.byteOffset + UInt64.ofNat step).toNat
  match getDataType node.datatype with
  | .bool => [.put offset (if data.bool_ then 1 else 0)]
  | .uint8 => [.put offset data.uint32.toUInt8]
  | .int8 => [.put offset data.int32.toInt8.toUInt8]
  | .uint8Array =>
      match data.uint32Array with
      | some values =>
          (List.range node.length.toNat).map
              (fun step => .put (indexed step) (uint32Element host values step).toUInt8) ++
            if node.length = 4 then [.move 3 2, .put 2 0] else []
      | none => []
  | .uint16 => memcpy host offset (littleEndian 2 data.uint32.toUInt16.toNat) node.length.toNat
  | .uint16Array =>
      match data.uint32Array with
      | some values =>
          -- the swapped element keeps its 32-bit type, and two of its bytes are copied
          let element := uint32Element host values 1
          let swapped := (element >>> 8) ||| (element <<< 8)
          .put offset (uint32Element host values 0).toUInt8 ::
            memcpy host (indexed 1) (littleEndian 4 swapped.toNat) 2
      | none => []
  | .int16 => memcpy host offset (littleEndian 2 data.int32.toUInt32.toUInt16.toNat) node.length.toNat
  | .int16Array =>
      match data.int32Array with
      | some values =>
          let first := swapBytes (int32Element host values 0).toUInt32.toUInt16
          let second := swapBytes (int32Element host values 1).toUInt32.toUInt16
          memcpy host offset (littleEndian 2 first.toNat) 2 ++
            memcpy host (indexed 2) (littleEndian 2 second.toNat) 2
      | none => []
  | .timestampArray =>
      match data.int32Array with
      | some values =>
          let second := swapBytes (int32Element host values 1).toUInt32.toUInt16
          .put offset (int32Element host values 0).toInt8.toUInt8 ::
            memcpy host (indexed 1) (littleEndian 2 second.toNat) 2
      | none => []
  | .uint32 => memcpy host offset (littleEndian 4 data.uint32.toNat) node.length.toNat
  | .float => floatToBytes data.float_ offset
  -- the copy starts at the string object and not at its characters
  | .string =>
      Store.putBytes offset ((List.range node.length.toNat).map (host.stringObject data.string))
  | _ => []

/-- A transform is looked up by the text of the boolean field. -/
def transformKey (data : Datapoint) : String := if data.bool_ then "1" else "0"

/-- The node of a named target writes nothing when its length is zero. -/
def encodeNode (host : Host) (node : VSSNode) (data : Datapoint) : List Store :=
  if 0 < node.length then
    if 0 < node.transformMapping.entries.length then
      match node.transformMapping.lookup (transformKey data) with
      | some value => copyJsonValueType host node.byteOffset.toNat value node.length.toNat
      | none => []
    else encodeValue host node data
  else []

/-- A request is one call of `SendRequest`; its position is a history of the loop. -/
structure Request where
  service : UInt16
  instance_ : UInt16
  method : UInt16
  payload : List UInt8
  position : Nat
  deriving DecidableEq

/-- The frame of `on_actuator_change` keeps its stores and its loop position as a history. -/
structure ActuatorFrame where
  vssPayload : Memory
  stores : List Store
  requests : List Request
  position : Nat

/-- The buffer is cleared once, before the loops. -/
def ActuatorFrame.initial : ActuatorFrame := ⟨fun _ => 0, [], [], 0⟩

def payloadBytes (vssPayload : Memory) : List UInt8 := (List.range methodPayloadSize).map vssPayload

/-- The request guard tests the client and the three ids. -/
def sends (client : Bool) (metaData : SOMEIPConfigdata) (node : VSSNode) : Bool :=
  client && metaData.serviceID != 0 && metaData.instanceID != 0 && node.methodId != 0

/-- The inner loop writes one node and sends its request. -/
def visitActuator (host : Host) (client : Bool) (targetValues : ActuatorValues)
    (metaData : SOMEIPConfigdata) (frame : ActuatorFrame) (node : VSSNode) : ActuatorFrame :=
  match targetValues.lookup node.name with
  | none => { frame with position := frame.position + 1 }
  | some data =>
      let stores := encodeNode host node data
      let vssPayload := Store.run frame.vssPayload stores
      { vssPayload := vssPayload
        stores := frame.stores ++ stores
        requests :=
          if sends client metaData node then
            frame.requests ++ [⟨metaData.serviceID, metaData.instanceID, node.methodId,
              payloadBytes vssPayload, frame.position⟩]
          else frame.requests
        position := frame.position + 1 }

/-- The outer loop visits the nodes of every method mapping. -/
def onActuatorChange (host : Host) (client : Bool) (targetValues : ActuatorValues)
    (vssMap : List VSSConfigInfo) : ActuatorFrame :=
  vssMap.foldl (fun frame mapping =>
    if mapping.metaData.serviceType = "Method" then
      mapping.vssNodes.foldl (visitActuator host client targetValues mapping.metaData) frame
    else frame) ActuatorFrame.initial

end VehicleEdge.Someip
