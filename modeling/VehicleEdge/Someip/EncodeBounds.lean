import VehicleEdge.Someip.Batch

/-
This file measures how many bytes each branch of the encoder writes into the request buffer.
-/

namespace VehicleEdge.Someip

open Kuksa (Datapoint)

/-- A transform value takes the configured size, or the size of its serialized text. -/
def copyWidth (host : Host) (value : JsonValue) (size : Nat) : Nat :=
  match value with
  | .boolean _ | .string _ | .int _ | .uint _ | .real _ => size
  | .null | .array _ | .object _ =>
      if (host.serialize value).length > size then 0 else (host.serialize value).length

/-- The written width depends on the datatype and on the presence of an array field. -/
def valueWidth (node : VSSNode) (data : Datapoint) : Nat :=
  match getDataType node.datatype with
  | .bool | .uint8 | .int8 => 1
  | .uint16 | .int16 | .uint32 | .string => node.length.toNat
  | .float => 4
  | .uint8Array => if data.uint32Array.isSome then node.length.toNat else 0
  | .uint16Array => if data.uint32Array.isSome then 3 else 0
  | .int16Array => if data.int32Array.isSome then 4 else 0
  | .timestampArray => if data.int32Array.isSome then 3 else 0
  | _ => 0

/-- This is the number of bytes from the offset on that a node writes for a target value. -/
def writtenWidth (host : Host) (node : VSSNode) (data : Datapoint) : Nat :=
  if 0 < node.length then
    if 0 < node.transformMapping.entries.length then
      match node.transformMapping.lookup (transformKey data) with
      | some value => copyWidth host value node.length.toNat
      | none => 0
    else valueWidth node data
  else 0

/-- The written bytes of every named node end inside the request buffer. -/
def FitsBuffer (host : Host) (targetValues : ActuatorValues) (node : VSSNode) : Prop :=
  ∀ data, targetValues.lookup node.name = some data →
    writtenWidth host node data = 0 ∨
      node.byteOffset.toNat + writtenWidth host node data ≤ methodPayloadSize

theorem inside_memcpy (host : Host) {bound destination size : Nat} {source : List UInt8} :
    Store.Inside bound (memcpy host destination source size) ↔
      size = 0 ∨ destination + size ≤ bound := by
  rw [memcpy, Store.inside_putBytes, length_copiedBytes]

theorem copyJsonValueType_inside (host : Host) {bound payload size : Nat} (value : JsonValue) :
    Store.Inside bound (copyJsonValueType host payload value size) ↔
      copyWidth host value size = 0 ∨ payload + copyWidth host value size ≤ bound := by
  unfold copyJsonValueType copyWidth
  cases value with
  | boolean | string | int | uint | real => exact inside_memcpy host
  | null | array | object =>
      dsimp only
      split
      · simp
      · exact Store.inside_putBytes

/-- An offset plus a small constant wraps at 64 bits. -/
theorem indexed_toNat (offset : UInt64) {step : Nat} (small : step < 256) :
    (offset + UInt64.ofNat step).toNat = (offset.toNat + step) % 2 ^ 64 := by
  rw [UInt64.toNat_add, UInt64.toNat_ofNat', Nat.mod_eq_of_lt (a := step) (by omega)]

theorem inside_indexed {offset : UInt64} {count : Nat} (small : count ≤ 256) (byte : Nat → UInt8) :
    Store.Inside methodPayloadSize ((List.range count).map fun step =>
        .put (offset + UInt64.ofNat step).toNat (byte step)) ↔
      count = 0 ∨ offset.toNat + count ≤ methodPayloadSize := by
  have bound := offset.toNat_lt
  simp only [Store.Inside, List.forall_mem_map, List.mem_range, Store.index, methodPayloadSize]
  constructor
  · intro inside
    by_cases empty : count = 0
    · exact .inl empty
    · have first := inside 0 (by omega)
      have last := inside (count - 1) (by omega)
      rw [indexed_toNat offset (by omega)] at first last
      omega
  · intro fits step below
    rw [indexed_toNat offset (by omega)]
    omega

theorem encodeValue_inside (host : Host) (node : VSSNode) (data : Datapoint) :
    Store.Inside methodPayloadSize (encodeValue host node data) ↔
      valueWidth node data = 0 ∨ node.byteOffset.toNat + valueWidth node data ≤ methodPayloadSize := by
  have bound := node.byteOffset.toNat_lt
  have lengthBound := node.length.toNat_lt
  have one := indexed_toNat node.byteOffset (show 1 < 256 by decide)
  have two := indexed_toNat node.byteOffset (show 2 < 256 by decide)
  unfold encodeValue valueWidth
  cases getDataType node.datatype with
  | bool | uint8 | int8 =>
      simp only [Store.inside_cons, Store.inside_nil, Store.index, methodPayloadSize, and_true]
      omega
  | uint16 | int16 | uint32 => exact inside_memcpy host
  | string =>
      dsimp only
      rw [Store.inside_putBytes, List.length_map, List.length_range]
  | float =>
      dsimp only
      rw [floatToBytes, Store.inside_putBytes, length_littleEndian]
  | uint8Array =>
      dsimp only
      cases data.uint32Array with
      | none => simp
      | some values =>
          have aligned : Store.Inside methodPayloadSize
              (if node.length = 4 then [.move 3 2, .put 2 0] else []) := by
            split
            · simp [Store.index, methodPayloadSize]
            · simp
          rw [Store.inside_append, inside_indexed (by omega), and_iff_left aligned]
          rfl
  | uint16Array =>
      dsimp only
      cases data.uint32Array with
      | none => simp
      | some values =>
          simp only [Store.inside_cons, inside_memcpy, Store.index, methodPayloadSize, one,
            Option.isSome_some, if_true]
          omega
  | int16Array =>
      dsimp only
      cases data.int32Array with
      | none => simp
      | some values =>
          simp only [Store.inside_append, inside_memcpy, methodPayloadSize, two, Option.isSome_some,
            if_true]
          omega
  | timestampArray =>
      dsimp only
      cases data.int32Array with
      | none => simp
      | some values =>
          simp only [Store.inside_cons, inside_memcpy, Store.index, methodPayloadSize, one,
            Option.isSome_some, if_true]
          omega
  | _ => simp

/-- A node stays inside the buffer exactly when its written bytes do. -/
theorem encodeNode_inside (host : Host) (node : VSSNode) (data : Datapoint) :
    Store.Inside methodPayloadSize (encodeNode host node data) ↔
      writtenWidth host node data = 0 ∨
        node.byteOffset.toNat + writtenWidth host node data ≤ methodPayloadSize := by
  unfold encodeNode writtenWidth
  split
  · split
    · cases node.transformMapping.lookup (transformKey data) with
      | some value => exact copyJsonValueType_inside host value
      | none => simp
    · exact encodeValue_inside host node data
  · simp

theorem nodeStores_inside (host : Host) (targetValues : ActuatorValues)
    (entry : SOMEIPConfigdata × VSSNode) :
    Store.Inside methodPayloadSize (nodeStores host targetValues entry) ↔
      FitsBuffer host targetValues entry.2 := by
  unfold nodeStores FitsBuffer
  cases targetValues.lookup entry.2.name with
  | none => simp
  | some data => simp [encodeNode_inside]

/-- The stores of a call stay inside the buffer exactly when every named method node fits. -/
theorem call_inside (host : Host) (client : Bool) (targetValues : ActuatorValues)
    (vssMap : List VSSConfigInfo) :
    Store.Inside methodPayloadSize (onActuatorChange host client targetValues vssMap).stores ↔
      ∀ entry ∈ methodNodes vssMap, FitsBuffer host targetValues entry.2 := by
  rw [onActuatorChange_stores, Store.inside_flatMap]
  simp only [nodeStores_inside]

/-- Every written byte is inside the buffer exactly when the fields of all named method nodes are. -/
theorem encoding_stays_inside (host : Host) (client : Bool) (targetValues : ActuatorValues)
    (vssMap : List VSSConfigInfo) :
    (∀ store ∈ (onActuatorChange host client targetValues vssMap).stores,
        store.index < methodPayloadSize) ↔
      ∀ mapping ∈ vssMap, mapping.metaData.serviceType = "Method" →
        ∀ node ∈ mapping.vssNodes, FitsBuffer host targetValues node := by
  refine (call_inside host client targetValues vssMap).trans ?_
  constructor
  · intro fits mapping member isMethod node inNodes
    exact fits (mapping.metaData, node)
      (mem_methodNodes.mpr ⟨mapping, member, isMethod, rfl, inNodes⟩)
  · intro fits entry member
    obtain ⟨mapping, inMap, isMethod, -, inNodes⟩ := mem_methodNodes.mp member
    exact fits mapping inMap isMethod entry.2 inNodes

/-- This node puts a 32-bit value at offset four of the six-byte buffer. -/
def lateNode : VSSNode where
  name := "Vehicle.Cabin.Light.Intensity"
  datatype := "uint32"
  byteOffset := 4
  length := 4
  methodId := 1
  transformMapping := ∅

def lateMapping : VSSConfigInfo where
  metaData := ⟨"Method", 39936, 5, 2, 0, 0, 1, 0⟩
  vssNodes := [lateNode]

theorem encoding_leaves_buffer :
    ¬ ∀ store ∈ (onActuatorChange zeroHost true
        (collectChanges [("Vehicle.Cabin.Light.Intensity", some (.uint32Value 7))])
        [lateMapping]).stores, store.index < methodPayloadSize := by
  decide

end VehicleEdge.Someip
