import VehicleEdge.Someip.Batch
import VehicleEdge.Someip.DecodeBounds

/-
This file encodes one scalar with `on_actuator_change` and decodes it with `on_someip_message`.
-/

namespace VehicleEdge.Someip

/-- A scalar is a value of one of the types that both directions support. -/
inductive Scalar where
  | bool (value : Bool)
  | uint8 (value : UInt8)
  | int8 (value : Int8)
  | uint16 (value : UInt16)
  | int16 (value : Int16)
  | uint32 (value : UInt32)
  | float (bits : UInt32)
  | string (text : List UInt8)

namespace Scalar

def dataType : Scalar → Sdv.DataType
  | .bool _ => .bool
  | .uint8 _ => .uint8
  | .int8 _ => .int8
  | .uint16 _ => .uint16
  | .int16 _ => .int16
  | .uint32 _ => .uint32
  | .float _ => .float
  | .string _ => .string

def width : Scalar → Nat
  | .bool _ | .uint8 _ | .int8 _ => 1
  | .uint16 _ | .int16 _ => 2
  | .uint32 _ | .float _ => 4
  | .string text => text.length

/-- The broker sends the scalar as this target value. -/
def target : Scalar → Kuksa.Datapoint
  | .bool value => .boolValue value
  | .uint8 value => .uint32Value value.toUInt32
  | .int8 value => .int32Value value.toInt32
  | .uint16 value => .uint32Value value.toUInt32
  | .int16 value => .int32Value value.toInt32
  | .uint32 value => .uint32Value value
  | .float bits => .floatValue bits
  | .string text => .stringValue text

/-- The adapter feeds the same scalar as this value. -/
def fed : Scalar → Sdv.Datapoint
  | .bool value => .boolValue value
  | .uint8 value => .uint32Value value.toUInt32
  | .int8 value => .int32Value value.toInt32
  | .uint16 value => .uint32Value value.toUInt32
  | .int16 value => .int32Value value.toInt32
  | .uint32 value => .uint32Value value
  | .float bits => .floatValue bits
  | .string text => .stringValue text

/-- A list of bytes is the same in both byte orders. -/
def Palindrome (bytes : List UInt8) : Prop := bytes.reverse = bytes

/-- The two directions disagree on the byte order of words and patterns, and the encoder copies the
string object in place of its text. -/
def Preserved (host : Host) : Scalar → Prop
  | .bool _ | .uint8 _ | .int8 _ | .uint32 _ => True
  | .uint16 value => Palindrome (littleEndian 2 value.toNat)
  | .int16 value => Palindrome (littleEndian 2 value.toUInt16.toNat)
  | .float bits => Palindrome (littleEndian 4 bits.toNat)
  | .string text => text ≠ [] ∧ (List.range text.length).map (host.stringObject text) = text

/-- These bytes are written for the scalar. -/
def encodedBytes (host : Host) : Scalar → List UInt8
  | .bool value => [if value then 1 else 0]
  | .uint8 value => [value]
  | .int8 value => [value.toUInt8]
  | .uint16 value => littleEndian 2 value.toNat
  | .int16 value => littleEndian 2 value.toUInt16.toNat
  | .uint32 value => littleEndian 4 value.toNat
  | .float bits => littleEndian 4 bits.toNat
  | .string text => (List.range text.length).map (host.stringObject text)

theorem length_encodedBytes (host : Host) (scalar : Scalar) :
    (scalar.encodedBytes host).length = scalar.width := by
  cases scalar <;> simp [encodedBytes, width]

end Scalar

/-- A layout places a scalar in the request buffer, with the width of its type as the length. -/
structure Layout (scalar : Scalar) where
  datatype : String
  byteOffset : UInt64
  length : UInt8
  spelled : getDataType datatype = scalar.dataType
  sized : length.toNat = scalar.width
  inside : byteOffset.toNat + scalar.width ≤ methodPayloadSize

namespace Layout

variable {scalar : Scalar} (layout : Layout scalar)

def node (name : String) (methodId : UInt16) : VSSNode where
  name := name
  datatype := layout.datatype
  byteOffset := layout.byteOffset
  length := layout.length
  methodId := methodId
  transformMapping := ∅

end Layout

/-- A call builds the payload that is in the buffer at its end. -/
def builtPayload (frame : ActuatorFrame) : Payload where
  bytes := payloadBytes frame.vssPayload
  addressable := by simp [payloadBytes, methodPayloadSize]

def methodMapping (serviceId instanceId : UInt16) (node : VSSNode) : VSSConfigInfo where
  metaData := ⟨"Method", serviceId, instanceId, 0, 0, 0, 1, 0⟩
  vssNodes := [node]

def eventMapping (serviceId instanceId : UInt16) (node : VSSNode) : VSSConfigInfo where
  metaData := ⟨"Event", serviceId, instanceId, 0, node.methodId, 1, 1, 0⟩
  vssNodes := [node]

/-- The values fed for the payload that is built for the scalar alone. -/
def decodedValues (host : Host) (serviceId instanceId methodId : UInt16) (name : String) (scalar : Scalar)
    (layout : Layout scalar) : List Sdv.Datapoint :=
  let frame := onActuatorChange host true (collectChanges [(name, some scalar.target)])
    [methodMapping serviceId instanceId (layout.node name methodId)]
  let config := createEnvConfig [eventMapping serviceId instanceId (layout.node name methodId)]
  (onSomeipMessage host config serviceId instanceId methodId (builtPayload frame)).feeds.map Feed.value

section Encoding

theorem lookup_collectChanges (name : String) (data : Kuksa.Datapoint) :
    (collectChanges [(name, some data)]).lookup name = some data := by
  simp [collectChanges, KeyedMap.lookup_insertNew]

/-- Widening a signed word keeps its low bytes. -/
theorem toUInt16_toInt32 (value : Int16) : value.toInt32.toUInt32.toUInt16 = value.toUInt16 := by
  rw [← UInt16.toBitVec_inj]
  have narrow : BitVec.setWidth 16 (BitVec.signExtend 32 value.toBitVec) = value.toBitVec := by
    ext lane below
    simp only [BitVec.getElem_setWidth, BitVec.getLsbD_signExtend]
    grind
  simpa using narrow

/-- A copy of the low bytes of a word. -/
theorem memcpy_littleEndian (host : Host) (destination number : Nat) {width count : Nat}
    (narrow : count ≤ width) :
    memcpy host destination (littleEndian width number) count =
      Store.putBytes destination (littleEndian count number) := by
  rw [memcpy, copiedBytes_littleEndian _ number narrow]

variable (host : Host) (scalar : Scalar) (layout : Layout scalar) (name : String) (methodId : UInt16)

/-- The node of a scalar writes its bytes at its offset. -/
theorem encodeValue_scalar :
    encodeValue host (layout.node name methodId) scalar.target =
      Store.putBytes layout.byteOffset.toNat (scalar.encodedBytes host) := by
  have type := layout.spelled
  have size := layout.sized
  unfold encodeValue
  simp only [Layout.node, type, size]
  cases scalar with
  | bool | float | string => rfl
  | uint8 | int8 =>
      simp [Scalar.dataType, Scalar.target, Scalar.encodedBytes, Store.putBytes, Kuksa.Datapoint.uint32,
        Kuksa.Datapoint.int32]
  | uint16 | uint32 =>
      simp [Scalar.dataType, Scalar.target, Scalar.encodedBytes, Scalar.width, memcpy_littleEndian,
        Kuksa.Datapoint.uint32]
  | int16 =>
      simp only [Scalar.dataType, Scalar.target, Scalar.encodedBytes, Scalar.width, Kuksa.Datapoint.int32,
        toUInt16_toInt32]
      exact memcpy_littleEndian host _ _ (Nat.le_refl 2)

/-- A scalar without bytes has length zero, and its node writes nothing. -/
theorem encodeNode_scalar :
    encodeNode host (layout.node name methodId) scalar.target =
      Store.putBytes layout.byteOffset.toNat (scalar.encodedBytes host) := by
  unfold encodeNode
  split
  case isTrue => exact encodeValue_scalar host scalar layout name methodId
  case isFalse empty =>
    have none : (scalar.encodedBytes host).length = 0 := by
      rw [Scalar.length_encodedBytes, ← layout.sized]
      rw [UInt8.lt_iff_toNat_lt] at empty
      exact Nat.le_zero.mp (Nat.not_lt.mp empty)
    rw [List.length_eq_zero_iff.mp none]
    rfl

/-- A payload made from the buffer is read as the buffer. -/
theorem read_payloadBytes {payload : Payload} {memory : Memory} (made : payload.bytes = payloadBytes memory)
    {index : Nat} (inside : index < methodPayloadSize) : payload.read host index = memory index := by
  simp [Payload.read, made, payloadBytes, List.getD_eq_getElem?_getD, inside]

/-- The payload holds the bytes of the scalar at its offset. -/
theorem built_bytes (serviceId instanceId : UInt16) {lane : Nat} {byte : UInt8}
    (stored : (scalar.encodedBytes host)[lane]? = some byte) :
    (builtPayload (onActuatorChange host true (collectChanges [(name, some scalar.target)])
        [methodMapping serviceId instanceId (layout.node name methodId)])).read host
          (layout.byteOffset.toNat + lane) = byte := by
  have inside := layout.inside
  obtain ⟨below, rfl⟩ := List.getElem?_eq_some_iff.mp stored
  have room := below
  rw [Scalar.length_encodedBytes] at room
  have stores : (methodNodes [methodMapping serviceId instanceId (layout.node name methodId)]).flatMap
      (nodeStores host (collectChanges [(name, some scalar.target)])) =
        Store.putBytes layout.byteOffset.toNat (scalar.encodedBytes host) := by
    have named := lookup_collectChanges name scalar.target
    have written := encodeNode_scalar host scalar layout name methodId
    simpa [methodNodes, methodMapping, nodeStores, Layout.node, named] using written
  rw [read_payloadBytes host rfl (by omega), onActuatorChange_eq, (visited_frame host true _ _).1,
    bufferAfter, stores]
  exact Store.run_putBytes _ _ _ below

end Encoding

section Decoding

variable (host : Host) (scalar : Scalar) (layout : Layout scalar) (name : String) (methodId : UInt16)
  (payload : Payload)

theorem eventNodes_single (serviceId instanceId : UInt16) (node : VSSNode) :
    eventNodes (createEnvConfig [eventMapping serviceId instanceId node]) serviceId instanceId
      node.methodId = if 0 < node.length then [node] else [] := by
  have config : createEnvConfig [eventMapping serviceId instanceId node] =
      { service := serviceId, instance_ := instanceId, eventGroup := 1, event := node.methodId,
        serviceMajor := 1, serviceMinor := 0, req := { useReq := true },
        vssMap := [eventMapping serviceId instanceId node] } := rfl
  rw [config]
  by_cases nonempty : 0 < node.length <;> simp [eventNodes, eventMapping, nonempty]

/-- A node without a transform feeds what its branch decodes. -/
theorem feedNode_plain :
    (feedNode host payload ⟨.notSet, [], []⟩ (layout.node name methodId)).feeds.map Feed.value =
      (decodeField host payload (layout.node name methodId)).value.toList := by
  have plain : (layout.node name methodId).transformMapping.entries.length = 0 := rfl
  unfold feedNode transformField
  simp only [plain, Nat.lt_irrefl, if_false]
  cases (decodeField host payload (layout.node name methodId)).value <;> rfl

/-- Two received bytes form a word with the first one on top. -/
theorem word_toNat (high low : UInt8) :
    (low.toUInt16 ||| (high.toUInt16 <<< 8)).toNat = 256 * high.toNat + low.toNat := by
  have highBound := high.toNat_lt
  have shifted : (high.toUInt16 <<< 8).toNat = high.toNat <<< 8 := by
    rw [UInt16.toNat_shiftLeft, UInt8.toNat_toUInt16]
    exact Nat.mod_eq_of_lt (by rw [Nat.shiftLeft_eq]; simp; omega)
  rw [UInt16.toNat_or, shifted, UInt8.toNat_toUInt16, Nat.or_comm,
    ← Nat.shiftLeft_add_eq_or_of_lt low.toNat_lt, Nat.shiftLeft_eq, Nat.mul_comm]

theorem swapped_word_eq_iff (word : UInt16) :
    ((UInt8.ofNat (word.toNat / 256)).toUInt16 ||| ((UInt8.ofNat word.toNat).toUInt16 <<< 8)) = word ↔
      Scalar.Palindrome (littleEndian 2 word.toNat) := by
  rw [Scalar.Palindrome, ← ofLittleEndian_reverse_eq_iff word.toNat_lt, ← UInt16.toNat_inj, word_toNat]
  simp only [littleEndian, List.reverse_cons, List.reverse_nil, List.nil_append, List.cons_append,
    ofLittleEndian]
  omega

theorem swapped_float_eq_iff (bits : UInt32) :
    UInt32.ofNat (ofLittleEndian (littleEndian 4 bits.toNat).reverse) = bits ↔
      Scalar.Palindrome (littleEndian 4 bits.toNat) := by
  have bound := ofLittleEndian_lt (littleEndian 4 bits.toNat).reverse
  rw [List.length_reverse, length_littleEndian] at bound
  rw [Scalar.Palindrome, ← ofLittleEndian_reverse_eq_iff bits.toNat_lt, ← UInt32.toNat_inj,
    UInt32.toNat_ofNat', Nat.mod_eq_of_lt (show _ < 2 ^ 32 from bound)]

theorem reads_eq (stored : ∀ lane byte, (scalar.encodedBytes host)[lane]? = some byte →
      payload.read host (layout.byteOffset.toNat + lane) = byte) :
    (List.range' layout.byteOffset.toNat scalar.width).map (payload.read host) =
      scalar.encodedBytes host := by
  apply List.ext_getElem
  · simp [Scalar.length_encodedBytes]
  · intro lane _ below
    have byte := stored lane _ (List.getElem?_eq_getElem below)
    simpa using byte

/-- The bytes of the scalar at its offset decode to the scalar exactly when it is preserved. -/
theorem decodeField_scalar (nonempty : 0 < scalar.width)
    (stored : ∀ lane byte, (scalar.encodedBytes host)[lane]? = some byte →
      payload.read host (layout.byteOffset.toNat + lane) = byte) :
    (decodeField host payload (layout.node name methodId)).value = some scalar.fed ↔
      scalar.Preserved host := by
  have inside := layout.inside
  have type : getDataType (layout.node name methodId).datatype = scalar.dataType := layout.spelled
  have first := stored 0
  have second := stored 1
  rw [Nat.add_zero] at first
  have bytes := reads_eq host scalar layout payload stored
  have next : 2 ≤ scalar.width → (layout.byteOffset + 1).toNat = layout.byteOffset.toNat + 1 := by
    intro wide
    rw [UInt64.toNat_add]
    exact Nat.mod_eq_of_lt (by simp [methodPayloadSize] at inside ⊢; omega)
  unfold decodeField
  rw [type]
  cases scalar with
  | bool value =>
      simp only [Scalar.dataType, Layout.node, first _ rfl]
      cases value <;> simp [Scalar.fed, Scalar.Preserved]
  | uint8 | int8 =>
      simp only [Scalar.dataType, Layout.node, first _ rfl]
      simp [Scalar.fed, Scalar.Preserved]
  | uint16 value =>
      simp only [Scalar.dataType, Layout.node, next (Nat.le_refl 2), first _ rfl, second _ rfl, Scalar.fed,
        Option.some.injEq, Sdv.Datapoint.uint32Value.injEq]
      exact UInt16.toUInt32_inj.trans (swapped_word_eq_iff value)
  | int16 value =>
      simp only [Scalar.dataType, Layout.node, next (Nat.le_refl 2), first _ rfl, second _ rfl, Scalar.fed,
        Option.some.injEq, Sdv.Datapoint.int32Value.injEq]
      rw [Scalar.Preserved, ← swapped_word_eq_iff value.toUInt16]
      constructor
      · intro same
        have narrow := congrArg Int32.toInt16 same
        rw [Int16.toInt16_toInt32, Int16.toInt16_toInt32] at narrow
        exact congrArg Int16.toUInt16 narrow
      · intro same
        rw [same]
        rfl
  | uint32 value =>
      have whole : UInt32.ofNat (ofLittleEndian (littleEndian 4 value.toNat)) = value := by
        rw [ofLittleEndian_littleEndian, Nat.mod_eq_of_lt (show _ < 256 ^ 4 from value.toNat_lt),
          UInt32.ofNat_toNat]
      simp only [Scalar.width, Scalar.encodedBytes] at bytes
      simp only [Scalar.dataType, Layout.node, bytes, whole, Scalar.fed, Scalar.Preserved, iff_true]
      rfl
  | float bits =>
      have third := stored 2 _ rfl
      have fourth := stored 3 _ rfl
      simp only [Scalar.dataType, Layout.node, bytesToFloat, Nat.add_zero, first _ rfl, second _ rfl, third,
        fourth, Scalar.fed, Option.some.injEq, Sdv.Datapoint.floatValue.injEq]
      exact swapped_float_eq_iff bits
  | string text =>
      have length : (layout.node name methodId).length.toNat = text.length := layout.sized
      simp only [Scalar.width, Scalar.encodedBytes] at bytes nonempty
      have filled : text ≠ [] := List.ne_nil_of_length_pos nonempty
      simp only [Scalar.dataType, length]
      simp only [Layout.node, bytes, Scalar.fed, Scalar.Preserved, filled, Option.some.injEq,
        Sdv.Datapoint.stringValue.injEq, ne_eq, not_false_eq_true, true_and]

end Decoding

/-- The scalar comes back from its own payload exactly when both directions preserve it. -/
theorem codec_agrees (host : Host) (serviceId instanceId methodId : UInt16) (name : String)
    (scalar : Scalar) (layout : Layout scalar) :
    decodedValues host serviceId instanceId methodId name scalar layout = [scalar.fed] ↔
      scalar.Preserved host := by
  have stored := fun lane byte =>
    @built_bytes host scalar layout name methodId serviceId instanceId lane byte
  have single := eventNodes_single serviceId instanceId (layout.node name methodId)
  change eventNodes _ serviceId instanceId methodId = _ at single
  unfold decodedValues
  dsimp only
  rw [onSomeipMessage_eq, single]
  by_cases nonempty : 0 < scalar.width
  · have visited : 0 < (layout.node name methodId).length := by
      rw [UInt8.lt_iff_toNat_lt]
      exact layout.sized ▸ nonempty
    rw [if_pos visited, List.foldl_cons, List.foldl_nil, feedNode_plain,
      ← decodeField_scalar host scalar layout name methodId _ nonempty stored]
    cases (decodeField host _ (layout.node name methodId)).value <;> simp
  · -- only the empty string has no bytes, and its node is never visited
    have skipped : ¬ 0 < (layout.node name methodId).length := by
      rw [UInt8.lt_iff_toNat_lt]
      exact layout.sized ▸ nonempty
    rw [if_neg skipped]
    cases scalar with
    | string text =>
        have empty : text = [] := List.length_eq_zero_iff.mp (Nat.le_zero.mp (Nat.not_lt.mp nonempty))
        simp [Scalar.Preserved, empty]
    | _ => exact absurd (Nat.succ_pos _) nonempty

/-- The word one is written as `01 00` and read back as 256. -/
theorem word_changes_value :
    decodedValues zeroHost 39936 5 32801 "Vehicle.RequestorInControl" (.uint16 1)
        ⟨"uint16", 0, 2, rfl, rfl, by decide⟩ ≠ [Scalar.fed (.uint16 1)] := by
  decide

end VehicleEdge.Someip
