import VehicleEdge.Someip.Feeds
import VehicleEdge.Someip.Fields
import VehicleEdge.Someip.RoundTrip

/-
This file compares the byte order of each decoded value, and of each encoded word, with big-endian.
-/

namespace VehicleEdge.Someip

open Sdv (Datapoint)

/-- These are the received bytes of the field. -/
def fieldBytes (payload : Payload) (node : VSSNode) : List UInt8 :=
  (payload.bytes.drop node.byteOffset.toNat).take (fieldWidth node)

/-- The bytes give an unsigned number, a number in two's complement, or a bit pattern. -/
def bigEndianValue (type : Sdv.DataType) (bytes : List UInt8) : Datapoint :=
  let number := ofBigEndian bytes
  match type with
  | .int8 => .int32Value (Int32.ofInt (Int.bmod number (2 ^ 8)))
  | .int16 => .int32Value (Int32.ofInt (Int.bmod number (2 ^ 16)))
  | .float => .floatValue (UInt32.ofNat number)
  | _ => .uint32Value (UInt32.ofNat number)

/-- These types are numbers of one, two, or four bytes. -/
def isNumber : Sdv.DataType → Bool
  | .uint8 | .int8 | .uint16 | .int16 | .uint32 | .float => true
  | _ => false

section Decoding

variable (host : Host) (payload : Payload) (node : VSSNode)

theorem fieldBytes_eq (fits : FitsPayload payload node) :
    fieldBytes payload node =
      (List.range' node.byteOffset.toNat (fieldWidth node)).map (payload.read host) := by
  unfold FitsPayload at fits
  apply List.ext_getElem
  · simp only [fieldBytes, List.length_take, List.length_drop, List.length_map, List.length_range']
    omega
  · intro lane inField inRange
    rw [List.length_map, List.length_range'] at inRange
    have below : node.byteOffset.toNat + lane < payload.bytes.length := by omega
    simp [fieldBytes, Payload.read, List.getD_eq_getElem?_getD, List.getElem?_eq_getElem below]

theorem next_toNat (fits : node.byteOffset.toNat + 2 ≤ payload.bytes.length) :
    (node.byteOffset + 1).toNat = node.byteOffset.toNat + 1 := by
  have addressable := payload.addressable
  rw [UInt64.toNat_add]
  exact Nat.mod_eq_of_lt (by simp; omega)

theorem toInt32_toInt8 (byte : UInt8) :
    byte.toInt8.toInt32 = Int32.ofInt (Int.bmod byte.toNat (2 ^ 8)) := by
  have value : byte.toInt8.toInt = Int.bmod byte.toNat (2 ^ 8) := byte.toBitVec.toInt_eq_toNat_bmod
  rw [← value, Int8.toInt32]
  rfl

theorem toInt32_toInt16 (word : UInt16) :
    word.toInt16.toInt32 = Int32.ofInt (Int.bmod word.toNat (2 ^ 16)) := by
  have value : word.toInt16.toInt = Int.bmod word.toNat (2 ^ 16) := word.toBitVec.toInt_eq_toNat_bmod
  rw [← value, Int16.toInt32]
  rfl

/-- Two received bytes form a big-endian word. -/
theorem word_bigEndian (high low : UInt8) :
    (low.toUInt16 ||| (high.toUInt16 <<< 8)).toNat = ofBigEndian [high, low] := by
  rw [word_toNat]
  simp [ofBigEndian]

/-- Every number is decoded big-endian, except the 32-bit word, which is copied as it stands. -/
theorem decodeField_bigEndian (number : isNumber (getDataType node.datatype) = true)
    (fits : FitsPayload payload node) :
    (decodeField host payload node).value =
        some (bigEndianValue (getDataType node.datatype) (fieldBytes payload node)) ↔
      (getDataType node.datatype = .uint32 →
        (fieldBytes payload node).reverse = fieldBytes payload node) := by
  have bytes := fieldBytes_eq host payload node fits
  unfold FitsPayload at fits
  unfold fieldWidth at fits bytes
  unfold decodeField
  cases type : getDataType node.datatype with
  | uint8 =>
      simp only [type, List.range'_one, List.map_cons, List.map_nil] at bytes
      simp [bytes, bigEndianValue, ofBigEndian]
  | int8 =>
      simp only [type, List.range'_one, List.map_cons, List.map_nil] at bytes
      simp [bytes, bigEndianValue, ofBigEndian, toInt32_toInt8]
  | uint16 =>
      simp only [type, List.range'_succ, List.range'_zero, List.map_cons, List.map_nil] at bytes fits
      simp only [bytes, bigEndianValue, next_toNat payload node fits, ← word_bigEndian,
        UInt32.ofNat_uInt16ToNat, UInt32.toUInt32_toInt32]
      simp
  | int16 =>
      simp only [type, List.range'_succ, List.range'_zero, List.map_cons, List.map_nil] at bytes fits
      simp only [bytes, bigEndianValue, next_toNat payload node fits, toInt32_toInt16, word_bigEndian]
      simp
  | uint32 =>
      simp only [type] at bytes
      have length : (fieldBytes payload node).length = 4 := by rw [bytes]; simp
      have low := ofLittleEndian_lt (fieldBytes payload node)
      have high := ofBigEndian_lt (fieldBytes payload node)
      rw [length] at low high
      simp only [← bytes, bigEndianValue, Option.some.injEq, Datapoint.uint32Value.injEq, forall_const]
      rw [← ofLittleEndian_eq_ofBigEndian, UInt32.toUInt32_toInt32, ← UInt32.toNat_inj,
        UInt32.toNat_ofNat_of_lt' low, UInt32.toNat_ofNat_of_lt' high]
  | float =>
      simp only [type, List.range'_succ, List.range'_zero, List.map_cons, List.map_nil] at bytes
      simp [bytes, bigEndianValue, bytesToFloat, ofBigEndian_eq]
  | _ => simp [type, isNumber] at number

end Decoding

/-- A number is fed big-endian exactly when it is no 32-bit word or its bytes are a palindrome. -/
theorem numbers_are_bigEndian (host : Host) (config : SomeIPConfig) (serviceId instanceId methodId : UInt16)
    (payload : Payload) (node : VSSNode)
    (addressed : node ∈ eventNodes config serviceId instanceId methodId)
    (plain : node.transformMapping.entries.length = 0)
    (number : isNumber (getDataType node.datatype) = true) (fits : FitsPayload payload node) :
    FeedsOnly (onSomeipMessage host config serviceId instanceId methodId payload) node
        (bigEndianValue (getDataType node.datatype) (fieldBytes payload node)) ↔
      (getDataType node.datatype = .uint32 →
        (fieldBytes payload node).reverse = fieldBytes payload node) := by
  rw [feedsOnly_iff host payload addressed, fedValue_plain host payload plain]
  exact decodeField_bigEndian host payload node number fits

/-- This event node is a number with the given type at offset zero. -/
def numberEvent (name datatype : String) (length : UInt8) (methodId : UInt16) : VSSNode where
  name := name
  datatype := datatype
  byteOffset := 0
  length := length
  methodId := methodId
  transformMapping := ∅

def steeringAngle : VSSNode := numberEvent "Vehicle.Chassis.SteeringWheel.Angle" "int16" 2 32801

def keyPermission : VSSNode :=
  numberEvent "Vehicle.Immobilizer.KeySystems.Key1.PermissionState" "UINT32" 4 32895

theorem mem_eventNodes_single (serviceId instanceId : UInt16) {node : VSSNode}
    (nonempty : 0 < node.length) :
    node ∈ eventNodes (createEnvConfig [eventMapping serviceId instanceId node]) serviceId instanceId
      node.methodId := by
  rw [eventNodes_single, if_pos nonempty]
  exact List.mem_singleton_self node

theorem numbers_are_bigEndian_angle :
    FeedsOnly (onSomeipMessage zeroHost (createEnvConfig [eventMapping 39936 5 steeringAngle]) 39936 5 32801
      ⟨[0xFF, 0xFE], by decide⟩) steeringAngle (.int32Value (-2)) := by
  have fits : FitsPayload ⟨[0xFF, 0xFE], by decide⟩ steeringAngle := by decide
  have fed := numbers_are_bigEndian zeroHost _ 39936 5 32801 ⟨[0xFF, 0xFE], by decide⟩ steeringAngle
    (mem_eventNodes_single 39936 5 (by decide)) rfl rfl fits
  have value : bigEndianValue (getDataType steeringAngle.datatype)
      (fieldBytes ⟨[0xFF, 0xFE], by decide⟩ steeringAngle) = .int32Value (-2) := by
    decide +kernel
  rw [value] at fed
  exact fed.mpr nofun

/-- The bytes `00 00 00 01` of a 32-bit word are fed as 16777216. -/
theorem long_word_is_littleEndian :
    keyPermission ∈ eventNodes (createEnvConfig [eventMapping 1999 802 keyPermission]) 1999 802 32895 ∧
      FitsPayload ⟨[0, 0, 0, 1], by decide⟩ keyPermission ∧
      ¬ FeedsOnly (onSomeipMessage zeroHost (createEnvConfig [eventMapping 1999 802 keyPermission]) 1999 802
          32895 ⟨[0, 0, 0, 1], by decide⟩) keyPermission
        (bigEndianValue (getDataType keyPermission.datatype)
          (fieldBytes ⟨[0, 0, 0, 1], by decide⟩ keyPermission)) := by
  have addressed : keyPermission ∈
      eventNodes (createEnvConfig [eventMapping 1999 802 keyPermission]) 1999 802 32895 :=
    mem_eventNodes_single 1999 802 (by decide)
  refine ⟨addressed, by decide, ?_⟩
  rw [feedsOnly_iff zeroHost _ addressed]
  decide

section Composite

/-- A composite control places these words in its field, each with its position. -/
def wordFields (node : VSSNode) (data : Kuksa.Datapoint) : List (Nat × Nat) :=
  let offset := node.byteOffset.toNat
  match getDataType node.datatype, data with
  | .uint16Array, .uint32ArrayValue (_ :: second :: _) => [(offset + 1, second.toNat % 2 ^ 16)]
  | .int16Array, .int32ArrayValue (first :: second :: _) =>
      [(offset, (first.toInt % 2 ^ 16).toNat), (offset + 2, (second.toInt % 2 ^ 16).toNat)]
  | .timestampArray, .int32ArrayValue (_ :: second :: _) =>
      [(offset + 1, (second.toInt % 2 ^ 16).toNat)]
  | _, _ => []

/-- Every event node of a word type at the position feeds the word, unsigned or in two's complement. -/
def DecodedBack (host : Host) (payload : Payload) (field : Nat × Nat) : Prop :=
  ∀ (config : SomeIPConfig) (serviceId instanceId methodId : UInt16) (event : VSSNode),
    event ∈ eventNodes config serviceId instanceId methodId →
    event.transformMapping.entries.length = 0 → event.byteOffset.toNat = field.1 →
      (getDataType event.datatype = .uint16 →
        FeedsOnly (onSomeipMessage host config serviceId instanceId methodId payload) event
          (.uint32Value (UInt32.ofNat field.2))) ∧
      (getDataType event.datatype = .int16 →
        FeedsOnly (onSomeipMessage host config serviceId instanceId methodId payload) event
          (.int32Value (Int32.ofInt (Int.bmod field.2 (2 ^ 16)))))

/-- The bits above a word of an unsigned array reach its low byte on the wire. -/
def WordsSeparate (node : VSSNode) (data : Kuksa.Datapoint) : Prop :=
  match getDataType node.datatype, data with
  | .uint16Array, .uint32ArrayValue (_ :: second :: _) =>
      (second >>> 16).toUInt8 ||| second.toUInt8 = second.toUInt8
  | _, _ => True

/-- This event node reads one word at the position. -/
def wordEvent (position : Nat) : VSSNode where
  name := "Vehicle.RequestorInControl"
  datatype := "uint16"
  byteOffset := UInt64.ofNat position
  length := 2
  methodId := 32801
  transformMapping := ∅

/-- An event node of a word type feeds the two bytes at its position. -/
theorem fedValue_word (host : Host) (payload : Payload) (event : VSSNode)
    (inside : event.byteOffset.toNat + 2 ≤ payload.bytes.length)
    (plain : event.transformMapping.entries.length = 0)
    (isWord : getDataType event.datatype = .uint16 ∨ getDataType event.datatype = .int16) :
    fedValue host payload event = some (bigEndianValue (getDataType event.datatype)
      [payload.read host event.byteOffset.toNat, payload.read host (event.byteOffset.toNat + 1)]) := by
  have width : fieldWidth event = 2 := by
    rcases isWord with type | type <;> simp [fieldWidth, type]
  have number : isNumber (getDataType event.datatype) = true := by
    rcases isWord with type | type <;> simp [isNumber, type]
  have notLong : getDataType event.datatype ≠ .uint32 := by
    rcases isWord with type | type <;> simp [type]
  have fits : FitsPayload payload event := by rwa [FitsPayload, width]
  have bytes := fieldBytes_eq host payload event fits
  rw [width] at bytes
  rw [fedValue_plain host payload plain,
    (decodeField_bigEndian host payload event number fits).mpr fun long => absurd long notLong, bytes]
  rfl

/-- A word comes back exactly when its two bytes on the wire are big-endian. -/
theorem decodedBack_iff (host : Host) (payload : Payload) {position word : Nat}
    (inside : position + 2 ≤ payload.bytes.length) (small : word < 2 ^ 16) :
    DecodedBack host payload (position, word) ↔
      ofBigEndian [payload.read host position, payload.read host (position + 1)] = word := by
  have addressable := payload.addressable
  constructor
  · intro back
    have offset : (wordEvent position).byteOffset.toNat = position :=
      UInt64.toNat_ofNat_of_lt' (show position < 2 ^ 64 by omega)
    have nonempty : 0 < (wordEvent position).length := (by decide : (0 : UInt8) < 2)
    have addressed := mem_eventNodes_single 39936 5 nonempty
    have fed := (back _ 39936 5 _ (wordEvent position) addressed rfl offset).1 rfl
    rw [feedsOnly_iff host payload addressed,
      fedValue_word host payload (wordEvent position) (by rwa [offset]) rfl (.inl rfl), offset] at fed
    have wire := ofBigEndian_lt [payload.read host position, payload.read host (position + 1)]
    have same := congrArg UInt32.toNat (Datapoint.uint32Value.inj (Option.some.inj fed))
    simp only [List.length_cons, List.length_nil] at wire
    rwa [UInt32.toNat_ofNat_of_lt' (show _ < 2 ^ 32 by omega),
      UInt32.toNat_ofNat_of_lt' (show _ < 2 ^ 32 by omega)] at same
  · rintro rfl config serviceId instanceId methodId event addressed plain rfl
    rw [feedsOnly_iff host payload addressed, feedsOnly_iff host payload addressed]
    constructor
    · intro type
      rw [fedValue_word host payload event inside plain (.inl type), type]
      rfl
    · intro type
      rw [fedValue_word host payload event inside plain (.inr type), type]
      rfl

/-- Two bytes of the buffer are read as one word. -/
def wordAt (memory : Memory) (position : Nat) : Nat := ofBigEndian [memory position, memory (position + 1)]

theorem wordAt_putBytes (memory : Memory) (position number : Nat) :
    wordAt (Store.run memory (Store.putBytes position (littleEndian 2 number))) position =
      256 * (number % 256) + number / 256 % 256 := by
  have low := Store.run_putBytes memory position (littleEndian 2 number) (show 0 < 2 by decide)
  have high := Store.run_putBytes memory position (littleEndian 2 number) (show 1 < 2 by decide)
  rw [Nat.add_zero] at low
  rw [wordAt, low, high]
  simp [littleEndian, ofBigEndian]

theorem wordAt_untouched (memory : Memory) {stores : List Store} {position : Nat}
    (first : Store.touches stores position = false) (second : Store.touches stores (position + 1) = false) :
    wordAt (Store.run memory stores) position = wordAt memory position := by
  rw [wordAt, wordAt, Store.run_untouched memory first, Store.run_untouched memory second]

theorem swapBytes_toNat (word : UInt16) :
    256 * ((swapBytes word).toNat % 256) + (swapBytes word).toNat / 256 % 256 = word.toNat := by
  have low : (swapBytes word).toUInt8 = (word >>> 8).toUInt8 := by
    rw [swapBytes, ← UInt8.toBitVec_inj]
    simp
  have high : (swapBytes word >>> 8).toUInt8 = word.toUInt8 := by
    have bits : BitVec.setWidth 8 (((word.toBitVec >>> 8) ||| (word.toBitVec <<< 8)) >>> 8) =
        BitVec.setWidth 8 word.toBitVec := by
      ext lane below
      simp only [BitVec.getElem_setWidth, BitVec.getLsbD_or, BitVec.getLsbD_ushiftRight,
        BitVec.getLsbD_shiftLeft]
      grind
    rw [swapBytes, ← UInt8.toBitVec_inj]
    simpa using bits
  have bound := word.toNat_lt
  replace low := congrArg UInt8.toNat low
  replace high := congrArg UInt8.toNat high
  simp [Nat.shiftRight_eq_div_pow] at low high
  omega

theorem swapped_low (element : UInt32) :
    ((element >>> 8) ||| (element <<< 8)).toUInt8 = (element >>> 8).toUInt8 := by
  rw [← UInt8.toBitVec_inj]
  simp

/-- The shifted element keeps its third byte, which falls on its low byte. -/
theorem swapped_high (element : UInt32) :
    (((element >>> 8) ||| (element <<< 8)) >>> 8).toUInt8 = (element >>> 16).toUInt8 ||| element.toUInt8 := by
  rw [← UInt8.toBitVec_inj]
  have bits : BitVec.setWidth 8 (((element.toBitVec >>> 8) ||| (element.toBitVec <<< 8)) >>> 8) =
      BitVec.setWidth 8 (element.toBitVec >>> 16) ||| BitVec.setWidth 8 element.toBitVec := by
    ext lane below
    simp only [BitVec.getElem_setWidth, BitVec.getElem_or, BitVec.getLsbD_or, BitVec.getLsbD_ushiftRight,
      BitVec.getLsbD_shiftLeft]
    grind
  simpa using bits

theorem swapped_element_eq_iff (element : UInt32) :
    256 * (((element >>> 8) ||| (element <<< 8)).toNat % 256) +
        ((element >>> 8) ||| (element <<< 8)).toNat / 256 % 256 = element.toNat % 2 ^ 16 ↔
      (element >>> 16).toUInt8 ||| element.toUInt8 = element.toUInt8 := by
  have low := congrArg UInt8.toNat (swapped_low element)
  have high := congrArg UInt8.toNat (swapped_high element)
  rw [← UInt8.toNat_inj, ← high]
  generalize (element >>> 8) ||| (element <<< 8) = swapped at low ⊢
  simp [Nat.shiftRight_eq_div_pow] at low ⊢
  omega

theorem toNat_word (element : Int32) :
    element.toUInt32.toUInt16.toNat = (element.toInt % 2 ^ 16).toNat := by
  have wide : element.toInt = Int.bmod element.toUInt32.toNat (2 ^ 32) :=
    element.toBitVec.toInt_eq_toNat_bmod
  rw [UInt32.toNat_toUInt16, wide]
  rw [Int.bmod_def]
  split <;> omega

/-- Each word lies in the buffer and has sixteen bits. -/
theorem wordFields_inside {node : VSSNode} {data : Kuksa.Datapoint} {field : Nat × Nat}
    (fits : FieldFits node) (member : field ∈ wordFields node data) :
    field.1 + 2 ≤ methodPayloadSize ∧ field.2 < 2 ^ 16 := by
  unfold FieldFits fieldSize at fits
  unfold wordFields at member
  split at member
  case h_1 type | h_3 type =>
    simp only [type] at fits
    obtain rfl := List.mem_singleton.mp member
    omega
  case h_2 type =>
    simp only [type] at fits
    rcases List.mem_pair.mp member with rfl | rfl <;> omega
  case h_4 => cases member

/-- The words that a composite control leaves in the buffer are right exactly when they separate. -/
theorem encoded_words (host : Host) (node : VSSNode) (data : Kuksa.Datapoint) (memory : Memory)
    (fits : FieldFits node) :
    (∀ field ∈ wordFields node data,
        wordAt (Store.run memory (encodeValue host node data)) field.1 = field.2) ↔
      WordsSeparate node data := by
  unfold FieldFits fieldSize at fits
  unfold wordFields WordsSeparate encodeValue
  split
  case h_1 first second rest type =>
    simp only [type] at fits ⊢
    have next := indexed_of_fits (show node.byteOffset.toNat + 1 ≤ methodPayloadSize by omega)
    simp only [Kuksa.Datapoint.uint32Array, List.forall_mem_singleton, next, Store.run_cons,
      memcpy_littleEndian host _ _ (show 2 ≤ 4 by decide), wordAt_putBytes]
    exact swapped_element_eq_iff second
  case h_2 first second rest type =>
    simp only [type] at fits ⊢
    have next := indexed_of_fits (show node.byteOffset.toNat + 2 ≤ methodPayloadSize by omega)
    simp only [Kuksa.Datapoint.int32Array, List.forall_mem_cons, List.not_mem_nil, false_implies,
      implies_true, and_true, next, Store.run_append, memcpy_littleEndian host _ _ (Nat.le_refl 2),
      wordAt_putBytes, swapBytes_toNat, iff_true]
    constructor
    · rw [wordAt_untouched _ (by simp [Store.touches_putBytes]) (by simp [Store.touches_putBytes]),
        wordAt_putBytes, swapBytes_toNat]
      exact toNat_word first
    · exact toNat_word second
  case h_3 first second rest type =>
    simp only [type] at fits ⊢
    have next := indexed_of_fits (show node.byteOffset.toNat + 1 ≤ methodPayloadSize by omega)
    simp only [Kuksa.Datapoint.int32Array, List.forall_mem_singleton, next, Store.run_cons,
      memcpy_littleEndian host _ _ (Nat.le_refl 2), wordAt_putBytes, swapBytes_toNat, iff_true]
    exact toNat_word second
  case h_4 noUnsigned _ _ =>
    refine iff_of_true nofun ?_
    split
    case h_1 => exact (noUnsigned _ _ _ ‹_› rfl).elim
    case h_2 => trivial

/-- Every word of a composite control comes back from its request exactly when no bit above an unsigned
word reaches its low byte. -/
theorem composite_words_come_back (host : Host) (client : Bool) (targetValues : ActuatorValues)
    {vssMap : List VSSConfigInfo} {before after : List (SOMEIPConfigdata × VSSNode)}
    {entry : SOMEIPConfigdata × VSSNode} {data : Kuksa.Datapoint} (payload : Payload)
    (split : methodNodes vssMap = before ++ entry :: after)
    (target : targetValues.lookup entry.2.name = some data) (nonempty : 0 < entry.2.length)
    (plain : entry.2.transformMapping.entries.length = 0) (fits : FieldFits entry.2)
    (sent : sentPayload (onActuatorChange host client targetValues vssMap) before.length =
      some payload.bytes) :
    (∀ field ∈ wordFields entry.2 data, DecodedBack host payload field) ↔
      WordsSeparate entry.2 data := by
  have bytes := sentPayload_bytes host client targetValues split target sent
  have stores : encodeNode host entry.2 data = encodeValue host entry.2 data := by
    rw [encodeNode, if_pos nonempty, plain]
    rfl
  rw [stores] at bytes
  rw [← encoded_words host entry.2 data (bufferAfter host targetValues before) fits]
  refine forall₂_congr fun field member => ?_
  obtain ⟨inside, small⟩ := wordFields_inside fits member
  have room : field.1 + 2 ≤ payload.bytes.length := by
    rw [bytes]
    simpa [payloadBytes] using inside
  rw [decodedBack_iff host payload room small, read_payloadBytes host bytes (by omega),
    read_payloadBytes host bytes (by omega)]
  rfl

/-- The accelerator control is sent alone. -/
def acceleratorMapping : VSSConfigInfo := methodMapping 39936 5 acceleratorControl

def acceleratorTargets (position requestor : UInt32) : ActuatorValues :=
  collectChanges [(acceleratorControl.name, some (.uint32ArrayValue [position, requestor]))]

theorem composite_words_come_back_accelerator :
    FieldFits acceleratorControl ∧ ∀ field ∈ wordFields acceleratorControl (.uint32ArrayValue [5, 772]),
      DecodedBack zeroHost ⟨[5, 3, 4, 0, 0, 0], by decide⟩ field := by
  have fits : FieldFits acceleratorControl := by unfold FieldFits; decide
  have separate : WordsSeparate acceleratorControl (.uint32ArrayValue [5, 772]) := by
    show ((772 : UInt32) >>> 16).toUInt8 ||| (772 : UInt32).toUInt8 = (772 : UInt32).toUInt8
    decide
  exact ⟨fits, (composite_words_come_back zeroHost true (acceleratorTargets 5 772)
    ⟨[5, 3, 4, 0, 0, 0], by decide⟩
    (show methodNodes [acceleratorMapping] = [] ++ (acceleratorMapping.metaData, acceleratorControl) :: []
      from rfl) rfl (by decide) rfl fits (by decide)).mpr separate⟩

/-- The element 65536 is placed as the word zero and read back as one. -/
theorem high_bits_reach_word :
    sentPayload (onActuatorChange zeroHost true (acceleratorTargets 5 65536) [acceleratorMapping]) 0 =
        some [5, 0, 1, 0, 0, 0] ∧
      (1, 0) ∈ wordFields acceleratorControl (.uint32ArrayValue [5, 65536]) ∧
      ¬ DecodedBack zeroHost ⟨[5, 0, 1, 0, 0, 0], by decide⟩ (1, 0) := by
  refine ⟨by decide, by decide, ?_⟩
  rw [decodedBack_iff zeroHost _ (by decide) (by decide)]
  decide

end Composite

end VehicleEdge.Someip
