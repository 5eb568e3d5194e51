import VehicleEdge.Someip.ByteOrder

/-
This file shows that the feeds of a message are a map over its nodes, and that each node depends on its own
record and its own bytes only.
-/

namespace VehicleEdge.Someip

open Sdv (Datapoint)

/-- The decoder reads this many bytes, and none for a datatype without a branch. -/
def decodedWidth (node : VSSNode) : Nat :=
  match getDataType node.datatype with
  | .bool | .uint8 | .int8 => 1
  | .uint16 | .int16 => 2
  | .uint32 | .float => 4
  | .string => node.length.toNat
  | _ => 0

/-- Every byte of the field is in the payload. -/
def Contains (payload : Payload) (node : VSSNode) : Prop :=
  ∀ lane < decodedWidth node, node.byteOffset.toNat + lane < payload.bytes.length

instance (payload : Payload) (node : VSSNode) : Decidable (Contains payload node) :=
  inferInstanceAs (Decidable (∀ lane < _, _ < _))

/-- These are the bytes of the field. -/
def ownBytes (payload : Payload) (node : VSSNode) : List UInt8 :=
  (payload.bytes.drop node.byteOffset.toNat).take (decodedWidth node)

/-- A field has at most 255 bytes. -/
def fieldPayload (bytes : List UInt8) : Payload where
  bytes := bytes.take 256
  addressable := by
    rw [List.length_take]
    omega

/-- The value of a node is that of its bytes alone, which are decoded from the start. -/
def valueOf (host : Host) (node : VSSNode) (bytes : List UInt8) : Option Datapoint :=
  fedValue host (fieldPayload bytes) node.atStart

/-- These are the nodes of the event mappings for the method of the message, in file order. -/
def methodEvents (config : SomeIPConfig) (methodId : UInt16) : List VSSNode :=
  (config.vssMap.filter fun mapping => mapping.metaData.serviceType = "Event").flatMap fun mapping =>
    mapping.vssNodes.filter fun node => node.methodId = methodId ∧ 0 < node.length

/-- A mapping of another service type contributes no node. -/
theorem flatMap_events (select : VSSConfigInfo → List VSSNode) (mappings : List VSSConfigInfo) :
    (mappings.flatMap fun mapping => if mapping.metaData.serviceType = "Event" then select mapping else []) =
      (mappings.filter fun mapping => mapping.metaData.serviceType = "Event").flatMap select := by
  induction mappings with
  | nil => rfl
  | cons mapping mappings ih =>
      rw [List.flatMap_cons, List.filter_cons, ih]
      by_cases event : mapping.metaData.serviceType = "Event" <;> simp [event]

theorem eventNodes_eq (config : SomeIPConfig) (serviceId instanceId methodId : UInt16) :
    eventNodes config serviceId instanceId methodId =
      if serviceId = config.service ∧ instanceId = config.instance_ then methodEvents config methodId
      else [] := by
  unfold eventNodes methodEvents
  split
  case isTrue addressed =>
    rw [← flatMap_events]
    simp only [addressed, and_self, and_true]
  case isFalse other => simp [other]

section Local

variable (host : Host) {payload : Payload} {node : VSSNode}

theorem decodedWidth_le (node : VSSNode) : decodedWidth node ≤ 256 := by
  have bound := node.length.toNat_lt
  unfold decodedWidth
  split <;> omega

/-- A byte of the field is read at the same lane of the field alone. -/
theorem read_ownBytes (inside : Contains payload node) {lane : Nat} (below : lane < decodedWidth node) :
    payload.read host (node.byteOffset.toNat + lane) =
      (fieldPayload (ownBytes payload node)).read host lane := by
  have present := inside lane below
  have narrow := decodedWidth_le node
  unfold Payload.read fieldPayload ownBytes
  have room : lane < ((payload.bytes.drop node.byteOffset.toNat).take (decodedWidth node)).length := by
    rw [List.length_take, List.length_drop]
    omega
  rw [List.getD_eq_getElem?_getD, List.getD_eq_getElem?_getD, List.getElem?_take_of_lt (by omega),
    List.getElem?_eq_getElem present, List.getElem?_eq_getElem room]
  simp

theorem map_read_ownBytes (inside : Contains payload node) {count : Nat} (width : decodedWidth node = count) :
    (List.range' node.byteOffset.toNat count).map (payload.read host) =
      (List.range' 0 count).map ((fieldPayload (ownBytes payload node)).read host) := by
  apply List.ext_getElem
  · simp
  · intro lane _ below
    rw [List.length_map, List.length_range'] at below
    simp only [List.getElem_map, List.getElem_range', Nat.one_mul, Nat.zero_add]
    exact read_ownBytes host inside (width ▸ below)

/-- The second byte of a word follows the first one. -/
theorem next_ownBytes (inside : Contains payload node) (width : decodedWidth node = 2) :
    (node.byteOffset + 1).toNat = node.byteOffset.toNat + 1 := by
  have addressable := payload.addressable
  have present := inside 1 (by omega)
  rw [UInt64.toNat_add]
  exact Nat.mod_eq_of_lt (by simp; omega)

/-- The decoder finds the same integer and the same value in the field alone. -/
theorem decodeField_ownBytes (inside : Contains payload node) :
    (decodeField host payload node).tmpValue =
        (decodeField host (fieldPayload (ownBytes payload node)) node.atStart).tmpValue ∧
      (decodeField host payload node).value =
        (decodeField host (fieldPayload (ownBytes payload node)) node.atStart).value := by
  have type : getDataType node.atStart.datatype = getDataType node.datatype := rfl
  have length : node.atStart.length = node.length := rfl
  have start : node.atStart.byteOffset.toNat = 0 := rfl
  have second : (node.atStart.byteOffset + 1).toNat = 1 := rfl
  unfold decodeField
  rw [type, length]
  cases kind : getDataType node.datatype with
  | bool | uint8 | int8 =>
      have width : decodedWidth node = 1 := by simp [decodedWidth, kind]
      have first := read_ownBytes host inside (show 0 < decodedWidth node by omega)
      rw [Nat.add_zero] at first
      simp only [first, start, and_self]
  | uint16 | int16 =>
      have width : decodedWidth node = 2 := by simp [decodedWidth, kind]
      have first := read_ownBytes host inside (show 0 < decodedWidth node by omega)
      have last := read_ownBytes host inside (show 1 < decodedWidth node by omega)
      rw [Nat.add_zero] at first
      simp only [next_ownBytes inside width, first, last, start, second, and_self]
  | uint32 =>
      have width : decodedWidth node = 4 := by simp [decodedWidth, kind]
      simp only [map_read_ownBytes host inside width, start, and_self]
  | float =>
      have width : decodedWidth node = 4 := by simp [decodedWidth, kind]
      have pattern : (bytesToFloat fun lane => payload.read host (node.byteOffset.toNat + lane)) =
          bytesToFloat fun lane => (fieldPayload (ownBytes payload node)).read host (0 + lane) := by
        unfold bytesToFloat
        simp only [Nat.zero_add]
        rw [read_ownBytes host inside (show 0 < decodedWidth node by omega),
          read_ownBytes host inside (show 1 < decodedWidth node by omega),
          read_ownBytes host inside (show 2 < decodedWidth node by omega),
          read_ownBytes host inside (show 3 < decodedWidth node by omega)]
      simp only [pattern, start, and_self]
  | string =>
      have width : decodedWidth node = node.length.toNat := by simp [decodedWidth, kind]
      simp only [map_read_ownBytes host inside width, start, and_self]
  | _ => exact ⟨rfl, rfl⟩

/-- What is fed for a node is a function of its record and its bytes. -/
theorem fedValue_ownBytes (inside : Contains payload node) :
    fedValue host payload node = valueOf host node (ownBytes payload node) := by
  obtain ⟨tmpValue, value⟩ := decodeField_ownBytes host inside
  unfold valueOf fedValue
  dsimp only
  rw [tmpValue, value]
  rfl

end Local

/-- The loop with its shared datapoint is a map over the nodes, and no feed depends on another node or on
another byte. -/
theorem events_decode_independently (host : Host) (config : SomeIPConfig)
    (serviceId instanceId methodId : UInt16) (payload : Payload)
    (inside : ∀ node ∈ eventNodes config serviceId instanceId methodId, Contains payload node) :
    (onSomeipMessage host config serviceId instanceId methodId payload).feeds =
        (if serviceId = config.service ∧ instanceId = config.instance_ then
          (methodEvents config methodId).filterMap fun node =>
            (valueOf host node (ownBytes payload node)).map fun value => ⟨node, value⟩
        else []) ∧
      ∀ node ∈ eventNodes config serviceId instanceId methodId,
        ∀ (changed : SomeIPConfig) (service instance_ method : UInt16) (received : Payload),
          node ∈ eventNodes changed service instance_ method → Contains received node →
          ownBytes received node = ownBytes payload node →
          ∀ value, ⟨node, value⟩ ∈ (onSomeipMessage host config serviceId instanceId methodId payload).feeds ↔
            ⟨node, value⟩ ∈ (onSomeipMessage host changed service instance_ method received).feeds := by
  constructor
  · have fed : ∀ node ∈ eventNodes config serviceId instanceId methodId, feedOf host payload node =
        (valueOf host node (ownBytes payload node)).map fun value => ⟨node, value⟩ := by
      intro node visited
      rw [feedOf, fedValue_ownBytes host (inside node visited)]
    rw [onSomeipMessage_feeds, List.filterMap_congr fed, eventNodes_eq]
    split <;> rfl
  · intro node visited changed service instance_ method received visitedThere insideThere same value
    rw [mem_feeds, mem_feeds, fedValue_ownBytes host (inside node visited),
      fedValue_ownBytes host insideThere, same]
    simp only [visited, visitedThere, true_and]

def steeringSpeed : VSSNode :=
  { numberEvent "Vehicle.Chassis.SteeringWheel.Speed" "uint8" 1 32801 with byteOffset := 2 }

/-- The two nodes of this mapping share one message. -/
def steeringConfig : SomeIPConfig :=
  createEnvConfig [⟨⟨"Event", 39936, 5, 0, 32801, 1, 1, 0⟩, [steeringSpeed, steeringAngle]⟩]

theorem events_decode_independently_steering :
    (∀ node ∈ eventNodes steeringConfig 39936 5 32801, Contains ⟨[0xFF, 0xFE, 7], by decide⟩ node) ∧
      (onSomeipMessage zeroHost steeringConfig 39936 5 32801 ⟨[0xFF, 0xFE, 7], by decide⟩).feeds =
        [⟨steeringSpeed, .uint32Value 7⟩, ⟨steeringAngle, .int32Value (-2)⟩] := by
  have inside : ∀ node ∈ eventNodes steeringConfig 39936 5 32801,
      Contains ⟨[0xFF, 0xFE, 7], by decide⟩ node := by
    decide +kernel
  exact ⟨inside, (events_decode_independently zeroHost steeringConfig 39936 5 32801 _ inside).1.trans rfl⟩

end VehicleEdge.Someip
