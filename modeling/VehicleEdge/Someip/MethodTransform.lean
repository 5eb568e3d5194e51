import VehicleEdge.Someip.RoundTrip

/-
This file compares the transform entry that `on_actuator_change` takes with the entry for the text of the
target value. The entry is looked up by the boolean field of the target, whatever its kind.
-/

namespace VehicleEdge.Someip

open Kuksa (Datapoint)

/-- A target value has a decimal text, or is a text itself. -/
def IsTargetText : Datapoint → String → Prop
  | .boolValue value, text => text = if value then "1" else "0"
  | .int32Value value, text => text = toString value.toInt
  | .int64Value value, text => text = toString value.toInt
  | .uint32Value value, text => text = toString (value.toNat : Int)
  | .uint64Value value, text => text = toString (value.toNat : Int)
  | .stringValue bytes, text => JsonValue.utf8 text = bytes
  | _, _ => False

/-- The `to` value of the entry is an integer of the JSON library. -/
def IntegerTo (json : JsonValue) (number : Int) : Prop :=
  json.integralValue = some number ∧ -2 ^ 63 ≤ number ∧ number < 2 ^ 64

/-- An integer is sent as its low bytes in two's complement. -/
def wireBytes (length : Nat) (number : Int) : List UInt8 := littleEndian length (number % 2 ^ 64).toNat

/-- These are the bytes of the field in a request. -/
def requestField (node : VSSNode) (bytes : List UInt8) : List UInt8 :=
  (bytes.drop node.byteOffset.toNat).take node.length.toNat

/-- The request carries the entry for the text of the target, and without one nothing is written. -/
def TransformApplied (host : Host) (node : VSSNode) (data : Datapoint) (bytes : List UInt8) : Prop :=
  (∀ text json number, IsTargetText data text → node.transformMapping.lookup text = some json →
      IntegerTo json number → requestField node bytes = wireBytes node.length.toNat number) ∧
    ((∀ text, IsTargetText data text → node.transformMapping.lookup text = none) →
      encodeNode host node data = [])

/-- The bytes of the entry that the code takes, or of the buffer when it takes none. -/
def takenBytes (memory : Memory) (node : VSSNode) (data : Datapoint) : List UInt8 :=
  match (node.transformMapping.lookup (transformKey data)).bind JsonValue.integralValue with
  | some number => wireBytes node.length.toNat number
  | none => (List.range' node.byteOffset.toNat node.length.toNat).map memory

/-- The boolean text and the text of the target lead to the same bytes in the buffer. -/
def SameBytes (memory : Memory) (node : VSSNode) (data : Datapoint) : Prop :=
  node.length = 0 ∨
    (∀ text json number, IsTargetText data text → node.transformMapping.lookup text = some json →
        IntegerTo json number → node.byteOffset.toNat + node.length.toNat ≤ methodPayloadSize ∧
          takenBytes memory node data = wireBytes node.length.toNat number) ∧
      ((∀ text, IsTargetText data text → node.transformMapping.lookup text = none) →
        node.transformMapping.lookup (transformKey data) = none)

theorem length_wireBytes (length : Nat) (number : Int) : (wireBytes length number).length = length :=
  length_littleEndian length _

/-- The low bytes of an integer do not depend on the size of its object. -/
theorem littleEndian_wireBytes {length : Nat} (number : Int) (short : length ≤ 4) :
    littleEndian length (number % 2 ^ 32).toNat = wireBytes length number := by
  have low : (number % 2 ^ 32).toNat = (number % 2 ^ 64).toNat % 256 ^ 4 := by omega
  rw [low, littleEndian_mod _ short]
  rfl

/-- An integer entry is copied as its low bytes. -/
theorem copyJsonValueType_integer (host : Host) (payload : Nat) {json : JsonValue} {number : Int}
    {size : Nat} (integer : IntegerTo json number) (short : size ≤ 4) :
    copyJsonValueType host payload json size = Store.putBytes payload (wireBytes size number) := by
  obtain ⟨integral, low, high⟩ := integer
  have bytes : memcpy host payload (numberBytes json) size =
      Store.putBytes payload (wireBytes size number) := by
    unfold numberBytes
    simp only [integral]
    split_ifs with signed unsigned long wide
    · rw [memcpy_littleEndian host payload _ short, littleEndian_wireBytes number short]
    · have same : number.toNat = (number % 2 ^ 32).toNat := by omega
      rw [same, memcpy_littleEndian host payload _ short, littleEndian_wireBytes number short]
    · rw [memcpy_littleEndian host payload _ (show size ≤ 8 by omega)]
      rfl
    · have same : number.toNat = (number % 2 ^ 64).toNat := by omega
      rw [same, memcpy_littleEndian host payload _ (show size ≤ 8 by omega)]
      rfl
    · omega
  cases json with
  | int | uint | real => exact bytes
  | null | boolean | string | array | object => cases integral

/-- The field of a request is the buffer from the offset on. -/
theorem requestField_payloadBytes (node : VSSNode) (memory : Memory)
    (fits : node.byteOffset.toNat + node.length.toNat ≤ methodPayloadSize) :
    requestField node (payloadBytes memory) =
      (List.range' node.byteOffset.toNat node.length.toNat).map memory := by
  apply List.ext_getElem
  · simp [requestField, payloadBytes]
    omega
  · intro lane inField inRange
    simp [requestField, payloadBytes]

section Node

variable {host : Host} {node : VSSNode} {data : Datapoint}

/-- A node with an entry for the boolean text writes the low bytes of the entry. -/
theorem encodeNode_entry {json : JsonValue} {number : Int} (nonempty : 0 < node.length)
    (transform : 0 < node.transformMapping.entries.length) (short : node.length.toNat ≤ 4)
    (found : node.transformMapping.lookup (transformKey data) = some json)
    (integer : IntegerTo json number) :
    encodeNode host node data =
      Store.putBytes node.byteOffset.toNat (wireBytes node.length.toNat number) := by
  rw [encodeNode, if_pos nonempty, if_pos transform, found]
  exact copyJsonValueType_integer host _ integer short

theorem encodeNode_missing (transform : 0 < node.transformMapping.entries.length)
    (missing : node.transformMapping.lookup (transformKey data) = none) :
    encodeNode host node data = [] := by
  rw [encodeNode, if_pos transform, missing]
  split <;> rfl

theorem encodeNode_empty (empty : node.length = 0) : encodeNode host node data = [] := by
  rw [encodeNode, if_neg (by rw [empty]; decide)]

variable (integers : ∀ text json, node.transformMapping.lookup text = some json →
  ∃ number, IntegerTo json number)
include integers

/-- The field of the node holds the bytes of the entry that the code takes. -/
theorem field_takenBytes (memory : Memory) (nonempty : 0 < node.length)
    (transform : 0 < node.transformMapping.entries.length) (short : node.length.toNat ≤ 4) :
    (List.range' node.byteOffset.toNat node.length.toNat).map
        (Store.run memory (encodeNode host node data)) = takenBytes memory node data := by
  unfold takenBytes
  cases found : node.transformMapping.lookup (transformKey data) with
  | none =>
      rw [encodeNode_missing transform found]
      rfl
  | some json =>
      obtain ⟨number, integer⟩ := integers _ json found
      have written := Store.map_run_putBytes memory node.byteOffset.toNat
        (wireBytes node.length.toNat number)
      rw [length_wireBytes] at written
      rw [encodeNode_entry nonempty transform short found integer, written, Option.bind_some, integer.1]

/-- A node that writes nothing has no entry for the boolean text. -/
theorem encodeNode_eq_nil (nonempty : 0 < node.length)
    (transform : 0 < node.transformMapping.entries.length) (short : node.length.toNat ≤ 4) :
    encodeNode host node data = [] ↔ node.transformMapping.lookup (transformKey data) = none := by
  constructor
  · intro silent
    by_contra entry
    obtain ⟨json, found⟩ := Option.ne_none_iff_exists'.mp entry
    obtain ⟨number, integer⟩ := integers _ json found
    rw [encodeNode_entry nonempty transform short found integer] at silent
    have none := congrArg List.length silent
    rw [Store.length_putBytes, length_wireBytes, List.length_nil] at none
    rw [UInt8.lt_iff_toNat_lt, none] at nonempty
    exact Nat.lt_irrefl 0 nonempty
  · exact encodeNode_missing transform

/-- The field of the sent buffer is right exactly when it fits and the taken bytes are right. -/
theorem requestField_iff (memory : Memory) (number : Int) (nonempty : 0 < node.length)
    (transform : 0 < node.transformMapping.entries.length) (short : node.length.toNat ≤ 4) :
    requestField node (payloadBytes (Store.run memory (encodeNode host node data))) =
        wireBytes node.length.toNat number ↔
      node.byteOffset.toNat + node.length.toNat ≤ methodPayloadSize ∧
        takenBytes memory node data = wireBytes node.length.toNat number := by
  have positive : 0 < node.length.toNat := UInt8.lt_iff_toNat_lt.mp nonempty
  by_cases fits : node.byteOffset.toNat + node.length.toNat ≤ methodPayloadSize
  · rw [requestField_payloadBytes node _ fits, field_takenBytes integers memory nonempty transform short,
      and_iff_right fits]
  · refine iff_of_false ?_ fun right => fits right.1
    intro same
    have length := congrArg List.length same
    rw [length_wireBytes] at length
    simp only [requestField, payloadBytes, List.length_take, List.length_drop, List.length_map,
      List.length_range] at length
    omega

/-- The transform of a node is applied exactly when the boolean text leads to the right bytes. -/
theorem transformApplied_iff (memory : Memory) (transform : 0 < node.transformMapping.entries.length)
    (short : node.length.toNat ≤ 4) :
    TransformApplied host node data (payloadBytes (Store.run memory (encodeNode host node data))) ↔
      SameBytes memory node data := by
  unfold TransformApplied SameBytes
  by_cases empty : node.length = 0
  · refine iff_of_true ⟨?_, fun _ => encodeNode_empty empty⟩ (.inl empty)
    intro text json number _ _ _
    simp [requestField, wireBytes, empty, littleEndian]
  · have nonempty : 0 < node.length := UInt8.pos_iff_ne_zero.mpr empty
    simp only [requestField_iff integers memory _ nonempty transform short,
      encodeNode_eq_nil integers nonempty transform short, empty, false_or]

end Node

/-- A transform reaches the request exactly when the boolean text of the target leads to the bytes of the
entry for its own text. -/
theorem method_transforms_are_applied (host : Host) (client : Bool) (targetValues : ActuatorValues)
    {vssMap : List VSSConfigInfo} {before after : List (SOMEIPConfigdata × VSSNode)}
    {entry : SOMEIPConfigdata × VSSNode} {data : Datapoint} {bytes : List UInt8}
    (split : methodNodes vssMap = before ++ entry :: after)
    (target : targetValues.lookup entry.2.name = some data)
    (transform : 0 < entry.2.transformMapping.entries.length) (short : entry.2.length.toNat ≤ 4)
    (integers : ∀ text json, entry.2.transformMapping.lookup text = some json →
      ∃ number, IntegerTo json number)
    (sent : sentPayload (onActuatorChange host client targetValues vssMap) before.length = some bytes) :
    TransformApplied host entry.2 data bytes ↔
      SameBytes (bufferAfter host targetValues before) entry.2 data := by
  rw [sentPayload_bytes host client targetValues split target sent]
  exact transformApplied_iff integers _ transform short

theorem integerTo_int (value : Int64) : IntegerTo (.int value) value.toInt :=
  ⟨rfl, value.le_toInt, by have bound := value.toInt_lt; omega⟩

/-- The wiper mode writes one byte at the end of the request. -/
def wiperNode (transformMapping : KeyedMap String JsonValue) : VSSNode where
  name := "Vehicle.Body.Windshield.Front.Wiping.System.Mode"
  datatype := "UINT8"
  byteOffset := 5
  length := 1
  methodId := 7
  transformMapping := transformMapping

/-- A boolean target switches between the hold mode and the wipe mode. -/
def wiperSwitch : VSSNode :=
  wiperNode (AList.insert "0" (.int 1) (AList.insert "1" (.int 2) ∅))

/-- This is the wiper mode of the documented method configuration. -/
def wiperMode : VSSNode :=
  wiperNode (AList.insert "PLANT_MODE" (.int 0) (AList.insert "STOP_HOLD" (.int 1)
    (AList.insert "WIPE" (.int 2) (AList.insert "EMERGENCY_STOP" (.int 3) ∅))))

theorem method_transforms_are_applied_switch :
    TransformApplied zeroHost wiperSwitch (.boolValue true) [0, 0, 0, 0, 0, 2] := by
  have integers : ∀ text json, wiperSwitch.transformMapping.lookup text = some json →
      ∃ number, IntegerTo json number := by
    intro text json found
    have member := AList.mem_lookup_iff.mp found
    have entries : wiperSwitch.transformMapping.entries = [⟨"0", .int 1⟩, ⟨"1", .int 2⟩] := rfl
    rw [entries] at member
    simp only [List.mem_cons, List.not_mem_nil, or_false, Sigma.mk.injEq, heq_eq_eq] at member
    rcases member with ⟨-, rfl⟩ | ⟨-, rfl⟩
    · exact ⟨_, integerTo_int 1⟩
    · exact ⟨_, integerTo_int 2⟩
  have same : SameBytes (bufferAfter zeroHost
      (collectChanges [(wiperSwitch.name, some (.boolValue true))]) []) wiperSwitch (.boolValue true) := by
    right
    constructor
    · rintro text json number rfl found integer
      have entry : json = .int 2 := Option.some.inj (found.symm.trans rfl)
      subst entry
      have value : number = 2 := Option.some.inj (integer.1.symm.trans rfl)
      subst value
      exact ⟨by decide, by decide⟩
    · intro missing
      exact missing "1" rfl
  exact (method_transforms_are_applied zeroHost true
    (collectChanges [(wiperSwitch.name, some (.boolValue true))])
    (show methodNodes [methodMapping 24867 11 wiperSwitch] =
      [] ++ ((methodMapping 24867 11 wiperSwitch).metaData, wiperSwitch) :: [] from rfl)
    rfl (by decide) (by decide) integers (by decide)).mpr same

/-- The text `WIPE` has an entry, but a string is looked up as a false boolean. -/
theorem wipe_is_not_applied :
    sentPayload (onActuatorChange zeroHost true
        (collectChanges [(wiperMode.name, some (.stringValue (JsonValue.utf8 "WIPE")))])
        [methodMapping 24867 11 wiperMode]) 0 = some [0, 0, 0, 0, 0, 0] ∧
      ¬ TransformApplied zeroHost wiperMode (.stringValue (JsonValue.utf8 "WIPE")) [0, 0, 0, 0, 0, 0] := by
  constructor
  · decide
  · intro applied
    have sent := applied.1 "WIPE" (.int 2) 2 rfl rfl (integerTo_int 2)
    revert sent
    decide

end VehicleEdge.Someip
