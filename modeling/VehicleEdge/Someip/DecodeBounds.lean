import VehicleEdge.Someip.Decode

/-
This file compares the bytes that `on_someip_message` reads with the length of the payload.
-/

namespace VehicleEdge.Someip

/-- These are the nodes that the message addresses. -/
def eventNodes (config : SomeIPConfig) (serviceId instanceId methodId : UInt16) : List VSSNode :=
  config.vssMap.flatMap fun mapping =>
    if mapping.metaData.serviceType = "Event" ∧ serviceId = config.service ∧
        instanceId = config.instance_ then
      mapping.vssNodes.filter fun node => node.methodId = methodId ∧ 0 < node.length
    else []

theorem mem_eventNodes {config : SomeIPConfig} {serviceId instanceId methodId : UInt16}
    {node : VSSNode} :
    node ∈ eventNodes config serviceId instanceId methodId ↔
      ∃ mapping ∈ config.vssMap, (mapping.metaData.serviceType = "Event" ∧ serviceId = config.service ∧
        instanceId = config.instance_) ∧ node ∈ mapping.vssNodes ∧
          node.methodId = methodId ∧ 0 < node.length := by
  unfold eventNodes
  rw [List.mem_flatMap]
  refine exists_congr fun mapping => and_congr_right fun _ => ?_
  split
  case isTrue addressed => simp [addressed, List.mem_filter]
  case isFalse other => simp [other]

/-- The decoder has a branch for these datatypes only. -/
def decodable : Sdv.DataType → Bool
  | .bool | .uint8 | .int8 | .uint16 | .int16 | .uint32 | .float | .string => true
  | _ => false

/-- The width of a field is that of its branch, and the configured length without a branch. -/
def fieldWidth (node : VSSNode) : Nat :=
  match getDataType node.datatype with
  | .bool | .uint8 | .int8 => 1
  | .uint16 | .int16 => 2
  | .uint32 | .float => 4
  | _ => node.length.toNat

/-- The field of the node lies in the received bytes. -/
def FitsPayload (payload : Payload) (node : VSSNode) : Prop :=
  node.byteOffset.toNat + fieldWidth node ≤ payload.bytes.length

instance (payload : Payload) (node : VSSNode) : Decidable (FitsPayload payload node) :=
  inferInstanceAs (Decidable (_ ≤ _))

/-- A node without a branch is fed only by a transform entry for zero. -/
def Silent (node : VSSNode) : Prop :=
  decodable (getDataType node.datatype) = false ∧ node.transformMapping.lookup "0" = none

section Loop

variable (host : Host) (payload : Payload)

/-- The two nested loops are one loop over the addressed nodes. -/
theorem onSomeipMessage_eq (config : SomeIPConfig) (serviceId instanceId methodId : UInt16) :
    onSomeipMessage host config serviceId instanceId methodId payload =
      (eventNodes config serviceId instanceId methodId).foldl (feedNode host payload)
        ⟨.notSet, [], []⟩ := by
  unfold onSomeipMessage eventNodes
  rw [List.foldl_flatMap]
  congr 1
  funext frame mapping
  split
  · rw [List.foldl_filter]
    congr 1
    funext frame node
    unfold visitEvent
    by_cases same : node.methodId = methodId <;> by_cases nonempty : 0 < node.length <;>
      simp [same, nonempty]
  · rfl

/-- The node is fed by its branch or, with a transform, by the entry of its integer value. -/
def isFed (node : VSSNode) : Bool :=
  if 0 < node.transformMapping.entries.length then
    (node.transformMapping.lookup (toString (decodeField host payload node).tmpValue.toInt)).isSome
  else (decodeField host payload node).value.isSome

theorem transformField_isFed (node : VSSNode) (value : Sdv.Datapoint) :
    (transformField node (decodeField host payload node) value).2 = isFed host payload node := by
  unfold transformField isFed
  split
  · cases node.transformMapping.lookup (toString (decodeField host payload node).tmpValue.toInt) <;> rfl
  · rfl

/-- The loop reads the field of every addressed node and feeds those that have a value. -/
theorem fed_nodes (nodes : List VSSNode) (frame : MessageFrame) :
    (nodes.foldl (feedNode host payload) frame).reads =
        frame.reads ++ nodes.flatMap (fun node => (decodeField host payload node).reads) ∧
      (nodes.foldl (feedNode host payload) frame).feeds.map Feed.node =
        frame.feeds.map Feed.node ++ nodes.filter (isFed host payload) := by
  induction nodes generalizing frame with
  | nil => simp
  | cons node nodes ih =>
      obtain ⟨reads, feeds⟩ := ih (feedNode host payload frame node)
      rw [List.foldl_cons, reads, feeds, List.flatMap_cons, List.filter_cons]
      simp only [feedNode, transformField_isFed]
      constructor
      · rw [List.append_assoc]
      · split <;> simp

end Loop

section Reads

variable (host : Host) (payload : Payload) (node : VSSNode)

/-- Consecutive indices stay below a bound when there are none or the last one does. -/
theorem range'_below {offset count bound : Nat} (some_ : 0 < count) :
    (∀ index ∈ List.range' offset count, index < bound) ↔ offset + count ≤ bound := by
  simp only [List.mem_range'_1]
  constructor
  · intro below
    have last := below (offset + count - 1) (by omega)
    omega
  · intro fits index inRange
    omega

theorem decodeField_reads_of_decodable (nonempty : 0 < node.length)
    (branch : decodable (getDataType node.datatype) = true) :
    (∀ index ∈ (decodeField host payload node).reads, index < payload.bytes.length) ↔
      FitsPayload payload node := by
  have addressable := payload.addressable
  have bound := node.byteOffset.toNat_lt
  have next : (node.byteOffset + 1).toNat = (node.byteOffset.toNat + 1) % 2 ^ 64 := by
    rw [UInt64.toNat_add]
    rfl
  have positive : 0 < node.length.toNat := UInt8.lt_iff_toNat_lt.mp nonempty
  unfold decodeField FitsPayload fieldWidth
  cases type : getDataType node.datatype with
  | bool | uint8 | int8 =>
      simp only [List.forall_mem_singleton]
      omega
  | uint16 | int16 =>
      simp only [List.forall_mem_cons, List.not_mem_nil, false_implies, implies_true, and_true, next]
      omega
  | uint32 | float => exact range'_below (by decide)
  | string => exact range'_below positive
  | _ =>
      rw [type] at branch
      cases branch

theorem decodeField_of_not_decodable (branch : decodable (getDataType node.datatype) = false) :
    decodeField host payload node = ⟨[], 0, none⟩ := by
  unfold decodeField
  cases type : getDataType node.datatype <;> rw [type] at branch <;> first | rfl | cases branch

theorem isFed_of_not_decodable (branch : decodable (getDataType node.datatype) = false) :
    isFed host payload node = (node.transformMapping.lookup "0").isSome := by
  have field := decodeField_of_not_decodable host payload node branch
  unfold isFed
  rw [field]
  split
  case isTrue => rfl
  case isFalse noTransform =>
    rw [Nat.not_lt, Nat.le_zero, List.length_eq_zero_iff] at noTransform
    simp [AList.lookup, noTransform]

/-- One addressed node is read inside the payload, and fed only if it fits, exactly when it fits or is
silent. -/
theorem node_stays_inside (nonempty : 0 < node.length) :
    (∀ index ∈ (decodeField host payload node).reads, index < payload.bytes.length) ∧
        (isFed host payload node = true → FitsPayload payload node) ↔
      FitsPayload payload node ∨ Silent node := by
  cases branch : decodable (getDataType node.datatype) with
  | true =>
      rw [decodeField_reads_of_decodable host payload node nonempty branch]
      simp only [Silent, branch, Bool.true_eq_false, false_and, or_false]
      exact ⟨And.left, fun fits => ⟨fits, fun _ => fits⟩⟩
  | false =>
      rw [isFed_of_not_decodable host payload node branch,
        decodeField_of_not_decodable host payload node branch]
      simp only [Silent, branch, List.not_mem_nil, false_implies, implies_true, true_and]
      cases node.transformMapping.lookup "0" <;> simp

end Reads

/-- Decoding stays inside the payload, and feeds only fields that fit, exactly when every addressed node
fits the payload or is silent. -/
theorem decoding_stays_inside (host : Host) (config : SomeIPConfig)
    (serviceId instanceId methodId : UInt16) (payload : Payload) :
    ((∀ index ∈ (onSomeipMessage host config serviceId instanceId methodId payload).reads,
        index < payload.bytes.length) ∧
      ∀ feed ∈ (onSomeipMessage host config serviceId instanceId methodId payload).feeds,
        FitsPayload payload feed.node) ↔
      ∀ mapping ∈ config.vssMap, (mapping.metaData.serviceType = "Event" ∧ serviceId = config.service ∧
        instanceId = config.instance_) → ∀ node ∈ mapping.vssNodes, node.methodId = methodId →
          0 < node.length → FitsPayload payload node ∨ Silent node := by
  obtain ⟨reads, feeds⟩ := fed_nodes host payload (eventNodes config serviceId instanceId methodId)
    ⟨.notSet, [], []⟩
  rw [← List.forall_mem_map, onSomeipMessage_eq, reads, feeds]
  simp only [List.nil_append, List.map_nil, List.mem_flatMap, List.mem_filter]
  constructor
  · rintro ⟨inside, fits⟩ mapping member addressed node inNodes same nonempty
    have visited := mem_eventNodes.mpr ⟨mapping, member, addressed, inNodes, same, nonempty⟩
    rw [← node_stays_inside host payload node nonempty]
    constructor
    · intro index read
      exact inside index ⟨node, visited, read⟩
    · intro isFed
      exact fits node ⟨visited, isFed⟩
  · intro condition
    have each : ∀ node ∈ eventNodes config serviceId instanceId methodId,
        (∀ index ∈ (decodeField host payload node).reads, index < payload.bytes.length) ∧
          (isFed host payload node = true → FitsPayload payload node) := by
      intro node visited
      obtain ⟨mapping, member, addressed, inNodes, same, nonempty⟩ := mem_eventNodes.mp visited
      exact (node_stays_inside host payload node nonempty).mpr
        (condition mapping member addressed node inNodes same nonempty)
    constructor
    · rintro index ⟨node, visited, read⟩
      exact (each node visited).1 index read
    · rintro node ⟨visited, isFed⟩
      exact (each node visited).2 isFed

/-- This is the steering angle event of the drive feeder. -/
def angleNode : VSSNode where
  name := "Vehicle.Chassis.SteeringWheel.ArbitratedAngle"
  datatype := "int16"
  byteOffset := 0
  length := 2
  methodId := 32788
  transformMapping := ∅

def angleMapping : VSSConfigInfo where
  metaData := ⟨"Event", 39936, 4, 0, 32774, 1, 1, 0⟩
  vssNodes := [angleNode]

theorem decoding_leaves_payload :
    ¬ ((∀ index ∈ (onSomeipMessage zeroHost (createEnvConfig [angleMapping]) 39936 4 32788
          ⟨[1], by decide⟩).reads, index < 1) ∧
      ∀ feed ∈ (onSomeipMessage zeroHost (createEnvConfig [angleMapping]) 39936 4 32788
          ⟨[1], by decide⟩).feeds, FitsPayload ⟨[1], by decide⟩ feed.node) := by
  decide

end VehicleEdge.Someip
