import VehicleEdge.Someip.Batch

/-
This file compares the requests of `on_actuator_change` with the values that were really encoded.
-/

namespace VehicleEdge.Someip

open Kuksa (Datapoint)

/-- Each datatype branch reads one case of the datapoint. -/
def readsCase : Sdv.DataType → Datapoint → Bool
  | .bool, .boolValue _ => true
  | .uint8, .uint32Value _ | .uint16, .uint32Value _ | .uint32, .uint32Value _ => true
  | .int8, .int32Value _ | .int16, .int32Value _ => true
  | .float, .floatValue _ => true
  | .string, .stringValue _ => true
  | .uint8Array, .uint32ArrayValue _ | .uint16Array, .uint32ArrayValue _ => true
  | .int16Array, .int32ArrayValue _ | .timestampArray, .int32ArrayValue _ => true
  | _, _ => false

/-- The field of the node comes from the target value itself. -/
def FieldEncoded (node : VSSNode) (data : Datapoint) : Prop :=
  0 < node.length ∧
    if 0 < node.transformMapping.entries.length then
      (node.transformMapping.lookup (transformKey data)).isSome = true
    else readsCase (getDataType node.datatype) data = true

instance (node : VSSNode) (data : Datapoint) : Decidable (FieldEncoded node data) :=
  inferInstanceAs (Decidable (_ ∧ _))

/-- The node has a target value and its field comes from it. -/
def Encoded (targetValues : ActuatorValues) (node : VSSNode) : Prop :=
  ∃ data, targetValues.lookup node.name = some data ∧ FieldEncoded node data

theorem requestFor_isSome (host : Host) (client : Bool) (targetValues : ActuatorValues)
    (before : List (SOMEIPConfigdata × VSSNode)) (entry : SOMEIPConfigdata × VSSNode) :
    (requestFor host client targetValues before entry).isSome = true ↔
      (targetValues.lookup entry.2.name).isSome = true ∧ sends client entry.1 entry.2 = true := by
  unfold requestFor
  rw [← Bool.and_eq_true]
  split
  case isTrue sent => simp [sent]
  case isFalse unsent => simp [unsent]

/-- The node of a request stands at the position of the request. -/
theorem request_node {host : Host} {client : Bool} {targetValues : ActuatorValues}
    {vssMap : List VSSConfigInfo} {request : Request}
    (member : request ∈ (onActuatorChange host client targetValues vssMap).requests) :
    ∃ entry, (methodNodes vssMap)[request.position]? = some entry ∧
      (targetValues.lookup entry.2.name).isSome = true ∧ sends client entry.1 entry.2 = true := by
  obtain ⟨before, entry, after, split, sent⟩ :=
    (mem_requests host client targetValues vssMap request).mp member
  have named := (requestFor_isSome host client targetValues before entry).mp (by rw [sent]; rfl)
  refine ⟨entry, ?_, named⟩
  rw [requestFor_position host client targetValues sent, split]
  simp

/-- Every named node with valid ids sends a request. -/
theorem node_request (host : Host) {client : Bool} {targetValues : ActuatorValues}
    {vssMap : List VSSConfigInfo} {entry : SOMEIPConfigdata × VSSNode}
    (member : entry ∈ methodNodes vssMap) (named : (targetValues.lookup entry.2.name).isSome = true)
    (allowed : sends client entry.1 entry.2 = true) :
    ∃ request ∈ (onActuatorChange host client targetValues vssMap).requests,
      (methodNodes vssMap)[request.position]? = some entry := by
  obtain ⟨before, after, split⟩ := List.append_of_mem member
  obtain ⟨request, sent⟩ := Option.isSome_iff_exists.mp
    ((requestFor_isSome host client targetValues before entry).mpr ⟨named, allowed⟩)
  refine ⟨request, (mem_requests host client targetValues vssMap request).mpr
    ⟨before, entry, after, split, sent⟩, ?_⟩
  rw [requestFor_position host client targetValues sent, split]
  simp

/-- The request at a position is that of the node there. -/
theorem mem_requests_at (host : Host) (client : Bool) (targetValues : ActuatorValues)
    {vssMap : List VSSConfigInfo} {position : Nat} {entry : SOMEIPConfigdata × VSSNode}
    (node : (methodNodes vssMap)[position]? = some entry) (request : Request) :
    request ∈ (onActuatorChange host client targetValues vssMap).requests ∧ request.position = position ↔
      requestFor host client targetValues ((methodNodes vssMap).take position) entry = some request := by
  obtain ⟨inside, rfl⟩ := List.getElem?_eq_some_iff.mp node
  have length : ((methodNodes vssMap).take position).length = position :=
    List.length_take_of_le (Nat.le_of_lt inside)
  have split : methodNodes vssMap = (methodNodes vssMap).take position ++
      (methodNodes vssMap)[position] :: (methodNodes vssMap).drop (position + 1) := by
    rw [← List.drop_eq_getElem_cons inside, List.take_append_drop]
  rw [mem_requests]
  constructor
  · rintro ⟨⟨before, other, after, same, sent⟩, at_⟩
    have front : before.length = position :=
      (requestFor_position host client targetValues sent).symm.trans at_
    obtain ⟨rfl, tails⟩ := List.append_inj (same.symm.trans split) (front.trans length.symm)
    obtain ⟨rfl, -⟩ := List.cons.inj tails
    exact sent
  · intro sent
    exact ⟨⟨_, _, _, split, sent⟩, (requestFor_position host client targetValues sent).trans length⟩

/-- Every request carries an encoded field exactly when each named node with valid ids can encode its
value. -/
theorem requests_carry_values (host : Host) (client : Bool) (targetValues : ActuatorValues)
    (vssMap : List VSSConfigInfo) :
    (∀ request ∈ (onActuatorChange host client targetValues vssMap).requests,
        ∀ entry, (methodNodes vssMap)[request.position]? = some entry →
          Encoded targetValues entry.2) ↔
      ∀ mapping ∈ vssMap, mapping.metaData.serviceType = "Method" → ∀ node ∈ mapping.vssNodes,
        sends client mapping.metaData node = true →
          ∀ data, targetValues.lookup node.name = some data → FieldEncoded node data := by
  constructor
  · intro encoded mapping member isMethod node inNodes allowed data target
    have visited : (mapping.metaData, node) ∈ methodNodes vssMap :=
      mem_methodNodes.mpr ⟨mapping, member, isMethod, rfl, inNodes⟩
    have named : (targetValues.lookup node.name).isSome = true := by rw [target]; rfl
    obtain ⟨request, sent, position⟩ := node_request host visited named allowed
    obtain ⟨found, sameTarget, field⟩ := encoded request sent _ position
    rw [target] at sameTarget
    cases sameTarget
    exact field
  · intro encodable request sent entry position
    obtain ⟨other, samePosition, named, allowed⟩ := request_node sent
    rw [position] at samePosition
    cases samePosition
    obtain ⟨data, target⟩ := Option.isSome_iff_exists.mp named
    obtain ⟨mapping, member, isMethod, same, inNodes⟩ :=
      mem_methodNodes.mp (List.mem_of_getElem? position)
    rw [← same] at allowed
    exact ⟨data, target, encodable mapping member isMethod entry.2 inNodes allowed data target⟩

/-- This node is the start permission of the drive feeder as a method. -/
def permissionNode : VSSNode where
  name := "Vehicle.Powertrain.StartPermission"
  datatype := "bool"
  byteOffset := 0
  length := 1
  methodId := 4
  transformMapping := ∅

def permissionMapping : VSSConfigInfo where
  metaData := ⟨"Method", 39936, 5, 2, 0, 0, 1, 0⟩
  vssNodes := [permissionNode]

theorem request_without_value :
    ¬ ∀ request ∈ (onActuatorChange zeroHost true
        (collectChanges [("Vehicle.Powertrain.StartPermission", none)]) [permissionMapping]).requests,
      ∀ entry, (methodNodes [permissionMapping])[request.position]? = some entry →
        Encoded (collectChanges [("Vehicle.Powertrain.StartPermission", none)]) entry.2 := by
  intro encoded
  obtain ⟨data, target, field⟩ := encoded ⟨39936, 5, 4, [0, 0, 0, 0, 0, 0], 0⟩ (by decide)
    (permissionMapping.metaData, permissionNode) rfl
  have empty : data = .notSet := Option.some.inj (target.symm.trans rfl)
  subst empty
  revert field
  decide

end VehicleEdge.Someip
