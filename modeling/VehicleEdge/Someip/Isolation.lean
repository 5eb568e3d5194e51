import VehicleEdge.Someip.EncodeBounds

/-
This file compares two calls of `on_actuator_change`, with and without the target value of one name.
All requests of a call share one buffer, so a byte of one node can reach the request of another.
-/

namespace VehicleEdge.Someip

open Kuksa (Datapoint)

@[simp] theorem all_isPut_memcpy (host : Host) (destination : Nat) (source : List UInt8) (size : Nat) :
    (memcpy host destination source size).all Store.isPut = true :=
  Store.all_isPut_putBytes destination _

theorem copyJsonValueType_puts (host : Host) (payload : Nat) (value : JsonValue) (size : Nat) :
    (copyJsonValueType host payload value size).all Store.isPut = true := by
  unfold copyJsonValueType
  cases value with
  | boolean | string | int | uint | real => exact all_isPut_memcpy host _ _ _
  | null | array | object =>
      dsimp only
      split <;> simp

/-- The shift of the light request reads a byte that the same node has just written. -/
theorem selfContained_aligned {puts : List Store} (contained : Store.SelfContained puts)
    (covered : Store.touches puts 2 = true) :
    Store.SelfContained (puts ++ ([.move 3 2, .put 2 0] : List Store)) := by
  intro memory other index touched
  rw [Store.run_append, Store.run_append]
  by_cases second : index = 2
  · subst second
    simp [Store.apply]
  · by_cases third : index = 3
    · subst third
      simpa [Store.apply] using contained memory other 2 covered
    · have inPuts : Store.touches puts index = true := by
        simpa [Store.touches_append, Store.touches, Store.index, Ne.symm second, Ne.symm third]
          using touched
      simpa [Store.apply, second, third] using contained memory other index inPuts

theorem touches_indexed {offset : UInt64} {count index : Nat} (byte : Nat → UInt8) (small : count ≤ 256)
    (above : offset.toNat ≤ index) (below : index < offset.toNat + count) (fits : index < 2 ^ 64) :
    Store.touches ((List.range count).map fun step =>
      .put (offset + UInt64.ofNat step).toNat (byte step)) index = true := by
  rw [Store.touches, List.any_eq_true]
  refine ⟨_, List.mem_map.mpr ⟨index - offset.toNat, List.mem_range.mpr (by omega), rfl⟩, ?_⟩
  rw [beq_iff_eq, Store.index, indexed_toNat offset (by omega)]
  omega

/-- Only the light request moves a byte, and it stores nothing but bytes otherwise. -/
theorem encodeValue_selfContained (host : Host) (node : VSSNode) (data : Datapoint)
    (inside : Store.Inside methodPayloadSize (encodeValue host node data)) :
    Store.SelfContained (encodeValue host node data) := by
  have fits := (encodeValue_inside host node data).mp inside
  unfold encodeValue
  unfold valueWidth at fits
  cases type : getDataType node.datatype with
  | uint8Array =>
      dsimp only
      cases array : data.uint32Array with
      | none => exact Store.selfContained_of_puts rfl
      | some values =>
          have puts : Store.SelfContained ((List.range node.length.toNat).map fun step =>
              .put (node.byteOffset + UInt64.ofNat step).toNat (uint32Element host values step).toUInt8) :=
            Store.selfContained_of_puts (by simp [Store.isPut])
          dsimp only
          split
          case isTrue four =>
            -- four bytes inside a buffer of six always cover the byte that is shifted
            have length : node.length.toNat = 4 := by rw [four]; rfl
            simp only [type, array, length, methodPayloadSize, Option.isSome_some, if_true] at fits
            exact selfContained_aligned puts (touches_indexed _ (by omega) (by omega) (by omega) (by omega))
          case isFalse => rwa [List.append_nil]
  | uint16Array =>
      dsimp only
      cases data.uint32Array <;> exact Store.selfContained_of_puts (by simp [Store.isPut])
  | int16Array | timestampArray =>
      dsimp only
      cases data.int32Array <;> exact Store.selfContained_of_puts (by simp [Store.isPut])
  | float => exact Store.selfContained_of_puts (Store.all_isPut_putBytes _ _)
  | _ => exact Store.selfContained_of_puts (by simp [Store.isPut])

theorem encodeNode_selfContained (host : Host) (node : VSSNode) (data : Datapoint)
    (inside : Store.Inside methodPayloadSize (encodeNode host node data)) :
    Store.SelfContained (encodeNode host node data) := by
  unfold encodeNode at inside ⊢
  split
  case isTrue nonempty =>
    rw [if_pos nonempty] at inside
    split
    case isTrue =>
      split
      · exact Store.selfContained_of_puts (copyJsonValueType_puts host _ _ _)
      · exact Store.selfContained_of_puts rfl
    case isFalse plain =>
      rw [if_neg plain] at inside
      exact encodeValue_selfContained host node data inside
  case isFalse => exact Store.selfContained_of_puts rfl

/-- A node that fits the buffer writes bytes that do not depend on the nodes before it. -/
theorem nodeStores_selfContained (host : Host) (targetValues : ActuatorValues)
    (entry : SOMEIPConfigdata × VSSNode) (fits : FitsBuffer host targetValues entry.2) :
    Store.SelfContained (nodeStores host targetValues entry) := by
  have inside := (nodeStores_inside host targetValues entry).mpr fits
  unfold nodeStores at inside ⊢
  cases target : targetValues.lookup entry.2.name with
  | none => exact Store.selfContained_of_puts rfl
  | some data =>
      rw [target] at inside
      exact encodeNode_selfContained host entry.2 data inside

/-- Removing a target value drops exactly the nodes of its name. -/
theorem nodeStores_erase (host : Host) (targetValues : ActuatorValues) (name : String) :
    nodeStores host (targetValues.erase name) =
      Store.kept (nodeStores host targetValues) (fun entry => entry.2.name == name) := by
  funext entry
  unfold Store.kept nodeStores
  by_cases same : entry.2.name = name
  · subst same
    rw [AList.lookup_erase]
    simp
  · rw [AList.lookup_erase_ne same]
    simp [same]

/-- The request for the node at a position has the same payload without the target value of the name.
A store outside the buffer is undefined behaviour, so the call must also stay inside it. -/
def Isolated (host : Host) (client : Bool) (targetValues : ActuatorValues)
    (vssMap : List VSSConfigInfo) (name : String) (position : Nat) : Prop :=
  Store.Inside methodPayloadSize (onActuatorChange host client targetValues vssMap).stores ∧
    sentPayload (onActuatorChange host client (targetValues.erase name) vssMap) position =
      sentPayload (onActuatorChange host client targetValues vssMap) position

/-- Each change that a node of the name makes to the buffer of the other values is overwritten by a
later node, at the latest by the sending node itself. -/
def LeavesNoTrace (host : Host) (targetValues : ActuatorValues) (name : String)
    (before : List (SOMEIPConfigdata × VSSNode)) (entry : SOMEIPConfigdata × VSSNode) : Prop :=
  ∀ index < methodPayloadSize,
    Store.Overwritten (nodeStores host targetValues) (fun entry => entry.2.name == name)
      (fun _ => 0) index (before ++ [entry])

instance (host : Host) (client : Bool) (targetValues : ActuatorValues) (vssMap : List VSSConfigInfo)
    (name : String) (position : Nat) :
    Decidable (Isolated host client targetValues vssMap name position) :=
  haveI : Decidable (Store.Inside methodPayloadSize
      (onActuatorChange host client targetValues vssMap).stores) :=
    inferInstanceAs (Decidable (∀ store ∈ _, _))
  inferInstanceAs (Decidable (_ ∧ _))

theorem payloadBytes_eq_iff (first second : Memory) :
    payloadBytes first = payloadBytes second ↔
      ∀ index < methodPayloadSize, first index = second index := by
  simp only [payloadBytes, List.map_inj_left, List.mem_range]

/-- The control nodes of the drive feeder all start at offset zero. -/
def controlNode (name datatype : String) (methodId : UInt16) : VSSNode where
  name := name
  datatype := datatype
  byteOffset := 0
  length := 2
  methodId := methodId
  transformMapping := ∅

def steeringControl : VSSNode := controlNode "Vehicle.Chassis.SteeringWheel.AngleControl" "int16[]" 1

def acceleratorControl : VSSNode :=
  controlNode "Vehicle.Chassis.Accelerator.PedalPositionControl" "uint16[]" 2

/-- This is the method mapping of the drive feeder. -/
def driveMapping : VSSConfigInfo where
  metaData := ⟨"Method", 39936, 5, 2, 0, 0, 1, 0⟩
  vssNodes := [steeringControl, acceleratorControl,
    controlNode "Vehicle.Chassis.Brake.PedalPositionControl" "uint16[]" 3,
    controlNode "Vehicle.Powertrain.StartStop.StartControl" "uint16[]" 4,
    controlNode "Vehicle.Powertrain.Transmission.SelectedGearControl" "int8_uint16" 5,
    controlNode "Vehicle.RequestTakeOver" "uint16[]" 8]

/-- One response of the broker changes the steering angle and the accelerator position. -/
def driveTargets (angle requestor : Int32) : ActuatorValues :=
  collectChanges [(steeringControl.name, some (.int32ArrayValue [angle, requestor])),
    (acceleratorControl.name, some (.uint32ArrayValue [5, 6]))]

end VehicleEdge.Someip
