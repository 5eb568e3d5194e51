import VehicleEdge.Feeder.Values
import VehicleEdge.Someip.EventTransform

/-
This file compares the datapoints that `InitDataBrokerFeeder` registers with those that
`on_someip_message` feeds.
-/

namespace VehicleEdge.Someip

open Sdv (Datapoint)
open Feeder (DatapointMetadata DatapointConfiguration)

/-- An event node is registered with its type and without a value. -/
def eventMetadata (node : VSSNode) : DatapointMetadata Datapoint where
  name := node.name
  dataType := getDataType node.datatype
  changeType := .onChange
  initialValue := Sdv.createNotAvailableValue
  description := "No description"

/-- These lists go to the feeder and to the actuator subscriber. -/
structure BrokerLists where
  metadata : DatapointConfiguration Datapoint
  vssActuatorList : List String

/-- The nodes of an event mapping are datapoints and those of a method mapping are actuators. -/
def BrokerLists.add (lists : BrokerLists) (mapping : VSSConfigInfo) : BrokerLists :=
  if mapping.metaData.serviceType = "Event" then
    { lists with metadata := lists.metadata ++ mapping.vssNodes.map eventMetadata }
  else if mapping.metaData.serviceType = "Method" then
    { lists with vssActuatorList := lists.vssActuatorList ++ mapping.vssNodes.map VSSNode.name }
  else lists

def initDataBrokerFeeder (config : SomeIPConfig) : BrokerLists :=
  config.vssMap.foldl BrokerLists.add ⟨[], []⟩

section Registration

theorem foldl_metadata (vssMap : List VSSConfigInfo) (lists : BrokerLists) :
    (vssMap.foldl BrokerLists.add lists).metadata = lists.metadata ++ vssMap.flatMap fun mapping =>
      if mapping.metaData.serviceType = "Event" then mapping.vssNodes.map eventMetadata else [] := by
  induction vssMap generalizing lists with
  | nil => simp
  | cons mapping vssMap ih =>
      rw [List.foldl_cons, ih, List.flatMap_cons, ← List.append_assoc]
      unfold BrokerLists.add
      split
      · rfl
      · split <;> simp

/-- Exactly the nodes of the event mappings are registered. -/
theorem mem_metadata {config : SomeIPConfig} {metadata : DatapointMetadata Datapoint} :
    metadata ∈ (initDataBrokerFeeder config).metadata ↔
      ∃ mapping ∈ config.vssMap, mapping.metaData.serviceType = "Event" ∧
        ∃ node ∈ mapping.vssNodes, eventMetadata node = metadata := by
  unfold initDataBrokerFeeder
  rw [foldl_metadata, List.nil_append, List.mem_flatMap]
  refine exists_congr fun mapping => and_congr_right fun _ => ?_
  split
  case isTrue isEvent => simp [isEvent]
  case isFalse other => simp [other]

end Registration

/-- The datapoint has the case of the registered type. -/
def Matches (metadata : DatapointMetadata Datapoint) (value : Datapoint) : Prop :=
  metadata.dataType.valueCase = some value.valueCase

/-- A fed name is registered, and always with a type of the fed case. -/
def Registered (config : SomeIPConfig) (feed : Feed) : Prop :=
  (∃ metadata ∈ (initDataBrokerFeeder config).metadata, metadata.name = feed.node.name) ∧
    ∀ metadata ∈ (initDataBrokerFeeder config).metadata, metadata.name = feed.node.name →
      Matches metadata feed.value

/-- These transform values give a case that a registered type can have. -/
def transformCase (value : JsonValue) : Option Sdv.ValueCase :=
  match value with
  | .boolean _ => some .bool
  | .string _ => some .string
  | value => value.integralValue.bind fun number =>
      if -2 ^ 31 ≤ number ∧ number < 2 ^ 31 then some .int32
      else if 2 ^ 31 ≤ number ∧ number < 2 ^ 32 then some .uint32
      else none

section Transform

/-- A wide case belongs to no type that a mapping can name. -/
def isWide : Sdv.ValueCase → Bool
  | .int64 | .uint64 | .double | .notSet => true
  | _ => false

/-- A case that is not wide is the one of the table. -/
def narrowCase (value : Datapoint) : Option Sdv.ValueCase :=
  if isWide value.valueCase then none else some value.valueCase

theorem narrowCase_createDatapoint (value : JsonValue) :
    narrowCase (createDatapoint value) = transformCase value := by
  cases value with
  | boolean | string | null | array | object => rfl
  | int | uint | real =>
      unfold createDatapoint transformCase
      dsimp only
      split
      case h_1 number found =>
        rw [found, Option.bind_some]
        split_ifs
        all_goals first | rfl | omega
      case h_2 found =>
        rw [found]
        rfl

/-- The registered types have no wide case. -/
theorem narrow_getDataType (text : String) {case : Sdv.ValueCase}
    (assigned : (getDataType text).valueCase = some case) : isWide case = false := by
  have narrow : ((getDataType text).valueCase.map isWide).getD false = false := by
    unfold getDataType
    simp only [apply_ite Sdv.DataType.valueCase, apply_ite (Option.map isWide),
      apply_ite (Option.getD · false)]
    simp only [Sdv.DataType.valueCase, Option.map_some, Option.map_none, Option.getD_some, Option.getD_none,
      isWide, ite_self]
  rw [assigned] at narrow
  exact narrow

/-- A transform value matches a registered type exactly when the table gives the case of the type. -/
theorem matches_createDatapoint (text : String) (value : JsonValue) :
    (getDataType text).valueCase = some (createDatapoint value).valueCase ↔
      ∃ case, (getDataType text).valueCase = some case ∧ transformCase value = some case := by
  rw [← narrowCase_createDatapoint, narrowCase]
  constructor
  · intro same
    exact ⟨_, same, by rw [narrow_getDataType text same]; rfl⟩
  · rintro ⟨case, assigned, created⟩
    split at created
    · cases created
    · rw [assigned, created]

end Transform

/-- The received bytes of the field give this number, and a text or an array gives zero. -/
def fieldNumber (host : Host) (payload : Payload) (node : VSSNode) : Int :=
  let offset := node.byteOffset.toNat
  let word := ofBigEndian [payload.read host offset, payload.read host (node.byteOffset + 1).toNat]
  let bytes := (List.range' offset 4).map (payload.read host)
  match getDataType node.datatype with
  | .bool | .uint8 => (payload.read host offset).toNat
  | .int8 => Int.bmod (payload.read host offset).toNat (2 ^ 8)
  | .uint16 => word
  | .int16 => Int.bmod word (2 ^ 16)
  | .uint32 => Int.bmod (ofLittleEndian bytes) (2 ^ 32)
  | .float => (floatToInt32 host (UInt32.ofNat (ofBigEndian bytes))).toInt
  | _ => 0

/-- The node feeds nothing, or a value of the case that the other node is registered with. -/
def CaseAgrees (host : Host) (payload : Payload) (node registered : VSSNode) : Prop :=
  let assigned := (getDataType registered.datatype).valueCase
  if 0 < node.transformMapping.entries.length then
    ∀ json, node.transformMapping.lookup (toString (fieldNumber host payload node)) = some json →
      ∃ case, assigned = some case ∧ transformCase json = some case
  else decodable (getDataType node.datatype) = true →
    assigned = (getDataType node.datatype).valueCase

section Feeding

variable (host : Host) (payload : Payload) (node : VSSNode)

theorem tmpValue_eq : (decodeField host payload node).tmpValue.toInt = fieldNumber host payload node := by
  unfold decodeField fieldNumber
  cases type : getDataType node.datatype with
  | bool | uint8 =>
      have bound := (payload.read host node.byteOffset.toNat).toNat_lt
      dsimp only
      rw [toInt_toInt32_of_lt (by rw [UInt8.toNat_toUInt32]; omega), UInt8.toNat_toUInt32]
  | int8 =>
      dsimp only
      rw [Int8.toInt_toInt32]
      exact (payload.read host node.byteOffset.toNat).toBitVec.toInt_eq_toNat_bmod
  | uint16 =>
      dsimp only
      rw [← word_bigEndian]
      have bound := ((payload.read host (node.byteOffset + 1).toNat).toUInt16 |||
        ((payload.read host node.byteOffset.toNat).toUInt16 <<< 8)).toNat_lt
      rw [toInt_toInt32_of_lt (by rw [UInt16.toNat_toUInt32]; omega), UInt16.toNat_toUInt32]
  | int16 =>
      dsimp only
      rw [← word_bigEndian, Int16.toInt_toInt32]
      exact BitVec.toInt_eq_toNat_bmod _
  | uint32 =>
      have bound := ofLittleEndian_lt ((List.range' node.byteOffset.toNat 4).map (payload.read host))
      rw [List.length_map, List.length_range'] at bound
      dsimp only
      rw [toInt_toInt32, UInt32.toNat_ofNat_of_lt' bound]
  | float =>
      dsimp only
      rw [ofBigEndian_eq]
      rfl
  | _ => rfl

/-- A decoded value has the case of its own type. -/
theorem decodeField_case (branch : decodable (getDataType node.datatype) = true) :
    ∃ value, (decodeField host payload node).value = some value ∧
      (getDataType node.datatype).valueCase = some value.valueCase := by
  unfold decodeField
  cases type : getDataType node.datatype with
  | bool | uint8 | int8 | uint16 | int16 | uint32 | float | string => exact ⟨_, rfl, rfl⟩
  | _ =>
      rw [type] at branch
      cases branch

/-- The fed value has the case of the registered type exactly when the cases agree. -/
theorem fedValue_matches (registered : VSSNode) :
    (∀ value, fedValue host payload node = some value →
        (getDataType registered.datatype).valueCase = some value.valueCase) ↔
      CaseAgrees host payload node registered := by
  unfold CaseAgrees
  dsimp only
  split
  case isTrue transform =>
    rw [fedValue_transform host payload transform, tmpValue_eq]
    cases node.transformMapping.lookup (toString (fieldNumber host payload node)) with
    | none => simp
    | some json =>
        simp [matches_createDatapoint]
  case isFalse plain =>
    rw [fedValue_plain host payload (Nat.le_zero.mp (Nat.not_lt.mp plain))]
    cases branch : decodable (getDataType node.datatype) with
    | true =>
        obtain ⟨value, decoded, own⟩ := decodeField_case host payload node branch
        simp [decoded, own]
    | false => simp [decodeField_of_not_decodable host payload node branch]

end Feeding

/-- Every feed is registered with its case exactly when each addressed node agrees with all event nodes of
its name. -/
theorem feeds_match_registration (host : Host) (config : SomeIPConfig)
    (serviceId instanceId methodId : UInt16) (payload : Payload) :
    (∀ feed ∈ (onSomeipMessage host config serviceId instanceId methodId payload).feeds,
        Registered config feed) ↔
      ∀ node ∈ eventNodes config serviceId instanceId methodId,
        ∀ mapping ∈ config.vssMap, mapping.metaData.serviceType = "Event" →
          ∀ registered ∈ mapping.vssNodes, registered.name = node.name →
            CaseAgrees host payload node registered := by
  simp only [mem_feeds, ← fedValue_matches]
  constructor
  · intro fed node addressed mapping member isEvent registered inNodes same value decoded
    exact (fed ⟨node, value⟩ ⟨addressed, decoded⟩).2 (eventMetadata registered)
      (mem_metadata.mpr ⟨mapping, member, isEvent, registered, inNodes, rfl⟩) same
  · rintro agrees feed ⟨addressed, decoded⟩
    constructor
    · obtain ⟨mapping, member, isEvent, inNodes, -⟩ := mem_eventNodes.mp addressed
      exact ⟨eventMetadata feed.node,
        mem_metadata.mpr ⟨mapping, member, isEvent.1, feed.node, inNodes, rfl⟩, rfl⟩
    · intro metadata member same
      obtain ⟨mapping, inMap, isEvent, registered, inNodes, rfl⟩ := mem_metadata.mp member
      exact agrees feed.node addressed mapping inMap isEvent registered inNodes same feed.value decoded

/-- The brake light of the light feeder is registered as a number and fed as a text. -/
def brakeLight : VSSNode where
  name := "Vehicle.Body.Lights.Brake.Left.IsActive"
  datatype := "UINT8"
  byteOffset := 190
  length := 1
  methodId := 32773
  transformMapping := AList.insert "0" (.string "INACTIVE") (AList.insert "1" (.string "ACTIVE")
    (AList.insert "2" (.string "ADAPTIVE") ∅))

def lightConfig : SomeIPConfig := createEnvConfig [eventMapping 18464 3 brakeLight]

/-- All lights are off in this message. -/
def lightPayload : Payload := ⟨List.replicate 260 0, by rw [List.length_replicate]; decide⟩

theorem brake_light_is_text :
    ¬ ∀ feed ∈ (onSomeipMessage zeroHost lightConfig 18464 3 32773 lightPayload).feeds,
      Registered lightConfig feed := by
  intro registered
  have addressed : brakeLight ∈ eventNodes lightConfig 18464 3 32773 :=
    mem_eventNodes_single 18464 3 (by decide)
  have decoded : fedValue zeroHost lightPayload brakeLight = some (createDatapoint (.string "INACTIVE")) := by
    decide +kernel
  have text := (registered ⟨brakeLight, _⟩ ((mem_feeds zeroHost lightPayload).mpr ⟨addressed, decoded⟩)).2
    (eventMetadata brakeLight)
    (mem_metadata.mpr ⟨eventMapping 18464 3 brakeLight, List.mem_singleton_self _, rfl, brakeLight,
      List.mem_singleton_self _, rfl⟩) rfl
  revert text
  unfold Matches
  decide

end VehicleEdge.Someip
