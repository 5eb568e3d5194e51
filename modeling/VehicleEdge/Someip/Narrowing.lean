import Mathlib.Data.List.Forall2
import VehicleEdge.Someip.Document

/-
This file compares the numbers of a documented mapping file with the numbers that are loaded from it.
-/

namespace VehicleEdge.Someip

/-- The last rule for a text gives its value. -/
def TransformDocument.lastValue (rules : TransformDocument) (text : String) : Option JsonValue :=
  (rules.reverse.find? fun rule => rule.1.key = text).map Prod.snd

/-- The loaded node has the numbers of its document. -/
structure FaithfulNode (document : NodeDocument) (node : VSSNode) : Prop where
  name : node.name = document.name
  datatype : node.datatype = document.dataType
  byteOffset : node.byteOffset.toNat = document.byteOffset.toNat
  length : node.length.toNat = document.length.toNat
  methodId : node.methodId.toNat = (document.methodID.getD 0).toNat
  transformMapping : ∀ text, node.transformMapping.lookup text =
    (document.transform.getD []).lastValue text

/-- The loaded mapping has the numbers of its document, and one faithful node for each node in order. -/
structure FaithfulMapping (document : MappingDocument) (mapping : VSSConfigInfo) : Prop where
  serviceType : mapping.metaData.serviceType = document.serviceType
  serviceID : mapping.metaData.serviceID.toNat = document.serviceID.toNat
  instanceID : mapping.metaData.instanceID.toNat = document.instanceID.toNat
  methodID : mapping.metaData.methodID.toNat = (document.methodID.getD 0).toNat
  eventID : mapping.metaData.eventID.toNat = (document.eventID.getD 0).toNat
  eventGroup : mapping.metaData.eventGroup.toNat = (document.eventGroup.getD 0).toNat
  majorVersion : mapping.metaData.majorVersion.toNat = document.majorVersion.toNat
  minorVersion : mapping.metaData.minorVersion.toNat = document.minorVersion.toNat
  vssNodes : List.Forall₂ FaithfulNode document.vssNodes mapping.vssNodes

/-- The list is extended by one faithful mapping for each mapping of the file in order. -/
def FaithfulFile (documents : List MappingDocument) (before after : List VSSConfigInfo) : Prop :=
  ∃ loaded, after = before ++ loaded ∧ List.Forall₂ FaithfulMapping documents loaded

/-- The length has eight bits and the id sixteen bits. -/
def NodeDocument.Narrow (node : NodeDocument) : Prop :=
  node.length.toNat < 2 ^ 8 ∧ (node.methodID.getD 0).toNat < 2 ^ 16

/-- The ids have sixteen bits and the major version eight bits. -/
def MappingDocument.Narrow (mapping : MappingDocument) : Prop :=
  mapping.serviceID.toNat < 2 ^ 16 ∧ mapping.instanceID.toNat < 2 ^ 16 ∧
    (mapping.methodID.getD 0).toNat < 2 ^ 16 ∧ (mapping.eventID.getD 0).toNat < 2 ^ 16 ∧
    (mapping.eventGroup.getD 0).toNat < 2 ^ 16 ∧ mapping.majorVersion.toNat < 2 ^ 8 ∧
    ∀ node ∈ mapping.vssNodes, node.Narrow

theorem toUInt16_eq_iff (number : UInt32) : number.toUInt16.toNat = number.toNat ↔ number.toNat < 2 ^ 16 := by
  rw [UInt32.toNat_toUInt16]
  omega

theorem toUInt8_eq_iff (number : UInt32) : number.toUInt8.toNat = number.toNat ↔ number.toNat < 2 ^ 8 := by
  rw [UInt32.toNat_toUInt8]
  omega

/-- A later rule replaces an earlier one for the same text. -/
theorem lookup_table (rules : TransformDocument) (text : String) :
    rules.table.lookup text = rules.lastValue text := by
  let entries := rules.map fun rule => (⟨rule.1.key, rule.2⟩ : Σ _ : String, JsonValue)
  have table : rules.table = KeyedMap.overwrite ∅ entries := by
    rw [TransformDocument.table, KeyedMap.overwrite, List.foldl_map]
  rw [table, KeyedMap.lookup_overwrite, AList.lookup_empty, Option.or_none, ← List.map_reverse,
    KeyedMap.dlookup_map]
  rfl

theorem faithfulNode_load (node : NodeDocument) : FaithfulNode node node.load ↔ node.Narrow := by
  unfold NodeDocument.Narrow
  rw [← toUInt8_eq_iff, ← toUInt16_eq_iff]
  constructor
  · intro faithful
    exact ⟨faithful.length, faithful.methodId⟩
  · rintro ⟨length, methodId⟩
    exact ⟨rfl, rfl, rfl, length, methodId, lookup_table _⟩

theorem faithfulMapping_load (mapping : MappingDocument) :
    FaithfulMapping mapping mapping.load ↔ mapping.Narrow := by
  have nodes : List.Forall₂ FaithfulNode mapping.vssNodes (mapping.vssNodes.map NodeDocument.load) ↔
      ∀ node ∈ mapping.vssNodes, node.Narrow := by
    rw [List.forall₂_map_right_iff, List.forall₂_same]
    simp only [faithfulNode_load]
  unfold MappingDocument.Narrow
  rw [← nodes]
  simp only [← toUInt8_eq_iff, ← toUInt16_eq_iff]
  constructor
  · intro faithful
    exact ⟨faithful.serviceID, faithful.instanceID, faithful.methodID, faithful.eventID, faithful.eventGroup,
      faithful.majorVersion, faithful.vssNodes⟩
  · rintro ⟨serviceID, instanceID, methodID, eventID, eventGroup, majorVersion, vssNodes⟩
    exact ⟨rfl, serviceID, instanceID, methodID, eventID, eventGroup, majorVersion, rfl, vssNodes⟩

theorem faithfulFile_load (documents : List MappingDocument) (vssInfo : List VSSConfigInfo) :
    FaithfulFile documents vssInfo (vssInfo ++ documents.map MappingDocument.load) ↔
      ∀ mapping ∈ documents, mapping.Narrow := by
  have mappings : List.Forall₂ FaithfulMapping documents (documents.map MappingDocument.load) ↔
      ∀ mapping ∈ documents, mapping.Narrow := by
    rw [List.forall₂_map_right_iff, List.forall₂_same]
    simp only [faithfulMapping_load]
  rw [← mappings]
  constructor
  · rintro ⟨loaded, extended, faithful⟩
    rwa [List.append_cancel_left extended]
  · intro faithful
    exact ⟨_, rfl, faithful⟩

/-- A documented file is always loaded, and its numbers are kept exactly when they fit their fields. -/
theorem loading_is_faithful (realText : UInt64 → String) (documents : List MappingDocument)
    (vssInfo : List VSSConfigInfo) :
    ∃ loaded, getjsonConfig realText (some (renderFile documents)) vssInfo = .ok (0, loaded) ∧
      (FaithfulFile documents vssInfo loaded ↔ ∀ mapping ∈ documents, mapping.Narrow) :=
  ⟨_, getjsonConfig_render realText documents vssInfo, faithfulFile_load documents vssInfo⟩

/-- The length of this node does not fit its field. -/
def longText : MappingDocument where
  serviceType := "Event"
  serviceID := 1999
  instanceID := 802
  methodID := none
  eventID := some 32895
  eventGroup := some 1
  majorVersion := 1
  minorVersion := 0
  vssNodes := [⟨"Vehicle.VehicleIdentification.VIN", 0, "STRING", 256, some 32895, none⟩]

/-- A length of 256 is loaded as zero without an error. -/
theorem long_text_is_emptied :
    ∃ loaded, getjsonConfig (fun _ => "") (some (renderFile [longText])) [] = .ok (0, loaded) ∧
      ¬ FaithfulFile [longText] [] loaded := by
  refine ⟨_, getjsonConfig_render _ [longText] [], ?_⟩
  intro faithful
  have narrow := (faithfulFile_load [longText] []).mp faithful longText (List.mem_singleton_self _)
  obtain ⟨-, -, -, -, -, -, nodes⟩ := narrow
  have length := (nodes _ (List.mem_singleton_self _)).1
  exact absurd length (by decide)

end VehicleEdge.Someip
