import VehicleEdge.Someip.Loader

/-
This file contains mapping files in the documented format and shows what is loaded from them.
-/

namespace VehicleEdge.Someip

/-- The parser reads a number without a sign as a signed integer up to the largest `int`, and as an unsigned
one above it. -/
def JsonValue.ofNat (number : Nat) : JsonValue :=
  if number < 2 ^ 31 then .int (Int64.ofNat number) else .uint (UInt64.ofNat number)

/-- A transform rule starts from a text, a number, or a truth value. -/
inductive FromDocument where
  | text (value : String)
  | number (value : Int64)
  | flag (value : Bool)

namespace FromDocument

def render : FromDocument → JsonValue
  | .text value => .string value
  | .number value => .int value
  | .flag value => .boolean value

/-- The loader keeps a rule under this text. -/
def key : FromDocument → String
  | .text value => value
  | .number value => toString value.toInt
  | .flag value => if value then "true" else "false"

end FromDocument

/-- A transform is a list of rules from one value to another. -/
abbrev TransformDocument := List (FromDocument × JsonValue)

def TransformDocument.render (rules : TransformDocument) : JsonValue :=
  .object [("transform", .array (rules.map fun rule =>
    .object [("from", rule.1.render), ("to", rule.2)]))]

/-- The last rule for a text counts. -/
def TransformDocument.table (rules : TransformDocument) : KeyedMap String JsonValue :=
  rules.foldl (fun table rule => table.insert rule.1.key rule.2) ∅

/-- A node of the documented format may leave out its method id and its transform. -/
structure NodeDocument where
  name : String
  byteOffset : UInt64
  dataType : String
  length : UInt32
  methodID : Option UInt32
  transform : Option TransformDocument

/-- A mapping of the documented format may leave out the ids that its service type does not need. -/
structure MappingDocument where
  serviceType : String
  serviceID : UInt32
  instanceID : UInt32
  methodID : Option UInt32
  eventID : Option UInt32
  eventGroup : Option UInt32
  majorVersion : UInt32
  minorVersion : UInt32
  vssNodes : List NodeDocument

/-- An optional number is written only when it is given. -/
def optionalNumber (key : String) (number : Option UInt32) : List (String × JsonValue) :=
  (number.map fun given => (key, JsonValue.ofNat given.toNat)).toList

namespace NodeDocument

def members (node : NodeDocument) : List (String × JsonValue) :=
  [("Name", .string node.name), ("ByteOffset", .ofNat node.byteOffset.toNat),
      ("DataType", .string node.dataType), ("Length", .ofNat node.length.toNat)] ++
    optionalNumber "MethodID" node.methodID ++
    (node.transform.map fun rules => ("Transform", rules.render)).toList

def render (node : NodeDocument) : JsonValue := .object node.members

/-- A node without a method id gets the id zero. -/
def load (node : NodeDocument) : VSSNode where
  name := node.name
  datatype := node.dataType
  byteOffset := node.byteOffset
  length := node.length.toUInt8
  methodId := (node.methodID.getD 0).toUInt16
  transformMapping := (node.transform.getD []).table

end NodeDocument

namespace MappingDocument

def members (mapping : MappingDocument) : List (String × JsonValue) :=
  [("ServiceType", .string mapping.serviceType), ("ServiceID", .ofNat mapping.serviceID.toNat),
      ("InstanceID", .ofNat mapping.instanceID.toNat),
      ("MAJOR_VERSION", .ofNat mapping.majorVersion.toNat),
      ("MINOR_VERSION", .ofNat mapping.minorVersion.toNat),
      ("VSSNode", .array (mapping.vssNodes.map NodeDocument.render))] ++
    optionalNumber "MethodID" mapping.methodID ++ optionalNumber "EventID" mapping.eventID ++
    optionalNumber "EventGroup" mapping.eventGroup

def render (mapping : MappingDocument) : JsonValue := .object mapping.members

def load (mapping : MappingDocument) : VSSConfigInfo where
  metaData := ⟨mapping.serviceType, mapping.serviceID.toUInt16, mapping.instanceID.toUInt16,
    (mapping.methodID.getD 0).toUInt16, (mapping.eventID.getD 0).toUInt16,
    (mapping.eventGroup.getD 0).toUInt16, mapping.majorVersion.toUInt8, mapping.minorVersion⟩
  vssNodes := mapping.vssNodes.map NodeDocument.load

end MappingDocument

/-- A mapping file holds its mappings in one array. -/
def renderFile (mappings : List MappingDocument) : JsonValue :=
  .object [("SomeipMapping", .array (mappings.map MappingDocument.render))]

section Loading

theorem asUnsigned_ofNat {number limit : Nat} (below : number < limit) (small : limit ≤ 2 ^ 64) :
    (JsonValue.ofNat number).asUnsigned limit = .ok number := by
  unfold JsonValue.ofNat
  split
  case isTrue signed =>
    have value : (Int64.ofNat number).toInt = number := Int64.toInt_ofNat_of_lt (by omega)
    simp only [JsonValue.asUnsigned, value]
    rw [if_pos (by omega)]
    rfl
  case isFalse =>
    have value : (UInt64.ofNat number).toNat = number :=
      UInt64.toNat_ofNat_of_lt' (show number < 2 ^ 64 by omega)
    simp only [JsonValue.asUnsigned, value]
    rw [if_pos below]

@[simp] theorem asUInt_ofNat (number : UInt32) : (JsonValue.ofNat number.toNat).asUInt = .ok number := by
  rw [JsonValue.asUInt, asUnsigned_ofNat number.toNat_lt (by decide)]
  simp [bind, Except.bind, pure, Except.pure]

@[simp] theorem asUInt64_ofNat (number : UInt64) : (JsonValue.ofNat number.toNat).asUInt64 = .ok number := by
  rw [JsonValue.asUInt64, asUnsigned_ofNat number.toNat_lt (by decide)]
  simp [bind, Except.bind, pure, Except.pure]

@[simp] theorem subscript_object (members : List (String × JsonValue)) (key : String) :
    (JsonValue.object members).subscript key = .ok ((members.lookup key).getD .null) := rfl

@[simp] theorem getMember_object (members : List (String × JsonValue)) (key : String)
    (default : JsonValue) :
    (JsonValue.object members).getMember key default = .ok ((members.lookup key).getD default) := rfl

@[simp] theorem isMember_object (members : List (String × JsonValue)) (key : String) :
    (JsonValue.object members).isMember key = .ok (members.lookup key).isSome := rfl

theorem lookup_optionalNumber (key given : String) (number : Option UInt32) :
    (optionalNumber given number).lookup key =
      if key == given then number.map fun value => JsonValue.ofNat value.toNat else none := by
  cases number with
  | none => simp [optionalNumber]
  | some value => cases same : key == given <;> simp [optionalNumber, List.lookup_cons, same]

/-- A missing number is read as zero, as a null value or as the default. -/
theorem asUInt_optional (number : Option UInt32) {default : JsonValue} (zero : default.asUInt = .ok 0) :
    ((number.map fun value => JsonValue.ofNat value.toNat).getD default).asUInt = .ok (number.getD 0) := by
  cases number with
  | none => exact zero
  | some value => exact asUInt_ofNat value

theorem asUInt_null : JsonValue.null.asUInt = .ok 0 := rfl

theorem asUInt_zero : (JsonValue.int 0).asUInt = .ok 0 := rfl

theorem node_methodID (node : NodeDocument) :
    node.members.lookup "MethodID" = node.methodID.map fun value => JsonValue.ofNat value.toNat := by
  rw [NodeDocument.members, List.lookup_append, List.lookup_append, lookup_optionalNumber]
  cases node.transform <;> cases node.methodID <;> rfl

theorem node_transform (node : NodeDocument) :
    node.members.lookup "Transform" = node.transform.map TransformDocument.render := by
  rw [NodeDocument.members, List.lookup_append, List.lookup_append, lookup_optionalNumber]
  cases node.transform <;> rfl

/-- The optional ids of a mapping are found under their own keys. -/
theorem mapping_ids (mapping : MappingDocument) :
    mapping.members.lookup "MethodID" = mapping.methodID.map (fun value => JsonValue.ofNat value.toNat) ∧
      mapping.members.lookup "EventID" = mapping.eventID.map (fun value => JsonValue.ofNat value.toNat) ∧
      mapping.members.lookup "EventGroup" =
        mapping.eventGroup.map (fun value => JsonValue.ofNat value.toNat) := by
  simp only [MappingDocument.members, List.lookup_append, lookup_optionalNumber]
  cases mapping.methodID <;> cases mapping.eventID <;> cases mapping.eventGroup <;>
    exact ⟨rfl, rfl, rfl⟩

variable (realText : UInt64 → String)

theorem loadEntry_render (table : KeyedMap String JsonValue) (rule : FromDocument × JsonValue) :
    loadEntry realText table (.object [("from", rule.1.render), ("to", rule.2)]) =
      .ok (table.insert rule.1.key rule.2) := by
  rcases rule with ⟨start | start | start, value⟩ <;> rfl

theorem foldlM_loadEntry (rules : TransformDocument) (table : KeyedMap String JsonValue) :
    (rules.map fun rule => JsonValue.object [("from", rule.1.render), ("to", rule.2)]).foldlM
        (loadEntry realText) table =
      .ok (rules.foldl (fun table rule => table.insert rule.1.key rule.2) table) := by
  induction rules generalizing table with
  | nil => rfl
  | cons rule rules ih =>
      rw [List.map_cons, List.foldlM_cons, loadEntry_render, List.foldl_cons]
      exact ih _

theorem loadTransform_render (node : NodeDocument) :
    loadTransform realText node.render = .ok (node.transform.getD []).table := by
  unfold loadTransform NodeDocument.render
  rw [isMember_object, subscript_object, node_transform]
  cases node.transform with
  | none => rfl
  | some rules => exact foldlM_loadEntry realText rules ∅

/-- A documented node is loaded as it stands, with a missing method id as zero. -/
theorem loadNode_render (node : NodeDocument) : loadNode realText node.render = .ok node.load := by
  unfold loadNode
  rw [loadTransform_render realText node]
  unfold NodeDocument.render
  simp only [subscript_object, node_methodID]
  simp [NodeDocument.members, List.lookup_cons, asUInt_optional _ asUInt_null, bind, Except.bind, pure,
    Except.pure, JsonValue.asString, NodeDocument.load]

/-- A loader that succeeds on every element succeeds on the list. -/
theorem mapM_render {Document Loaded : Type} (render : Document → JsonValue) (load : Document → Loaded)
    {loader : JsonValue → Except LogicError Loaded}
    (each : ∀ document, loader (render document) = .ok (load document)) (documents : List Document) :
    (documents.map render).mapM loader = .ok (documents.map load) := by
  induction documents with
  | nil => rfl
  | cons document documents ih =>
      rw [List.map_cons, List.mapM_cons, each, ih]
      rfl

theorem loadMapping_render (mapping : MappingDocument) :
    loadMapping realText mapping.render = .ok mapping.load := by
  have nodes := mapM_render NodeDocument.render NodeDocument.load (loadNode_render realText)
    mapping.vssNodes
  obtain ⟨methodID, eventID, eventGroup⟩ := mapping_ids mapping
  unfold loadMapping MappingDocument.render
  simp only [subscript_object, getMember_object, methodID, eventID, eventGroup]
  simp [MappingDocument.members, List.lookup_cons, asUInt_optional _ asUInt_zero, JsonValue.asString,
    JsonValue.elements, nodes, bind, Except.bind, pure, Except.pure, MappingDocument.load]

/-- A documented file is loaded mapping by mapping. -/
theorem getjsonConfig_render (mappings : List MappingDocument) (vssInfo : List VSSConfigInfo) :
    getjsonConfig realText (some (renderFile mappings)) vssInfo =
      .ok (0, vssInfo ++ mappings.map MappingDocument.load) := by
  have loaded := mapM_render MappingDocument.render MappingDocument.load (loadMapping_render realText)
    mappings
  unfold getjsonConfig renderFile
  simp only [subscript_object, List.lookup_cons_self, Option.getD_some, JsonValue.elements, bind,
    Except.bind, loaded]
  rfl

end Loading

end VehicleEdge.Someip
