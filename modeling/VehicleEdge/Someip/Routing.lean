import VehicleEdge.Someip.Document
import VehicleEdge.Someip.Feeds
import VehicleEdge.Someip.Requests

/-
This file follows the ids of a documented mapping file through the loader to the requests and the
received messages.
-/

namespace VehicleEdge.Someip

/-- Nothing is read or fed for a node without a branch, or for an empty string with a transform, when its
transform has no entry for zero. -/
def Traceless (node : VSSNode) : Prop :=
  node.transformMapping.lookup "0" = none ∧
    (decodable (getDataType node.datatype) = false ∨
      (getDataType node.datatype = .string ∧ node.length = 0 ∧ 0 < node.transformMapping.entries.length))

/-- The nodes of a mapping have sixteen-bit ids and eight-bit lengths. -/
def NodesInRange (mapping : MappingDocument) : Prop :=
  ∀ node ∈ mapping.vssNodes,
    (∀ given, node.methodID = some given → given.toNat < 2 ^ 16) ∧ node.length.toNat < 2 ^ 8

/-- A valid id has sixteen bits and is not zero. -/
def IsId (number : UInt32) : Prop := 0 < number.toNat ∧ number.toNat < 2 ^ 16

/-- A documented file has one event mapping and one method mapping, and valid ids in both. -/
structure MappingFile where
  mappings : List MappingDocument
  event : MappingDocument
  method : MappingDocument
  eventID : UInt32
  methodID : UInt32
  singleEvent : (mappings.filter fun mapping => mapping.serviceType = "Event") = [event]
  singleMethod : (mappings.filter fun mapping => mapping.serviceType = "Method") = [method]
  eventIDGiven : event.eventID = some eventID
  methodIDGiven : method.methodID = some methodID
  ids : IsId event.serviceID ∧ IsId event.instanceID ∧ IsId eventID ∧
    IsId method.serviceID ∧ IsId method.instanceID ∧ IsId methodID
  nodes : NodesInRange event ∧ NodesInRange method

namespace MappingFile

variable (file : MappingFile)

/-- A method node without an id of its own uses that of its mapping. -/
def requestID (node : NodeDocument) : UInt32 := node.methodID.getD file.methodID

/-- An event node without an id of its own uses that of its mapping. -/
def messageID (node : NodeDocument) : UInt32 := node.methodID.getD file.eventID

/-- The request goes to the documented service, instance, and method. -/
def Addressed (node : NodeDocument) (request : Request) : Prop :=
  request.service.toNat = file.method.serviceID.toNat ∧
    request.instance_.toNat = file.method.instanceID.toNat ∧
    request.method.toNat = (file.requestID node).toNat

/-- These are the event nodes that the documentation addresses by a message. -/
def addressedNodes (serviceId instanceId methodId : UInt16) : List NodeDocument :=
  if serviceId.toNat = file.event.serviceID.toNat ∧ instanceId.toNat = file.event.instanceID.toNat then
    file.event.vssNodes.filter fun node => methodId.toNat = (file.messageID node).toNat
  else []

/-- Every changed method node sends a request to its documented address, and a message reads and feeds
exactly the event nodes that it addresses. -/
structure Routed (host : Host) (vssMap : List VSSConfigInfo) : Prop where
  requests : ∀ position node, file.method.vssNodes[position]? = some node →
    ∀ targetValues : ActuatorValues, (targetValues.lookup node.name).isSome = true →
      ∃ request ∈ (onActuatorChange host true targetValues vssMap).requests,
        request.position = position ∧ file.Addressed node request
  messages : ∀ (serviceId instanceId methodId : UInt16) (payload : Payload),
    let frame := onSomeipMessage host (createEnvConfig vssMap) serviceId instanceId methodId payload
    frame.reads = (file.addressedNodes serviceId instanceId methodId).flatMap
        (fun node => (decodeField host payload node.load).reads) ∧
      frame.feeds = (file.addressedNodes serviceId instanceId methodId).filterMap
        (fun node => feedOf host payload node.load)

/-- Every method node gives an id that is not zero, and every event node gives its id and has bytes, unless
nothing is ever read or fed for it. -/
structure Explicit : Prop where
  method : ∀ node ∈ file.method.vssNodes, ∃ given, node.methodID = some given ∧ given ≠ 0
  event : ∀ node ∈ file.event.vssNodes,
    (node.methodID.isSome = true ∧ node.length ≠ 0) ∨ Traceless node.load

end MappingFile

section Trace

variable (host : Host) (payload : Payload) (node : VSSNode)

theorem isFed_eq_isSome : isFed host payload node = (feedOf host payload node).isSome := by
  unfold isFed feedOf fedValue
  split <;> simp

/-- A string is looked up as zero, whatever its bytes are. -/
theorem isFed_of_string (type : getDataType node.datatype = .string) :
    isFed host payload node =
      if 0 < node.transformMapping.entries.length then (node.transformMapping.lookup "0").isSome
      else true := by
  have tmpValue : (decodeField host payload node).tmpValue = 0 := by simp only [decodeField, type]
  have value : (decodeField host payload node).value.isSome = true := by simp [decodeField, type]
  unfold isFed
  rw [tmpValue, value]
  rfl

/-- A node leaves no trace of a message exactly when its datatype and its transform say so. -/
theorem no_trace_iff :
    (decodeField host payload node).reads = [] ∧ feedOf host payload node = none ↔ Traceless node := by
  rw [← Option.not_isSome_iff_eq_none, ← isFed_eq_isSome]
  unfold Traceless
  cases branch : decodable (getDataType node.datatype) with
  | false =>
      rw [isFed_of_not_decodable host payload node branch,
        decodeField_of_not_decodable host payload node branch]
      simp
  | true =>
      cases type : getDataType node.datatype with
      | bool | uint8 | int8 | uint16 | int16 | uint32 | float => simp [decodeField, type]
      | string =>
          have empty : node.length.toNat = 0 ↔ node.length = 0 := @UInt8.toNat_inj _ 0
          rw [isFed_of_string host payload node type]
          unfold decodeField
          by_cases transform : 0 < node.transformMapping.entries.length <;>
            simp [type, transform, empty, and_comm]
      | _ =>
          rw [type] at branch
          cases branch

end Trace

section Filter

variable {Item Part : Type} {parts : Item → List Part} {kept expected : Item → Bool}

/-- A loop that skips some items is a loop over the others. -/
theorem flatMap_if (chosen : Item → Prop) [DecidablePred chosen] (items : List Item) :
    items.flatMap (fun item => if chosen item then parts item else []) =
      (items.filter fun item => chosen item).flatMap parts := by
  induction items with
  | nil => rfl
  | cons item items ih =>
      rw [List.flatMap_cons, ih, List.filter_cons]
      by_cases holds : chosen item <;> simp [holds]

/-- A choice that keeps fewer of the items with parts keeps fewer parts. -/
theorem length_flatMap_filter_le (items : List Item)
    (fewer : ∀ item ∈ items, parts item ≠ [] → kept item = true → expected item = true) :
    ((items.filter kept).flatMap parts).length ≤ ((items.filter expected).flatMap parts).length := by
  induction items with
  | nil => exact Nat.le_refl 0
  | cons item items ih =>
      rw [List.forall_mem_cons] at fewer
      have rest := ih fewer.2
      rw [List.filter_cons, List.filter_cons]
      cases keeps : kept item <;> cases expects : expected item
      case true.false =>
        have none : parts item = [] := by
          by_contra some_
          rw [fewer.1 some_ keeps] at expects
          cases expects
        simpa only [if_true, Bool.false_eq_true, if_false, List.flatMap_cons, none, List.nil_append] using rest
      all_goals
        simp only [if_true, Bool.false_eq_true, if_false, List.flatMap_cons, List.length_append]
        omega

/-- When it keeps all parts nevertheless, then it keeps every expected item with parts. -/
theorem kept_of_flatMap_filter_eq (items : List Item)
    (fewer : ∀ item ∈ items, parts item ≠ [] → kept item = true → expected item = true)
    (same : (items.filter kept).flatMap parts = (items.filter expected).flatMap parts) :
    ∀ item ∈ items, parts item ≠ [] → expected item = true → kept item = true := by
  induction items with
  | nil => simp
  | cons item items ih =>
      rw [List.forall_mem_cons] at fewer ⊢
      have rest := length_flatMap_filter_le items fewer.2
      rw [List.filter_cons, List.filter_cons] at same
      cases keeps : kept item <;> cases expects : expected item <;>
        simp only [keeps, expects, if_true, Bool.false_eq_true, if_false, List.flatMap_cons] at same
      case false.false => exact ⟨fun _ never => never, ih fewer.2 same⟩
      case true.true => exact ⟨fun _ _ => rfl, ih fewer.2 (List.append_cancel_left same)⟩
      case true.false =>
        have none : parts item = [] := by
          by_contra some_
          rw [fewer.1 some_ keeps] at expects
          cases expects
        rw [none, List.nil_append] at same
        exact ⟨fun some_ => absurd none some_, ih fewer.2 same⟩
      case false.true =>
        -- the parts of a lost item are missing
        have lengths := congrArg List.length same
        rw [List.length_append] at lengths
        have none : parts item = [] := List.length_eq_zero_iff.mp (by omega)
        rw [none, List.nil_append] at same
        exact ⟨fun some_ => absurd none some_, ih fewer.2 same⟩

/-- Two choices that agree on the items with parts keep the same parts. -/
theorem flatMap_filter_congr (items : List Item)
    (agree : ∀ item ∈ items, parts item ≠ [] → kept item = expected item) :
    (items.filter kept).flatMap parts = (items.filter expected).flatMap parts := by
  induction items with
  | nil => rfl
  | cons item items ih =>
      rw [List.forall_mem_cons] at agree
      rw [List.filter_cons, List.filter_cons]
      by_cases none : parts item = []
      · cases kept item <;> cases expected item <;> simp [none, ih agree.2]
      · cases expects : expected item <;> simp [agree.1 none, expects, ih agree.2]

end Filter

section Loaded

/-- A number in range is loaded without loss. -/
theorem toNat_id {number : UInt32} (small : number.toNat < 2 ^ 16) :
    number.toUInt16.toNat = number.toNat := by
  rw [UInt32.toNat_toUInt16, Nat.mod_eq_of_lt small]

theorem eq_id_iff {number : UInt32} (small : number.toNat < 2 ^ 16) (id : UInt16) :
    id = number.toUInt16 ↔ id.toNat = number.toNat := by
  rw [← UInt16.toNat_inj, toNat_id small]

theorem id_ne_zero {number : UInt32} (small : number.toNat < 2 ^ 16) :
    number.toUInt16 ≠ 0 ↔ number ≠ 0 := by
  rw [ne_eq, ne_eq, ← UInt16.toNat_inj, ← UInt32.toNat_inj, toNat_id small]
  rfl

theorem IsId.ne_zero {number : UInt32} (valid : IsId number) : number.toUInt16 ≠ 0 := by
  rw [id_ne_zero valid.2]
  rintro rfl
  exact Nat.lt_irrefl 0 valid.1

/-- A node gives an id that is not zero exactly when its loaded id is not zero. -/
theorem load_methodId {node : NodeDocument}
    (inRange : ∀ given, node.methodID = some given → given.toNat < 2 ^ 16) :
    node.load.methodId ≠ 0 ↔ ∃ given, node.methodID = some given ∧ given ≠ 0 := by
  unfold NodeDocument.load
  cases id : node.methodID with
  | none => simp
  | some given => simpa using id_ne_zero (inRange given id)

/-- Only the method mappings contribute to the visited method nodes. -/
theorem methodNodes_load (mappings : List MappingDocument) :
    methodNodes (mappings.map MappingDocument.load) =
      (mappings.filter fun mapping => mapping.serviceType = "Method").flatMap fun mapping =>
        mapping.vssNodes.map fun node => (mapping.load.metaData, node.load) := by
  rw [← flatMap_if]
  unfold methodNodes
  rw [List.flatMap_map]
  congr 1
  funext mapping
  by_cases isMethod : mapping.serviceType = "Method" <;> simp [MappingDocument.load, isMethod]

variable (file : MappingFile)

theorem file_methodNodes :
    methodNodes (file.mappings.map MappingDocument.load) =
      file.method.vssNodes.map fun node => (file.method.load.metaData, node.load) := by
  rw [methodNodes_load, file.singleMethod, List.flatMap_singleton]

theorem file_config :
    (createEnvConfig (file.mappings.map MappingDocument.load)).vssMap =
        file.mappings.map MappingDocument.load ∧
      (createEnvConfig (file.mappings.map MappingDocument.load)).service =
        file.event.serviceID.toUInt16 ∧
      (createEnvConfig (file.mappings.map MappingDocument.load)).instance_ =
        file.event.instanceID.toUInt16 := by
  have single : ((file.mappings.map MappingDocument.load).filter fun mapping =>
      mapping.metaData.serviceType = "Event") = [file.event.load] := by
    rw [List.filter_map]
    exact congrArg (List.map MappingDocument.load) file.singleEvent
  obtain ⟨service, instance_, -⟩ := createEnvConfig_event single
  exact ⟨foldl_adopt_vssMap _ _, service, instance_⟩

/-- The visited event nodes are the loaded ones that carry the id of the message and have bytes. -/
theorem file_eventNodes (serviceId instanceId methodId : UInt16) :
    eventNodes (createEnvConfig (file.mappings.map MappingDocument.load)) serviceId instanceId methodId =
      if serviceId = file.event.serviceID.toUInt16 ∧ instanceId = file.event.instanceID.toUInt16 then
        (file.event.vssNodes.filter fun node =>
          node.load.methodId = methodId ∧ 0 < node.load.length).map NodeDocument.load
      else [] := by
  obtain ⟨vssMap, service, instance_⟩ := file_config file
  have visited : eventNodes (createEnvConfig (file.mappings.map MappingDocument.load)) serviceId instanceId
      methodId = (file.mappings.filter fun mapping => mapping.serviceType = "Event").flatMap fun mapping =>
        if serviceId = file.event.serviceID.toUInt16 ∧ instanceId = file.event.instanceID.toUInt16 then
          mapping.load.vssNodes.filter fun node => node.methodId = methodId ∧ 0 < node.length
        else [] := by
    unfold eventNodes
    rw [vssMap, service, instance_, List.flatMap_map, ← flatMap_if]
    congr 1
    funext mapping
    by_cases event : mapping.serviceType = "Event" <;> simp [MappingDocument.load, event]
  rw [visited, file.singleEvent, List.flatMap_singleton]
  split
  · exact List.filter_map
  · rfl

/-- The request of a loaded method node exists exactly when its id is not zero. -/
theorem file_request (host : Host) (targetValues : ActuatorValues) {position : Nat} {node : NodeDocument}
    (at_ : file.method.vssNodes[position]? = some node)
    (named : (targetValues.lookup node.name).isSome = true) :
    (∃ request ∈ (onActuatorChange host true targetValues
        (file.mappings.map MappingDocument.load)).requests,
      request.position = position ∧ file.Addressed node request) ↔
      ∃ given, node.methodID = some given ∧ given ≠ 0 := by
  obtain ⟨-, -, -, service, instance_, -⟩ := file.ids
  have inRange := (file.nodes.2 node (List.mem_of_getElem? at_)).1
  have entry : (methodNodes (file.mappings.map MappingDocument.load))[position]? =
      some (file.method.load.metaData, node.load) := by
    rw [file_methodNodes, List.getElem?_map, at_]
    rfl
  rw [← load_methodId inRange]
  constructor
  · rintro ⟨request, sent, position, -⟩
    have made := (mem_requests_at host true targetValues entry request).mp ⟨sent, position⟩
    have allowed := ((requestFor_isSome host true targetValues _ _).mp (by rw [made]; rfl)).2
    simp only [sends, Bool.true_and, Bool.and_eq_true, bne_iff_ne] at allowed
    exact allowed.2
  · intro nonzero
    have allowed : sends true file.method.load.metaData node.load = true := by
      simp only [sends, Bool.true_and, Bool.and_eq_true, bne_iff_ne]
      exact ⟨⟨service.ne_zero, instance_.ne_zero⟩, nonzero⟩
    obtain ⟨request, made⟩ := Option.isSome_iff_exists.mp
      ((requestFor_isSome host true targetValues _ (file.method.load.metaData, node.load)).mpr
        ⟨named, allowed⟩)
    obtain ⟨sent, position⟩ := (mem_requests_at host true targetValues entry request).mpr made
    refine ⟨request, sent, position, ?_⟩
    obtain ⟨given, own, -⟩ := (load_methodId inRange).mp nonzero
    unfold requestFor at made
    rw [if_pos (by rw [Bool.and_eq_true]; exact ⟨named, allowed⟩)] at made
    cases made
    refine ⟨toNat_id service.2, toNat_id instance_.2, ?_⟩
    unfold MappingFile.requestID NodeDocument.load
    rw [own]
    exact toNat_id (inRange given own)

/-- The loop keeps a documented node for a message of its service when this holds. -/
def MappingFile.keeps (methodId : UInt16) (node : NodeDocument) : Bool :=
  node.load.methodId = methodId ∧ 0 < node.load.length

/-- The documentation expects a node for a message of its service when this holds. -/
def MappingFile.expects (methodId : UInt16) (node : NodeDocument) : Bool :=
  methodId.toNat = (file.messageID node).toNat

/-- A node that gives its id is kept for the expected messages only, and for all of them if it has bytes. -/
theorem keeps_given {node : NodeDocument} {given : UInt32} (member : node ∈ file.event.vssNodes)
    (id : node.methodID = some given) (methodId : UInt16) :
    MappingFile.keeps methodId node = (file.expects methodId node && decide (node.length ≠ 0)) := by
  obtain ⟨inRange, short⟩ := file.nodes.1 node member
  have own : node.load.methodId = given.toUInt16 := by rw [NodeDocument.load, id]; rfl
  have expected : file.messageID node = given := by rw [MappingFile.messageID, id]; rfl
  have length : 0 < node.load.length ↔ node.length ≠ 0 := by
    have same : node.load.length.toNat = node.length.toNat := Nat.mod_eq_of_lt short
    rw [UInt8.lt_iff_toNat_lt, same, ne_eq, ← UInt32.toNat_inj]
    exact Nat.pos_iff_ne_zero
  unfold MappingFile.keeps MappingFile.expects
  have same : given.toUInt16 = methodId ↔ methodId.toNat = given.toNat :=
    eq_comm.trans (eq_id_iff (inRange given id) methodId)
  rw [own, expected, Bool.decide_and, decide_eq_decide.mpr same, decide_eq_decide.mpr length]

/-- A node without an id is never kept for the event id of the mapping. -/
theorem keeps_missing {node : NodeDocument} (id : node.methodID = none) :
    MappingFile.keeps file.eventID.toUInt16 node = false := by
  obtain ⟨-, -, event, -⟩ := file.ids
  have own : node.load.methodId = 0 := by rw [NodeDocument.load, id]; rfl
  have other : ¬ (0 : UInt16) = file.eventID.toUInt16 := event.ne_zero.symm
  simp [MappingFile.keeps, own, other]

theorem expects_missing {node : NodeDocument} (id : node.methodID = none) :
    file.expects file.eventID.toUInt16 node = true := by
  obtain ⟨-, -, event, -⟩ := file.ids
  simp [MappingFile.expects, MappingFile.messageID, id, toNat_id event.2]

/-- All messages of the event service keep the expected parts of the event nodes. -/
def MappingFile.KeepsParts {Part : Type} (parts : NodeDocument → List Part) : Prop :=
  ∀ methodId, (file.event.vssNodes.filter (MappingFile.keeps methodId)).flatMap parts =
    (file.event.vssNodes.filter (file.expects methodId)).flatMap parts

/-- The expected parts are kept exactly when every node with parts gives its id and has bytes. -/
theorem keepsParts_iff {Part : Type} (parts : NodeDocument → List Part) :
    file.KeepsParts parts ↔ ∀ node ∈ file.event.vssNodes, parts node ≠ [] →
      node.methodID.isSome = true ∧ node.length ≠ 0 := by
  constructor
  · intro kept
    -- the event id finds the nodes without an id, and then every other id finds the nodes without bytes
    have given : ∀ node ∈ file.event.vssNodes, parts node ≠ [] → node.methodID ≠ none := by
      intro node member some_ id
      have own := kept_of_flatMap_filter_eq file.event.vssNodes (fun other inNodes _ keeps => by
        cases otherID : other.methodID with
        | none =>
            rw [keeps_missing file otherID] at keeps
            cases keeps
        | some given =>
            rw [keeps_given file inNodes otherID, Bool.and_eq_true] at keeps
            exact keeps.1) (kept file.eventID.toUInt16) node member some_ (expects_missing file id)
      rw [keeps_missing file id] at own
      cases own
    intro node member some_
    obtain ⟨id, own⟩ := Option.ne_none_iff_exists'.mp (given node member some_)
    refine ⟨by rw [own]; rfl, ?_⟩
    have inRange := (file.nodes.1 node member).1 id own
    have expects : file.expects id.toUInt16 node = true := by
      simp [MappingFile.expects, MappingFile.messageID, own, toNat_id inRange]
    have keeps := kept_of_flatMap_filter_eq file.event.vssNodes (fun other inNodes otherSome keeps => by
      obtain ⟨otherID, otherOwn⟩ := Option.ne_none_iff_exists'.mp (given other inNodes otherSome)
      rw [keeps_given file inNodes otherOwn, Bool.and_eq_true] at keeps
      exact keeps.1) (kept id.toUInt16) node member some_ expects
    rw [keeps_given file member own, Bool.and_eq_true] at keeps
    exact of_decide_eq_true keeps.2
  · intro explicit methodId
    refine flatMap_filter_congr _ fun node member some_ => ?_
    obtain ⟨given, nonempty⟩ := explicit node member some_
    obtain ⟨id, own⟩ := Option.isSome_iff_exists.mp given
    rw [keeps_given file member own, decide_eq_true nonempty, Bool.and_true]

/-- The expected parts of an addressed message are those of the expected nodes. -/
theorem addressedNodes_eq (serviceId instanceId methodId : UInt16) :
    file.addressedNodes serviceId instanceId methodId =
      if serviceId = file.event.serviceID.toUInt16 ∧ instanceId = file.event.instanceID.toUInt16 then
        file.event.vssNodes.filter (file.expects methodId)
      else [] := by
  obtain ⟨service, instance_, -⟩ := file.ids
  unfold MappingFile.addressedNodes
  simp only [eq_id_iff service.2, eq_id_iff instance_.2]
  rfl

/-- Every message of a service and instance keeps its expected parts when those of the file do. -/
theorem parts_of_message {Part : Type} (parts : VSSNode → List Part) :
    (∀ serviceId instanceId methodId,
      (eventNodes (createEnvConfig (file.mappings.map MappingDocument.load)) serviceId instanceId
          methodId).flatMap parts =
        (file.addressedNodes serviceId instanceId methodId).flatMap fun node => parts node.load) ↔
      file.KeepsParts fun node => parts node.load := by
  simp only [addressedNodes_eq, file_eventNodes]
  constructor
  · intro same methodId
    have own := same file.event.serviceID.toUInt16 file.event.instanceID.toUInt16 methodId
    rwa [if_pos ⟨rfl, rfl⟩, if_pos ⟨rfl, rfl⟩, List.flatMap_map] at own
  · intro kept serviceId instanceId methodId
    split
    · rw [List.flatMap_map]
      exact kept methodId
    · rfl

/-- Every message reads and feeds the nodes that it addresses exactly when each event node gives its id and
has bytes or leaves no trace. -/
theorem file_messages (host : Host) :
    (∀ (serviceId instanceId methodId : UInt16) (payload : Payload),
      let frame := onSomeipMessage host (createEnvConfig (file.mappings.map MappingDocument.load)) serviceId
        instanceId methodId payload
      frame.reads = (file.addressedNodes serviceId instanceId methodId).flatMap
          (fun node => (decodeField host payload node.load).reads) ∧
        frame.feeds = (file.addressedNodes serviceId instanceId methodId).filterMap
          (fun node => feedOf host payload node.load)) ↔
      ∀ node ∈ file.event.vssNodes,
        (node.methodID.isSome = true ∧ node.length ≠ 0) ∨ Traceless node.load := by
  have reads (payload : Payload) := parts_of_message file fun node => (decodeField host payload node).reads
  have feeds (payload : Payload) := parts_of_message file fun node => (feedOf host payload node).toList
  simp only [keepsParts_iff] at reads feeds
  simp only [onSomeipMessage_reads, onSomeipMessage_feeds, List.filterMap_eq_flatMap_toList]
  constructor
  · intro routed node member
    let empty : Payload := ⟨[], by decide⟩
    by_cases read : (decodeField host empty node.load).reads = []
    · by_cases fed : feedOf host empty node.load = none
      · exact .inr ((no_trace_iff host empty node.load).mp ⟨read, fed⟩)
      · exact .inl ((feeds empty).mp (fun service instance_ method =>
          (routed service instance_ method empty).2) node member (by simpa using fed))
    · exact .inl ((reads empty).mp (fun service instance_ method =>
        (routed service instance_ method empty).1) node member read)
  · intro explicit serviceId instanceId methodId payload
    constructor
    · refine (reads payload).mpr (fun node member read => ?_) serviceId instanceId methodId
      refine (explicit node member).resolve_right fun traceless => read ?_
      exact ((no_trace_iff host payload node.load).mpr traceless).1
    · refine (feeds payload).mpr (fun node member fed => ?_) serviceId instanceId methodId
      refine (explicit node member).resolve_right fun traceless => fed ?_
      rw [((no_trace_iff host payload node.load).mpr traceless).2]
      rfl

end Loaded

/-- A documented file is routed as documented exactly when its nodes give their own ids. -/
theorem documented_ids_route (realText : UInt64 → String) (host : Host) (file : MappingFile)
    {vssMap : List VSSConfigInfo}
    (loaded : getjsonConfig realText (some (renderFile file.mappings)) [] = .ok (0, vssMap)) :
    file.Routed host vssMap ↔ file.Explicit := by
  rw [getjsonConfig_render, List.nil_append] at loaded
  cases loaded
  constructor
  · intro routed
    constructor
    · intro node member
      obtain ⟨position, at_⟩ := List.mem_iff_getElem?.mp member
      have named : ((collectChanges [(node.name, none)]).lookup node.name).isSome = true := by
        simp [collectChanges, KeyedMap.lookup_insertNew]
      exact (file_request file host _ at_ named).mp (routed.requests position node at_ _ named)
    · exact (file_messages file host).mp routed.messages
  · intro explicit
    constructor
    · intro position node at_ targetValues named
      exact (file_request file host targetValues at_ named).mpr
        (explicit.method node (List.mem_of_getElem? at_))
    · exact (file_messages file host).mpr explicit.event

/-- This is the documented event example, with or without an id of its node. -/
def exampleEvent (nodeID : Option UInt32) : MappingDocument where
  serviceType := "Event"
  serviceID := 1999
  instanceID := 802
  methodID := none
  eventID := some 32895
  eventGroup := some 1
  majorVersion := 1
  minorVersion := 0
  vssNodes := [⟨"Vehicle.Immobilizer.KeySystems.Key1.PermissionState", 0, "UINT32", 4, nodeID, none⟩]

/-- This is one node of the documented method example. -/
def exampleMethod (nodeID : Option UInt32) : MappingDocument where
  serviceType := "Method"
  serviceID := 24867
  instanceID := 11
  methodID := some 7
  eventID := none
  eventGroup := none
  majorVersion := 1
  minorVersion := 0
  vssNodes := [⟨"Vehicle.Body.Windshield.Front.Wiping.System.Frequency", 0, "UINT8", 1, nodeID, none⟩]

/-- The two examples form a documented file. -/
def exampleFile (eventNodeID methodNodeID : Option UInt32)
    (inRange : ∀ given, eventNodeID = some given ∨ methodNodeID = some given → given.toNat < 2 ^ 16) :
    MappingFile where
  mappings := [exampleEvent eventNodeID, exampleMethod methodNodeID]
  event := exampleEvent eventNodeID
  method := exampleMethod methodNodeID
  eventID := 32895
  methodID := 7
  singleEvent := rfl
  singleMethod := rfl
  eventIDGiven := rfl
  methodIDGiven := rfl
  ids := by simp [IsId, exampleEvent, exampleMethod]
  nodes := by
    constructor
    · intro node member
      obtain rfl := List.mem_singleton.mp member
      exact ⟨fun given own => inRange given (.inl own), by simp⟩
    · intro node member
      obtain rfl := List.mem_singleton.mp member
      exact ⟨fun given own => inRange given (.inr own), by simp⟩

/-- A file whose nodes repeat the ids of their mappings. -/
def explicitFile : MappingFile :=
  exampleFile (some 32895) (some 7) (by rintro given (⟨⟨⟩⟩ | ⟨⟨⟩⟩) <;> decide)

/-- A file whose nodes leave out their ids, as the documented examples do. -/
def shortFile : MappingFile := exampleFile none none (by rintro given (⟨⟨⟩⟩ | ⟨⟨⟩⟩))

theorem documented_ids_route_explicit :
    explicitFile.Explicit ∧
      explicitFile.Routed zeroHost (explicitFile.mappings.map MappingDocument.load) := by
  have explicit : explicitFile.Explicit := by
    constructor
    · intro node member
      obtain rfl := List.mem_singleton.mp member
      exact ⟨7, rfl, by decide⟩
    · intro node member
      obtain rfl := List.mem_singleton.mp member
      exact .inl ⟨rfl, by decide⟩
  have loaded := getjsonConfig_render (fun _ => "") explicitFile.mappings []
  exact ⟨explicit, (documented_ids_route (fun _ => "") zeroHost explicitFile loaded).mpr explicit⟩

/-- The four bytes of a permission state. -/
def permissionPayload : Payload := ⟨[1, 0, 0, 0], by decide⟩

/-- The changed wiper frequency of the documented example sends no request, and the permission state is fed for
the message id 0 and not for the id of its event. -/
theorem short_file_is_not_routed :
    getjsonConfig (fun _ => "") (some (renderFile shortFile.mappings)) [] =
        .ok (0, shortFile.mappings.map MappingDocument.load) ∧
      ¬ shortFile.Routed zeroHost (shortFile.mappings.map MappingDocument.load) ∧
      (onSomeipMessage zeroHost (createEnvConfig (shortFile.mappings.map MappingDocument.load)) 1999 802 32895
        permissionPayload).feeds = [] ∧
      (onSomeipMessage zeroHost (createEnvConfig (shortFile.mappings.map MappingDocument.load)) 1999 802 0
        permissionPayload).feeds.length = 1 := by
  refine ⟨getjsonConfig_render (fun _ => "") shortFile.mappings [], ?_, by decide +kernel⟩
  intro routed
  have named : ((collectChanges [("Vehicle.Body.Windshield.Front.Wiping.System.Frequency",
      some (.uint32Value 30))]).lookup "Vehicle.Body.Windshield.Front.Wiping.System.Frequency").isSome =
        true := by
    decide
  obtain ⟨given, own, -⟩ := (file_request shortFile zeroHost _ rfl named).mp
    (routed.requests 0 ⟨"Vehicle.Body.Windshield.Front.Wiping.System.Frequency", 0, "UINT8", 1, none, none⟩
      rfl _ named)
  cases own

end VehicleEdge.Someip
