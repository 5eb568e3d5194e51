import VehicleEdge.Someip.Encode

/-
This file describes a whole call of `on_actuator_change` by the list of method nodes that it visits.
-/

namespace VehicleEdge.Someip

/-- The loops visit the nodes of the method mappings in file order. -/
def methodNodes (vssMap : List VSSConfigInfo) : List (SOMEIPConfigdata × VSSNode) :=
  vssMap.flatMap fun mapping =>
    if mapping.metaData.serviceType = "Method" then
      mapping.vssNodes.map fun node => (mapping.metaData, node)
    else []

theorem mem_methodNodes {vssMap : List VSSConfigInfo} {entry : SOMEIPConfigdata × VSSNode} :
    entry ∈ methodNodes vssMap ↔
      ∃ mapping ∈ vssMap, mapping.metaData.serviceType = "Method" ∧
        mapping.metaData = entry.1 ∧ entry.2 ∈ mapping.vssNodes := by
  unfold methodNodes
  rw [List.mem_flatMap]
  constructor
  · rintro ⟨mapping, member, inMapping⟩
    split at inMapping
    case isTrue isMethod =>
      obtain ⟨node, inNodes, rfl⟩ := List.mem_map.mp inMapping
      exact ⟨mapping, member, isMethod, rfl, inNodes⟩
    case isFalse => cases inMapping
  · rintro ⟨mapping, member, isMethod, same, inNodes⟩
    refine ⟨mapping, member, ?_⟩
    rw [if_pos isMethod]
    exact List.mem_map.mpr ⟨entry.2, inNodes, by rw [same]⟩

section Call

variable (host : Host) (client : Bool) (targetValues : ActuatorValues)

/-- A node without a target value stores nothing. -/
def nodeStores (entry : SOMEIPConfigdata × VSSNode) : List Store :=
  match targetValues.lookup entry.2.name with
  | none => []
  | some data => encodeNode host entry.2 data

/-- This is the buffer after the visited nodes. -/
def bufferAfter (visited : List (SOMEIPConfigdata × VSSNode)) : Memory :=
  Store.run (fun _ => 0) (visited.flatMap (nodeStores host targetValues))

/-- A named node sends the whole buffer as it stands after its own stores. -/
def requestFor (before : List (SOMEIPConfigdata × VSSNode)) (entry : SOMEIPConfigdata × VSSNode) :
    Option Request :=
  if (targetValues.lookup entry.2.name).isSome && sends client entry.1 entry.2 then
    some ⟨entry.1.serviceID, entry.1.instanceID, entry.2.methodId,
      payloadBytes (bufferAfter host targetValues (before ++ [entry])), before.length⟩
  else none

def visitEntry (frame : ActuatorFrame) (entry : SOMEIPConfigdata × VSSNode) : ActuatorFrame :=
  visitActuator host client targetValues entry.1 frame entry.2

/-- The two nested loops are one loop over the method nodes. -/
theorem onActuatorChange_eq (vssMap : List VSSConfigInfo) :
    onActuatorChange host client targetValues vssMap =
      (methodNodes vssMap).foldl (visitEntry host client targetValues) ActuatorFrame.initial := by
  unfold onActuatorChange methodNodes
  rw [List.foldl_flatMap]
  congr 1
  funext frame mapping
  split
  · rw [List.foldl_map]
    rfl
  · rfl

theorem visitEntry_vssPayload (frame : ActuatorFrame) (entry : SOMEIPConfigdata × VSSNode) :
    (visitEntry host client targetValues frame entry).vssPayload =
      Store.run frame.vssPayload (nodeStores host targetValues entry) := by
  unfold visitEntry visitActuator nodeStores
  cases targetValues.lookup entry.2.name <;> rfl

theorem visitEntry_stores (frame : ActuatorFrame) (entry : SOMEIPConfigdata × VSSNode) :
    (visitEntry host client targetValues frame entry).stores =
      frame.stores ++ nodeStores host targetValues entry := by
  unfold visitEntry visitActuator nodeStores
  cases targetValues.lookup entry.2.name with
  | none => exact (List.append_nil _).symm
  | some data => rfl

theorem visitEntry_position (frame : ActuatorFrame) (entry : SOMEIPConfigdata × VSSNode) :
    (visitEntry host client targetValues frame entry).position = frame.position + 1 := by
  unfold visitEntry visitActuator
  cases targetValues.lookup entry.2.name <;> rfl

/-- The loop keeps the buffer, the stores, and the position of the visited nodes. -/
theorem visited_frame (entries : List (SOMEIPConfigdata × VSSNode)) :
    let frame := entries.foldl (visitEntry host client targetValues) ActuatorFrame.initial
    frame.vssPayload = bufferAfter host targetValues entries ∧
      frame.stores = entries.flatMap (nodeStores host targetValues) ∧
      frame.position = entries.length := by
  induction entries using List.reverseRecOn with
  | nil => exact ⟨rfl, rfl, rfl⟩
  | append_singleton entries entry ih =>
      obtain ⟨buffer, stores, position⟩ := ih
      simp only [List.foldl_append, List.foldl_cons, List.foldl_nil, visitEntry_vssPayload,
        visitEntry_stores, visitEntry_position, buffer, stores, position, bufferAfter,
        List.flatMap_append, List.flatMap_singleton, Store.run_append, List.length_append,
        List.length_singleton, and_self]

theorem onActuatorChange_stores (vssMap : List VSSConfigInfo) :
    (onActuatorChange host client targetValues vssMap).stores =
      (methodNodes vssMap).flatMap (nodeStores host targetValues) := by
  rw [onActuatorChange_eq]
  exact (visited_frame host client targetValues _).2.1

/-- Visiting one more node adds at most its own request. -/
theorem visited_requests (entries : List (SOMEIPConfigdata × VSSNode))
    (entry : SOMEIPConfigdata × VSSNode) :
    ((entries ++ [entry]).foldl (visitEntry host client targetValues) ActuatorFrame.initial).requests =
      (entries.foldl (visitEntry host client targetValues) ActuatorFrame.initial).requests ++
        (requestFor host client targetValues entries entry).toList := by
  obtain ⟨buffer, -, position⟩ := visited_frame host client targetValues entries
  rw [List.foldl_append, List.foldl_cons, List.foldl_nil]
  cases target : targetValues.lookup entry.2.name with
  | none => simp [visitEntry, visitActuator, requestFor, target]
  | some data =>
      have after : bufferAfter host targetValues (entries ++ [entry]) =
          Store.run (bufferAfter host targetValues entries) (encodeNode host entry.2 data) := by
        simp [bufferAfter, Store.run_append, nodeStores, target]
      simp only [visitEntry, visitActuator, requestFor, target, buffer, position, after,
        Option.isSome_some, Bool.true_and]
      split <;> simp

/-- The requests of a call are those of its nodes, each with the buffer of the nodes before it. -/
theorem mem_requests (vssMap : List VSSConfigInfo) (request : Request) :
    request ∈ (onActuatorChange host client targetValues vssMap).requests ↔
      ∃ before entry after, methodNodes vssMap = before ++ entry :: after ∧
        requestFor host client targetValues before entry = some request := by
  rw [onActuatorChange_eq]
  induction methodNodes vssMap using List.reverseRecOn with
  | nil => simp [ActuatorFrame.initial]
  | append_singleton entries last ih =>
      rw [visited_requests, List.mem_append, ih, Option.mem_toList]
      constructor
      · rintro (⟨before, entry, after, rfl, sent⟩ | sent)
        · exact ⟨before, entry, after ++ [last], by simp, sent⟩
        · exact ⟨entries, last, [], rfl, sent⟩
      · rintro ⟨before, entry, after, split, sent⟩
        rcases Store.concat_split split with ⟨rfl, rfl, rfl⟩ | ⟨middle, rfl, rfl⟩
        · exact .inr sent
        · exact .inl ⟨before, entry, middle, rfl, sent⟩

/-- The payload of the request that the call sends for the node at a position. -/
def sentPayload (frame : ActuatorFrame) (position : Nat) : Option (List UInt8) :=
  (frame.requests.find? fun request => request.position == position).map Request.payload

theorem requestFor_position {before : List (SOMEIPConfigdata × VSSNode)}
    {entry : SOMEIPConfigdata × VSSNode} {request : Request}
    (sent : requestFor host client targetValues before entry = some request) :
    request.position = before.length := by
  unfold requestFor at sent
  split at sent
  · cases sent
    rfl
  · cases sent

theorem sentPayload_eq {vssMap : List VSSConfigInfo}
    {before after : List (SOMEIPConfigdata × VSSNode)} {entry : SOMEIPConfigdata × VSSNode}
    (split : methodNodes vssMap = before ++ entry :: after) :
    sentPayload (onActuatorChange host client targetValues vssMap) before.length =
      (requestFor host client targetValues before entry).map Request.payload := by
  have here : ∀ request ∈ (onActuatorChange host client targetValues vssMap).requests,
      request.position = before.length →
        requestFor host client targetValues before entry = some request := by
    intro request member position
    obtain ⟨front, other, rest, same, sent⟩ :=
      (mem_requests host client targetValues vssMap request).mp member
    have length : front.length = before.length :=
      (requestFor_position host client targetValues sent).symm.trans position
    obtain ⟨rfl, tails⟩ := List.append_inj (same.symm.trans split) length
    obtain ⟨rfl, -⟩ := List.cons.inj tails
    exact sent
  unfold sentPayload
  congr 1
  cases found : (onActuatorChange host client targetValues vssMap).requests.find?
      (fun request => request.position == before.length) with
  | some request =>
      have position := List.find?_some found
      exact (here request (List.mem_of_find?_eq_some found) (by simpa using position)).symm
  | none =>
      cases sent : requestFor host client targetValues before entry with
      | none => rfl
      | some request =>
          have member := (mem_requests host client targetValues vssMap request).mpr
            ⟨before, entry, after, split, sent⟩
          have missed := List.find?_eq_none.mp found request member
          simp [requestFor_position host client targetValues sent] at missed

/-- The request of a node carries the buffer right after the stores of the node. -/
theorem sentPayload_bytes {vssMap : List VSSConfigInfo}
    {before after : List (SOMEIPConfigdata × VSSNode)} {entry : SOMEIPConfigdata × VSSNode}
    {data : Kuksa.Datapoint} {bytes : List UInt8}
    (split : methodNodes vssMap = before ++ entry :: after)
    (target : targetValues.lookup entry.2.name = some data)
    (sent : sentPayload (onActuatorChange host client targetValues vssMap) before.length = some bytes) :
    bytes = payloadBytes
      (Store.run (bufferAfter host targetValues before) (encodeNode host entry.2 data)) := by
  rw [sentPayload_eq host client targetValues split] at sent
  obtain ⟨request, allowed, rfl⟩ := Option.map_eq_some_iff.mp sent
  unfold requestFor at allowed
  split at allowed
  · cases allowed
    simp only [bufferAfter, List.flatMap_append, List.flatMap_singleton, Store.run_append, nodeStores,
      target]
  · cases allowed

end Call

end VehicleEdge.Someip
