import VehicleEdge.Cloud.Rejection
import VehicleEdge.Library.LastWrite
import VehicleEdge.Library.Shell

/-
This file runs sequences of `publishSignal` calls and compares the vehicle message with a store that keeps
the last value of each leaf.
-/

namespace VehicleEdge.Cloud

variable {Value Payload : Type}

/-- A leaf stores one value or a list of values. -/
inductive Leaf (Value : Type) where
  | single (value : Value)
  | list (values : List Value)

/-- The leaf of a signal is the field under its node. -/
def leafPath (signalName : String) : Path := nodePath signalName ++ [fieldName signalName]

/-- This is what the leaf of the signal stores for the value, if it takes the value. -/
def storedLeaf (protobuf : Protobuf Value Payload) (schema : Schema) (signalName : String)
    (signalValue : Value) : Option (Leaf Value) :=
  match schema.find (leafPath signalName) with
  | some (.field label type) =>
      if label = 3 then
        ((protobuf.iterate signalValue).bind fun elements =>
          elements.mapM (protobuf.checkValue type)).map .list
      else (protobuf.checkValue type signalValue).map .single
  | _ => none

/-- The write of a leaf replaces what it held. -/
def Proto.store (proto : Proto Value) (path : Path) : Leaf Value → Proto Value
  | .single value => proto.setScalar path value
  | .list values => proto.setRepeated path values

theorem storedLeaf_wellTyped (protobuf : Protobuf Value Payload) (schema : Schema) (signalName : String)
    (signalValue : Value) :
    (storedLeaf protobuf schema signalName signalValue).isSome =
      wellTyped protobuf schema signalName signalValue := by
  unfold storedLeaf wellTyped leafPath
  cases schema.find (nodePath signalName ++ [fieldName signalName]) with
  | none => rfl
  | some child =>
      cases child with
      | message fields => rfl
      | field label type =>
          dsimp only
          split <;> rw [Option.isSome_map]

/-- The deletion and the extension together replace the list. -/
theorem setRepeated_deleteAll (proto : Proto Value) (path : Path) (values : List Value) :
    (deleteAll proto path).setRepeated path ((deleteAll proto path).repeated path ++ values) =
      proto.setRepeated path values := by
  have emptied : (deleteAll proto path).repeated path = [] := by simp [deleteAll, Proto.setRepeated]
  rw [emptied, List.nil_append]
  unfold deleteAll Proto.setRepeated Proto.modified
  simp only [Proto.mk.injEq, true_and]
  constructor
  · funext other
    by_cases same : other = path
    · simp [same]
    · simp [same]
  · funext other
    simp

section Call

variable (protobuf : Protobuf Value Payload) (schema : Schema) (connection : AWSConnection Value Payload)

/-- A statement that does not end the call uses one unit of fuel. -/
theorem finish_step {fuel : Nat} {connection next : AWSConnection Value Payload}
    {point following : SignalPoint Value}
    (stepped : publishSignal protobuf schema connection point = (next, following))
    (running : following.isIdle = false) :
    finish protobuf schema (fuel + 1) connection point = finish protobuf schema fuel next following := by
  rw [finish, stepped]
  simp only [running, Bool.false_eq_true, if_false]

variable {schema} {signalName : String} {signalValue : Value}

/-- The loop over the components ends at the node of the signal. -/
theorem finish_descend (typed : wellTyped protobuf schema signalName signalValue = true) (fuel : Nat)
    (nodes : List String) {protoNode : Path} (onPath : protoNode ++ nodes = nodePath signalName) :
    finish protobuf schema (fuel + nodes.length + 1) connection
        (.descend signalName signalValue protoNode nodes) =
      finish protobuf schema fuel
        { connection with
          protoMapping := connection.protoMapping.insert signalName (nodePath signalName) }
        (.labelTest signalName signalValue) := by
  induction nodes generalizing protoNode with
  | nil =>
      rw [List.append_nil] at onPath
      subst onPath
      exact finish_step protobuf schema rfl rfl
  | cons node nodes ih =>
      have stepped : publishSignal protobuf schema connection
          (.descend signalName signalValue protoNode (node :: nodes)) =
          (connection, .descend signalName signalValue (protoNode ++ [node]) nodes) := by
        simp only [publishSignal, getattr_wellTyped typed onPath]
      rw [List.length_cons, ← Nat.add_assoc, finish_step protobuf schema stepped rfl]
      apply ih
      rw [List.append_assoc]
      exact onPath

/-- The rest of the call stores the leaf and sets the flag. -/
theorem finish_labelTest {leaf : Leaf Value}
    (stored : storedLeaf protobuf schema signalName signalValue = some leaf)
    (cached : connection.protoMapping.lookup signalName = some (nodePath signalName)) (fuel : Nat) :
    finish protobuf schema (fuel + 5) connection (.labelTest signalName signalValue) =
      some ({ connection with
        proto := connection.proto.store (leafPath signalName) leaf
        needTransmit := true }, false) := by
  unfold storedLeaf at stored
  split at stored
  case h_2 => cases stored
  case h_1 label type found =>
    have labelled : fieldLabel schema (nodePath signalName) (fieldName signalName) = some label := by
      unfold leafPath at found
      simp only [fieldLabel, found, Option.map_some]
    split at stored
    case isTrue many =>
      obtain ⟨values, extended, rfl⟩ := Option.map_eq_some_iff.mp stored
      obtain ⟨elements, iterated, checked⟩ := Option.bind_eq_some_iff.mp extended
      have known : Cloud.getattr schema (nodePath signalName) (fieldName signalName) =
          some (leafPath signalName) := by
        unfold leafPath at found ⊢
        simp only [Cloud.getattr, found, Option.map_some]
      have tested : publishSignal protobuf schema connection (.labelTest signalName signalValue) =
          (connection, .getattr signalName signalValue) := by
        simp only [publishSignal, cached, Option.bind_some, labelled, many, ne_eq, not_true_eq_false,
          if_false]
      have fetched : publishSignal protobuf schema connection (.getattr signalName signalValue) =
          (connection, .delete signalValue (leafPath signalName)) := by
        simp only [publishSignal, cached, Option.bind_some, known]
      rw [finish_step protobuf schema tested rfl, finish_step protobuf schema fetched rfl,
        finish_step protobuf schema rfl rfl]
      have written : publishSignal protobuf schema
          { connection with proto := deleteAll connection.proto (leafPath signalName) }
          (.extend signalValue (leafPath signalName)) =
          ({ connection with proto := connection.proto.store (leafPath signalName) (.list values) },
            .setNeedTransmit) := by
        simp only [publishSignal, Cloud.extend, found, iterated, checked, Option.bind_some,
          Option.map_some, setRepeated_deleteAll, Proto.store]
      rw [finish_step protobuf schema written rfl]
      rfl
    case isFalse one =>
      obtain ⟨value, checked, rfl⟩ := Option.map_eq_some_iff.mp stored
      have tested : publishSignal protobuf schema connection (.labelTest signalName signalValue) =
          (connection, .setattr signalName signalValue) := by
        simp only [publishSignal, cached, Option.bind_some, labelled, ne_eq, one, not_false_eq_true,
          if_true]
      have written : publishSignal protobuf schema connection (.setattr signalName signalValue) =
          ({ connection with proto := connection.proto.store (leafPath signalName) (.single value) },
            .setNeedTransmit) := by
        unfold leafPath at found ⊢
        simp only [publishSignal, cached, Option.bind_some, Cloud.setattr, found, checked,
          Option.map_some, Proto.store]
      rw [finish_step protobuf schema tested rfl, finish_step protobuf schema written rfl]
      rfl

/-- A whole call with a value that the leaf takes stores it, with or without a cached node. -/
theorem callPublishSignal_stores {leaf : Leaf Value}
    (stored : storedLeaf protobuf schema signalName signalValue = some leaf)
    (mapped : Mapped connection.protoMapping) :
    ∃ after, callPublishSignal protobuf schema connection signalName signalValue = some (after, false) ∧
      after.proto = connection.proto.store (leafPath signalName) leaf ∧ Mapped after.protoMapping := by
  have typed : wellTyped protobuf schema signalName signalValue = true := by
    rw [← storedLeaf_wellTyped, stored]
    rfl
  have length : 9 + (nodePath signalName).length = 5 + (nodePath signalName).length + 1 + 1 + 1 + 1 := by
    omega
  let noted : AWSConnection Value Payload :=
    { connection with deviceState := connection.deviceState.insert signalName signalValue }
  have tested : callPublishSignal protobuf schema connection signalName signalValue =
      finish protobuf schema (5 + (nodePath signalName).length + 1 + 1) noted
        (.mappingTest signalName signalValue) := by
    unfold callPublishSignal
    simp only [SignalPoint.rank, length]
    rw [finish_step protobuf schema rfl rfl, finish_step protobuf schema rfl rfl]
  by_cases cached : signalName ∈ connection.protoMapping
  · obtain ⟨node, found⟩ := Option.isSome_iff_exists.mp (AList.lookup_isSome.mpr cached)
    have right := mapped signalName node found
    subst right
    have known : publishSignal protobuf schema noted (.mappingTest signalName signalValue) =
        (noted, .labelTest signalName signalValue) := if_pos cached
    rw [tested, finish_step protobuf schema known rfl, Nat.add_assoc 5, Nat.add_comm 5,
      finish_labelTest protobuf noted stored found]
    exact ⟨_, rfl, rfl, mapped⟩
  · have fresh : publishSignal protobuf schema noted (.mappingTest signalName signalValue) =
        (noted, .descend signalName signalValue [] (nodePath signalName)) := if_neg cached
    rw [tested, finish_step protobuf schema fresh rfl,
      finish_descend protobuf noted typed 5 _ (List.nil_append _),
      finish_labelTest protobuf _ stored (AList.lookup_insert _) 0]
    exact ⟨_, rfl, rfl, mapped_insert mapped signalName⟩

end Call

section Run

variable (protobuf : Protobuf Value Payload) (schema : Schema)

/-- A call has a name and a value. -/
abbrev Call (Value : Type) := String × Value

/-- Without the cache every call starts with an empty mapping. -/
def withCache (cached : Bool) (connection : AWSConnection Value Payload) : AWSConnection Value Payload :=
  if cached then connection else { connection with protoMapping := ∅ }

/-- The calls run one after another. -/
def publishAll (cached : Bool) (connection : AWSConnection Value Payload) (calls : List (Call Value)) :
    Option (AWSConnection Value Payload) :=
  calls.foldlM (fun connection call =>
    (callPublishSignal protobuf schema (withCache cached connection) call.1 call.2).map Prod.fst) connection

/-- The store replaces the leaf of the call. -/
def storeCall (proto : Proto Value) (call : Call Value) : Proto Value :=
  match storedLeaf protobuf schema call.1 call.2 with
  | some leaf => proto.store (leafPath call.1) leaf
  | none => proto

variable {protobuf schema}

theorem publishAll_stores (cached : Bool) {calls : List (Call Value)}
    (typed : ∀ call ∈ calls, wellTyped protobuf schema call.1 call.2 = true)
    {connection : AWSConnection Value Payload} (mapped : Mapped connection.protoMapping) :
    ∃ after, publishAll protobuf schema cached connection calls = some after ∧
      after.proto = calls.foldl (storeCall protobuf schema) connection.proto := by
  induction calls generalizing connection with
  | nil => exact ⟨connection, rfl, rfl⟩
  | cons call calls ih =>
      obtain ⟨first, rest⟩ := List.forall_mem_cons.mp typed
      rw [← storedLeaf_wellTyped] at first
      obtain ⟨leaf, stored⟩ := Option.isSome_iff_exists.mp first
      have prepared : Mapped (withCache cached connection).protoMapping := by
        cases cached with
        | true => exact mapped
        | false =>
            intro name node found
            simp [withCache] at found
      have unchanged : (withCache cached connection).proto = connection.proto := by
        cases cached <;> rfl
      obtain ⟨next, called, proto, nextMapped⟩ :=
        callPublishSignal_stores protobuf (withCache cached connection) stored prepared
      obtain ⟨after, finished, final⟩ := ih rest nextMapped
      refine ⟨after, ?_, ?_⟩
      · unfold publishAll at finished ⊢
        simp only [List.foldlM_cons, called, Option.map_some, Option.bind_eq_bind, Option.bind_some]
        exact finished
      · rw [final, List.foldl_cons, storeCall, stored, proto, unchanged]

/-- Writes to different paths of a field table commute. -/
theorem write_comm {Stored : Type} (fields : Path → Stored) {first second : Path}
    (different : first ≠ second) (one other : Stored) :
    (fun path => if path = second then other else if path = first then one else fields path) =
      fun path => if path = first then one else if path = second then other else fields path := by
  funext path
  by_cases here : path = first
  · simp [here, different]
  · simp [here]

/-- Writes to different leaves commute. -/
theorem store_comm (proto : Proto Value) {first second : Path} (different : first ≠ second)
    (one other : Leaf Value) :
    (proto.store first one).store second other = (proto.store second other).store first one := by
  have present : ∀ path, (proto.present path || path.isPrefixOf first.dropLast ||
      path.isPrefixOf second.dropLast) =
      (proto.present path || path.isPrefixOf second.dropLast || path.isPrefixOf first.dropLast) :=
    fun path => Bool.or_right_comm _ _ _
  cases one <;> cases other <;>
    simp only [Proto.store, Proto.setScalar, Proto.setRepeated, Proto.modified, Proto.mk.injEq,
      true_and, present, and_true]
  case single.single one other => exact write_comm proto.scalar different (some one) (some other)
  case list.list one other => exact write_comm proto.repeated different one other

theorem signalPath_injective {first second : String} (same : signalPath first = signalPath second) :
    first = second := by
  unfold signalPath at same
  have letters : first.toList.splitOn '.' = second.toList.splitOn '.' :=
    List.map_injective_iff.mpr (fun _ _ => String.ofList_inj.mp) same
  have joined := congrArg (List.intercalate ['.']) letters
  rw [List.intercalate_splitOn, List.intercalate_splitOn] at joined
  exact String.toList_inj.mp joined

/-- The name of a vehicle signal starts with the vehicle and goes on to a leaf. -/
def VehicleSignal (signalName : String) : Prop :=
  ∃ path, path ≠ [] ∧ signalPath signalName = "Vehicle" :: path

theorem signalPath_vehicle {signalName : String} (vehicle : VehicleSignal signalName) :
    signalPath signalName = "Vehicle" :: leafPath signalName := by
  obtain ⟨path, nonempty, components⟩ := vehicle
  have last : ("Vehicle" :: path).getLastD "" = path.getLast nonempty := by
    rw [List.getLastD_eq_getLast?, List.getLast?_cons, List.getLast?_eq_some_getLast nonempty]
    rfl
  rw [leafPath, nodePath, fieldName, components, last, List.drop_one, List.tail_cons,
    List.dropLast_append_getLast nonempty]

theorem leafPath_injective {first second : String} (one : VehicleSignal first)
    (other : VehicleSignal second) (same : leafPath first = leafPath second) : first = second := by
  apply signalPath_injective
  rw [signalPath_vehicle one, signalPath_vehicle other, same]

theorem storeCall_comm {first second : Call Value} (different : leafPath first.1 ≠ leafPath second.1)
    (proto : Proto Value) :
    storeCall protobuf schema (storeCall protobuf schema proto first) second =
      storeCall protobuf schema (storeCall protobuf schema proto second) first := by
  unfold storeCall
  cases storedLeaf protobuf schema first.1 first.2 with
  | none => rfl
  | some one =>
      cases storedLeaf protobuf schema second.1 second.2 with
      | none => rfl
      | some other => exact store_comm proto different one other

/-- A call writes its own leaf only. -/
theorem storeCall_other {call : Call Value} {path : Path} (elsewhere : leafPath call.1 ≠ path)
    (proto : Proto Value) :
    (storeCall protobuf schema proto call).scalar path = proto.scalar path ∧
      (storeCall protobuf schema proto call).repeated path = proto.repeated path := by
  unfold storeCall
  cases storedLeaf protobuf schema call.1 call.2 with
  | none => exact ⟨rfl, rfl⟩
  | some leaf =>
      cases leaf with
      | single value => exact ⟨if_neg (Ne.symm elsewhere), rfl⟩
      | list values => exact ⟨rfl, if_neg (Ne.symm elsewhere)⟩

/-- This is the value of the last call for the leaf at the path. -/
def lastPublished (calls : List (Call Value)) (path : Path) : Option Value :=
  (lastWrite (fun call => signalPath call.1) calls ("Vehicle" :: path)).map Prod.snd

/-- A leaf without a call is unset, and another one holds what its type stores for the value. -/
def LeafHolds (protobuf : Protobuf Value Payload) (proto : Proto Value) (path : Path) (label : Nat)
    (type : FieldType) : Option Value → Prop
  | none => proto.scalar path = none ∧ proto.repeated path = []
  | some value =>
      if label = 3 then
        ∃ elements, protobuf.iterate value = some elements ∧
          elements.mapM (protobuf.checkValue type) = some (proto.repeated path)
      else
        ∃ stored, protobuf.checkValue type value = some stored ∧ proto.scalar path = some stored

section Leaves

variable {calls : List (Call Value)} (vehicle : ∀ call ∈ calls, VehicleSignal call.1) {path : Path}

include vehicle

theorem leafPath_of_named {call : Call Value} (member : call ∈ calls) :
    leafPath call.1 = path ↔ signalPath call.1 = "Vehicle" :: path := by
  rw [signalPath_vehicle (vehicle call member)]
  simp

/-- A leaf without a call is never written. -/
theorem unset_foldl (absent : lastPublished calls path = none) :
    (calls.foldl (storeCall protobuf schema) (Proto.empty Value)).scalar path = none ∧
      (calls.foldl (storeCall protobuf schema) (Proto.empty Value)).repeated path = [] := by
  have elsewhere := lastWrite_eq_none.mp (Option.map_eq_none_iff.mp absent)
  apply repeated_kept fun proto : Proto Value => proto.scalar path = none ∧ proto.repeated path = []
  · intro call member proto unset
    have other : leafPath call.1 ≠ path := (leafPath_of_named vehicle member).not.mpr (elsewhere call member)
    rw [(storeCall_other other proto).1, (storeCall_other other proto).2]
    exact unset
  · exact Or.inl ⟨rfl, rfl⟩

variable (typed : ∀ call ∈ calls, wellTyped protobuf schema call.1 call.2 = true) {label : Nat}
  {type : FieldType} (found : schema.find path = some (.field label type))

include typed found

theorem scalar_foldl (one : label ≠ 3) :
    (calls.foldl (storeCall protobuf schema) (Proto.empty Value)).scalar path =
      (lastWrite (fun call => signalPath call.1) calls ("Vehicle" :: path)).elim none fun call =>
        protobuf.checkValue type call.2 := by
  apply observe_writes fun proto : Proto Value => proto.scalar path
  · intro call member named proto
    have own := (leafPath_of_named vehicle member).mpr named
    have accepted := typed call member
    rw [← storedLeaf_wellTyped] at accepted
    simp only [storedLeaf, own, found, if_neg one, Option.isSome_map] at accepted
    obtain ⟨stored, checked⟩ := Option.isSome_iff_exists.mp accepted
    simp only [storeCall, storedLeaf, own, found, if_neg one, checked, Option.map_some, Proto.store,
      Proto.setScalar, if_true]
  · intro call member other proto
    exact (storeCall_other ((leafPath_of_named vehicle member).not.mpr other) proto).1

theorem repeated_foldl (many : label = 3) :
    (calls.foldl (storeCall protobuf schema) (Proto.empty Value)).repeated path =
      (lastWrite (fun call => signalPath call.1) calls ("Vehicle" :: path)).elim [] fun call =>
        ((protobuf.iterate call.2).bind fun elements =>
          elements.mapM (protobuf.checkValue type)).getD [] := by
  apply observe_writes fun proto : Proto Value => proto.repeated path
  · intro call member named proto
    have own := (leafPath_of_named vehicle member).mpr named
    have accepted := typed call member
    rw [← storedLeaf_wellTyped] at accepted
    simp only [storedLeaf, own, found, if_pos many, Option.isSome_map] at accepted
    obtain ⟨stored, checked⟩ := Option.isSome_iff_exists.mp accepted
    simp only [storeCall, storedLeaf, own, found, if_pos many, checked, Option.map_some, Proto.store,
      Proto.setRepeated, if_true, Option.getD_some]
  · intro call member other proto
    exact (storeCall_other ((leafPath_of_named vehicle member).not.mpr other) proto).2

/-- Each leaf holds the value of its last call. -/
theorem leafHolds_foldl :
    LeafHolds protobuf (calls.foldl (storeCall protobuf schema) (Proto.empty Value)) path label type
      (lastPublished calls path) := by
  cases last : lastWrite (fun call => signalPath call.1) calls ("Vehicle" :: path) with
  | none =>
      have absent : lastPublished calls path = none := by rw [lastPublished, last]; rfl
      rw [absent]
      exact unset_foldl vehicle absent
  | some call =>
      obtain ⟨member, named⟩ := mem_of_lastWrite last
      have own := (leafPath_of_named vehicle member).mpr named
      have accepted := typed call member
      rw [← storedLeaf_wellTyped] at accepted
      rw [lastPublished, last, Option.map_some]
      simp only [LeafHolds]
      split
      case isTrue many =>
        simp only [storedLeaf, own, found, if_pos many, Option.isSome_map] at accepted
        obtain ⟨stored, checked⟩ := Option.isSome_iff_exists.mp accepted
        obtain ⟨elements, iterated, mapped⟩ := Option.bind_eq_some_iff.mp checked
        refine ⟨elements, iterated, ?_⟩
        rw [repeated_foldl vehicle typed found many, last, Option.elim_some, checked, Option.getD_some]
        exact mapped
      case isFalse one =>
        simp only [storedLeaf, own, found, if_neg one, Option.isSome_map] at accepted
        obtain ⟨stored, checked⟩ := Option.isSome_iff_exists.mp accepted
        refine ⟨stored, checked, ?_⟩
        rw [scalar_foldl vehicle typed found one, last, Option.elim_some, checked]

end Leaves

/-- After any sequence of accepted calls for vehicle signals each leaf holds the value of its last call, the
cache makes no difference, and neither does the order of calls for different signals. -/
theorem vehicle_state_keeps_last_values (protobuf : Protobuf Value Payload) (schema : Schema)
    (lastStatePublish lastReceiveTime : Int) (calls : List (Call Value))
    (vehicle : ∀ call ∈ calls, VehicleSignal call.1)
    (typed : ∀ call ∈ calls, wellTyped protobuf schema call.1 call.2 = true) :
    ∃ after, publishAll protobuf schema true (.new Value Payload lastStatePublish lastReceiveTime) calls =
        some after ∧
      (∀ path label type, schema.find path = some (.field label type) →
        LeafHolds protobuf after.proto path label type (lastPublished calls path)) ∧
      (∃ uncached, publishAll protobuf schema false (.new Value Payload lastStatePublish lastReceiveTime)
          calls = some uncached ∧ uncached.proto = after.proto) ∧
      ∀ other, Interleaved Prod.fst calls other →
        ∃ reordered, publishAll protobuf schema true
            (.new Value Payload lastStatePublish lastReceiveTime) other = some reordered ∧
          reordered.proto = after.proto := by
  have mapped : Mapped (AWSConnection.new Value Payload lastStatePublish lastReceiveTime).protoMapping := by
    intro signalName node found
    simp [AWSConnection.new] at found
  obtain ⟨after, finished, proto⟩ := publishAll_stores true typed mapped
  obtain ⟨uncached, uncachedFinished, uncachedProto⟩ := publishAll_stores false typed mapped
  refine ⟨after, finished, ?_, ⟨uncached, uncachedFinished, uncachedProto.trans proto.symm⟩, ?_⟩
  · intro path label type found
    rw [proto]
    exact leafHolds_foldl vehicle typed found
  · intro other interleaved
    have otherTyped : ∀ call ∈ other, wellTyped protobuf schema call.1 call.2 = true :=
      fun call member => typed call ((interleaved.mem_iff call).mpr member)
    obtain ⟨reordered, otherFinished, otherProto⟩ := publishAll_stores true otherTyped mapped
    refine ⟨reordered, otherFinished, ?_⟩
    rw [otherProto, proto]
    refine (interleaved.foldl_eq ?_ _).symm
    intro one first another second different state
    apply storeCall_comm
    exact fun same => different (leafPath_injective (vehicle one first) (vehicle another second) same)

end Run

/-- These are some fields of the body in the vehicle message. -/
def bodySchema : Schema :=
  .message [("Body", .message [("RequestRoundTripCounter", .field 1 .uint32),
    ("ResponseRoundTrip", .field 3 .uint32)])]

/-- The response gets shorter, and the counter is published between. -/
def bodyCalls : List (Call PythonValue) :=
  [("Vehicle.Body.ResponseRoundTrip", .list [.number 1, .number 20]),
    ("Vehicle.Body.RequestRoundTripCounter", .number 20),
    ("Vehicle.Body.ResponseRoundTrip", .list [.number 2])]

/-- The leaves of the body hold their last values. -/
theorem vehicle_state_keeps_last_values_body :
    ∃ after, publishAll vehicleProtobuf bodySchema true (.new PythonValue Unit 0 0) bodyCalls = some after ∧
      after.proto.scalar ["Body", "RequestRoundTripCounter"] = some (.number 20) ∧
      after.proto.repeated ["Body", "ResponseRoundTrip"] = [.number 2] := by
  have vehicle : ∀ call ∈ bodyCalls, VehicleSignal call.1 := by
    have response : VehicleSignal "Vehicle.Body.ResponseRoundTrip" :=
      ⟨["Body", "ResponseRoundTrip"], List.cons_ne_nil _ _, by decide +kernel⟩
    have counter : VehicleSignal "Vehicle.Body.RequestRoundTripCounter" :=
      ⟨["Body", "RequestRoundTripCounter"], List.cons_ne_nil _ _, by decide +kernel⟩
    simp [bodyCalls, response, counter]
  have typed : ∀ call ∈ bodyCalls, wellTyped vehicleProtobuf bodySchema call.1 call.2 = true := by
    simp only [bodyCalls, List.forall_mem_cons]
    exact ⟨by decide +kernel, by decide +kernel, by decide +kernel, fun _ member => by cases member⟩
  obtain ⟨after, finished, holds, -, -⟩ :=
    vehicle_state_keeps_last_values vehicleProtobuf bodySchema 0 0 bodyCalls vehicle typed
  have lastCounter : lastPublished bodyCalls ["Body", "RequestRoundTripCounter"] = some (.number 20) := rfl
  have lastResponse : lastPublished bodyCalls ["Body", "ResponseRoundTrip"] =
      some (.list [.number 2]) := rfl
  have counter := holds ["Body", "RequestRoundTripCounter"] 1 .uint32 rfl
  have response := holds ["Body", "ResponseRoundTrip"] 3 .uint32 rfl
  rw [lastCounter] at counter
  rw [lastResponse] at response
  obtain ⟨_, checked, scalar⟩ := counter
  obtain ⟨_, iterated, repeated⟩ := response
  cases checked
  cases iterated
  exact ⟨after, finished, scalar, (Option.some.inj repeated).symm⟩

end VehicleEdge.Cloud
