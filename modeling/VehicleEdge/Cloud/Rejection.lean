import VehicleEdge.Cloud.DirtyFlag

/-
This file runs one call of `publishSignal` to its end and finds what a raised exception leaves in the
message.
-/

namespace VehicleEdge.Cloud

variable {Value Payload : Type}

def SignalPoint.isIdle : SignalPoint Value → Bool
  | .idle => true
  | _ => false

/-- A call has at most this many statements left. -/
def SignalPoint.rank : SignalPoint Value → Nat
  | .idle => 0
  | .setNeedTransmit => 1
  | .setattr _ _ | .extend _ _ => 2
  | .delete _ _ => 3
  | .getattr _ _ => 4
  | .labelTest _ _ => 5
  | .descend _ _ _ nodes => 6 + nodes.length
  | .mappingTest signalName _ => 7 + (nodePath signalName).length
  | .split signalName _ => 8 + (nodePath signalName).length
  | .deviceState signalName _ => 9 + (nodePath signalName).length

/-- The statements run until the call is over, and an exception ends it before its last statement. -/
def finish (protobuf : Protobuf Value Payload) (schema : Schema) :
    Nat → AWSConnection Value Payload → SignalPoint Value → Option (AWSConnection Value Payload × Bool)
  | 0, _, _ => none
  | fuel + 1, connection, point =>
      let next := publishSignal protobuf schema connection point
      if next.2.isIdle then some (next.1, !point.setsNeedTransmit)
      else finish protobuf schema fuel next.1 next.2

/-- This is one whole call, with the connection after it and whether a statement raised. -/
def callPublishSignal (protobuf : Protobuf Value Payload) (schema : Schema)
    (connection : AWSConnection Value Payload) (signalName : String) (signalValue : Value) :
    Option (AWSConnection Value Payload × Bool) :=
  let start := SignalPoint.deviceState signalName signalValue
  finish protobuf schema start.rank connection start

/-- The path of the field starts with the cached node or with the node of the name. -/
def fieldPath (connection : AWSConnection Value Payload) (signalName : String) : Path :=
  (connection.protoMapping.lookup signalName).getD (nodePath signalName) ++ [fieldName signalName]

/-- The two messages hold the same field values. -/
def SameFields (before after : Proto Value) : Prop :=
  after.scalar = before.scalar ∧ after.repeated = before.repeated

/-- The signal does not name a repeated field that holds values. -/
def NotRepeated (schema : Schema) (connection : AWSConnection Value Payload) (signalName : String) : Prop :=
  ∀ type, schema.find (fieldPath connection signalName) = some (.field 3 type) →
    connection.proto.repeated (fieldPath connection signalName) = []

section Termination

variable (protobuf : Protobuf Value Payload) (schema : Schema) (connection : AWSConnection Value Payload)

/-- Every statement of a call leaves fewer statements. -/
theorem publishSignal_rank {point : SignalPoint Value} (inside : point.isIdle = false) :
    (publishSignal protobuf schema connection point).2.rank < point.rank := by
  cases point with
  | idle => cases inside
  | deviceState | split | delete | setNeedTransmit => simp [publishSignal, SignalPoint.rank]
  | mappingTest signalName signalValue =>
      simp only [publishSignal]
      split <;> simp only [SignalPoint.rank] <;> omega
  | descend signalName signalValue protoNode nodes =>
      cases nodes with
      | nil => simp [publishSignal, SignalPoint.rank]
      | cons node nodes =>
          simp only [publishSignal]
          split <;> simp only [SignalPoint.rank, List.length_cons] <;> omega
  | labelTest signalName signalValue =>
      simp only [publishSignal]
      split
      · dsimp only
        split <;> simp [SignalPoint.rank]
      · simp [SignalPoint.rank]
  | setattr | getattr | extend =>
      simp only [publishSignal]
      split <;> simp [SignalPoint.rank]

theorem isIdle_of_rank {point : SignalPoint Value} (finished : point.rank = 0) : point.isIdle = true := by
  cases point <;> simp [SignalPoint.rank, SignalPoint.isIdle] at finished ⊢

theorem finish_isSome {fuel : Nat} {connection : AWSConnection Value Payload} {point : SignalPoint Value}
    (inside : point.isIdle = false) (enough : point.rank ≤ fuel) :
    (finish protobuf schema fuel connection point).isSome = true := by
  induction fuel generalizing connection point with
  | zero =>
      have idle := isIdle_of_rank (Nat.le_zero.mp enough)
      rw [inside] at idle
      cases idle
  | succ fuel ih =>
      have fewer := publishSignal_rank protobuf schema connection inside
      rw [finish]
      split
      · rfl
      case isFalse running =>
        exact ih (eq_false_of_ne_true running) (by omega)

/-- Every call ends. -/
theorem callPublishSignal_isSome (signalName : String) (signalValue : Value) :
    (callPublishSignal protobuf schema connection signalName signalValue).isSome = true :=
  finish_isSome protobuf schema rfl (Nat.le_refl _)

end Termination

section Call

variable (schema : Schema) (before : AWSConnection Value Payload) (signalName : String)

/-- Before the deletion the message is the one of the call's start, and after it the named field is empty. -/
def OnCall (connection : AWSConnection Value Payload) : SignalPoint Value → Prop
  | .idle => False
  | .deviceState name _ | .split name _ | .mappingTest name _ =>
      name = signalName ∧ connection.proto = before.proto ∧ connection.protoMapping = before.protoMapping
  | .descend name _ protoNode nodes =>
      name = signalName ∧ connection.proto = before.proto ∧
        before.protoMapping.lookup signalName = none ∧ protoNode ++ nodes = nodePath signalName
  | .labelTest name _ =>
      name = signalName ∧ connection.proto = before.proto ∧
        ∃ node, connection.protoMapping.lookup signalName = some node ∧
          node ++ [fieldName signalName] = fieldPath before signalName
  | .setattr _ _ =>
      connection.proto = before.proto ∧
        ∀ type, schema.find (fieldPath before signalName) ≠ some (.field 3 type)
  | .getattr name _ =>
      name = signalName ∧ connection.proto = before.proto ∧
        (∃ type, schema.find (fieldPath before signalName) = some (.field 3 type)) ∧
        ∃ node, connection.protoMapping.lookup signalName = some node ∧
          node ++ [fieldName signalName] = fieldPath before signalName
  | .delete _ repeatedAttr =>
      connection.proto = before.proto ∧ repeatedAttr = fieldPath before signalName ∧
        ∃ type, schema.find (fieldPath before signalName) = some (.field 3 type)
  | .extend _ repeatedAttr =>
      connection.proto = deleteAll before.proto (fieldPath before signalName) ∧
        repeatedAttr = fieldPath before signalName ∧
        ∃ type, schema.find (fieldPath before signalName) = some (.field 3 type)
  | .setNeedTransmit => True

/-- The field values are kept exactly when no values of a repeated field are at stake. -/
def Rejected (connection : AWSConnection Value Payload) : Prop :=
  SameFields before.proto connection.proto ↔ NotRepeated schema before signalName

variable {schema before signalName}

/-- An exception on the way to the field leaves the message as it was. -/
theorem rejected_of_same {connection : AWSConnection Value Payload} (same : connection.proto = before.proto)
    (other : ∀ type, schema.find (fieldPath before signalName) ≠ some (.field 3 type)) :
    Rejected schema before signalName connection := by
  unfold Rejected SameFields
  rw [same]
  exact iff_of_true ⟨rfl, rfl⟩ fun type found => absurd found (other type)

/-- An exception after the deletion leaves the message as it was only when the field was empty. -/
theorem rejected_of_deleted {connection : AWSConnection Value Payload}
    (deleted : connection.proto = deleteAll before.proto (fieldPath before signalName)) {type : FieldType}
    (found : schema.find (fieldPath before signalName) = some (.field 3 type)) :
    Rejected schema before signalName connection := by
  unfold Rejected SameFields NotRepeated
  rw [deleted]
  constructor
  · rintro ⟨-, repeated⟩ _ _
    have emptied := congrFun repeated (fieldPath before signalName)
    simpa [deleteAll, Proto.setRepeated] using emptied.symm
  · intro empty
    refine ⟨rfl, ?_⟩
    funext path
    by_cases named : path = fieldPath before signalName
    · rw [named, empty type found]
      simp [deleteAll, Proto.setRepeated]
    · simp [deleteAll, Proto.setRepeated, Proto.modified, named]

theorem find_of_label {node : Path} {name : String} {label : Nat}
    (labelled : fieldLabel schema node name = some label) :
    label = 3 ↔ ∃ type, schema.find (node ++ [name]) = some (.field 3 type) := by
  unfold fieldLabel at labelled
  cases found : schema.find (node ++ [name]) with
  | none =>
      rw [found] at labelled
      cases labelled
  | some child =>
      rw [found] at labelled
      cases child with
      | field own type =>
          cases labelled
          simp
      | message fields =>
          cases labelled
          simp

/-- A missing component of the name leaves its field unknown. -/
theorem find_of_missing {protoNode : Path} {node : String} {nodes : List String}
    (unmapped : before.protoMapping.lookup signalName = none)
    (onPath : protoNode ++ node :: nodes = nodePath signalName)
    (missing : getattr schema protoNode node = none) :
    schema.find (fieldPath before signalName) = none := by
  have absent : schema.find (protoNode ++ [node]) = none := by
    simpa [getattr] using missing
  have splitPath : fieldPath before signalName =
      (protoNode ++ [node]) ++ (nodes ++ [fieldName signalName]) := by
    rw [fieldPath, unmapped, Option.getD_none, ← onPath]
    simp
  rw [splitPath, Schema.find_append, absent]
  rfl

/-- The call goes on, or it is over and an exception has ended it. -/
def Continues (schema : Schema) (before : AWSConnection Value Payload) (signalName : String)
    (next : AWSConnection Value Payload × SignalPoint Value) : Prop :=
  if next.2.isIdle then Rejected schema before signalName next.1
  else OnCall schema before signalName next.1 next.2

theorem continues_of_onCall {next : AWSConnection Value Payload × SignalPoint Value}
    (running : next.2.isIdle = false) (here : OnCall schema before signalName next.1 next.2) :
    Continues schema before signalName next := by
  rw [Continues, running]
  exact here

theorem continues_of_rejected {next : AWSConnection Value Payload × SignalPoint Value}
    (ended : next.2.isIdle = true) (rejected : Rejected schema before signalName next.1) :
    Continues schema before signalName next := by
  rw [Continues, ended]
  exact rejected

/-- The next statement of a call is on the call, or an exception has ended it. -/
theorem publishSignal_onCall (protobuf : Protobuf Value Payload) {connection : AWSConnection Value Payload}
    {point : SignalPoint Value} (here : OnCall schema before signalName connection point)
    (raises : point.setsNeedTransmit = false) :
    Continues schema before signalName (publishSignal protobuf schema connection point) := by
  cases point with
  | idle => exact here.elim
  | setNeedTransmit => cases raises
  | deviceState | split => exact continues_of_onCall rfl here
  | mappingTest name signalValue =>
      obtain ⟨rfl, proto, mapping⟩ := here
      simp only [publishSignal]
      split
      case isTrue cached =>
        obtain ⟨node, found⟩ := Option.isSome_iff_exists.mp (AList.lookup_isSome.mpr cached)
        have path : fieldPath before name = node ++ [fieldName name] := by
          rw [fieldPath, ← mapping, found, Option.getD_some]
        exact continues_of_onCall rfl ⟨rfl, proto, node, found, path.symm⟩
      case isFalse fresh =>
        have unmapped : before.protoMapping.lookup name = none := by
          rw [← mapping]
          exact AList.lookup_eq_none.mpr fresh
        exact continues_of_onCall rfl ⟨rfl, proto, unmapped, List.nil_append _⟩
  | descend name signalValue protoNode nodes =>
      obtain ⟨rfl, proto, unmapped, onPath⟩ := here
      cases nodes with
      | nil =>
          have path : protoNode ++ [fieldName name] = fieldPath before name := by
            rw [fieldPath, unmapped, Option.getD_none, ← onPath, List.append_nil]
          exact continues_of_onCall rfl ⟨rfl, proto, protoNode, AList.lookup_insert _, path⟩
      | cons node nodes =>
          simp only [publishSignal]
          cases known : Cloud.getattr schema protoNode node with
          | none =>
              have unknown := find_of_missing unmapped onPath known
              exact continues_of_rejected rfl (rejected_of_same proto (by simp [unknown]))
          | some child =>
              have descended : child = protoNode ++ [node] := by
                obtain ⟨_, _, rfl⟩ := Option.map_eq_some_iff.mp known
                rfl
              apply continues_of_onCall rfl
              refine ⟨rfl, proto, unmapped, ?_⟩
              rw [descended, List.append_assoc]
              exact onPath
  | labelTest name signalValue =>
      obtain ⟨rfl, proto, node, mapped, path⟩ := here
      simp only [publishSignal, mapped, Option.bind_some]
      cases labelled : fieldLabel schema node (fieldName name) with
      | none =>
          have unknown : schema.find (fieldPath before name) = none := by
            rw [← path]
            simpa [fieldLabel] using labelled
          exact continues_of_rejected rfl (rejected_of_same proto (by simp [unknown]))
      | some label =>
          have isRepeated := find_of_label labelled
          rw [path] at isRepeated
          dsimp only
          split
          case isTrue single =>
            have other := not_exists.mp (isRepeated.not.mp single)
            exact continues_of_onCall rfl ⟨proto, other⟩
          case isFalse notSingle =>
            have found := isRepeated.mp (not_not.mp notSingle)
            exact continues_of_onCall rfl ⟨rfl, proto, found, node, mapped, path⟩
  | setattr name signalValue =>
      obtain ⟨proto, other⟩ := here
      simp only [publishSignal]
      split
      · exact continues_of_onCall rfl trivial
      · exact continues_of_rejected rfl (rejected_of_same proto other)
  | getattr name signalValue =>
      obtain ⟨rfl, proto, ⟨type, found⟩, node, mapped, path⟩ := here
      have known : Cloud.getattr schema node (fieldName name) = some (fieldPath before name) := by
        rw [Cloud.getattr, path, found]
        rfl
      simp only [publishSignal, mapped, Option.bind_some, known]
      exact continues_of_onCall rfl ⟨proto, rfl, type, found⟩
  | delete signalValue repeatedAttr =>
      obtain ⟨proto, rfl, found⟩ := here
      apply continues_of_onCall rfl
      refine ⟨?_, rfl, found⟩
      rw [← proto]
      rfl
  | extend signalValue repeatedAttr =>
      obtain ⟨proto, rfl, type, found⟩ := here
      simp only [publishSignal]
      split
      · exact continues_of_onCall rfl trivial
      · exact continues_of_rejected rfl (rejected_of_deleted proto found)

theorem finish_rejected (protobuf : Protobuf Value Payload) {fuel : Nat}
    {connection after : AWSConnection Value Payload} {point : SignalPoint Value}
    (here : OnCall schema before signalName connection point)
    (raised : finish protobuf schema fuel connection point = some (after, true)) :
    Rejected schema before signalName after := by
  induction fuel generalizing connection point with
  | zero => cases raised
  | succ fuel ih =>
      rw [finish] at raised
      cases last : point.setsNeedTransmit with
      | true =>
          -- the last statement of a call does not raise
          cases point with
          | setNeedTransmit => simp [publishSignal, SignalPoint.isIdle, SignalPoint.setsNeedTransmit] at raised
          | _ => cases last
      | false =>
          have continues := publishSignal_onCall protobuf here last
          unfold Continues at continues
          split at raised
          case isTrue idle =>
            rw [if_pos idle] at continues
            obtain ⟨rfl, -⟩ := Prod.mk.inj (Option.some.inj raised)
            exact continues
          case isFalse running =>
            rw [if_neg running] at continues
            exact ih continues raised

end Call

/-- A rejected signal leaves all field values as they were exactly when it names no repeated field that holds
values. -/
theorem rejected_signal_keeps_fields (protobuf : Protobuf Value Payload) (schema : Schema)
    (connection : AWSConnection Value Payload) (signalName : String) (signalValue : Value)
    {after : AWSConnection Value Payload}
    (raised : callPublishSignal protobuf schema connection signalName signalValue = some (after, true)) :
    SameFields connection.proto after.proto ↔ NotRepeated schema connection signalName := by
  have start : OnCall schema connection signalName connection (.deviceState signalName signalValue) :=
    ⟨rfl, rfl, rfl⟩
  exact finish_rejected protobuf start raised

/-- These are the Python values of the signals at the root of the vehicle message. -/
inductive PythonValue where
  | number (value : Nat)
  | text (value : String)
  | list (values : List PythonValue)

/-- A 32-bit field takes small numbers, and a list and a text can be iterated. -/
def vehicleProtobuf : Protobuf PythonValue Unit where
  checkValue type value :=
    match type, value with
    | .uint32, .number value => if value < 4294967296 then some (.number value) else none
    | .string, .text value => some (.text value)
    | _, _ => none
  iterate
    | .list values => some values
    | .text value => some (value.toList.map fun letter => .text (String.singleton letter))
    | .number _ => none
  serializeToString _ := ()

/-- The start permissions hold two numbers. -/
def permittedConnection : AWSConnection PythonValue Unit :=
  { AWSConnection.new PythonValue Unit 0 0 with
    proto := (Proto.empty PythonValue).setRepeated ["StartPermissions"] [.number 1, .number 2] }

/-- A text for the requestor raises and leaves the permissions. -/
theorem rejected_signal_keeps_fields_requestor :
    ∃ after, callPublishSignal vehicleProtobuf rootSchema permittedConnection "Vehicle.RequestorInControl"
        (.text "none") = some (after, true) ∧ SameFields permittedConnection.proto after.proto := by
  refine ⟨_, rfl, (rejected_signal_keeps_fields vehicleProtobuf rootSchema permittedConnection
    "Vehicle.RequestorInControl" (.text "none") rfl).mpr ?_⟩
  intro type found
  have single : rootSchema.find (fieldPath permittedConnection "Vehicle.RequestorInControl") =
      some (.field 1 .uint32) := rfl
  cases single.symm.trans found

/-- A list with a text among its numbers raises and leaves no permission. -/
theorem rejected_list_empties_field :
    ∃ after, callPublishSignal vehicleProtobuf rootSchema permittedConnection "Vehicle.StartPermissions"
        (.list [.number 3, .text "all"]) = some (after, true) ∧
      ¬ SameFields permittedConnection.proto after.proto := by
  refine ⟨_, rfl, ?_⟩
  rintro ⟨-, repeated⟩
  have emptied : [] = [PythonValue.number 1, .number 2] := congrFun repeated ["StartPermissions"]
  cases emptied

end VehicleEdge.Cloud
