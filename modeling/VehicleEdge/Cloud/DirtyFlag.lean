import VehicleEdge.Cloud.Connector

/-
This file finds when the flag `needTransmit` tells whether the vehicle state was published.
The connection thread clears the flag two statements after it serialized the message, so a signal that
is stored and flagged between these statements is marked as sent.
-/

namespace VehicleEdge.Cloud

variable {Value Payload : Type} (protobuf : Protobuf Value Payload) (schema : Schema)

/-- The connection thread has published and has not cleared the flag yet. -/
def AwsPoint.unacknowledged : AwsPoint → Bool
  | .stamping _ => true
  | .clearing => true
  | _ => false

def SignalPoint.setsNeedTransmit : SignalPoint Value → Bool
  | .setNeedTransmit => true
  | _ => false

/-- The last publication carries the current message. -/
def Current (connection : AWSConnection Value Payload) : Prop :=
  ∀ publication ∈ connection.published.getLast?,
    publication.payload = protobuf.serializeToString connection.proto

/-- Every call has a well-typed signal. -/
def wellTypedCalls : State Value Payload → Event Value → Prop
  | _, .call signalName signalValue => wellTyped protobuf schema signalName signalValue = true
  | _, _ => True

/-- No call sets the flag before it is cleared when the message differs from the publication. -/
def noLateFlag (state : State Value Payload) : Event Value → Prop
  | .application =>
      state.signal.setsNeedTransmit = true → state.aws.unacknowledged = true →
        Current protobuf state.connection
  | _ => True

instance [DecidableEq Payload] (connection : AWSConnection Value Payload) :
    Decidable (Current protobuf connection) :=
  inferInstanceAs (Decidable (∀ publication ∈ connection.published.getLast?, _ = _))

instance : DecidableRel (@wellTypedCalls Value Payload protobuf schema) := fun _ event =>
  match event with
  | .call signalName signalValue =>
      inferInstanceAs (Decidable (wellTyped protobuf schema signalName signalValue = true))
  | .application => inferInstanceAs (Decidable True)
  | .aws _ _ => inferInstanceAs (Decidable True)

instance [DecidableEq Payload] : DecidableRel (@noLateFlag Value Payload protobuf) := fun state event =>
  match event with
  | .call _ _ => inferInstanceAs (Decidable True)
  | .application =>
      inferInstanceAs (Decidable (state.signal.setsNeedTransmit = true →
        state.aws.unacknowledged = true → Current protobuf state.connection))
  | .aws _ _ => inferInstanceAs (Decidable True)

/-- The guard joins the two conditions. -/
def flagGuard (state : State Value Payload) (event : Event Value) : Prop :=
  wellTypedCalls protobuf schema state event ∧ noLateFlag protobuf state event

instance [DecidableEq Payload] : DecidableRel (@flagGuard Value Payload protobuf schema) :=
  fun state event => inferInstanceAs (Decidable
    (wellTypedCalls protobuf schema state event ∧ noLateFlag protobuf state event))

/-- The dirty flag is sound when a clear flag outside of a call means a current publication. -/
def FlagSound (state : State Value Payload) : Prop :=
  state.signal = .idle → state.connection.needTransmit = false → Current protobuf state.connection

/-- The mapping holds the node of each name. -/
def Mapped (protoMapping : KeyedMap String Path) : Prop :=
  ∀ signalName node, protoMapping.lookup signalName = some node → node = nodePath signalName

/-- The call in progress has a well-typed signal, and it is at a place that fits the signal. -/
def InStep (protoMapping : KeyedMap String Path) : SignalPoint Value → Prop
  | .idle => True
  | .deviceState signalName signalValue | .split signalName signalValue
  | .mappingTest signalName signalValue => wellTyped protobuf schema signalName signalValue = true
  | .descend signalName signalValue protoNode nodes =>
      wellTyped protobuf schema signalName signalValue = true ∧ protoNode ++ nodes = nodePath signalName
  | .labelTest signalName signalValue =>
      wellTyped protobuf schema signalName signalValue = true ∧
        protoMapping.lookup signalName = some (nodePath signalName)
  | .setattr signalName signalValue =>
      protoMapping.lookup signalName = some (nodePath signalName) ∧
        ∀ proto, (Cloud.setattr protobuf schema proto (nodePath signalName) (fieldName signalName)
          signalValue).isSome = true
  | .getattr signalName signalValue =>
      protoMapping.lookup signalName = some (nodePath signalName) ∧
        (schema.find (nodePath signalName ++ [fieldName signalName])).isSome = true ∧
        ∀ proto, (Cloud.extend protobuf schema proto (nodePath signalName ++ [fieldName signalName])
          signalValue).isSome = true
  | .delete signalValue repeatedAttr | .extend signalValue repeatedAttr =>
      ∀ proto, (Cloud.extend protobuf schema proto repeatedAttr signalValue).isSome = true
  | .setNeedTransmit => True

variable {protobuf schema}

/-- The path of a well-typed signal leads to a field. -/
theorem find_wellTyped {signalName : String} {signalValue : Value}
    (typed : wellTyped protobuf schema signalName signalValue = true) :
    ∃ label type, schema.find (nodePath signalName ++ [fieldName signalName]) =
      some (.field label type) := by
  unfold wellTyped at typed
  split at typed
  case h_1 label type found => exact ⟨label, type, found⟩
  case h_2 => cases typed

/-- Each component of a well-typed name is an attribute of the node before it. -/
theorem getattr_wellTyped {signalName : String} {signalValue : Value} {protoNode : Path} {node : String}
    {nodes : List String} (typed : wellTyped protobuf schema signalName signalValue = true)
    (onPath : protoNode ++ node :: nodes = nodePath signalName) :
    getattr schema protoNode node = some (protoNode ++ [node]) := by
  obtain ⟨label, type, found⟩ := find_wellTyped typed
  have splitPath : nodePath signalName ++ [fieldName signalName] =
      (protoNode ++ [node]) ++ (nodes ++ [fieldName signalName]) := by
    rw [← onPath]
    simp
  rw [splitPath, Schema.find_append] at found
  obtain ⟨child, reached, _⟩ := Option.bind_eq_some_iff.mp found
  unfold getattr
  rw [reached]
  rfl

/-- The label decides which write succeeds on a well-typed signal. -/
theorem fieldLabel_wellTyped {signalName : String} {signalValue : Value}
    (typed : wellTyped protobuf schema signalName signalValue = true) :
    ∃ label, fieldLabel schema (nodePath signalName) (fieldName signalName) = some label ∧
      (label ≠ 3 → ∀ proto, (setattr protobuf schema proto (nodePath signalName) (fieldName signalName)
        signalValue).isSome = true) ∧
      (label = 3 → ∀ proto, (extend protobuf schema proto
        (nodePath signalName ++ [fieldName signalName]) signalValue).isSome = true) := by
  obtain ⟨label, type, found⟩ := find_wellTyped typed
  unfold wellTyped at typed
  simp only [found] at typed
  refine ⟨label, by simp [fieldLabel, found], ?_, ?_⟩
  · intro single proto
    rw [if_neg single] at typed
    simp only [setattr, found, Option.isSome_map]
    exact typed
  · intro many proto
    rw [if_pos many] at typed
    simp only [extend, found]
    obtain ⟨stored, checked⟩ := Option.isSome_iff_exists.mp typed
    obtain ⟨elements, iterated, accepted⟩ := Option.bind_eq_some_iff.mp checked
    simp [iterated, accepted]

/-- The insertion of the right node keeps the mapping right. -/
theorem mapped_insert {protoMapping : KeyedMap String Path} (mapped : Mapped protoMapping)
    (signalName : String) : Mapped (protoMapping.insert signalName (nodePath signalName)) := by
  intro other node found
  by_cases same : other = signalName
  · subst same
    rw [AList.lookup_insert, Option.some.injEq] at found
    exact found.symm
  · rw [AList.lookup_insert_ne same] at found
    exact mapped other node found

/-- A step inside of a call leaves the flag and the publications as they are. -/
structure Advances (protobuf : Protobuf Value Payload) (schema : Schema)
    (connection : AWSConnection Value Payload)
    (next : AWSConnection Value Payload × SignalPoint Value) : Prop where
  busy : next.2 ≠ .idle
  inStep : InStep protobuf schema next.1.protoMapping next.2
  mapped : Mapped next.1.protoMapping
  sameFlag : next.1.needTransmit = connection.needTransmit
  samePublished : next.1.published = connection.published

/-- A call with a well-typed signal ends only at its last statement. -/
theorem publishSignal_inStep {connection : AWSConnection Value Payload} {point : SignalPoint Value}
    (mapped : Mapped connection.protoMapping)
    (inStep : InStep protobuf schema connection.protoMapping point) (busy : point ≠ .idle)
    (unfinished : point ≠ .setNeedTransmit) :
    Advances protobuf schema connection (publishSignal protobuf schema connection point) := by
  cases point with
  | idle => exact absurd rfl busy
  | setNeedTransmit => exact absurd rfl unfinished
  | deviceState signalName signalValue => exact ⟨nofun, inStep, mapped, rfl, rfl⟩
  | split signalName signalValue => exact ⟨nofun, inStep, mapped, rfl, rfl⟩
  | mappingTest signalName signalValue =>
      simp only [publishSignal]
      split
      case isTrue known =>
        obtain ⟨node, found⟩ := Option.isSome_iff_exists.mp (AList.lookup_isSome.mpr known)
        have right := mapped signalName node found
        exact ⟨nofun, ⟨inStep, right ▸ found⟩, mapped, rfl, rfl⟩
      case isFalse => exact ⟨nofun, ⟨inStep, rfl⟩, mapped, rfl, rfl⟩
  | descend signalName signalValue protoNode nodes =>
      obtain ⟨typed, onPath⟩ := inStep
      cases nodes with
      | nil =>
          rw [List.append_nil] at onPath
          subst onPath
          exact ⟨nofun, ⟨typed, AList.lookup_insert _⟩, mapped_insert mapped signalName, rfl, rfl⟩
      | cons node nodes =>
          simp only [publishSignal, getattr_wellTyped typed onPath]
          exact ⟨nofun, ⟨typed, by simpa using onPath⟩, mapped, rfl, rfl⟩
  | labelTest signalName signalValue =>
      obtain ⟨typed, found⟩ := inStep
      obtain ⟨label, labelled, single, many⟩ := fieldLabel_wellTyped typed
      simp only [publishSignal, found, Option.bind_some, labelled]
      split
      case isTrue scalar => exact ⟨nofun, ⟨found, single scalar⟩, mapped, rfl, rfl⟩
      case isFalse repeated =>
        obtain ⟨_, _, reached⟩ := find_wellTyped typed
        exact ⟨nofun, ⟨found, by rw [reached]; rfl, many (not_not.mp repeated)⟩, mapped, rfl, rfl⟩
  | setattr signalName signalValue =>
      obtain ⟨found, writes⟩ := inStep
      obtain ⟨proto, written⟩ := Option.isSome_iff_exists.mp (writes connection.proto)
      simp only [publishSignal, found, Option.bind_some, written]
      exact ⟨nofun, trivial, mapped, rfl, rfl⟩
  | getattr signalName signalValue =>
      obtain ⟨found, present, extends_⟩ := inStep
      obtain ⟨child, reached⟩ := Option.isSome_iff_exists.mp present
      simp only [publishSignal, found, Option.bind_some, Cloud.getattr, reached, Option.map_some]
      exact ⟨nofun, extends_, mapped, rfl, rfl⟩
  | delete signalValue repeatedAttr => exact ⟨nofun, inStep, mapped, rfl, rfl⟩
  | extend signalValue repeatedAttr =>
      obtain ⟨proto, written⟩ := Option.isSome_iff_exists.mp (inStep connection.proto)
      simp only [publishSignal, written]
      exact ⟨nofun, trivial, mapped, rfl, rfl⟩

/-- The invariant adds the flag of every change that is not published yet.
Between a publication and the clearing of the flag, the flag does not count. -/
structure Flagged (protobuf : Protobuf Value Payload) (schema : Schema) (state : State Value Payload) :
    Prop where
  mapped : Mapped state.connection.protoMapping
  inStep : InStep protobuf schema state.connection.protoMapping state.signal
  flagged : state.signal = .idle → Current protobuf state.connection ∨
    (state.connection.needTransmit = true ∧ state.aws.unacknowledged = false)

/-- The connection thread changes neither the message nor the mapping. -/
theorem publishState_frame (protobuf : Protobuf Value Payload)
    (connection : AWSConnection Value Payload) (now : Int) (raises : Bool) (point : AwsPoint) :
    (publishState protobuf connection now raises point).1.proto = connection.proto ∧
      (publishState protobuf connection now raises point).1.protoMapping = connection.protoMapping := by
  cases point with
  | idleTest currentTime =>
      simp only [publishState]
      split <;> exact ⟨rfl, rfl⟩
  | publishing currentTime =>
      simp only [publishState]
      split <;> exact ⟨rfl, rfl⟩
  | _ => exact ⟨rfl, rfl⟩

/-- A step of the connection thread keeps every unpublished change flagged. -/
theorem publishState_flagged {connection : AWSConnection Value Payload} {point : AwsPoint}
    (now : Int) (raises : Bool)
    (flagged : Current protobuf connection ∨
      (connection.needTransmit = true ∧ point.unacknowledged = false)) :
    Current protobuf (publishState protobuf connection now raises point).1 ∨
      ((publishState protobuf connection now raises point).1.needTransmit = true ∧
        (publishState protobuf connection now raises point).2.unacknowledged = false) := by
  cases point with
  | idleTest currentTime =>
      simp only [publishState]
      split <;> exact flagged
  | connectionTest currentTime timeDiffMs =>
      simp only [publishState]
      split <;> exact flagged
  | accumulate currentTime timeDiffMs =>
      rcases flagged with current | ⟨set, _⟩
      · exact .inl current
      · exact .inr ⟨by simp [publishState, set], rfl⟩
  | transmitTest currentTime =>
      simp only [publishState]
      split <;> exact flagged
  | publishing currentTime =>
      simp only [publishState]
      split
      case isTrue => exact flagged
      case isFalse =>
        left
        intro publication last
        simp only [List.getLast?_concat, Option.mem_def, Option.some.injEq] at last
        rw [← last]
  | stamping currentTime =>
      rcases flagged with current | ⟨_, outside⟩
      · exact .inl current
      · cases outside
  | clearing =>
      rcases flagged with current | ⟨_, outside⟩
      · exact .inl current
      · cases outside
  | _ => exact flagged

/-- An allowed step keeps the invariant. -/
theorem flagged_step {state next : State Value Payload} {event : Event Value}
    (before : Flagged protobuf schema state) (allowed : flagGuard protobuf schema state event)
    (taken : connectorStep protobuf schema state event = some next) : Flagged protobuf schema next := by
  cases event with
  | call signalName signalValue =>
      simp only [connectorStep] at taken
      split at taken
      case h_1 quiet =>
        cases taken
        exact ⟨before.mapped, allowed.1, nofun⟩
      case h_2 => cases taken
  | application =>
      simp only [connectorStep] at taken
      split at taken
      case h_1 => cases taken
      case h_2 point busy =>
        cases taken
        by_cases last : state.signal = .setNeedTransmit
        · have late := allowed.2
          rw [last]
          refine ⟨before.mapped, trivial, fun _ => ?_⟩
          by_cases window : state.aws.unacknowledged = true
          · exact .inl (late (by rw [last]; rfl) window)
          · exact .inr ⟨rfl, by simpa using window⟩
        · have advances := publishSignal_inStep before.mapped before.inStep busy last
          exact ⟨advances.mapped, advances.inStep, fun quiet => absurd quiet advances.busy⟩
  | aws now raises =>
      cases taken
      obtain ⟨_, sameMapping⟩ := publishState_frame protobuf state.connection now raises state.aws
      refine ⟨?_, ?_, ?_⟩
      · show Mapped (publishState protobuf state.connection now raises state.aws).1.protoMapping
        rw [sameMapping]
        exact before.mapped
      · show InStep protobuf schema
          (publishState protobuf state.connection now raises state.aws).1.protoMapping state.signal
        rw [sameMapping]
        exact before.inStep
      · intro quiet
        exact publishState_flagged now raises (before.flagged quiet)

/-- In every run in which no call sets the flag on a message that differs from the publication before
the flag is cleared, a clear flag outside of a call means that the last publication is current. -/
theorem dirty_flag_is_sound {lastStatePublish lastReceiveTime : Int} {state : State Value Payload}
    (reached : (connector protobuf schema lastStatePublish lastReceiveTime).Reached
      (flagGuard protobuf schema) state) : FlagSound protobuf state := by
  have flagged : Flagged protobuf schema state := by
    apply reached.invariant
    · have nothingMapped : Mapped (∅ : KeyedMap String Path) := by
        intro signalName node found
        simp at found
      have nothingPublished : Current protobuf (.new Value Payload lastStatePublish lastReceiveTime) := by
        intro publication last
        cases last
      exact ⟨nothingMapped, trivial, fun _ => .inl nothingPublished⟩
    · intro state event next before allowed taken
      exact flagged_step before allowed taken
  intro quiet clear
  rcases flagged.flagged quiet with current | ⟨set, _⟩
  · exact current
  · rw [clear] at set
    cases set

/-- These are the fields of the vehicle message that stand at its root. -/
def rootSchema : Schema :=
  .message [("StartPermissions", .field 3 .uint32), ("RequestTakeOver", .field 3 .uint32),
    ("RequestorInControl", .field 1 .uint32)]

/-- The requestor has field number 3, a value below 128 takes one byte, and zero is not written. -/
def requestorBytes (proto : Proto Nat) : List Nat :=
  match proto.scalar ["RequestorInControl"] with
  | none => []
  | some value => if value = 0 then [] else [24, value]

/-- The values are numbers, which are no iterables. -/
def requestorProtobuf : Protobuf Nat (List Nat) where
  checkValue type value :=
    match type with
    | .uint32 => if value < 4294967296 then some value else none
    | _ => none
  iterate _ := none
  serializeToString := requestorBytes

abbrev requestorConnector : Machine (State Nat (List Nat)) (Event Nat) :=
  connector requestorProtobuf rootSchema 0 0

/-- The connection thread steps at this time. -/
def awsSteps (count : Nat) : List (Event Nat) := List.replicate count (.aws 1000 false)

def applicationSteps (count : Nat) : List (Event Nat) := List.replicate count .application

/-- The call stores its value before the publication and sets the flag after it. -/
def straddlingEvents : List (Event Nat) :=
  awsSteps 8 ++ [.call "Vehicle.RequestorInControl" 1] ++ applicationSteps 6 ++ awsSteps 1 ++
    applicationSteps 1 ++ awsSteps 2

theorem straddling_executes :
    (requestorConnector.execute (flagGuard requestorProtobuf rootSchema) requestorConnector.initial
      straddlingEvents).isSome = true := by
  decide

def straddlingState : State Nat (List Nat) :=
  (requestorConnector.execute (flagGuard requestorProtobuf rootSchema) requestorConnector.initial
    straddlingEvents).get straddling_executes

/-- The cleared flag is right when the published message holds the value of the call. -/
theorem dirty_flag_is_sound_straddling :
    straddlingState.connection.needTransmit = false ∧
      straddlingState.connection.published = [⟨[24, 1], true⟩] ∧
      FlagSound requestorProtobuf straddlingState :=
  ⟨by decide, by decide, dirty_flag_is_sound (Machine.reached_get straddling_executes)⟩

/-- The whole call runs between the publication and the clearing of the flag. -/
def enclosedEvents : List (Event Nat) :=
  awsSteps 9 ++ [.call "Vehicle.RequestorInControl" 1] ++ applicationSteps 7 ++ awsSteps 2

theorem enclosed_executes :
    (requestorConnector.execute (wellTypedCalls requestorProtobuf rootSchema) requestorConnector.initial
      enclosedEvents).isSome = true := by
  decide

def enclosedState : State Nat (List Nat) :=
  (requestorConnector.execute (wellTypedCalls requestorProtobuf rootSchema) requestorConnector.initial
    enclosedEvents).get enclosed_executes

/-- The value of an enclosed call is marked as sent and was never published. -/
theorem enclosed_call_is_marked_as_sent :
    ¬ ∀ state, requestorConnector.Reached (wellTypedCalls requestorProtobuf rootSchema) state →
      FlagSound requestorProtobuf state := by
  intro sound
  have reached : requestorConnector.Reached (wellTypedCalls requestorProtobuf rootSchema) enclosedState :=
    Machine.reached_get enclosed_executes
  have current := sound enclosedState reached (by rfl) (by decide) ⟨[], true⟩ (by decide)
  revert current
  decide

end VehicleEdge.Cloud
