import VehicleEdge.Cloud.LastValue
import VehicleEdge.Cloud.Rate

/-
This file follows a signal change from the vehicle through the ignore list and `publishSignal` to the
publications of the connection thread. A configuration message is handled statement by statement, its reports
go to the same topic, and each of the three threads can run between any two statements of the others.
-/

namespace VehicleEdge.Cloud

variable {Value Payload : Type}

/-- The operator `in` of the language raises for a value without members. -/
def Json.contains (json : Json) (name : String) : Option Bool :=
  match json with
  | .array values => some (values.any fun value =>
      match value with
      | .text content => decide (content = name)
      | _ => false)
  | .text content => some (occursIn name content)
  | .object members => some (members.any fun member => decide (member.1 = name))
  | _ => none

/-- A change finds the ignore list of its time, and its reply has no value when reading it raises. -/
structure Change (Value : Type) where
  signalName : String
  reply : Option Value
  ignoreList : Json

/-- An exception is printed, and the signal is not published. -/
def onSignalChanged (change : Change Value) : Option (Call Value) :=
  match change.ignoreList.contains change.signalName with
  | some false => if change.signalName = "" then none else change.reply.map fun value => (change.signalName, value)
  | _ => none

/-- The handler of a configuration message is before one of these statements, with the outcomes of its calls. -/
inductive ConfigStep where
  | assign (field : Field) (value : Json)
  | scan (result : Except PyError (List FileResult)) (published : Bool)
  | store (message : KeyedMap String Json)
  | report (published : Bool)

/-- The fields that the message names are assigned. -/
def assignments (message : KeyedMap String Json) (fields : List Field) : List ConfigStep :=
  fields.filterMap fun field => (message.lookup field.key).map (.assign field)

/-- These statements handle a message. -/
def configSteps (turn : ConfigTurn) : List ConfigStep :=
  let (outcomes, message) := turn
  assignments message fieldsBeforeScan ++
    ((if scans message then
      [.scan outcomes.scanDirAndUpload (outcomes.dumpsResult && outcomes.publishResult)] else []) ++
    (assignments message [.statePublishRetain] ++
      [.store message, .report (outcomes.dumpsConfig && outcomes.publishConfig)]))

/-- The statement publishes at most one report. -/
def ConfigStep.reports (settings : Settings) : ConfigStep → List ConfigReport
  | .scan (.ok result) true => [.scanAndUpload result]
  | .report true => [.config settings.config]
  | _ => []

/-- A statement that raises has no settings after it. -/
def ConfigStep.run (settings : Settings) (step : ConfigStep) : Option Settings :=
  match step with
  | .assign field value => some (field.write settings value)
  | .store message => some { settings with config := KeyedMap.overwrite settings.config message.entries }
  | .scan (.ok _) true | .report true =>
      some { settings with reports := settings.reports ++ step.reports settings }
  | .scan _ _ | .report false => none

/-- A publication on the upstream topic is the vehicle state or the report of a configuration message. -/
inductive TopicEntry (Payload : Type) where
  | state (publication : Publication Payload)
  | config (report : ConfigReport)

def TopicEntry.publication : TopicEntry Payload → Option (Publication Payload)
  | .state publication => some publication
  | .config _ => none

def TopicEntry.report : TopicEntry Payload → Option ConfigReport
  | .state _ => none
  | .config report => some report

/-- The fields `changes`, `turns`, and `topic` are histories with the newest entry last. -/
structure Upstream (Value Payload : Type) where
  connector : State Value Payload
  settings : Settings
  handler : List ConfigStep
  changes : List (Change Value)
  turns : List ConfigTurn
  topic : List (TopicEntry Payload)

/-- A message is taken when the one before is handled, and its handler goes on statement by statement. -/
inductive UpstreamEvent (Value : Type) where
  | changed (signalName : String) (reply : Option Value)
  | application
  | aws (now : Int) (raises : Bool)
  | configMessage (turn : ConfigTurn)
  | config

/-- The connection thread reads these two settings. -/
def AWSConnection.configure (connection : AWSConnection Value Payload) (settings : Settings) :
    AWSConnection Value Payload :=
  { connection with
    binary := settings.binary.truthy
    statePublishRetain := settings.statePublishRetain.truthy }

/-- An exception ends the handler. -/
def configStep (upstream : Upstream Value Payload) (step : ConfigStep) (rest : List ConfigStep) :
    Upstream Value Payload :=
  match step.run upstream.settings with
  | some settings =>
      { upstream with
        connector := { upstream.connector with
          connection := upstream.connector.connection.configure settings }
        settings := settings
        handler := rest
        topic := upstream.topic ++ (step.reports upstream.settings).map .config }
  | none => { upstream with handler := [] }

/-- The state publications of a step are those that its history has gained. -/
def gained (before after : AWSConnection Value Payload) : List (TopicEntry Payload) :=
  (after.published.drop before.published.length).map .state

/-- The event loop of the application takes the next change after the call for the one before. -/
def upstreamStep (protobuf : Protobuf Value Payload) (schema : Schema) (upstream : Upstream Value Payload) :
    UpstreamEvent Value → Option (Upstream Value Payload)
  | .changed signalName reply =>
      let change : Change Value := ⟨signalName, reply, upstream.settings.ignoreList⟩
      match upstream.connector.signal, onSignalChanged change with
      | .idle, some call =>
          (connectorStep protobuf schema upstream.connector (.call call.1 call.2)).map fun connector =>
            { upstream with connector := connector, changes := upstream.changes ++ [change] }
      | .idle, none => some { upstream with changes := upstream.changes ++ [change] }
      | _, _ => none
  | .application =>
      (connectorStep protobuf schema upstream.connector .application).map fun connector =>
        { upstream with connector := connector }
  | .aws now raises =>
      (connectorStep protobuf schema upstream.connector (.aws now raises)).map fun connector =>
        { upstream with
          connector := connector
          topic := upstream.topic ++ gained upstream.connector.connection connector.connection }
  | .configMessage turn =>
      match upstream.handler with
      | [] => some { upstream with handler := configSteps turn, turns := upstream.turns ++ [turn] }
      | _ => none
  | .config =>
      match upstream.handler with
      | [] => none
      | step :: rest => some (configStep upstream step rest)

def upstream (protobuf : Protobuf Value Payload) (schema : Schema) (lastStatePublish lastReceiveTime : Int) :
    Machine (Upstream Value Payload) (UpstreamEvent Value) where
  initial := ⟨(connector protobuf schema lastStatePublish lastReceiveTime).initial, {}, [], [], [], []⟩
  step := upstreamStep protobuf schema

/-- These changes become calls of `publishSignal`, in their order. -/
def Upstream.accepted (upstream : Upstream Value Payload) : List (Call Value) :=
  upstream.changes.filterMap onSignalChanged

/-- A new change adds its call, if it becomes one. -/
theorem accepted_change (before : Upstream Value Payload) (connector : State Value Payload)
    (change : Change Value) :
    Upstream.accepted { before with connector := connector, changes := before.changes ++ [change] } =
      before.accepted ++ (onSignalChanged change).toList := by
  unfold Upstream.accepted
  rw [List.filterMap_append, List.filterMap_cons]
  cases onSignalChanged change <;> rfl

section Configuration

/-- The statements run one after another until one raises. -/
def runSteps (settings : Settings) : List ConfigStep → Settings
  | [] => settings
  | step :: rest =>
      match step.run settings with
      | some after => runSteps after rest
      | none => settings

theorem reports_run {settings after : Settings} {step : ConfigStep} (ran : step.run settings = some after) :
    after.reports = settings.reports ++ step.reports settings := by
  cases step with
  | assign field value =>
      cases ran
      cases field <;> exact (List.append_nil _).symm
  | store message =>
      cases ran
      exact (List.append_nil _).symm
  | scan result published =>
      cases result with
      | error => cases ran
      | ok result => cases published <;> cases ran; rfl
  | report published => cases published <;> cases ran; rfl

/-- The assignments have the effect of the loop over their fields. -/
theorem runSteps_assignments (message : KeyedMap String Json) (settings : Settings) (fields : List Field)
    (rest : List ConfigStep) :
    runSteps settings (assignments message fields ++ rest) =
      runSteps (fields.foldl (Settings.assign message) settings) rest := by
  induction fields generalizing settings with
  | nil => rfl
  | cons field fields ih =>
      rw [List.foldl_cons, ← ih]
      unfold assignments Settings.assign
      rw [List.filterMap_cons]
      cases message.lookup field.key <;> rfl

/-- The statements of a message have the effect of its handler. -/
theorem runSteps_configSteps (settings : Settings) (turn : ConfigTurn) :
    runSteps settings (configSteps turn) = onConfigMessageReceived settings turn := by
  obtain ⟨outcomes, message⟩ := turn
  have stored (settings : Settings) : runSteps settings (assignments message [.statePublishRetain] ++
      [.store message, .report (outcomes.dumpsConfig && outcomes.publishConfig)]) =
        (settings.assign message .statePublishRetain).store outcomes message := by
    rw [runSteps_assignments]
    cases published : (outcomes.dumpsConfig && outcomes.publishConfig) <;>
      simp [runSteps, ConfigStep.run, ConfigStep.reports, Settings.store, published]
  unfold configSteps onConfigMessageReceived Settings.scan
  dsimp only
  rw [runSteps_assignments]
  split
  · cases outcomes.scanDirAndUpload with
    | error => rfl
    | ok result =>
        cases published : (outcomes.dumpsResult && outcomes.publishResult) with
        | false => rfl
        | true => exact stored _
  · exact stored _

end Configuration

section Effect

variable (protobuf : Protobuf Value Payload) (schema : Schema)

/-- A whole call writes its leaf, leaves the message alone, or empties a list whose new values are
rejected. -/
def callEffect (proto : Proto Value) (call : Call Value) : Proto Value :=
  match schema.find (leafPath call.1) with
  | some (.field label type) =>
      if label = 3 then
        match (protobuf.iterate call.2).bind fun elements => elements.mapM (protobuf.checkValue type) with
        | some values => proto.setRepeated (leafPath call.1) values
        | none => deleteAll proto (leafPath call.1)
      else
        match protobuf.checkValue type call.2 with
        | some value => proto.setScalar (leafPath call.1) value
        | none => proto
  | _ => proto

/-- The calls one after another give this message. -/
def vehicleState (calls : List (Call Value)) : Proto Value :=
  calls.foldl (callEffect protobuf schema) (Proto.empty Value)

/-- The payload shows the message after the first calls, or that message with the list of the next call
emptied. -/
def Snapshot (calls : List (Call Value)) (done : Nat) (payload : Payload) : Prop :=
  done ≤ calls.length ∧
    (payload = protobuf.serializeToString (vehicleState protobuf schema (calls.take done)) ∨
      ∃ call type, calls[done]? = some call ∧ schema.find (leafPath call.1) = some (.field 3 type) ∧
        payload = protobuf.serializeToString
          (deleteAll (vehicleState protobuf schema (calls.take done)) (leafPath call.1)))

/-- The call in progress has not written yet, or it has emptied the list of its leaf. -/
def InCall (earlier : List (Call Value)) (call : Call Value) (connection : AWSConnection Value Payload) :
    SignalPoint Value → Prop
  | .idle | .setNeedTransmit => False
  | .deviceState signalName signalValue | .split signalName signalValue
  | .mappingTest signalName signalValue =>
      (signalName, signalValue) = call ∧ connection.proto = vehicleState protobuf schema earlier
  | .descend signalName signalValue protoNode nodes =>
      (signalName, signalValue) = call ∧ connection.proto = vehicleState protobuf schema earlier ∧
        protoNode ++ nodes = nodePath signalName
  | .labelTest signalName signalValue =>
      (signalName, signalValue) = call ∧ connection.proto = vehicleState protobuf schema earlier ∧
        connection.protoMapping.lookup signalName = some (nodePath signalName)
  | .setattr signalName signalValue =>
      (signalName, signalValue) = call ∧ connection.proto = vehicleState protobuf schema earlier ∧
        connection.protoMapping.lookup signalName = some (nodePath signalName) ∧
        ∃ label, fieldLabel schema (nodePath signalName) (fieldName signalName) = some label ∧ label ≠ 3
  | .getattr signalName signalValue =>
      (signalName, signalValue) = call ∧ connection.proto = vehicleState protobuf schema earlier ∧
        connection.protoMapping.lookup signalName = some (nodePath signalName) ∧
        ∃ type, schema.find (leafPath signalName) = some (.field 3 type)
  | .delete signalValue repeatedAttr =>
      signalValue = call.2 ∧ connection.proto = vehicleState protobuf schema earlier ∧
        repeatedAttr = leafPath call.1 ∧ ∃ type, schema.find (leafPath call.1) = some (.field 3 type)
  | .extend signalValue repeatedAttr =>
      signalValue = call.2 ∧
        connection.proto = deleteAll (vehicleState protobuf schema earlier) (leafPath call.1) ∧
        repeatedAttr = leafPath call.1 ∧ ∃ type, schema.find (leafPath call.1) = some (.field 3 type)

/-- The call has written what it writes, and only the flag is left. -/
def Written (point : SignalPoint Value) : Bool :=
  match point with
  | .idle | .setNeedTransmit => true
  | _ => false

/-- A statement keeps the call in progress or completes its effect. -/
structure CallStep (earlier : List (Call Value)) (call : Call Value)
    (next : AWSConnection Value Payload × SignalPoint Value) : Prop where
  mapped : Mapped next.1.protoMapping
  effect : InCall protobuf schema earlier call next.1 next.2 ∨
    (Written next.2 = true ∧
      next.1.proto = callEffect protobuf schema (vehicleState protobuf schema earlier) call)

end Effect

section Statement

variable {protobuf : Protobuf Value Payload} {schema : Schema} {connection : AWSConnection Value Payload}
  {earlier : List (Call Value)} {call : Call Value}

/-- A call that raises before its write has no effect when its leaf does not exist. -/
theorem callEffect_missing (call : Call Value) (missing : schema.find (leafPath call.1) = none)
    (proto : Proto Value) :
    callEffect protobuf schema proto call = proto := by
  unfold callEffect
  rw [missing]

theorem step_descend {node : String} {protoNode : Path} {nodes : List String}
    {signalName : String} {signalValue : Value} (mapped : Mapped connection.protoMapping)
    (named : (signalName, signalValue) = call)
    (proto : connection.proto = vehicleState protobuf schema earlier)
    (onPath : protoNode ++ node :: nodes = nodePath signalName) :
    CallStep protobuf schema earlier call
      (publishSignal protobuf schema connection (.descend signalName signalValue protoNode (node :: nodes))) := by
  subst named
  simp only [publishSignal]
  cases found : Cloud.getattr schema protoNode node with
  | some child =>
      obtain ⟨_, _, rfl⟩ := Option.map_eq_some_iff.mp found
      exact ⟨mapped, .inl ⟨rfl, proto, by simpa using onPath⟩⟩
  | none =>
      have missing : schema.find (leafPath signalName) = none := by
        have start : leafPath signalName = (protoNode ++ [node]) ++ (nodes ++ [fieldName signalName]) := by
          rw [leafPath, ← onPath]
          simp
        rw [start, Schema.find_append, Option.map_eq_none_iff.mp found]
        rfl
      exact ⟨mapped, .inr ⟨rfl, proto.trans (callEffect_missing (signalName, signalValue) missing _).symm⟩⟩

theorem step_labelTest {signalName : String} {signalValue : Value} (mapped : Mapped connection.protoMapping)
    (named : (signalName, signalValue) = call)
    (proto : connection.proto = vehicleState protobuf schema earlier)
    (cached : connection.protoMapping.lookup signalName = some (nodePath signalName)) :
    CallStep protobuf schema earlier call
      (publishSignal protobuf schema connection (.labelTest signalName signalValue)) := by
  subst named
  simp only [publishSignal, cached, Option.bind_some]
  cases labelled : fieldLabel schema (nodePath signalName) (fieldName signalName) with
  | none =>
      have missing : schema.find (leafPath signalName) = none := Option.map_eq_none_iff.mp labelled
      exact ⟨mapped, .inr ⟨rfl, proto.trans (callEffect_missing (signalName, signalValue) missing _).symm⟩⟩
  | some label =>
      by_cases many : label = 3
      · subst many
        obtain ⟨child, found, label⟩ := Option.map_eq_some_iff.mp labelled
        cases child with
        | message => cases label
        | field number type =>
            cases label
            exact ⟨mapped, .inl (by simpa [InCall] using ⟨proto, cached, type, found⟩)⟩
      · refine ⟨mapped, .inl ?_⟩
        simpa [many, InCall] using ⟨proto, cached, label, labelled, many⟩

theorem step_setattr {signalName : String} {signalValue : Value} (mapped : Mapped connection.protoMapping)
    (named : (signalName, signalValue) = call)
    (proto : connection.proto = vehicleState protobuf schema earlier)
    (cached : connection.protoMapping.lookup signalName = some (nodePath signalName))
    {label : Nat} (labelled : fieldLabel schema (nodePath signalName) (fieldName signalName) = some label)
    (single : label ≠ 3) :
    CallStep protobuf schema earlier call
      (publishSignal protobuf schema connection (.setattr signalName signalValue)) := by
  subst named
  obtain ⟨child, found, same⟩ := Option.map_eq_some_iff.mp labelled
  have leaf : schema.find (leafPath signalName) = some child := found
  cases child with
  | message fields =>
      have stepped : publishSignal protobuf schema connection (.setattr signalName signalValue) =
          (connection, .idle) := by
        simp only [publishSignal, cached, Option.bind_some, Cloud.setattr, found]
      rw [stepped]
      refine ⟨mapped, .inr ⟨rfl, ?_⟩⟩
      simp only [callEffect, leaf]
      exact proto
  | field number type =>
      cases same
      cases checked : protobuf.checkValue type signalValue with
      | none =>
          have stepped : publishSignal protobuf schema connection (.setattr signalName signalValue) =
              (connection, .idle) := by
            simp only [publishSignal, cached, Option.bind_some, Cloud.setattr, found, checked,
              Option.map_none]
          rw [stepped]
          refine ⟨mapped, .inr ⟨rfl, ?_⟩⟩
          simp only [callEffect, leaf, if_neg single, checked]
          exact proto
      | some stored =>
          have stepped : publishSignal protobuf schema connection (.setattr signalName signalValue) =
              ({ connection with proto := connection.proto.setScalar (leafPath signalName) stored },
                .setNeedTransmit) := by
            simp only [publishSignal, cached, Option.bind_some, Cloud.setattr, found, checked,
              Option.map_some, leafPath]
          rw [stepped]
          refine ⟨mapped, .inr ⟨rfl, ?_⟩⟩
          simp only [callEffect, leaf, if_neg single, checked, proto]

/-- An extension of a known field depends only on the checked list. -/
theorem extend_found {path : Path} {type : FieldType} (found : schema.find path = some (.field 3 type))
    (proto : Proto Value) (value : Value) :
    Cloud.extend protobuf schema proto path value =
      ((protobuf.iterate value).bind fun elements => elements.mapM (protobuf.checkValue type)).map
        fun stored => proto.setRepeated path (proto.repeated path ++ stored) := by
  unfold Cloud.extend
  rw [found]
  cases protobuf.iterate value <;> rfl

theorem step_extend {repeatedAttr : Path} {signalValue : Value} {type : FieldType}
    (mapped : Mapped connection.protoMapping) (value : signalValue = call.2)
    (proto : connection.proto = deleteAll (vehicleState protobuf schema earlier) (leafPath call.1))
    (field : repeatedAttr = leafPath call.1) (found : schema.find (leafPath call.1) = some (.field 3 type)) :
    CallStep protobuf schema earlier call
      (publishSignal protobuf schema connection (.extend signalValue repeatedAttr)) := by
  subst value field
  cases listed : (protobuf.iterate call.2).bind fun elements =>
      elements.mapM (protobuf.checkValue type) with
  | none =>
      have stepped : publishSignal protobuf schema connection (.extend call.2 (leafPath call.1)) =
          (connection, .idle) := by
        have raised : Cloud.extend protobuf schema connection.proto (leafPath call.1) call.2 = none := by
          rw [extend_found found, listed, Option.map_none]
        simp only [publishSignal, raised]
      rw [stepped]
      refine ⟨mapped, .inr ⟨rfl, ?_⟩⟩
      simp only [callEffect, found, if_true, listed]
      exact proto
  | some values =>
      have stepped : publishSignal protobuf schema connection (.extend call.2 (leafPath call.1)) =
          ({ connection with
            proto := (vehicleState protobuf schema earlier).setRepeated (leafPath call.1) values },
            .setNeedTransmit) := by
        have extended : Cloud.extend protobuf schema connection.proto (leafPath call.1) call.2 =
            some ((vehicleState protobuf schema earlier).setRepeated (leafPath call.1) values) := by
          rw [extend_found found, listed, Option.map_some, proto, setRepeated_deleteAll]
        simp only [publishSignal, extended]
      rw [stepped]
      refine ⟨mapped, .inr ⟨rfl, ?_⟩⟩
      simp only [callEffect, found, if_true, listed]

/-- Each statement of a call advances it. -/
theorem inCall_step {point : SignalPoint Value} (mapped : Mapped connection.protoMapping)
    (inCall : InCall protobuf schema earlier call connection point) :
    CallStep protobuf schema earlier call (publishSignal protobuf schema connection point) := by
  cases point with
  | idle | setNeedTransmit => cases inCall
  | deviceState | split => exact ⟨mapped, .inl inCall⟩
  | mappingTest signalName signalValue =>
      obtain ⟨rfl, proto⟩ := inCall
      simp only [publishSignal]
      split
      case isTrue known =>
        obtain ⟨node, found⟩ := Option.isSome_iff_exists.mp (AList.lookup_isSome.mpr known)
        exact ⟨mapped, .inl ⟨rfl, proto, by rw [found, mapped signalName node found]⟩⟩
      case isFalse => exact ⟨mapped, .inl ⟨rfl, proto, rfl⟩⟩
  | descend signalName signalValue protoNode nodes =>
      obtain ⟨named, proto, onPath⟩ := inCall
      cases nodes with
      | cons node nodes => exact step_descend mapped named proto onPath
      | nil =>
          rw [List.append_nil] at onPath
          subst onPath
          exact ⟨mapped_insert mapped signalName, .inl ⟨named, proto, AList.lookup_insert _⟩⟩
  | labelTest signalName signalValue =>
      obtain ⟨named, proto, cached⟩ := inCall
      exact step_labelTest mapped named proto cached
  | setattr signalName signalValue =>
      obtain ⟨named, proto, cached, label, labelled, single⟩ := inCall
      exact step_setattr mapped named proto cached labelled single
  | getattr signalName signalValue =>
      obtain ⟨rfl, proto, cached, type, found⟩ := inCall
      have known : Cloud.getattr schema (nodePath signalName) (fieldName signalName) =
          some (leafPath signalName) := by
        unfold leafPath at found ⊢
        simp only [Cloud.getattr, found, Option.map_some]
      simp only [publishSignal, cached, Option.bind_some, known]
      exact ⟨mapped, .inl ⟨rfl, proto, rfl, type, found⟩⟩
  | delete signalValue repeatedAttr =>
      obtain ⟨value, proto, rfl, found⟩ := inCall
      exact ⟨mapped, .inl ⟨value, congrArg (fun message => deleteAll message _) proto, rfl, found⟩⟩
  | extend signalValue repeatedAttr =>
      obtain ⟨value, proto, named, type, found⟩ := inCall
      exact step_extend mapped value proto named found

/-- The application thread publishes nothing. -/
theorem publishSignal_published (protobuf : Protobuf Value Payload) (schema : Schema)
    (connection : AWSConnection Value Payload) (point : SignalPoint Value) :
    (publishSignal protobuf schema connection point).1.published = connection.published := by
  cases point with
  | descend signalName signalValue protoNode nodes =>
      cases nodes with
      | nil => rfl
      | cons =>
          simp only [publishSignal]
          split <;> rfl
  | mappingTest | labelTest | setattr | getattr | extend =>
      simp only [publishSignal]
      split <;> rfl
  | _ => rfl

end Statement

section Publications

variable (protobuf : Protobuf Value Payload) (schema : Schema)

/-- The message is complete outside of a call, and inside of one it is that of the calls before. -/
def AtPoint (calls : List (Call Value)) (connector : State Value Payload) : Prop :=
  (Written connector.signal = true ∧ connector.connection.proto = vehicleState protobuf schema calls) ∨
    (Written connector.signal = false ∧ ∃ earlier call, calls = earlier ++ [call] ∧
      InCall protobuf schema earlier call connector.connection connector.signal)

/-- This many calls have completed their effect. -/
def doneCalls (calls : List (Call Value)) (signal : SignalPoint Value) : Nat :=
  if Written signal then calls.length else calls.length - 1

/-- The publications show the message after ever more calls. -/
def ShowsInOrder (calls : List (Call Value)) (limit : Nat) (payloads : List Payload) : Prop :=
  ∃ cuts : List Nat, cuts.Pairwise (· ≤ ·) ∧ (∀ cut ∈ cuts, cut ≤ limit) ∧
    List.Forall₂ (Snapshot protobuf schema calls) cuts payloads

variable {protobuf schema} {calls : List (Call Value)}

theorem vehicleState_concat (call : Call Value) :
    vehicleState protobuf schema (calls ++ [call]) =
      callEffect protobuf schema (vehicleState protobuf schema calls) call :=
  List.foldl_concat _ _ _ _

theorem Snapshot.grow {done : Nat} {payload : Payload} (snapshot : Snapshot protobuf schema calls done payload)
    (more : List (Call Value)) : Snapshot protobuf schema (calls ++ more) done payload := by
  obtain ⟨within, shown⟩ := snapshot
  have taken : (calls ++ more).take done = calls.take done := List.take_append_of_le_length within
  refine ⟨Nat.le_trans within (by simp), ?_⟩
  rw [taken]
  rcases shown with whole | ⟨call, type, next, found, emptied⟩
  · exact .inl whole
  · have inside := (List.getElem?_eq_some_iff.mp next).1
    exact .inr ⟨call, type, by rw [List.getElem?_append_left inside, next], found, emptied⟩

theorem ShowsInOrder.grow {limit later : Nat} {payloads : List Payload}
    (inOrder : ShowsInOrder protobuf schema calls limit payloads) (more : List (Call Value))
    (wider : limit ≤ later) :
    ShowsInOrder protobuf schema (calls ++ more) later payloads := by
  obtain ⟨cuts, ordered, bounded, shown⟩ := inOrder
  exact ⟨cuts, ordered, fun cut member => Nat.le_trans (bounded cut member) wider,
    shown.imp fun _ _ snapshot => snapshot.grow more⟩

theorem ShowsInOrder.later {limit later : Nat} {payloads : List Payload}
    (inOrder : ShowsInOrder protobuf schema calls limit payloads) (wider : limit ≤ later) :
    ShowsInOrder protobuf schema calls later payloads := by
  have same := inOrder.grow [] wider
  rwa [List.append_nil] at same

theorem InCall.unwritten {earlier : List (Call Value)} {call : Call Value}
    {connection : AWSConnection Value Payload} {point : SignalPoint Value}
    (inCall : InCall protobuf schema earlier call connection point) : Written point = false := by
  cases point <;> first | rfl | cases inCall

/-- The current message is a snapshot of the completed calls. -/
theorem AtPoint.snapshot {connector : State Value Payload} (atPoint : AtPoint protobuf schema calls connector) :
    Snapshot protobuf schema calls (doneCalls calls connector.signal)
      (protobuf.serializeToString connector.connection.proto) := by
  unfold doneCalls
  rcases atPoint with ⟨written, proto⟩ | ⟨unwritten, earlier, call, rfl, inCall⟩
  · rw [if_pos written, proto]
    exact ⟨Nat.le_refl _, .inl (by rw [List.take_length])⟩
  · rw [if_neg (by simp [unwritten])]
    have length : (earlier ++ [call]).length - 1 = earlier.length := by simp
    have before (proto : connector.connection.proto = vehicleState protobuf schema earlier) :
        Snapshot protobuf schema (earlier ++ [call]) earlier.length
          (protobuf.serializeToString connector.connection.proto) :=
      ⟨by simp, .inl (by rw [List.take_left, proto])⟩
    rw [length]
    cases here : connector.signal with
    | idle | setNeedTransmit =>
        rw [here] at inCall
        cases inCall
    | deviceState | split | mappingTest =>
        rw [here] at inCall
        exact before inCall.2
    | descend | labelTest | setattr | getattr | delete =>
        rw [here] at inCall
        exact before inCall.2.1
    | extend =>
        rw [here] at inCall
        obtain ⟨-, proto, -, type, found⟩ := inCall
        refine ⟨by simp, .inr ⟨call, type, by simp, found, ?_⟩⟩
        rw [List.take_left, proto]

theorem ShowsInOrder.publish {connector : State Value Payload} {payloads : List Payload}
    (atPoint : AtPoint protobuf schema calls connector)
    (inOrder : ShowsInOrder protobuf schema calls (doneCalls calls connector.signal) payloads) :
    ShowsInOrder protobuf schema calls (doneCalls calls connector.signal)
      (payloads ++ [protobuf.serializeToString connector.connection.proto]) := by
  obtain ⟨cuts, ordered, bounded, shown⟩ := inOrder
  refine ⟨cuts ++ [doneCalls calls connector.signal], ?_, ?_, ?_⟩
  · rw [List.pairwise_append]
    refine ⟨ordered, List.pairwise_singleton _ _, fun cut member last same => ?_⟩
    rw [List.mem_singleton.mp same]
    exact bounded cut member
  · intro cut member
    rcases List.mem_append.mp member with earlier | last
    · exact bounded cut earlier
    · exact Nat.le_of_eq (List.mem_singleton.mp last)
  · exact List.rel_append shown (.cons atPoint.snapshot .nil)

/-- A step of the connection thread publishes the current message or nothing. -/
theorem publishState_published (connection : AWSConnection Value Payload) (now : Int) (raises : Bool)
    (point : AwsPoint) :
    (publishState protobuf connection now raises point).1.published = connection.published ∨
      (publishState protobuf connection now raises point).1.published = connection.published ++
        [⟨protobuf.serializeToString connection.proto, connection.statePublishRetain⟩] := by
  cases point with
  | idleTest currentTime =>
      simp only [publishState]
      split <;> exact .inl rfl
  | publishing currentTime =>
      simp only [publishState]
      split
      · exact .inl rfl
      · exact .inr rfl
  | _ => exact .inl rfl

/-- The mapping, the message, and the publications fit to the accepted changes. -/
structure Followed (protobuf : Protobuf Value Payload) (schema : Schema)
    (upstream : Upstream Value Payload) : Prop where
  mapped : Mapped upstream.connector.connection.protoMapping
  atPoint : AtPoint protobuf schema upstream.accepted upstream.connector
  inOrder : ShowsInOrder protobuf schema upstream.accepted
    (doneCalls upstream.accepted upstream.connector.signal)
    (upstream.connector.connection.published.map Publication.payload)

/-- The topic has the state publications and the reports, each in their order, and the settings are those of
the handled messages. -/
structure Reported (upstream : Upstream Value Payload) : Prop where
  states : upstream.topic.filterMap TopicEntry.publication = upstream.connector.connection.published
  reports : upstream.topic.filterMap TopicEntry.report = upstream.settings.reports
  configured : runSteps upstream.settings upstream.handler =
    upstream.turns.foldl onConfigMessageReceived {}

theorem inCall_congr {earlier : List (Call Value)} {call : Call Value}
    {before after : AWSConnection Value Payload} {point : SignalPoint Value}
    (inCall : InCall protobuf schema earlier call before point) (proto : after.proto = before.proto)
    (mapping : after.protoMapping = before.protoMapping) :
    InCall protobuf schema earlier call after point := by
  cases point <;> simp only [InCall, proto, mapping] at inCall ⊢ <;> exact inCall

/-- The relation reads only the message, the mapping, and the place of the call. -/
theorem AtPoint.congr {before after : State Value Payload} (atPoint : AtPoint protobuf schema calls before)
    (signal : after.signal = before.signal) (proto : after.connection.proto = before.connection.proto)
    (mapping : after.connection.protoMapping = before.connection.protoMapping) :
    AtPoint protobuf schema calls after := by
  unfold AtPoint at atPoint ⊢
  rw [signal]
  rcases atPoint with ⟨written, complete⟩ | ⟨unwritten, earlier, call, split, inCall⟩
  · exact .inl ⟨written, proto.trans complete⟩
  · exact .inr ⟨unwritten, earlier, call, split, inCall_congr inCall proto mapping⟩

theorem followed_application {before next : Upstream Value Payload} (followed : Followed protobuf schema before)
    (taken : upstreamStep protobuf schema before .application = some next) :
    Followed protobuf schema next := by
  obtain ⟨connector, stepped, rfl⟩ := Option.map_eq_some_iff.mp taken
  simp only [connectorStep] at stepped
  split at stepped
  case h_1 => cases stepped
  case h_2 point busy =>
    cases stepped
    obtain ⟨mapped, atPoint, inOrder⟩ := followed
    have published := publishSignal_published protobuf schema before.connector.connection
      before.connector.signal
    -- the number of completed calls never goes down
    have shown (later : doneCalls before.accepted before.connector.signal ≤ doneCalls before.accepted
        (publishSignal protobuf schema before.connector.connection before.connector.signal).2) :
        ShowsInOrder protobuf schema before.accepted (doneCalls before.accepted
          (publishSignal protobuf schema before.connector.connection before.connector.signal).2)
          ((publishSignal protobuf schema before.connector.connection
            before.connector.signal).1.published.map Publication.payload) := by
      rw [published]
      exact inOrder.later later
    rcases atPoint with ⟨written, complete⟩ | ⟨unwritten, earlier, call, split, inCall⟩
    · cases here : before.connector.signal with
      | idle => exact absurd here busy
      | setNeedTransmit =>
          rw [here] at shown
          exact ⟨mapped, .inl ⟨rfl, complete⟩, shown (Nat.le_refl _)⟩
      | _ =>
          rw [here] at written
          cases written
    · obtain ⟨nextMapped, effect⟩ := inCall_step mapped inCall
      have earlierDone : doneCalls before.accepted before.connector.signal = earlier.length := by
        simp [doneCalls, unwritten, split]
      rcases effect with inside | ⟨nowWritten, proto⟩
      · have stillUnwritten := inside.unwritten
        refine ⟨nextMapped, .inr ⟨stillUnwritten, earlier, call, split, inside⟩, shown ?_⟩
        simp [doneCalls, stillUnwritten, unwritten]
      · refine ⟨nextMapped, .inl ⟨nowWritten, ?_⟩, shown ?_⟩
        · exact (proto.trans (vehicleState_concat call).symm).trans (by rw [← split]; rfl)
        · rw [earlierDone]
          simp [doneCalls, nowWritten, split]

theorem followed_step {before next : Upstream Value Payload} {event : UpstreamEvent Value}
    (followed : Followed protobuf schema before)
    (taken : upstreamStep protobuf schema before event = some next) : Followed protobuf schema next := by
  cases event with
  | application => exact followed_application followed taken
  | changed signalName reply =>
      obtain ⟨mapped, atPoint, inOrder⟩ := followed
      simp only [upstreamStep] at taken
      split at taken
      case h_1 call idle accepts =>
        obtain ⟨connector, stepped, rfl⟩ := Option.map_eq_some_iff.mp taken
        simp only [connectorStep, idle, Option.some.injEq] at stepped
        subst stepped
        have accepted := accepted_change before { before.connector with
          signal := .deviceState call.1 call.2 } ⟨signalName, reply, before.settings.ignoreList⟩
        rw [accepts, Option.toList_some] at accepted
        have complete : before.connector.connection.proto = vehicleState protobuf schema before.accepted := by
          rcases atPoint with ⟨_, complete⟩ | ⟨unwritten, _⟩
          · exact complete
          · rw [idle] at unwritten
            cases unwritten
        refine ⟨mapped, ?_, ?_⟩
        · rw [accepted]
          exact .inr ⟨rfl, before.accepted, call, rfl, rfl, complete⟩
        · rw [accepted]
          refine inOrder.grow [call] ?_
          simp [doneCalls, idle, Written]
      case h_2 idle refused =>
        cases taken
        have accepted := accepted_change before before.connector ⟨signalName, reply, before.settings.ignoreList⟩
        rw [refused, Option.toList_none, List.append_nil] at accepted
        exact ⟨mapped, by rw [accepted]; exact atPoint, by rw [accepted]; exact inOrder⟩
      case h_3 => cases taken
  | aws now raises =>
      obtain ⟨mapped, atPoint, inOrder⟩ := followed
      cases taken
      obtain ⟨proto, mapping⟩ :=
        publishState_frame protobuf before.connector.connection now raises before.connector.aws
      refine ⟨?_, atPoint.congr rfl proto mapping, ?_⟩
      · intro name node found
        exact mapped name node (mapping ▸ found)
      · dsimp only
        rcases publishState_published before.connector.connection now raises before.connector.aws with
          same | published
        · rw [same]
          exact inOrder
        · rw [published, List.map_append]
          exact inOrder.publish atPoint
  | configMessage turn =>
      obtain ⟨mapped, atPoint, inOrder⟩ := followed
      simp only [upstreamStep] at taken
      split at taken <;> cases taken
      exact ⟨mapped, atPoint, inOrder⟩
  | config =>
      obtain ⟨mapped, atPoint, inOrder⟩ := followed
      simp only [upstreamStep] at taken
      split at taken <;> cases taken
      unfold configStep
      split
      · exact ⟨mapped, atPoint.congr rfl rfl rfl, inOrder⟩
      · exact ⟨mapped, atPoint, inOrder⟩

theorem filterMap_state (publications : List (Publication Payload)) :
    (publications.map TopicEntry.state).filterMap TopicEntry.publication = publications ∧
      (publications.map TopicEntry.state).filterMap TopicEntry.report = [] := by
  simp [List.filterMap_map, Function.comp_def, TopicEntry.publication, TopicEntry.report]

theorem filterMap_config (reports : List ConfigReport) :
    (reports.map (@TopicEntry.config Payload)).filterMap TopicEntry.publication = [] ∧
      (reports.map (@TopicEntry.config Payload)).filterMap TopicEntry.report = reports := by
  simp [List.filterMap_map, Function.comp_def, TopicEntry.publication, TopicEntry.report]

theorem reported_step {before next : Upstream Value Payload} {event : UpstreamEvent Value}
    (reported : Reported before) (taken : upstreamStep protobuf schema before event = some next) :
    Reported next := by
  obtain ⟨states, reports, configured⟩ := reported
  cases event with
  | changed signalName reply =>
      simp only [upstreamStep] at taken
      split at taken
      case h_1 call idle accepts =>
        obtain ⟨connector, stepped, rfl⟩ := Option.map_eq_some_iff.mp taken
        simp only [connectorStep, idle, Option.some.injEq] at stepped
        subst stepped
        exact ⟨states, reports, configured⟩
      case h_2 =>
        cases taken
        exact ⟨states, reports, configured⟩
      case h_3 => cases taken
  | application =>
      obtain ⟨connector, stepped, rfl⟩ := Option.map_eq_some_iff.mp taken
      simp only [connectorStep] at stepped
      split at stepped <;> cases stepped
      exact ⟨states.trans (publishSignal_published protobuf schema _ _).symm, reports, configured⟩
  | aws now raises =>
      cases taken
      have extended : ∃ more, (publishState protobuf before.connector.connection now raises
          before.connector.aws).1.published = before.connector.connection.published ++ more := by
        rcases publishState_published before.connector.connection now raises before.connector.aws with
          same | published
        · exact ⟨[], same.trans (List.append_nil _).symm⟩
        · exact ⟨_, published⟩
      obtain ⟨more, published⟩ := extended
      obtain ⟨own, none⟩ := filterMap_state more
      refine ⟨?_, ?_, configured⟩
      · simp only [gained, published, List.drop_left, List.filterMap_append, states, own]
      · simp only [gained, published, List.drop_left, List.filterMap_append, reports, none, List.append_nil]
  | configMessage turn =>
      simp only [upstreamStep] at taken
      split at taken <;> cases taken
      case h_1 idle =>
        refine ⟨states, reports, ?_⟩
        rw [idle] at configured
        rw [List.foldl_concat, ← configured]
        exact runSteps_configSteps before.settings turn
  | config =>
      simp only [upstreamStep] at taken
      split at taken <;> cases taken
      case h_2 step rest handling =>
        rw [handling, runSteps] at configured
        unfold configStep
        cases ran : step.run before.settings with
        | none =>
            rw [ran] at configured
            exact ⟨states, reports, configured⟩
        | some settings =>
            rw [ran] at configured
            obtain ⟨none, own⟩ := @filterMap_config Payload (step.reports before.settings)
            refine ⟨?_, ?_, configured⟩
            · rw [List.filterMap_append, states, none, List.append_nil]
              rfl
            · rw [List.filterMap_append, reports, own]
              exact (reports_run ran).symm

/-- The permissions have field number 1 and are packed, and each value below 128 takes one byte. -/
def permissionsProtobuf : Protobuf (List Nat) (List Nat) where
  checkValue type value :=
    match type with
    | .uint32 => if value.all (· < 4294967296) then some value else none
    | _ => none
  iterate value := some (value.map fun element => [element])
  serializeToString proto :=
    match (proto.repeated ["StartPermissions"]).flatten with
    | [] => []
    | values => 10 :: values.length :: values

abbrev permissionsUpstream : Machine (Upstream (List Nat) (List Nat)) (UpstreamEvent (List Nat)) :=
  upstream permissionsProtobuf (.message [("StartPermissions", .field 3 .uint32)]) 0 0

/-- This message turns the retain flag off, and all of its calls return. -/
def retainTurn : ConfigTurn :=
  (⟨.ok [], true, true, true, true⟩, (∅ : KeyedMap String Json).insert "statePublishRetain" (.boolean false))

/-- The second publication falls between the two statements that replace the list, and the message comes
between the publications. -/
def tornEvents : List (UpstreamEvent (List Nat)) :=
  List.flatten
    [[.changed "Vehicle.StartPermissions" (some [1, 2])], List.replicate 9 .application,
      List.replicate 11 (.aws 1000 false), [.configMessage retainTurn], List.replicate 3 .config,
      [.changed "Vehicle.StartPermissions" (some [3])], List.replicate 6 .application,
      List.replicate 10 (.aws 2000 false)]

theorem torn_executes :
    (permissionsUpstream.execute Machine.anyStep permissionsUpstream.initial tornEvents).isSome = true := by
  decide

def tornState : Upstream (List Nat) (List Nat) :=
  (permissionsUpstream.execute Machine.anyStep permissionsUpstream.initial tornEvents).get torn_executes

end Publications

end VehicleEdge.Cloud
