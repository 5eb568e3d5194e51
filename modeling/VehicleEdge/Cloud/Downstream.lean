import VehicleEdge.Broker.Types
import VehicleEdge.Cloud.Upstream
import VehicleEdge.Feeder.Values

/-
This file follows a command of the cloud through its acknowledgement and through a setter of the vehicle kit to
the update at the broker. The connection thread reports the connection while the first commands may already
arrive.
-/

namespace VehicleEdge.Cloud

open Sdv (Datapoint DataType)
open Feeder (IdMap)

/-- Only an object has members. -/
def Json.member (json : Json) (key : String) : Option Json :=
  match json with
  | .object members => members.lookup key
  | _ => none

/-- The loop over a value gives the elements of a list, the characters of a text, or the keys of an object. -/
def Json.iterate : Json → Option (List Json)
  | .array values => some values
  | .text value => some (value.toList.map fun letter => .text (String.singleton letter))
  | .object members => some (members.map fun member => .text member.1)
  | _ => none

/-- A field of a datapoint takes a value or raises. -/
structure DatapointFields where
  boolValue : Json → Option Bool
  uint32Value : Json → Option UInt32
  int32Value : Json → Option Int32

/-- A setter registers a new name with its type, and it has no datapoint when a field raises. -/
structure Setting where
  dataType : DataType
  datapoint : Option Datapoint

section Setters

/-- The loop appends the elements, and without one the field stays unset. -/
def setArrayDatapoint {Element : Type} (element : Json → Option Element) (array : List Element → Datapoint)
    (dataType : DataType) (value : Json) : Setting where
  dataType := dataType
  datapoint := (value.iterate.bind fun values => values.mapM element).map fun elements =>
    if elements.isEmpty then .notSet else array elements

variable (fields : DatapointFields) (value : Json)

def setInt16ArrayDatapoint : Setting := setArrayDatapoint fields.int32Value .int32Array .int32Array value

def setUint8ArrayDatapoint : Setting := setArrayDatapoint fields.uint32Value .uint32Array .uint32Array value

def setUint8Datapoint : Setting := ⟨.uint32, (fields.uint32Value value).map .uint32Value⟩

def setBoolDatapoint : Setting := ⟨.bool, (fields.boolValue value).map .boolValue⟩

def setStringDatapoint (text : String) : Setting := ⟨.string, some (.stringValue (Someip.JsonValue.utf8 text))⟩

end Setters

/-- A missing type is the null value. -/
structure Command where
  signal : Json
  value : Json
  type : Json

def Command.hasType (command : Command) (name : String) : Bool :=
  match command.type with
  | .text value => decide (value = name)
  | _ => false

/-- Two types are named, and otherwise the kind of the value decides. -/
def transmit (fields : DatapointFields) (command : Command) : Setting :=
  if command.hasType "int16[]" then setInt16ArrayDatapoint fields command.value
  else if command.hasType "uint8" then setUint8Datapoint fields command.value
  else
    match command.value with
    | .text text => setStringDatapoint text
    | .array values => setUint8ArrayDatapoint fields (.array values)
    | value => setBoolDatapoint fields value

/-- The arguments of `transmit` are read from an object with both members. -/
def commandOf (message : Json) : Option Command := do
  let signal ← message.member "signal"
  let value ← message.member "value"
  return ⟨signal, value, (message.member "type").getD .null⟩

/-- The callback is before one of these statements. -/
inductive CommandPoint where
  | idle
  | signalTest
  | sessionTest
  | publishAck (session : Json)
  | arguments
  | helper (command : Command)
  | assign (command : Command)
  | metadata (command : Command) (datapoint : Datapoint)
  | identify (command : Command) (datapoint : Datapoint) (ids : IdMap)
  | register (name : String) (dataType : DataType) (datapoint : Datapoint)
  | update (id : Int32) (datapoint : Datapoint)

def CommandPoint.isIdle : CommandPoint → Bool
  | .idle => true
  | _ => false

/-- The broker lists its datapoints, or it registers a new name with a type. -/
inductive Answer where
  | listed (entries : List (Σ _ : String, Int32))
  | registered (name : String) (dataType : DataType) (results : IdMap)

/-- A payload that cannot be parsed is missing, and a broken message has met a call that raised. -/
structure HandledMessage where
  payload : Option Json
  broken : Bool

/-- The number in an update is the place of its message. -/
structure Update where
  number : Nat
  id : Int32
  datapoint : Datapoint

/-- The histories have their newest entry last, and the message in progress has the number of the next handled
one. A registration is attempted when it is called, whether or not it has an answer. -/
structure Downstream where
  awsConnectionOk : Bool
  message : Json
  point : CommandPoint
  handled : List HandledMessage
  acks : List (Nat × Json)
  registrations : List (Nat × String × DataType)
  answers : List (Nat × Answer)
  updates : List Update

/-- The callback takes one message at a time, and the calls to the broker have their answers. -/
inductive DownstreamEvent where
  | connected
  | received (payload : Option Json)
  | callback (raises : Bool)
  | metadataReturned (entries : Option (List (Σ _ : String, Int32)))
  | registerReturned (results : Option IdMap)

namespace Downstream

variable (state : Downstream)

def number : Nat := state.handled.length

def move (point : CommandPoint) : Downstream := { state with point := point }

def finish (broken : Bool) : Downstream :=
  { state with point := .idle, handled := state.handled ++ [⟨some state.message, broken⟩] }

def attempt (name : String) (dataType : DataType) : Downstream :=
  { state with registrations := state.registrations ++ [(state.number, name, dataType)] }

def answered (answer : Answer) (point : CommandPoint) : Downstream :=
  { state with point := point, answers := state.answers ++ [(state.number, answer)] }

end Downstream

section Step

variable (fields : DatapointFields)

/-- An exception before `transmit` ends the callback, and one inside of it is printed. -/
def onSignalMessageReceived (state : Downstream) (raises : Bool) : CommandPoint → Option Downstream
  | .signalTest =>
      match state.message.contains "signal" with
      | some true => some (state.move .sessionTest)
      | _ => some (state.finish false)
  -- the acknowledgement is skipped without a connection or without a session
  | .sessionTest =>
      if state.awsConnectionOk then
        match state.message.contains "sessionId", state.message.member "sessionId" with
        | some false, _ => some (state.move .arguments)
        | some true, some session => some (state.move (.publishAck session))
        | _, _ => some (state.finish false)
      else some (state.move .arguments)
  | .publishAck session =>
      if raises then some (state.finish true)
      else some { state.move .arguments with acks := state.acks ++ [(state.number, session)] }
  | .arguments =>
      match commandOf state.message with
      | some command => some (state.move (.helper command))
      | none => some (state.finish false)
  | .helper command => some (if raises then state.finish true else state.move (.assign command))
  | .assign command =>
      match (transmit fields command).datapoint with
      | some datapoint => some (state.move (.metadata command datapoint))
      | none => some (state.finish false)
  -- a name that is no text is found in no answer, and it cannot be registered
  | .identify command datapoint ids =>
      match command.signal with
      | .text name =>
          match ids.lookup name with
          | some id => some (state.move (.update id datapoint))
          | none =>
              let dataType := (transmit fields command).dataType
              some ((state.attempt name dataType).move (.register name dataType datapoint))
      | _ => some (state.finish false)
  | .update id datapoint =>
      some { state.finish false with updates := state.updates ++ [⟨state.number, id, datapoint⟩] }
  | .idle | .metadata _ _ | .register _ _ _ => none

/-- A registered name that is missing in the results has the default id. -/
def downstreamStep (state : Downstream) : DownstreamEvent → Option Downstream
  | .connected => some { state with awsConnectionOk := true }
  | .received payload =>
      match state.point, payload with
      | .idle, some message => some { state with message := message, point := .signalTest }
      | .idle, none => some { state with handled := state.handled ++ [⟨none, false⟩] }
      | _, _ => none
  | .callback raises => onSignalMessageReceived fields state raises state.point
  | .metadataReturned answer =>
      match state.point, answer with
      | .metadata command datapoint, some entries =>
          some (state.answered (.listed entries)
            (.identify command datapoint (KeyedMap.overwrite ∅ entries)))
      | .metadata _ _, none => some (state.finish true)
      | _, _ => none
  | .registerReturned answer =>
      match state.point, answer with
      | .register name dataType datapoint, some results =>
          some (state.answered (.registered name dataType results)
            (.update ((results.lookup name).getD 0) datapoint))
      | .register _ _ _, none => some (state.finish true)
      | _, _ => none

def downstream : Machine Downstream DownstreamEvent where
  initial := ⟨false, .null, .idle, [], [], [], [], []⟩
  step := downstreamStep fields

end Step

section Trace

variable (fields : DatapointFields)

/-- The message asks for this update of a named signal. -/
def requested (message : Json) : Option (String × DataType × Datapoint) := do
  let command ← commandOf message
  let datapoint ← (transmit fields command).datapoint
  match command.signal with
  | .text name => some (name, (transmit fields command).dataType, datapoint)
  | _ => none

/-- The message in progress comes after the handled ones. -/
def Downstream.messages (state : Downstream) : List (Option Json) :=
  state.handled.map HandledMessage.payload ++ if state.point.isIdle then [] else [some state.message]

/-- A session is acknowledged, unless no message up to this one has been acknowledged at all. -/
def Acknowledged (acks : List (Nat × Json)) (number : Nat) (message : Json) : Prop :=
  ∀ session, message.member "sessionId" = some session →
    (number, session) ∈ acks ∨ ∀ ack ∈ acks, number < ack.1

/-- The broker has listed its datapoints for the message, and the name is not among them. -/
def Unlisted (answers : List (Nat × Answer)) (number : Nat) (name : String) : Prop :=
  ∃ entries, (number, .listed entries) ∈ answers ∧ (KeyedMap.overwrite ∅ entries).lookup name = none

/-- The broker has given the id for the message, in its list or for a new registration. -/
def Identified (answers : List (Nat × Answer)) (number : Nat) (name : String) (dataType : DataType)
    (id : Int32) : Prop :=
  (∃ entries, (number, .listed entries) ∈ answers ∧
      (KeyedMap.overwrite ∅ entries).lookup name = some id) ∨
    Unlisted answers number name ∧ ∃ results, (number, .registered name dataType results) ∈ answers ∧
      id = (results.lookup name).getD 0

/-- The update is what its message asks for. -/
def Update.Genuine (state : Downstream) (update : Update) : Prop :=
  ∃ entry message name dataType, state.handled[update.number]? = some entry ∧
    entry.payload = some message ∧ requested fields message = some (name, dataType, update.datapoint) ∧
    Identified state.answers update.number name dataType update.id ∧
    Acknowledged state.acks update.number message

/-- The acknowledgement names the session of its message. -/
def AckGenuine (state : Downstream) (ack : Nat × Json) : Prop :=
  ∃ message, state.messages[ack.1]? = some (some message) ∧ message.contains "signal" = some true ∧
    message.member "sessionId" = some ack.2

/-- The callback is past the acknowledgement. -/
def CommandPoint.acknowledged : CommandPoint → Bool
  | .idle | .signalTest | .sessionTest | .publishAck _ => false
  | _ => true

/-- This holds for the message in progress. -/
def AtCommand (state : Downstream) : CommandPoint → Prop
  | .idle | .signalTest => True
  | .sessionTest => state.message.contains "signal" = some true
  | .publishAck session =>
      state.awsConnectionOk = true ∧ state.message.contains "signal" = some true ∧
        state.message.member "sessionId" = some session
  | .arguments => Acknowledged state.acks state.number state.message
  | .helper command | .assign command =>
      Acknowledged state.acks state.number state.message ∧ commandOf state.message = some command
  | .metadata command datapoint =>
      Acknowledged state.acks state.number state.message ∧ commandOf state.message = some command ∧
        (transmit fields command).datapoint = some datapoint
  | .identify command datapoint ids =>
      Acknowledged state.acks state.number state.message ∧ commandOf state.message = some command ∧
        (transmit fields command).datapoint = some datapoint ∧
        ∃ entries, (state.number, .listed entries) ∈ state.answers ∧ ids = KeyedMap.overwrite ∅ entries
  | .register name dataType datapoint =>
      Acknowledged state.acks state.number state.message ∧
        requested fields state.message = some (name, dataType, datapoint) ∧
        (state.number, name, dataType) ∈ state.registrations
  | .update id datapoint =>
      Acknowledged state.acks state.number state.message ∧
        ∃ name dataType, requested fields state.message = some (name, dataType, datapoint) ∧
          Identified state.answers state.number name dataType id

/-- The histories are in order and genuine, and no requested update is missing. -/
structure Traced (state : Downstream) : Prop where
  connected : state.acks ≠ [] → state.awsConnectionOk = true
  ackOrder : (state.acks.map Prod.fst).Pairwise (· < ·)
  ackBound : ∀ ack ∈ state.acks, ack.1 < state.number + state.point.acknowledged.toNat
  acks : ∀ ack ∈ state.acks, AckGenuine state ack
  attempted : ∀ number name dataType, (number, name, dataType) ∈ state.registrations →
    Unlisted state.answers number name
  registered : ∀ number name dataType results, (number, .registered name dataType results) ∈ state.answers →
    (number, name, dataType) ∈ state.registrations
  updateOrder : (state.updates.map Update.number).Pairwise (· < ·)
  updateBound : ∀ update ∈ state.updates, update.number < state.number
  updates : ∀ update ∈ state.updates, update.Genuine fields state
  complete : ∀ number entry message, state.handled[number]? = some entry → entry.payload = some message →
    (requested fields message).isSome = true → entry.broken = false →
    ∃ update ∈ state.updates, update.number = number
  point : AtCommand fields state state.point

end Trace

section Members

variable {fields : DatapointFields} {message : Json}

theorem contains_object (members : List (String × Json)) (key : String) :
    (Json.object members).contains key = some ((Json.object members).member key).isSome := by
  cases found : (Json.object members).member key with
  | some value =>
      obtain ⟨before, after, rfl, -⟩ := List.lookup_eq_some_iff.mp found
      simp [Json.contains]
  | none =>
      have absent := List.lookup_eq_none_iff.mp found
      simp only [Json.contains, Option.isSome_none, Option.some.injEq, List.any_eq_false, decide_eq_true_eq]
      intro member inside same
      have different := absent member inside
      simp [same] at different

theorem contains_of_member {key : String} {value : Json} (found : message.member key = some value) :
    message.contains key = some true := by
  cases message with
  | object members => rw [contains_object, found, Option.isSome_some]
  | _ => cases found

/-- A message with a command is an object, and its tests do not raise. -/
theorem contains_of_command {command : Command} (found : commandOf message = some command) (key : String) :
    message.contains key = some (message.member key).isSome := by
  cases message with
  | object members => exact contains_object members key
  | _ => cases found

/-- A message that asks for an update has a command with a name and a value that its field takes. -/
theorem command_of_requested (asked : (requested fields message).isSome = true) :
    ∃ command datapoint name, commandOf message = some command ∧
      (transmit fields command).datapoint = some datapoint ∧ command.signal = .text name := by
  obtain ⟨update, asked⟩ := Option.isSome_iff_exists.mp asked
  obtain ⟨command, found, rest⟩ := Option.bind_eq_some_iff.mp asked
  obtain ⟨datapoint, built, rest⟩ := Option.bind_eq_some_iff.mp rest
  split at rest
  case h_1 name named => exact ⟨command, datapoint, name, found, built, named⟩
  case h_2 => cases rest

theorem requested_of_command {command : Command} {datapoint : Datapoint} {name : String}
    (found : commandOf message = some command) (built : (transmit fields command).datapoint = some datapoint)
    (named : command.signal = .text name) :
    requested fields message = some (name, (transmit fields command).dataType, datapoint) := by
  simp [requested, found, built, named]

end Members

section Growth

variable {fields : DatapointFields} {state next : Downstream}

theorem Acknowledged.grow {acks : List (Nat × Json)} {number later : Nat} {message : Json}
    (acknowledged : Acknowledged acks number message) (before : number < later) (session : Json) :
    Acknowledged (acks ++ [(later, session)]) number message := by
  intro own named
  rcases acknowledged own named with member | earlier
  · exact .inl (List.mem_append_left _ member)
  · refine .inr fun ack member => ?_
    rcases List.mem_append.mp member with old | new
    · exact earlier ack old
    · rw [List.mem_singleton.mp new]
      exact before

theorem Unlisted.grow {answers more : List (Nat × Answer)} {number : Nat} {name : String}
    (unlisted : Unlisted answers number name) (grows : answers ⊆ more) : Unlisted more number name := by
  obtain ⟨entries, listed, absent⟩ := unlisted
  exact ⟨entries, grows listed, absent⟩

theorem Identified.grow {answers more : List (Nat × Answer)} {number : Nat} {name : String}
    {dataType : DataType} {id : Int32} (identified : Identified answers number name dataType id)
    (grows : answers ⊆ more) : Identified more number name dataType id := by
  rcases identified with ⟨entries, listed, found⟩ | ⟨unlisted, results, registered, same⟩
  · exact .inl ⟨entries, grows listed, found⟩
  · exact .inr ⟨unlisted.grow grows, results, grows registered, same⟩

/-- The records of the handled messages survive when the histories grow. -/
theorem Update.Genuine.grow {update : Update} (genuine : update.Genuine fields state)
    (handled : state.handled <+: next.handled) (answers : state.answers ⊆ next.answers)
    (acks : ∀ message, Acknowledged state.acks update.number message →
      Acknowledged next.acks update.number message) : update.Genuine fields next := by
  obtain ⟨entry, message, name, dataType, place, payload, asked, identified, acknowledged⟩ := genuine
  obtain ⟨inside, _⟩ := List.getElem?_eq_some_iff.mp place
  obtain ⟨new, grown⟩ := handled
  refine ⟨entry, message, name, dataType, ?_, payload, asked, identified.grow answers, acks _ acknowledged⟩
  rw [← grown, List.getElem?_append_left inside]
  exact place

theorem AckGenuine.grow {ack : Nat × Json} (genuine : AckGenuine state ack)
    (messages : state.messages <+: next.messages) : AckGenuine next ack := by
  obtain ⟨message, place, signal, session⟩ := genuine
  obtain ⟨inside, _⟩ := List.getElem?_eq_some_iff.mp place
  obtain ⟨new, grown⟩ := messages
  refine ⟨message, ?_, signal, session⟩
  rw [← grown, List.getElem?_append_left inside]
  exact place

theorem place_concat {Entry : Type} {entries : List Entry} {new entry : Entry} {place : Nat}
    (found : (entries ++ [new])[place]? = some entry) :
    entries[place]? = some entry ∨ place = entries.length ∧ entry = new := by
  by_cases earlier : place < entries.length
  · rw [List.getElem?_append_left earlier] at found
    exact .inl found
  · rw [List.getElem?_append_right (by omega)] at found
    obtain ⟨inside, rfl⟩ := List.getElem?_eq_some_iff.mp found
    rw [List.length_singleton] at inside
    exact .inr ⟨by omega, List.getElem_singleton _⟩

theorem messages_busy (busy : state.point.isIdle = false) :
    state.messages = state.handled.map HandledMessage.payload ++ [some state.message] := by
  rw [Downstream.messages, busy]
  rfl

theorem messages_finish (busy : state.point.isIdle = false) (broken : Bool) :
    (state.finish broken).messages = state.messages := by
  rw [messages_busy busy]
  simp [Downstream.messages, Downstream.finish, CommandPoint.isIdle]

end Growth

section Steps

variable {fields : DatapointFields} {state next : Downstream}

/-- A statement without an effect leaves the histories. -/
theorem Traced.move (traced : Traced fields state) (busy : state.point.isIdle = false) {point : CommandPoint}
    (still : point.isIdle = false) (past : state.point.acknowledged = true → point.acknowledged = true)
    (here : AtCommand fields state point) : Traced fields (state.move point) := by
  have messages : state.messages <+: (state.move point).messages := by
    rw [messages_busy busy, @messages_busy (state.move point) still]
    exact List.prefix_rfl
  refine { traced with ackBound := ?_, acks := ?_, updates := ?_, point := here }
  · intro ack member
    have bound := traced.ackBound ack member
    change ack.1 < state.number + point.acknowledged.toNat
    cases passed : state.point.acknowledged with
    | true =>
        rw [past passed]
        rwa [passed] at bound
    | false =>
        rw [passed, Bool.toNat_false] at bound
        omega
  · exact fun ack member => (traced.acks ack member).grow messages
  · exact fun update member => (traced.updates update member).grow List.prefix_rfl (fun _ => id) fun _ => id

/-- The callback ends, and the update of a message that asks for one has been sent or a call has raised. -/
theorem Traced.close (traced : Traced fields state) (busy : state.point.isIdle = false) (broken : Bool)
    (update : Option Update)
    (own : ∀ new ∈ update, new.number = state.number ∧ new.Genuine fields (state.finish broken))
    (done : (requested fields state.message).isSome = true → broken = true ∨ update.isSome = true) :
    Traced fields { state.finish broken with updates := state.updates ++ update.toList } := by
  have number : (state.finish broken).number = state.number + 1 := List.length_append
  have grown : state.handled <+: (state.finish broken).handled := List.prefix_append ..
  refine { traced with
    ackBound := ?_, acks := ?_, updateOrder := ?_, updateBound := ?_, updates := ?_, complete := ?_
    point := trivial }
  · intro ack member
    have bound := traced.ackBound ack member
    have limit := Bool.toNat_le state.point.acknowledged
    change ack.1 < (state.finish broken).number + 0
    omega
  · intro ack member
    have messages := (messages_finish busy broken).symm
    exact (traced.acks ack member).grow (messages ▸ List.prefix_rfl)
  · rw [List.map_append, List.pairwise_append]
    refine ⟨traced.updateOrder, by cases update <;> simp, ?_⟩
    intro earlier old later new
    obtain ⟨first, member, rfl⟩ := List.mem_map.mp old
    obtain ⟨second, recent, rfl⟩ := List.mem_map.mp new
    rw [(own second (Option.mem_toList.mp recent)).1]
    exact traced.updateBound first member
  · intro entry member
    change entry.number < (state.finish broken).number
    rcases List.mem_append.mp member with old | new
    · have bound := traced.updateBound entry old
      omega
    · have same := (own entry (Option.mem_toList.mp new)).1
      omega
  · intro entry member
    rcases List.mem_append.mp member with old | new
    · exact (traced.updates entry old).grow grown (fun _ => id) fun _ => id
    · exact (own entry (Option.mem_toList.mp new)).2.grow List.prefix_rfl (fun _ => id) fun _ => id
  · intro place entry message found payload asked whole
    rcases place_concat found with found | ⟨rfl, rfl⟩
    · obtain ⟨old, member, same⟩ := traced.complete place entry message found payload asked whole
      exact ⟨old, List.mem_append_left _ member, same⟩
    · cases payload
      have whole : broken = false := whole
      obtain ⟨new, sent⟩ := Option.isSome_iff_exists.mp ((done asked).resolve_left (by rw [whole]; decide))
      exact ⟨new, List.mem_append_right _ (Option.mem_toList.mpr sent), (own new sent).1⟩

/-- A callback that ends without an update has met an exception or was not asked for one. -/
theorem Traced.finish (traced : Traced fields state) (busy : state.point.isIdle = false) {broken : Bool}
    (done : (requested fields state.message).isSome = true → broken = true) :
    Traced fields (state.finish broken) := by
  have closed := traced.close busy broken none (fun _ new => by cases new) fun asked => .inl (done asked)
  rw [Option.toList_none, List.append_nil] at closed
  exact closed

/-- A name that the broker has not listed is registered. -/
theorem Traced.attempt (traced : Traced fields state) {command : Command} {datapoint : Datapoint} {ids : IdMap}
    (point : state.point = .identify command datapoint ids) {name : String} {dataType : DataType}
    (unlisted : Unlisted state.answers state.number name) : Traced fields (state.attempt name dataType) := by
  refine { traced with acks := ?_, attempted := ?_, registered := ?_, updates := ?_, point := ?_ }
  · exact fun ack member => (traced.acks ack member).grow List.prefix_rfl
  · intro number other otherType member
    rcases List.mem_append.mp member with old | new
    · exact traced.attempted number other otherType old
    · cases List.mem_singleton.mp new
      exact unlisted
  · intro number other otherType results member
    exact List.mem_append_left _ (traced.registered number other otherType results member)
  · exact fun update member => (traced.updates update member).grow List.prefix_rfl (fun _ => id) fun _ => id
  · have here := traced.point
    rw [point] at here
    change AtCommand fields (state.attempt name dataType) state.point
    rw [point]
    exact here

/-- The answer of the broker is recorded. -/
theorem Traced.answered (traced : Traced fields state) (busy : state.point.isIdle = false) {answer : Answer}
    {point : CommandPoint} (still : point.isIdle = false) (past : point.acknowledged = true)
    (own : ∀ name dataType results, answer = .registered name dataType results →
      (state.number, name, dataType) ∈ state.registrations)
    (here : AtCommand fields (state.answered answer point) point) :
    Traced fields (state.answered answer point) := by
  have messages : state.messages <+: (state.answered answer point).messages := by
    rw [messages_busy busy, @messages_busy (state.answered answer point) still]
    exact List.prefix_rfl
  have grows : state.answers ⊆ (state.answered answer point).answers := List.subset_append_left ..
  refine { traced with
    ackBound := ?_, acks := ?_, attempted := ?_, registered := ?_, updates := ?_, point := here }
  · intro ack member
    have bound := traced.ackBound ack member
    have limit := Bool.toNat_le state.point.acknowledged
    change ack.1 < state.number + point.acknowledged.toNat
    rw [past, Bool.toNat_true]
    omega
  · exact fun ack member => (traced.acks ack member).grow messages
  · exact fun number name dataType member => (traced.attempted number name dataType member).grow grows
  · intro number name dataType results member
    rcases List.mem_append.mp member with old | new
    · exact traced.registered number name dataType results old
    · obtain ⟨rfl, same⟩ := Prod.mk.inj (List.mem_singleton.mp new)
      exact own name dataType results same.symm
  · exact fun update member => (traced.updates update member).grow List.prefix_rfl grows fun _ => id

/-- The acknowledgement is published before the command is read. -/
theorem Traced.acknowledge (traced : Traced fields state) (busy : state.point.isIdle = false)
    (waiting : state.point.acknowledged = false) (connected : state.awsConnectionOk = true) {session : Json}
    (signal : state.message.contains "signal" = some true)
    (named : state.message.member "sessionId" = some session) :
    Traced fields { state.move .arguments with acks := state.acks ++ [(state.number, session)] } := by
  have messages : state.messages <+: (state.move .arguments).messages := by
    rw [messages_busy busy, @messages_busy (state.move .arguments) rfl]
    exact List.prefix_rfl
  have earlier : ∀ ack ∈ state.acks, ack.1 < state.number := by
    intro ack member
    have bound := traced.ackBound ack member
    rwa [waiting] at bound
  refine { traced with
    connected := fun _ => connected, ackOrder := ?_, ackBound := ?_, acks := ?_, updates := ?_, point := ?_ }
  · rw [List.map_append, List.pairwise_append]
    refine ⟨traced.ackOrder, List.pairwise_singleton .., ?_⟩
    intro first old second new
    obtain ⟨ack, member, rfl⟩ := List.mem_map.mp old
    rw [List.mem_singleton.mp new]
    exact earlier ack member
  · intro ack member
    change ack.1 < state.number + 1
    rcases List.mem_append.mp member with old | new
    · exact Nat.lt_succ_of_lt (earlier ack old)
    · rw [List.mem_singleton.mp new]
      exact Nat.lt_succ_self _
  · intro ack member
    rcases List.mem_append.mp member with old | new
    · exact (traced.acks ack old).grow messages
    · rw [List.mem_singleton.mp new]
      refine ⟨state.message, ?_, signal, named⟩
      change (state.move .arguments).messages[state.handled.length]? = _
      rw [@messages_busy (state.move .arguments) rfl]
      exact List.getElem?_append_right (by simp [Downstream.move]) |>.trans (by simp [Downstream.move])
  · intro update member
    exact (traced.updates update member).grow List.prefix_rfl (fun _ => id) fun message acknowledged =>
      acknowledged.grow (traced.updateBound update member) session
  · intro own same
    cases named.symm.trans same
    exact .inl (List.mem_append_right _ (List.mem_singleton.mpr rfl))

/-- A message that starts is signal-tested, and one that cannot be parsed is dropped. -/
theorem traced_received (traced : Traced fields state) {payload : Option Json}
    (taken : downstreamStep fields state (.received payload) = some next) : Traced fields next := by
  simp only [downstreamStep] at taken
  split at taken
  case h_1 message idle =>
    cases taken
    have messages : state.messages <+:
        Downstream.messages { state with message := message, point := .signalTest } := by
      rw [Downstream.messages, idle, @messages_busy { state with message := message, point := .signalTest } rfl]
      exact List.prefix_append_right_inj _ |>.mpr (List.nil_prefix)
    refine { traced with ackBound := ?_, acks := ?_, updates := ?_, point := trivial }
    · intro ack member
      have bound := traced.ackBound ack member
      rwa [idle] at bound
    · exact fun ack member => (traced.acks ack member).grow messages
    · exact fun update member => (traced.updates update member).grow List.prefix_rfl (fun _ => id) fun _ => id
  case h_2 idle =>
    cases taken
    let dropped : Downstream := { state with handled := state.handled ++ [⟨none, false⟩] }
    have number : dropped.number = state.number + 1 := List.length_append
    have messages : state.messages <+: dropped.messages := by
      simp [Downstream.messages, dropped, idle, CommandPoint.isIdle]
    refine { traced with
      ackBound := ?_, acks := ?_, updateBound := ?_, updates := ?_, complete := ?_
      point := by rw [idle]; trivial }
    · intro ack member
      have bound := traced.ackBound ack member
      change ack.1 < dropped.number + state.point.acknowledged.toNat
      omega
    · exact fun ack member => (traced.acks ack member).grow messages
    · intro update member
      have bound := traced.updateBound update member
      change update.number < dropped.number
      omega
    · intro update member
      exact (traced.updates update member).grow (List.prefix_append ..) (fun _ => id) fun _ => id
    · intro place entry message found payload
      rcases place_concat found with found | ⟨-, rfl⟩
      · exact traced.complete place entry message found payload
      · cases payload
  case h_3 => cases taken

/-- A callback that takes a step is in a message. -/
theorem busy_of_callback {raises : Bool}
    (taken : onSignalMessageReceived fields state raises state.point = some next) :
    state.point.isIdle = false := by
  cases point : state.point with
  | idle =>
      rw [point] at taken
      cases taken
  | _ => rfl

/-- The session is read only over a connection, and a message that asks for an update does not raise here. -/
theorem traced_sessionTest (traced : Traced fields state) (point : state.point = .sessionTest) {raises : Bool}
    (taken : onSignalMessageReceived fields state raises .sessionTest = some next) : Traced fields next := by
  have busy : state.point.isIdle = false := by rw [point]; rfl
  have here := traced.point
  rw [point] at here
  simp only [onSignalMessageReceived] at taken
  split at taken
  case isTrue connected =>
    split at taken
    case h_1 absent =>
      cases taken
      refine traced.move busy rfl (fun _ => rfl) fun session named => ?_
      rw [contains_of_member named] at absent
      cases absent
    case h_2 session present named =>
      cases taken
      refine traced.move busy rfl (fun past => ?_) ⟨connected, here, named⟩
      rw [point] at past
      cases past
    case h_3 absent present =>
      cases taken
      refine traced.finish busy fun asked => ?_
      obtain ⟨command, -, -, found, -⟩ := command_of_requested asked
      have tested := contains_of_command found "sessionId"
      cases named : state.message.member "sessionId" with
      | some session =>
          rw [named] at tested
          exact absurd named (present session tested)
      | none =>
          rw [named] at tested
          exact absurd tested absent
  case isFalse unconnected =>
    cases taken
    have none : state.acks = [] := by
      by_contra some
      exact unconnected (traced.connected some)
    refine traced.move busy rfl (fun _ => rfl) fun session named => .inr fun ack member => ?_
    rw [none] at member
    exact absurd member List.not_mem_nil

/-- The name is looked up in the list of the broker, and only a name that is missing there is registered. -/
theorem traced_identify (traced : Traced fields state) {command : Command} {datapoint : Datapoint} {ids : IdMap}
    (point : state.point = .identify command datapoint ids) {raises : Bool}
    (taken : onSignalMessageReceived fields state raises (.identify command datapoint ids) = some next) :
    Traced fields next := by
  have busy : state.point.isIdle = false := by rw [point]; rfl
  have here := traced.point
  rw [point] at here
  obtain ⟨acknowledged, found, built, entries, listed, rfl⟩ := here
  simp only [onSignalMessageReceived] at taken
  split at taken
  case h_1 name named =>
    have asked := requested_of_command found built named
    split at taken
    case h_1 id known =>
      cases taken
      exact traced.move busy rfl (fun _ => rfl)
        ⟨acknowledged, name, _, asked, .inl ⟨entries, listed, known⟩⟩
    case h_2 absent =>
      cases taken
      have attempted := @Traced.attempt _ _ traced _ _ _ point name (transmit fields command).dataType
        ⟨entries, listed, absent⟩
      exact attempted.move busy rfl (fun _ => rfl)
        ⟨acknowledged, asked, List.mem_append_right _ (List.mem_singleton.mpr rfl)⟩
  case h_2 other =>
    cases taken
    refine traced.finish busy fun asked => ?_
    obtain ⟨same, -, name, again, -, named⟩ := command_of_requested asked
    cases found.symm.trans again
    exact absurd named (other name)

/-- Every statement of the callback keeps the histories. -/
theorem traced_callback (traced : Traced fields state) {raises : Bool}
    (taken : onSignalMessageReceived fields state raises state.point = some next) : Traced fields next := by
  have busy := busy_of_callback taken
  have here := traced.point
  cases point : state.point with
  | idle | metadata | register =>
      rw [point] at taken
      cases taken
  | signalTest =>
      simp only [point, onSignalMessageReceived] at taken
      split at taken
      case h_1 signal =>
        cases taken
        refine traced.move busy rfl (fun past => ?_) signal
        rw [point] at past
        cases past
      case h_2 other =>
        cases taken
        refine traced.finish busy fun asked => ?_
        obtain ⟨command, -, -, found, -⟩ := command_of_requested asked
        obtain ⟨signal, named, -⟩ := Option.bind_eq_some_iff.mp found
        exact absurd (contains_of_member named) other
  | sessionTest =>
      rw [point] at taken
      exact traced_sessionTest traced point taken
  | publishAck session =>
      rw [point] at here
      obtain ⟨connected, signal, named⟩ := here
      simp only [point, onSignalMessageReceived] at taken
      split at taken
      case isTrue =>
        cases taken
        exact traced.finish busy fun _ => rfl
      case isFalse =>
        cases taken
        exact traced.acknowledge busy (by rw [point]; rfl) connected signal named
  | arguments =>
      rw [point] at here
      simp only [point, onSignalMessageReceived] at taken
      split at taken
      case h_1 command found =>
        cases taken
        exact traced.move busy rfl (fun _ => rfl) ⟨here, found⟩
      case h_2 missing =>
        cases taken
        refine traced.finish busy fun asked => ?_
        obtain ⟨command, -, -, found, -⟩ := command_of_requested asked
        rw [missing] at found
        cases found
  | helper command =>
      rw [point] at here
      simp only [point, onSignalMessageReceived, Option.some.injEq] at taken
      split at taken
      case isTrue =>
        cases taken
        exact traced.finish busy fun _ => rfl
      case isFalse =>
        cases taken
        exact traced.move busy rfl (fun _ => rfl) here
  | assign command =>
      rw [point] at here
      obtain ⟨acknowledged, found⟩ := here
      simp only [point, onSignalMessageReceived] at taken
      split at taken
      case h_1 datapoint built =>
        cases taken
        exact traced.move busy rfl (fun _ => rfl) ⟨acknowledged, found, built⟩
      case h_2 rejected =>
        cases taken
        refine traced.finish busy fun asked => ?_
        obtain ⟨other, datapoint, -, same, built, -⟩ := command_of_requested asked
        cases found.symm.trans same
        rw [rejected] at built
        cases built
  | identify command datapoint ids =>
      rw [point] at taken
      exact traced_identify traced point taken
  | update id datapoint =>
      rw [point] at here
      obtain ⟨acknowledged, name, dataType, asked, identified⟩ := here
      simp only [point, onSignalMessageReceived] at taken
      cases taken
      refine traced.close busy false (some ⟨state.number, id, datapoint⟩) ?_ fun _ => .inr rfl
      intro new sent
      obtain rfl := Option.some.inj sent
      exact ⟨rfl, ⟨some state.message, false⟩, state.message, name, dataType, List.getElem?_concat_length, rfl,
        asked, identified, acknowledged⟩

theorem traced_step {event : DownstreamEvent} (traced : Traced fields state)
    (taken : downstreamStep fields state event = some next) : Traced fields next := by
  cases event with
  | connected =>
      cases taken
      refine { traced with connected := fun _ => rfl, acks := ?_, updates := ?_, point := ?_ }
      · exact fun ack member => (traced.acks ack member).grow List.prefix_rfl
      · exact fun update member => (traced.updates update member).grow List.prefix_rfl (fun _ => id) fun _ => id
      · have here := traced.point
        change AtCommand fields _ state.point
        cases point : state.point with
        | publishAck session =>
            rw [point] at here
            exact ⟨rfl, here.2⟩
        | _ =>
            rw [point] at here
            exact here
  | received payload => exact traced_received traced taken
  | callback raises => exact traced_callback traced taken
  | metadataReturned answer =>
      have here := traced.point
      simp only [downstreamStep] at taken
      split at taken
      case h_1 command datapoint entries point =>
        cases taken
        rw [point] at here
        obtain ⟨acknowledged, found, built⟩ := here
        refine traced.answered (by rw [point]; rfl) rfl rfl (fun _ _ _ same => by cases same)
          ⟨acknowledged, found, built, entries, ?_, rfl⟩
        exact List.mem_append_right _ (List.mem_singleton.mpr rfl)
      case h_2 point =>
        cases taken
        exact traced.finish (by rw [point]; rfl) fun _ => rfl
      case h_3 => cases taken
  | registerReturned answer =>
      have here := traced.point
      simp only [downstreamStep] at taken
      split at taken
      case h_1 name dataType datapoint results point =>
        cases taken
        rw [point] at here
        obtain ⟨acknowledged, asked, attempted⟩ := here
        have unlisted := traced.attempted state.number name dataType attempted
        have later := unlisted.grow (List.subset_append_left state.answers
          [(state.number, .registered name dataType results)])
        refine traced.answered (by rw [point]; rfl) rfl rfl (fun _ _ _ same => by cases same; exact attempted)
          ⟨acknowledged, name, dataType, asked, .inr ⟨later, results, ?_, rfl⟩⟩
        exact List.mem_append_right _ (List.mem_singleton.mpr rfl)
      case h_2 point =>
        cases taken
        exact traced.finish (by rw [point]; rfl) fun _ => rfl
      case h_3 => cases taken

theorem traced_reached {guard : Downstream → DownstreamEvent → Prop}
    (reached : (downstream fields).Reached guard state) : Traced fields state := by
  refine reached.invariant ?_ fun _ _ _ traced _ taken => traced_step traced taken
  constructor
  case ackOrder | updateOrder => exact .nil
  case connected => exact fun some => absurd rfl some
  case ackBound | acks | updateBound | updates => exact fun _ member => absurd member List.not_mem_nil
  case attempted => exact fun _ _ _ member => absurd member List.not_mem_nil
  case registered => exact fun _ _ _ _ member => absurd member List.not_mem_nil
  case complete =>
    intro number entry message found
    cases found
  case point => trivial

end Steps

/-- In every state, the acknowledgements and the updates follow the order of their messages, at most one of each
for a message. An update has the value that its message asks for and the id that the broker gave for this
message, and a registration is attempted only for a name that the broker does not list, and answered only when
attempted. A session is acknowledged before its update, unless no message up to it has been. A handled message
that asks for an update has it, unless a call raised. -/
theorem updates_follow_commands (fields : DatapointFields) {state : Downstream}
    (reached : (downstream fields).Reached Machine.anyStep state) :
    (state.acks.map Prod.fst).Pairwise (· < ·) ∧ (state.updates.map Update.number).Pairwise (· < ·) ∧
      (∀ ack ∈ state.acks, AckGenuine state ack) ∧ (∀ update ∈ state.updates, update.Genuine fields state) ∧
      (∀ number name dataType, (number, name, dataType) ∈ state.registrations →
        Unlisted state.answers number name) ∧
      (∀ number name dataType results, (number, .registered name dataType results) ∈ state.answers →
        (number, name, dataType) ∈ state.registrations) ∧
      ∀ number entry message, state.handled[number]? = some entry → entry.payload = some message →
        (requested fields message).isSome = true → entry.broken = false →
        ∃ update ∈ state.updates, update.number = number := by
  have traced := traced_reached reached
  exact ⟨traced.ackOrder, traced.updateOrder, traced.acks, traced.updates, traced.attempted, traced.registered,
    traced.complete⟩

/-- A Boolean counts as a number, and a number outside of the range of its field raises. -/
def plainFields : DatapointFields where
  boolValue
    | .boolean value => some value
    | .integer value => some (decide (value ≠ 0))
    | _ => none
  uint32Value
    | .boolean value => some (if value then 1 else 0)
    | .integer value => if 0 ≤ value ∧ value < 2 ^ 32 then some (UInt32.ofNat value.toNat) else none
    | _ => none
  int32Value
    | .boolean value => some (if value then 1 else 0)
    | .integer value => if -2 ^ 31 ≤ value ∧ value < 2 ^ 31 then some (Int32.ofInt value) else none
    | _ => none

def signalMessage (session : Int) (signal : String) (value : Json) (type : Json) : Json :=
  .object [("sessionId", .integer session), ("signal", .text signal), ("value", value), ("type", type)]

/-- The first command comes before the connection is reported, the second one registers its name, and the third
one has a value that its field does not take. -/
def commandEvents : List DownstreamEvent :=
  [.received (some (signalMessage 1 "Vehicle.Cabin.Horn" (.boolean true) .null)), .callback false,
    .callback false, .callback false, .callback false, .callback false,
    .metadataReturned (some [⟨"Vehicle.Cabin.Horn", 4⟩]), .callback false, .callback false, .connected,
    .received (some (signalMessage 2 "Vehicle.Cabin.Seat" (.array [.integer 3, .integer 9]) .null)),
    .callback false, .callback false, .callback false, .callback false, .callback false, .callback false,
    .metadataReturned (some [⟨"Vehicle.Cabin.Horn", 4⟩]), .callback false,
    .registerReturned (some (AList.singleton "Vehicle.Cabin.Seat" 5)), .callback false,
    .received (some (signalMessage 3 "Vehicle.Cabin.Fan" (.text "7") (.text "uint8"))),
    .callback false, .callback false, .callback false, .callback false, .callback false, .callback false]

theorem commands_execute :
    ((downstream plainFields).execute Machine.anyStep (downstream plainFields).initial commandEvents).isSome =
      true := by
  decide +kernel

def commandState : Downstream :=
  ((downstream plainFields).execute Machine.anyStep (downstream plainFields).initial commandEvents).get
    commands_execute

/-- Two commands are executed and two are acknowledged, but only one is both. -/
theorem updates_follow_commands_fan :
    commandState.updates.map Update.number = [0, 1] ∧ commandState.acks.map Prod.fst = [1, 2] ∧
      ∀ update ∈ commandState.updates, update.Genuine plainFields commandState := by
  have reached : (downstream plainFields).Reached Machine.anyStep commandState :=
    Machine.reached_get commands_execute
  obtain ⟨-, -, -, genuine, -⟩ := updates_follow_commands plainFields reached
  exact ⟨by decide +kernel, by decide +kernel, genuine⟩

end VehicleEdge.Cloud
