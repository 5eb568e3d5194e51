import VehicleEdge.Someip.RoundTrip

/-
This file models the payload codecs of the wiper: the event with its status, and the request that sets it.
A floating-point value is kept as its bit pattern.
-/

namespace VehicleEdge.Wiper

open Someip (floatToBytes bytesToFloat swapped_float_eq_iff)
open Someip.Scalar (Palindrome)

structure EventData where
  actualPosition : UInt32
  driveCurrent : UInt32
  tempGear : UInt8
  isWiping : UInt8
  isEndingWipeCycle : UInt8
  isWiperError : UInt8
  isPositionReached : UInt8
  isBlocked : UInt8
  isOverheated : UInt8
  ecuTemp : UInt8
  linError : UInt8
  isOverVoltage : UInt8
  isUnderVoltage : UInt8
  deriving DecidableEq

structure Event where
  sequenceCounter : UInt8
  data : EventData
  deriving DecidableEq

/-- These are the named values of the wiper mode. -/
inductive WiperMode where
  | plantMode | stopHold | wipe | emergencyStop

def WiperMode.value : WiperMode → UInt32
  | .plantMode => 0
  | .stopHold => 1
  | .wipe => 2
  | .emergencyStop => 3

/-- The mode is an integer that need not be one of the named values. -/
structure WiperRequest where
  frequency : UInt8
  targetPosition : UInt32
  mode : UInt32
  deriving DecidableEq

def eventPayloadSize : Nat := 20

def setPayloadSize : Nat := 6

/-- All fields of a cleared event are zero. -/
def Event.cleared : Event := ⟨0, ⟨0, 0, 0, 0, 0, 0, 0, 0, 0, 0, 0, 0, 0⟩⟩

def WiperRequest.cleared : WiperRequest := ⟨0, 0, 0⟩

/-- The buffer is cleared and then filled in the order of the fields. -/
def serializeWiperEvent (event : Event) (payload : Memory) (payloadSize : Nat) : Bool × Memory :=
  if payloadSize < eventPayloadSize then (false, payload)
  else
    let zeroed := Store.run payload (Store.putBytes 0 (List.replicate payloadSize 0))
    (true, Store.run zeroed
      (.put 0 event.sequenceCounter ::
        (floatToBytes event.data.actualPosition 1 ++ floatToBytes event.data.driveCurrent 5 ++
          [.put 9 event.data.tempGear,
            .put 10 event.data.isWiping,
            .put 11 event.data.isEndingWipeCycle,
            .put 12 event.data.isWiperError,
            .put 13 event.data.isPositionReached,
            .put 14 event.data.isBlocked,
            .put 15 event.data.isOverheated,
            .put 16 event.data.ecuTemp,
            .put 17 event.data.linError,
            .put 18 event.data.isOverVoltage,
            .put 19 event.data.isUnderVoltage])))

/-- A float is read through four temporary bytes. -/
def deserializeEvent (payload : Memory) (payloadSize : Nat) : Bool × Event :=
  if payloadSize < eventPayloadSize then (false, .cleared)
  else
    (true,
      { sequenceCounter := payload 0
        data :=
          { actualPosition := bytesToFloat fun lane => payload (1 + lane)
            driveCurrent := bytesToFloat fun lane => payload (5 + lane)
            tempGear := payload 9
            isWiping := payload 10
            isEndingWipeCycle := payload 11
            isWiperError := payload 12
            isPositionReached := payload 13
            isBlocked := payload 14
            isOverheated := payload 15
            ecuTemp := payload 16
            linError := payload 17
            isOverVoltage := payload 18
            isUnderVoltage := payload 19 } })

/-- A request is written without clearing the buffer. -/
def serializeVssRequest (payload : Memory) (payloadSize : Nat) (request : WiperRequest) : Bool × Memory :=
  if payloadSize < setPayloadSize then (false, payload)
  else
    (true, Store.run payload
      (.put 0 request.frequency ::
        (floatToBytes request.targetPosition 1 ++ [.put 5 request.mode.toUInt8])))

def deserializeVssRequest (payload : Memory) (payloadSize : Nat) : Bool × WiperRequest :=
  if payloadSize < setPayloadSize then (false, .cleared)
  else
    (true,
      { frequency := payload 0
        targetPosition := bytesToFloat fun lane => payload (1 + lane)
        mode := (payload 5).toUInt32 })

/-- The written event is one row of twenty bytes. -/
def Event.bytes (event : Event) : List UInt8 :=
  event.sequenceCounter ::
    (littleEndian 4 event.data.actualPosition.toNat ++ (littleEndian 4 event.data.driveCurrent.toNat ++
      [event.data.tempGear, event.data.isWiping, event.data.isEndingWipeCycle, event.data.isWiperError,
        event.data.isPositionReached, event.data.isBlocked, event.data.isOverheated, event.data.ecuTemp,
        event.data.linError, event.data.isOverVoltage, event.data.isUnderVoltage]))

/-- The written request is one row of six bytes. -/
def WiperRequest.bytes (request : WiperRequest) : List UInt8 :=
  request.frequency :: (littleEndian 4 request.targetPosition.toNat ++ [request.mode.toUInt8])

theorem serializeWiperEvent_eq (event : Event) (payload : Memory) {payloadSize : Nat}
    (large : eventPayloadSize ≤ payloadSize) :
    ∃ zeroed, serializeWiperEvent event payload payloadSize =
      (true, Store.run zeroed (Store.putBytes 0 event.bytes)) := by
  rw [serializeWiperEvent, if_neg (by omega)]
  exact ⟨_, rfl⟩

theorem serializeVssRequest_eq (payload : Memory) {payloadSize : Nat} (request : WiperRequest)
    (large : setPayloadSize ≤ payloadSize) :
    serializeVssRequest payload payloadSize request =
      (true, Store.run payload (Store.putBytes 0 request.bytes)) := by
  rw [serializeVssRequest, if_neg (by omega)]
  rfl

/-- Four written bytes are read back as the reversed pattern. -/
theorem bytesToFloat_stored {payload : Memory} {start : Nat} {bits : UInt32}
    (stored : ∀ lane byte, (littleEndian 4 bits.toNat)[lane]? = some byte → payload (start + lane) = byte) :
    (bytesToFloat fun lane => payload (start + lane)) = bits ↔ Palindrome (littleEndian 4 bits.toNat) := by
  rw [← swapped_float_eq_iff]
  have reversed : [payload (start + 3), payload (start + 2), payload (start + 1), payload (start + 0)] =
      (littleEndian 4 bits.toNat).reverse := by
    rw [stored 3 _ rfl, stored 2 _ rfl, stored 1 _ rfl, stored 0 _ rfl]
    rfl
  rw [bytesToFloat, reversed]

section Row

variable (memory : Memory)

/-- A row of bytes from the start of the buffer is read byte by byte. -/
theorem run_row {bytes : List UInt8} {lane : Nat} {byte : UInt8} (at_ : bytes[lane]? = some byte) :
    Store.run memory (Store.putBytes 0 bytes) lane = byte := by
  obtain ⟨inside, found⟩ := List.getElem?_eq_some_iff.mp at_
  have stored := Store.run_putBytes memory 0 bytes inside
  rwa [Nat.zero_add, found] at stored

/-- A float within a row is read back exactly when its four bytes are a palindrome. -/
theorem float_row {bytes before after : List UInt8} {start : Nat} {bits : UInt32}
    (row : bytes = before ++ (littleEndian 4 bits.toNat ++ after)) (offset : before.length = start) :
    (bytesToFloat fun lane => Store.run memory (Store.putBytes 0 bytes) (start + lane)) = bits ↔
      Palindrome (littleEndian 4 bits.toNat) := by
  apply bytesToFloat_stored
  intro lane byte found
  apply run_row
  have below := (List.getElem?_eq_some_iff.mp found).1
  rw [row, ← offset, List.getElem?_append_right (Nat.le_add_right _ _), Nat.add_sub_cancel_left,
    List.getElem?_append_left below, found]

theorem position_row (event : Event) :
    (bytesToFloat fun lane => Store.run memory (Store.putBytes 0 event.bytes) (1 + lane)) =
        event.data.actualPosition ↔ Palindrome (littleEndian 4 event.data.actualPosition.toNat) :=
  float_row memory (List.singleton_append).symm rfl

theorem current_row (event : Event) :
    (bytesToFloat fun lane => Store.run memory (Store.putBytes 0 event.bytes) (5 + lane)) =
        event.data.driveCurrent ↔ Palindrome (littleEndian 4 event.data.driveCurrent.toNat) := by
  have row : event.bytes = (event.sequenceCounter :: littleEndian 4 event.data.actualPosition.toNat) ++
      (littleEndian 4 event.data.driveCurrent.toNat ++ _) := (List.cons_append).symm
  exact float_row memory row (by rw [List.length_cons, length_littleEndian])

theorem target_row (request : WiperRequest) :
    (bytesToFloat fun lane => Store.run memory (Store.putBytes 0 request.bytes) (1 + lane)) =
        request.targetPosition ↔ Palindrome (littleEndian 4 request.targetPosition.toNat) :=
  float_row memory (List.singleton_append).symm rfl

/-- All fields but the two floats are read as they were written. -/
theorem deserializeEvent_row (event : Event) {payloadSize : Nat} (large : eventPayloadSize ≤ payloadSize) :
    let payload := Store.run memory (Store.putBytes 0 event.bytes)
    deserializeEvent payload payloadSize =
      (true, { event with
        data := { event.data with
          actualPosition := bytesToFloat fun lane => payload (1 + lane)
          driveCurrent := bytesToFloat fun lane => payload (5 + lane) } }) := by
  have row : ∀ lane byte, event.bytes[lane]? = some byte →
      Store.run memory (Store.putBytes 0 event.bytes) lane = byte := fun _ _ => run_row memory
  dsimp only
  rw [deserializeEvent, if_neg (by omega), row 0 _ rfl, row 9 _ rfl, row 10 _ rfl, row 11 _ rfl,
    row 12 _ rfl, row 13 _ rfl, row 14 _ rfl, row 15 _ rfl, row 16 _ rfl, row 17 _ rfl, row 18 _ rfl,
    row 19 _ rfl]

/-- A named mode survives in one byte. -/
theorem deserializeVssRequest_row (request : WiperRequest) {payloadSize : Nat}
    (large : setPayloadSize ≤ payloadSize) {mode : WiperMode} (named : request.mode = mode.value) :
    let payload := Store.run memory (Store.putBytes 0 request.bytes)
    deserializeVssRequest payload payloadSize =
      (true, { request with targetPosition := bytesToFloat fun lane => payload (1 + lane) }) := by
  have row : ∀ lane byte, request.bytes[lane]? = some byte →
      Store.run memory (Store.putBytes 0 request.bytes) lane = byte := fun _ _ => run_row memory
  have kept : request.mode.toUInt8.toUInt32 = request.mode := by
    rw [named]
    cases mode <;> rfl
  dsimp only
  rw [deserializeVssRequest, if_neg (by omega), row 0 _ rfl, row 5 _ rfl, kept]

end Row

/-- The two codecs return what was written exactly when the four bytes of each float read the same in both
directions. -/
theorem wiper_codecs_round_trip (payload : Memory) (payloadSize : Nat) :
    (∀ event : Event, eventPayloadSize ≤ payloadSize →
        (deserializeEvent (serializeWiperEvent event payload payloadSize).2 payloadSize = (true, event) ↔
          Palindrome (littleEndian 4 event.data.actualPosition.toNat) ∧
            Palindrome (littleEndian 4 event.data.driveCurrent.toNat))) ∧
      ∀ request : WiperRequest, setPayloadSize ≤ payloadSize →
        (∃ mode : WiperMode, request.mode = mode.value) →
        (deserializeVssRequest (serializeVssRequest payload payloadSize request).2 payloadSize =
            (true, request) ↔
          Palindrome (littleEndian 4 request.targetPosition.toNat)) := by
  constructor
  · intro event large
    obtain ⟨zeroed, written⟩ := serializeWiperEvent_eq event payload large
    rw [written, deserializeEvent_row zeroed event large, ← position_row zeroed, ← current_row zeroed]
    constructor
    · intro same
      have position := congrArg (fun result => result.2.data.actualPosition) same
      have current := congrArg (fun result => result.2.data.driveCurrent) same
      exact ⟨position, current⟩
    · rintro ⟨position, current⟩
      rw [position, current]
  · rintro request large ⟨mode, named⟩
    rw [serializeVssRequest_eq payload request large, deserializeVssRequest_row payload request large named,
      ← target_row payload]
    constructor
    · intro same
      exact congrArg (fun result => result.2.targetPosition) same
    · intro target
      rw [target]

/-- A parked wiper with a drive current that is a palindrome is read back. -/
theorem wiper_codecs_round_trip_parked :
    deserializeEvent (serializeWiperEvent ⟨7, ⟨0, 0x3F00003F, 1, 0, 0, 0, 1, 0, 0, 25, 0, 0, 0⟩⟩
        (fun _ => 0xFF) 24).2 24 = (true, ⟨7, ⟨0, 0x3F00003F, 1, 0, 0, 0, 1, 0, 0, 25, 0, 0, 0⟩⟩) ∧
      deserializeVssRequest (serializeVssRequest (fun _ => 0xFF) 24 ⟨80, 0, 2⟩).2 24 =
        (true, ⟨80, 0, 2⟩) := by
  obtain ⟨events, requests⟩ := wiper_codecs_round_trip (fun _ => 0xFF) 24
  constructor
  · apply (events ⟨7, ⟨0, 0x3F00003F, 1, 0, 0, 0, 1, 0, 0, 25, 0, 0, 0⟩⟩ (by decide)).mpr
    unfold Palindrome
    decide
  · apply (requests ⟨80, 0, 2⟩ (by decide) ⟨.wipe, rfl⟩).mpr
    unfold Palindrome
    decide

/-- A position of one degree is read back as another number by both codecs. -/
theorem one_degree_is_reversed :
    (¬ ∀ (event : Event) (payload : Memory) (payloadSize : Nat), eventPayloadSize ≤ payloadSize →
        deserializeEvent (serializeWiperEvent event payload payloadSize).2 payloadSize = (true, event)) ∧
      ¬ ∀ (request : WiperRequest) (payload : Memory) (payloadSize : Nat), setPayloadSize ≤ payloadSize →
        (∃ mode : WiperMode, request.mode = mode.value) →
        deserializeVssRequest (serializeVssRequest payload payloadSize request).2 payloadSize =
          (true, request) := by
  constructor
  · intro returned
    have same := returned ⟨7, ⟨0x3F800000, 0, 1, 0, 0, 0, 1, 0, 0, 25, 0, 0, 0⟩⟩ (fun _ => 0) 20 (by decide)
    revert same
    decide
  · intro returned
    have same := returned ⟨80, 0x3F800000, 2⟩ (fun _ => 0) 6 (by decide) ⟨.wipe, rfl⟩
    revert same
    decide

end VehicleEdge.Wiper
