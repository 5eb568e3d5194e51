import VehicleEdge.Someip.Fields

/-
This file compares the field of a node with the field of the same node at the start of the buffer.
-/

namespace VehicleEdge.Someip

open Kuksa (Datapoint)

/-- These are the bytes of the field after the branch has run on a cleared buffer. -/
def encodedField (host : Host) (node : VSSNode) (data : Datapoint) : List UInt8 :=
  (List.range (fieldSize node)).map fun lane =>
    Store.run (fun _ => 0) (encodeValue host node data) (node.byteOffset.toNat + lane)

/-- The alignment of a four-byte array works on fixed positions of the buffer. -/
def aligns (node : VSSNode) (data : Datapoint) : Bool :=
  getDataType node.datatype = .uint8Array ∧ data.uint32Array.isSome ∧ node.length = 4

/-- These are the bytes of the target array. -/
def arrayByte (host : Host) (data : Datapoint) (index : Nat) : UInt8 :=
  (uint32Element host (data.uint32Array.getD []) index).toUInt8

/-- The alignment does no harm at the start of the buffer, or where the bytes hide it. -/
def Unmoved (host : Host) (node : VSSNode) (data : Datapoint) : Prop :=
  aligns node data = true →
    (node.byteOffset = 1 → arrayByte host data 1 = 0 ∧ arrayByte host data 2 = arrayByte host data 3) ∧
      (node.byteOffset = 2 → ∀ index < 4, arrayByte host data index = 0)

section Branches

variable (host : Host) {node : VSSNode} (data : Datapoint)

theorem memcpy_shift (distance destination : Nat) (source : List UInt8) (size : Nat) :
    (memcpy host destination source size).map (Store.shift distance) =
      memcpy host (distance + destination) source size :=
  Store.shift_putBytes distance destination _

theorem fieldSize_atStart : fieldSize node.atStart = fieldSize node := rfl

theorem fits_atStart (fits : FieldFits node) : FieldFits node.atStart := by
  unfold FieldFits at fits ⊢
  rw [fieldSize_atStart]
  have zero : node.atStart.byteOffset.toNat = 0 := rfl
  omega

/-- The loop of an array branch writes consecutive bytes. -/
theorem loop_putBytes {offset : UInt64} {count : Nat} (fits : offset.toNat + count ≤ methodPayloadSize)
    (byte : Nat → UInt8) :
    ((List.range count).map fun step => Store.put (offset + UInt64.ofNat step).toNat (byte step)) =
      Store.putBytes offset.toNat ((List.range count).map byte) := by
  rw [Store.putBytes_range]
  apply List.map_congr_left
  intro step below
  rw [List.mem_range] at below
  rw [indexed_of_fits (show offset.toNat + step ≤ methodPayloadSize by omega)]

/-- A byte and the two copied bytes after it are moved together. -/
theorem byte_word_shift {byte : UInt8} {source : List UInt8}
    (fits : node.byteOffset.toNat + 3 ≤ methodPayloadSize) :
    .put node.byteOffset.toNat byte :: memcpy host (node.byteOffset + UInt64.ofNat 1).toNat source 2 =
      (.put node.atStart.byteOffset.toNat byte ::
        memcpy host (node.atStart.byteOffset + UInt64.ofNat 1).toNat source 2).map
          (Store.shift node.byteOffset.toNat) := by
  have zero : node.atStart.byteOffset.toNat = 0 := rfl
  have here := indexed_of_fits (show node.byteOffset.toNat + 1 ≤ methodPayloadSize by omega)
  have there : (node.atStart.byteOffset + UInt64.ofNat 1).toNat = 1 := rfl
  simp only [List.map_cons, memcpy_shift, Store.shift, here, there, zero, Nat.add_zero]

/-- Every branch without the alignment writes the bytes of the field at the start, shifted. -/
theorem encodeValue_shift (fits : FieldFits node) (plain : aligns node data = false) :
    encodeValue host node data =
      (encodeValue host node.atStart data).map (Store.shift node.byteOffset.toNat) := by
  unfold FieldFits fieldSize at fits
  have zero : node.atStart.byteOffset.toNat = 0 := rfl
  have type : getDataType node.atStart.datatype = getDataType node.datatype := rfl
  have length : node.atStart.length = node.length := rfl
  unfold encodeValue
  rw [type, length]
  cases kind : getDataType node.datatype with
  | bool | uint8 | int8 => simp [Store.shift, zero]
  | uint16 | int16 | uint32 => simp only [memcpy_shift, zero, Nat.add_zero]
  | float => simp only [floatToBytes, Store.shift_putBytes, zero, Nat.add_zero]
  | string => simp only [Store.shift_putBytes, zero, Nat.add_zero]
  | uint8Array =>
      simp only [kind] at fits ⊢
      cases array : data.uint32Array with
      | none => rfl
      | some values =>
          have other : node.length ≠ 4 := by simpa [aligns, kind, array] using plain
          have startFits : node.atStart.byteOffset.toNat + node.length.toNat ≤ methodPayloadSize := by omega
          simp only [if_neg other, List.append_nil]
          rw [loop_putBytes fits, loop_putBytes startFits, Store.shift_putBytes, zero, Nat.add_zero]
  | uint16Array =>
      simp only [kind] at fits ⊢
      cases data.uint32Array with
      | none => rfl
      | some values =>
          exact byte_word_shift host fits
  | int16Array =>
      simp only [kind] at fits ⊢
      cases data.int32Array with
      | none => rfl
      | some values =>
          have here := indexed_of_fits (show node.byteOffset.toNat + 2 ≤ methodPayloadSize by omega)
          have there : (node.atStart.byteOffset + UInt64.ofNat 2).toNat = 2 := rfl
          simp only [List.map_append, memcpy_shift, here, there, zero, Nat.add_zero]
  | timestampArray =>
      simp only [kind] at fits ⊢
      cases data.int32Array with
      | none => rfl
      | some values =>
          exact byte_word_shift host fits
  | _ => rfl

/-- A branch without the alignment writes the same field at every position. -/
theorem encodedField_plain (fits : FieldFits node) (plain : aligns node data = false) :
    encodedField host node data = encodedField host node.atStart data := by
  unfold encodedField
  rw [fieldSize_atStart]
  apply List.map_congr_left
  intro lane _
  rw [encodeValue_shift host data fits plain, Store.run_shift]
  show _ = Store.run (fun _ => 0) (encodeValue host node.atStart data) (0 + lane)
  rw [Nat.zero_add]

/-- The aligned branch writes four bytes and moves the third byte of the buffer. -/
theorem encodeValue_aligned (fits : FieldFits node) (aligned : aligns node data = true) :
    encodeValue host node data =
      Store.putBytes node.byteOffset.toNat
          [arrayByte host data 0, arrayByte host data 1, arrayByte host data 2, arrayByte host data 3] ++
        [.move 3 2, .put 2 0] := by
  obtain ⟨kind, array, four⟩ : getDataType node.datatype = .uint8Array ∧
      data.uint32Array.isSome = true ∧ node.length = 4 := by simpa [aligns] using aligned
  obtain ⟨values, array⟩ := Option.isSome_iff_exists.mp array
  have size : node.length.toNat = 4 := by rw [four]; rfl
  have range : List.range 4 = [0, 1, 2, 3] := rfl
  simp only [FieldFits, fieldSize, kind, size] at fits
  unfold encodeValue arrayByte
  simp only [kind, array, size, Option.getD_some]
  rw [loop_putBytes fits, if_pos four, range]
  rfl

/-- The three positions of an aligned field show three layouts. -/
theorem encodedField_aligned (fits : FieldFits node) (aligned : aligns node data = true) :
    (node.byteOffset = 0 ∧ encodedField host node data =
        [arrayByte host data 0, arrayByte host data 1, 0, arrayByte host data 2]) ∨
      (node.byteOffset = 1 ∧ encodedField host node data =
        [arrayByte host data 0, 0, arrayByte host data 1, arrayByte host data 3]) ∨
      (node.byteOffset = 2 ∧ encodedField host node data =
        [0, arrayByte host data 0, arrayByte host data 2, arrayByte host data 3]) := by
  have stores := encodeValue_aligned host data fits aligned
  obtain ⟨kind, array, four⟩ : getDataType node.datatype = .uint8Array ∧
      data.uint32Array.isSome = true ∧ node.length = 4 := by simpa [aligns] using aligned
  have size : fieldSize node = 4 := by simp only [fieldSize, kind, four]; rfl
  have range : List.range 4 = [0, 1, 2, 3] := rfl
  rw [FieldFits, size, methodPayloadSize] at fits
  have place : node.byteOffset = 0 ∨ node.byteOffset = 1 ∨ node.byteOffset = 2 := by
    simp only [← UInt64.toNat_inj]
    show node.byteOffset.toNat = 0 ∨ node.byteOffset.toNat = 1 ∨ node.byteOffset.toNat = 2
    omega
  rcases place with start | one | two
  · refine .inl ⟨start, ?_⟩
    rw [encodedField, stores, size, range, start]
    simp [Store.putBytes, Store.apply, Function.update_apply]
  · refine .inr (.inl ⟨one, ?_⟩)
    rw [encodedField, stores, size, range, one]
    simp [Store.putBytes, Store.apply, Function.update_apply]
  · refine .inr (.inr ⟨two, ?_⟩)
    rw [encodedField, stores, size, range, two]
    simp [Store.putBytes, Store.apply, Function.update_apply]

end Branches

/-- A branch writes the same bytes at its offset as at the start of the buffer exactly when the alignment
of a four-byte array does not move a byte of the field. -/
theorem encoding_is_position_independent (host : Host) (node : VSSNode) (data : Datapoint)
    (fits : FieldFits node) :
    encodedField host node data = encodedField host node.atStart data ↔ Unmoved host node data := by
  unfold Unmoved
  cases aligned : aligns node data with
  | false => simp [encodedField_plain host data fits aligned]
  | true =>
      have startAligned : aligns node.atStart data = true := aligned
      have start : encodedField host node.atStart data =
          [arrayByte host data 0, arrayByte host data 1, 0, arrayByte host data 2] := by
        rcases encodedField_aligned host data (fits_atStart fits) startAligned with
          ⟨_, field⟩ | ⟨wrong, _⟩ | ⟨wrong, _⟩
        · exact field
        · cases wrong
        · cases wrong
      rw [start]
      rcases encodedField_aligned host data fits aligned with
        ⟨place, field⟩ | ⟨place, field⟩ | ⟨place, field⟩
      · rw [field, place]
        simp
      · have notTwo : (1 : UInt64) ≠ 2 := by decide
        rw [field, place]
        simp only [List.cons.injEq, and_true, true_and, forall_const, notTwo, false_implies]
        constructor
        · rintro ⟨second, _, last⟩
          exact ⟨second.symm, last.symm⟩
        · rintro ⟨second, last⟩
          exact ⟨second.symm, second, last.symm⟩
      · have notOne : (2 : UInt64) ≠ 1 := by decide
        rw [field, place]
        simp only [List.cons.injEq, and_true, true_and, forall_const, notOne, false_implies]
        constructor
        · rintro ⟨first, second, third, last⟩ index below
          have lanes : index = 0 ∨ index = 1 ∨ index = 2 ∨ index = 3 := by omega
          rcases lanes with rfl | rfl | rfl | rfl
          · exact first.symm
          · exact second.symm.trans first.symm
          · exact third
          · exact last.trans third
        · intro zero
          rw [zero 0 (by decide), zero 1 (by decide), zero 2 (by decide), zero 3 (by decide)]
          exact ⟨rfl, rfl, rfl, rfl⟩

/-- This light control starts at the second byte of the request. -/
def shiftedLight : VSSNode := { lightControl with byteOffset := 1 }

theorem encoding_is_position_independent_word :
    FieldFits wordControl ∧
      encodedField zeroHost wordControl (.uint32Value 258) =
        encodedField zeroHost wordControl.atStart (.uint32Value 258) := by
  have fits : FieldFits wordControl := by unfold FieldFits; decide
  exact ⟨fits, (encoding_is_position_independent zeroHost wordControl (.uint32Value 258) fits).mpr nofun⟩

/-- The bytes `1 2 3 4` are laid out as `1 2 0 3` at the start and as `1 0 2 4` one byte later. -/
theorem shifted_light_changes_layout :
    FieldFits shiftedLight ∧
      encodedField zeroHost shiftedLight (.uint32ArrayValue [1, 2, 3, 4]) ≠
        encodedField zeroHost shiftedLight.atStart (.uint32ArrayValue [1, 2, 3, 4]) := by
  refine ⟨by unfold FieldFits; decide, ?_⟩
  decide

end VehicleEdge.Someip
