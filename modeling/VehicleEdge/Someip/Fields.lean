import VehicleEdge.Someip.Isolation

/-
This file shows that each branch of the encoder writes its own field of the request buffer only.
-/

namespace VehicleEdge.Someip

open Kuksa (Datapoint)

/-- The size of a field follows from the datatype and, for the copying branches, from the length. -/
def fieldSize (node : VSSNode) : Nat :=
  match getDataType node.datatype with
  | .bool | .uint8 | .int8 => 1
  | .uint8Array | .uint16 | .int16 | .uint32 | .string => node.length.toNat
  | .uint16Array | .timestampArray => 3
  | .int16Array | .float => 4
  | _ => 0

/-- The address belongs to the field of the node. -/
def InField (node : VSSNode) (index : Nat) : Prop :=
  node.byteOffset.toNat ≤ index ∧ index < node.byteOffset.toNat + fieldSize node

/-- The field of the node ends inside the request buffer. -/
def FieldFits (node : VSSNode) : Prop := node.byteOffset.toNat + fieldSize node ≤ methodPayloadSize

theorem within_memcpy (host : Host) {base bound destination size : Nat} {source : List UInt8}
    (above : base ≤ destination) (below : destination + size ≤ bound) :
    Store.Within base bound (memcpy host destination source size) :=
  Store.within_putBytes above (by rwa [length_copiedBytes])

theorem indexed_of_fits {offset : UInt64} {step : Nat} (fits : offset.toNat + step ≤ methodPayloadSize) :
    (offset + UInt64.ofNat step).toNat = offset.toNat + step := by
  rw [methodPayloadSize] at fits
  rw [indexed_toNat offset (by omega)]
  omega

/-- A byte and the two copied bytes after it fill a field of three bytes. -/
theorem within_byte_word (host : Host) {offset : UInt64} {byte : UInt8} {source : List UInt8}
    (fits : offset.toNat + 3 ≤ methodPayloadSize) :
    Store.Within offset.toNat (offset.toNat + 3)
      (.put offset.toNat byte :: memcpy host (offset + UInt64.ofNat 1).toNat source 2) := by
  have next := indexed_of_fits (show offset.toNat + 1 ≤ methodPayloadSize by omega)
  refine Store.within_cons.mpr ⟨by simp [Store.index], within_memcpy host ?_ ?_⟩
  · omega
  · omega

/-- Every branch writes inside the field of its node. -/
theorem encodeValue_within (host : Host) (node : VSSNode) (data : Datapoint) (fits : FieldFits node) :
    Store.Within node.byteOffset.toNat (node.byteOffset.toNat + fieldSize node)
      (encodeValue host node data) := by
  unfold FieldFits at fits
  unfold encodeValue
  unfold fieldSize at fits ⊢
  cases type : getDataType node.datatype with
  | bool | uint8 | int8 => simp [Store.index]
  | uint16 | int16 | uint32 => exact within_memcpy host (Nat.le_refl _) (Nat.le_refl _)
  | string => exact Store.within_putBytes (Nat.le_refl _) (by simp)
  | float => exact Store.within_putBytes (Nat.le_refl _) (by simp)
  | uint8Array =>
      simp only [type] at fits ⊢
      cases data.uint32Array with
      | none => simp
      | some values =>
          have looped : Store.Within node.byteOffset.toNat (node.byteOffset.toNat + node.length.toNat)
              ((List.range node.length.toNat).map fun step => .put
                (node.byteOffset + UInt64.ofNat step).toNat (uint32Element host values step).toUInt8) := by
            intro store member
            obtain ⟨step, below, rfl⟩ := List.mem_map.mp member
            rw [List.mem_range] at below
            rw [Store.index, indexed_of_fits (by omega)]
            omega
          refine Store.within_append.mpr ⟨looped, ?_⟩
          split
          case isTrue four =>
            -- a field of four bytes in a buffer of six holds both shifted bytes
            have length : node.length.toNat = 4 := by rw [four]; rfl
            simp only [length, methodPayloadSize] at fits
            simp only [Store.within_cons, Store.within_nil, Store.index, length, and_true]
            omega
          case isFalse => simp
  | uint16Array =>
      simp only [type] at fits ⊢
      cases data.uint32Array with
      | none => simp
      | some values =>
          exact within_byte_word host fits
  | int16Array =>
      simp only [type] at fits ⊢
      cases data.int32Array with
      | none => simp
      | some values =>
          have next := indexed_of_fits (show node.byteOffset.toNat + 2 ≤ methodPayloadSize by omega)
          refine Store.within_append.mpr ⟨within_memcpy host ?_ ?_, within_memcpy host ?_ ?_⟩
          all_goals omega
  | timestampArray =>
      simp only [type] at fits ⊢
      cases data.int32Array with
      | none => simp
      | some values =>
          exact within_byte_word host fits
  | _ => simp

/-- What a branch writes in its field does not depend on the buffer before it. -/
theorem encodeValue_contained (host : Host) (node : VSSNode) (data : Datapoint) (fits : FieldFits node) :
    Store.SelfContained (encodeValue host node data) := by
  apply encodeValue_selfContained
  intro store member
  exact Nat.lt_of_lt_of_le (encodeValue_within host node data fits store member).2 fits

/-- This is the light control of the light feeder, with a four-byte field. -/
def lightControl : VSSNode where
  name := "Vehicle.Body.Lights.ExteriorLightControl"
  datatype := "uint8[]"
  byteOffset := 0
  length := 4
  methodId := 8
  transformMapping := ∅

/-- The last two bytes of the buffer are left to a word. -/
def wordControl : VSSNode where
  name := "Vehicle.RequestorInControl"
  datatype := "uint16"
  byteOffset := 4
  length := 2
  methodId := 1
  transformMapping := ∅

end VehicleEdge.Someip
