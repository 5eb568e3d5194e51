import VehicleEdge.Someip.ByteOrder

/-
This file compares the transform entry that `on_someip_message` takes with the entry for the decoded value.
Every decoded value passes through one signed integer, and the entry is looked up by its decimal text.
-/

namespace VehicleEdge.Someip

open Sdv (Datapoint)

/-- A decoded value has a decimal text in the range of its own type, or is a text itself. -/
def IsText : Datapoint → String → Prop
  | .boolValue value, text => text = if value then "1" else "0"
  | .uint32Value value, text => text = toString (value.toNat : Int)
  | .int32Value value, text => text = toString value.toInt
  | .stringValue bytes, text => JsonValue.utf8 text = bytes
  | _, _ => False

/-- The datapoint that a transform gives for a text. -/
def transformed (node : VSSNode) (text : String) : Option Datapoint :=
  (node.transformMapping.lookup text).map createDatapoint

/-- The value is built from the entry for the decoded value. -/
def FromEntry (host : Host) (payload : Payload) (node : VSSNode) (value : Datapoint) : Prop :=
  ∃ decoded text, (decodeField host payload node).value = some decoded ∧ IsText decoded text ∧
    transformed node text = some value

/-- This is the 32-bit word of the field. -/
def fieldWord (payload : Payload) (node : VSSNode) : Nat := ofLittleEndian (fieldBytes payload node)

/-- The integer text selects the same datapoint as the decoded value. -/
def SameEntry (payload : Payload) (node : VSSNode) : Prop :=
  match getDataType node.datatype with
  | .uint8 | .int8 | .uint16 | .int16 => True
  -- a byte above one is a true value with a text of its own
  | .bool => fieldWord payload node ≤ 1 ∨
      transformed node (toString (fieldWord payload node : Int)) = transformed node "1"
  -- a word from 2 ^ 31 on has a negative text
  | .uint32 => fieldWord payload node < 2 ^ 31 ∨
      transformed node (toString ((fieldWord payload node : Int) - 2 ^ 32)) =
        transformed node (toString (fieldWord payload node : Int))
  -- every string has the text of the initial zero
  | .string => ∀ value, transformed node "0" = some value ↔
      ∃ text, JsonValue.utf8 text = fieldBytes payload node ∧ transformed node text = some value
  | _ => node.transformMapping.lookup "0" = none

section Entries

variable (host : Host) (payload : Payload) (node : VSSNode)

/-- A decoded value with one text is transformed exactly when the code selects the same datapoint. -/
theorem fromEntry_iff {decoded : Datapoint} {code key : String}
    (value : (decodeField host payload node).value = some decoded)
    (only : ∀ text, IsText decoded text ↔ text = key) :
    (∀ result, transformed node code = some result ↔ FromEntry host payload node result) ↔
      transformed node code = transformed node key := by
  have entry : ∀ result, FromEntry host payload node result ↔ transformed node key = some result := by
    intro result
    unfold FromEntry
    simp only [value, Option.some.injEq]
    constructor
    · rintro ⟨_, text, rfl, isText, entry⟩
      rwa [(only text).mp isText] at entry
    · intro entry
      exact ⟨decoded, key, rfl, (only key).mpr rfl, entry⟩
  simp only [entry]
  exact Option.ext_iff.symm

theorem toInt_toInt32 (word : UInt32) : word.toInt32.toInt = Int.bmod word.toNat (2 ^ 32) :=
  word.toBitVec.toInt_eq_toNat_bmod

/-- A word below the sign bit is its own signed value. -/
theorem toInt_toInt32_of_lt {word : UInt32} (small : word.toNat < 2 ^ 31) :
    word.toInt32.toInt = word.toNat := by
  rw [toInt_toInt32]
  exact Int.bmod_eq_of_le (by omega) (by omega)

/-- A word from the sign bit on is a negative signed value. -/
theorem toInt_toInt32_of_ge {word : UInt32} (large : 2 ^ 31 ≤ word.toNat) :
    word.toInt32.toInt = word.toNat - 2 ^ 32 := by
  have bound := word.toNat_lt
  rw [toInt_toInt32, Int.bmod_def]
  split <;> omega

/-- The entry that the code takes is that of the decoded value. -/
def TakesEntry : Prop :=
  ∀ result, transformed node (toString (decodeField host payload node).tmpValue.toInt) = some result ↔
    FromEntry host payload node result

/-- A signed value has the text of the integer itself. -/
theorem takesEntry_signed
    (value : (decodeField host payload node).value =
      some (.int32Value (decodeField host payload node).tmpValue)) :
    TakesEntry host payload node :=
  (fromEntry_iff host payload node value fun _ => Iff.rfl).mpr rfl

/-- An unsigned value has the text of the integer below the sign bit only. -/
theorem takesEntry_unsigned (word : UInt32)
    (value : (decodeField host payload node).value = some (.uint32Value word))
    (code : (decodeField host payload node).tmpValue = word.toInt32) :
    TakesEntry host payload node ↔ word.toNat < 2 ^ 31 ∨
      transformed node (toString ((word.toNat : Int) - 2 ^ 32)) =
        transformed node (toString (word.toNat : Int)) := by
  unfold TakesEntry
  rw [fromEntry_iff host payload node value fun _ => Iff.rfl, code]
  by_cases small : word.toNat < 2 ^ 31
  · rw [toInt_toInt32_of_lt small]
    exact iff_of_true rfl (.inl small)
  · rw [toInt_toInt32_of_ge (Nat.le_of_not_lt small), or_iff_right small]

/-- A boolean value has the text of the integer for zero and one only. -/
theorem takesEntry_bool (byte : UInt8)
    (value : (decodeField host payload node).value = some (.boolValue (byte.toUInt32.toInt32 != 0)))
    (code : (decodeField host payload node).tmpValue = byte.toUInt32.toInt32) :
    TakesEntry host payload node ↔ byte.toNat ≤ 1 ∨
      transformed node (toString (byte.toNat : Int)) = transformed node "1" := by
  have bound := byte.toNat_lt
  have small : byte.toUInt32.toNat < 2 ^ 31 := by
    rw [UInt8.toNat_toUInt32]
    omega
  unfold TakesEntry
  rw [fromEntry_iff host payload node value fun _ => Iff.rfl, code, toInt_toInt32_of_lt small,
    UInt8.toNat_toUInt32]
  by_cases low : byte.toNat ≤ 1
  · refine iff_of_true ?_ (.inl low)
    obtain zero | one : byte = 0 ∨ byte = 1 := by
      simp only [← UInt8.toNat_inj]
      exact Nat.le_one_iff_eq_zero_or_eq_one.mp low
    · subst zero
      rfl
    · subst one
      rfl
  · have isTrue : (byte.toUInt32.toInt32 != 0) = true := by
      rw [bne_iff_ne, ← Int32.toInt_inj.ne, toInt_toInt32_of_lt small, UInt8.toNat_toUInt32]
      exact fun zero => low (by simp at zero; omega)
    rw [isTrue, if_pos rfl, or_iff_right low]

/-- A small unsigned value always has the text of the integer. -/
theorem takesEntry_small (word : UInt32) (small : word.toNat < 2 ^ 31)
    (value : (decodeField host payload node).value = some (.uint32Value word))
    (code : (decodeField host payload node).tmpValue = word.toInt32) :
    TakesEntry host payload node :=
  (takesEntry_unsigned host payload node word value code).mpr (.inl small)

/-- A string is looked up as zero. -/
theorem takesEntry_string {bytes : List UInt8}
    (value : (decodeField host payload node).value = some (.stringValue bytes))
    (code : (decodeField host payload node).tmpValue = 0) :
    TakesEntry host payload node ↔ ∀ result, transformed node "0" = some result ↔
      ∃ text, JsonValue.utf8 text = bytes ∧ transformed node text = some result := by
  have entry : ∀ result, FromEntry host payload node result ↔
      ∃ text, JsonValue.utf8 text = bytes ∧ transformed node text = some result := by
    intro result
    unfold FromEntry
    simp only [value, Option.some.injEq]
    constructor
    · rintro ⟨_, text, rfl, entry⟩
      exact ⟨text, entry⟩
    · rintro ⟨text, entry⟩
      exact ⟨_, text, rfl, entry⟩
  have zero : toString (0 : Int32).toInt = "0" := rfl
  unfold TakesEntry
  simp only [entry, code, zero]

/-- A node without a branch must not be transformed at all. -/
theorem takesEntry_none (branch : decodable (getDataType node.datatype) = false) :
    TakesEntry host payload node ↔ node.transformMapping.lookup "0" = none := by
  have field := decodeField_of_not_decodable host payload node branch
  have zero : toString (0 : Int32).toInt = "0" := rfl
  unfold TakesEntry FromEntry
  simp only [field, zero]
  unfold transformed
  cases node.transformMapping.lookup "0" <;> simp

/-- The looked-up entry is the one of the decoded value exactly when both texts select the same datapoint. -/
theorem takesEntry_iff (notFloat : getDataType node.datatype ≠ .float) (fits : FitsPayload payload node) :
    TakesEntry host payload node ↔ SameEntry payload node := by
  have bytes := fieldBytes_eq host payload node fits
  unfold SameEntry fieldWord
  unfold fieldWidth at bytes
  cases type : getDataType node.datatype with
  | int8 | int16 =>
      exact iff_of_true (takesEntry_signed host payload node (by simp [decodeField, type])) trivial
  | uint8 =>
      have bound := (payload.read host node.byteOffset.toNat).toNat_lt
      refine iff_of_true (takesEntry_small host payload node
        (payload.read host node.byteOffset.toNat).toUInt32 ?_ ?_ ?_) trivial
      · rw [UInt8.toNat_toUInt32]
        omega
      · simp [decodeField, type]
      · simp [decodeField, type]
  | uint16 =>
      let word := (payload.read host (node.byteOffset + 1).toNat).toUInt16 |||
        ((payload.read host node.byteOffset.toNat).toUInt16 <<< 8)
      have bound := word.toNat_lt
      refine iff_of_true (takesEntry_small host payload node word.toUInt32 ?_ ?_ ?_) trivial
      · rw [UInt16.toNat_toUInt32]
        omega
      · simp only [decodeField, type, UInt32.toUInt32_toInt32, word]
      · simp only [decodeField, type, word]
  | bool =>
      simp only [type, List.range'_one, List.map_cons, List.map_nil] at bytes
      rw [takesEntry_bool host payload node (payload.read host node.byteOffset.toNat)
        (by simp only [decodeField, type]) (by simp only [decodeField, type]), bytes]
      simp [ofLittleEndian]
  | uint32 =>
      simp only [type] at bytes
      have length : (fieldBytes payload node).length = 4 := by rw [bytes]; simp
      have bound := ofLittleEndian_lt (fieldBytes payload node)
      rw [length] at bound
      rw [takesEntry_unsigned host payload node (UInt32.ofNat (ofLittleEndian (fieldBytes payload node)))
        (by simp only [decodeField, type, UInt32.toUInt32_toInt32, bytes])
        (by simp only [decodeField, type, bytes]), UInt32.toNat_ofNat_of_lt' bound]
  | string =>
      simp only [type] at bytes
      exact takesEntry_string host payload node (by simp only [decodeField, type, bytes])
        (by simp only [decodeField, type])
  | float => exact absurd type notFloat
  | _ => exact takesEntry_none host payload node (by rw [type]; rfl)

end Entries

/-- A message transforms a node exactly when the integer text and the decoded value select the same entry. -/
theorem event_transforms_are_exact (host : Host) (config : SomeIPConfig)
    (serviceId instanceId methodId : UInt16) (payload : Payload) (node : VSSNode)
    (addressed : node ∈ eventNodes config serviceId instanceId methodId)
    (transform : 0 < node.transformMapping.entries.length)
    (notFloat : getDataType node.datatype ≠ .float) (fits : FitsPayload payload node) :
    (∀ value, ⟨node, value⟩ ∈ (onSomeipMessage host config serviceId instanceId methodId payload).feeds ↔
        FromEntry host payload node value) ↔ SameEntry payload node := by
  rw [← takesEntry_iff host payload node notFloat fits]
  unfold TakesEntry
  simp only [mem_feeds, addressed, true_and, fedValue_transform host payload transform, transformed]

/-- The key permission of the immobilizer is fed by name. -/
def keyTransform : KeyedMap String JsonValue :=
  AList.insert "0" (.string "Default") (AList.insert "1" (.string "Release")
    (AList.insert "2147483648" (.string "Others") ∅))

def keyState : VSSNode := { keyPermission with transformMapping := keyTransform }

theorem event_transforms_are_exact_key :
    SameEntry ⟨[1, 0, 0, 0], by decide⟩ keyState ∧
      ∀ value, ⟨keyState, value⟩ ∈ (onSomeipMessage zeroHost (createEnvConfig
          [eventMapping 1999 802 keyState]) 1999 802 32895 ⟨[1, 0, 0, 0], by decide⟩).feeds ↔
        FromEntry zeroHost ⟨[1, 0, 0, 0], by decide⟩ keyState value := by
  have same : SameEntry ⟨[1, 0, 0, 0], by decide⟩ keyState := .inl (by decide)
  exact ⟨same, (event_transforms_are_exact zeroHost _ 1999 802 32895 ⟨[1, 0, 0, 0], by decide⟩ keyState
    (mem_eventNodes_single 1999 802 (by decide)) (by decide) (by decide) (by decide)).mpr same⟩

/-- The word 2147483648 has an entry, but it is looked up by its negative text. -/
theorem large_word_is_not_transformed :
    FromEntry zeroHost ⟨[0, 0, 0, 128], by decide⟩ keyState (createDatapoint (.string "Others")) ∧
      ⟨keyState, createDatapoint (.string "Others")⟩ ∉
        (onSomeipMessage zeroHost (createEnvConfig [eventMapping 1999 802 keyState]) 1999 802 32895
          ⟨[0, 0, 0, 128], by decide⟩).feeds := by
  constructor
  · have isText : IsText (.uint32Value 2147483648) "2147483648" := by
      unfold IsText
      decide +kernel
    exact ⟨.uint32Value 2147483648, "2147483648", by decide, isText, by decide⟩
  · intro fed
    have value := ((mem_feeds zeroHost _).mp fed).2
    have missing : fedValue zeroHost ⟨[0, 0, 0, 128], by decide⟩ keyState = none := by decide +kernel
    rw [missing] at value
    cases value

end VehicleEdge.Someip
