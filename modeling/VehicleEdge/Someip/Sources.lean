import VehicleEdge.Someip.Fields

/-
This file traces what `on_actuator_change` reads from a target value, and compares it with what the value
holds.
-/

namespace VehicleEdge.Someip

open Kuksa (Datapoint)

/-- A source is read by an index of an array field, or by the size of a copy. -/
inductive SourceRead where
  | element (index size : Nat)
  | copy (count held : Nat)
  deriving DecidableEq

/-- The read stays in its source. -/
def SourceRead.Within : SourceRead → Prop
  | .element index size => index < size
  | .copy count held => count ≤ held

instance : DecidablePred SourceRead.Within
  | .element _ _ => inferInstanceAs (Decidable (_ < _))
  | .copy _ _ => inferInstanceAs (Decidable (_ ≤ _))

/-- A computation keeps the reads of its sources beside its result. -/
structure Traced (Result : Type) where
  result : Result
  reads : List SourceRead

namespace Traced

variable {Result Next Item : Type}

instance : Monad Traced where
  pure result := ⟨result, []⟩
  bind traced next := ⟨(next traced.result).result, traced.reads ++ (next traced.result).reads⟩

/-- A loop makes one step for each item. -/
def each (items : List Item) (step : Item → Traced Result) : Traced (List Result) :=
  ⟨items.map fun item => (step item).result, items.flatMap fun item => (step item).reads⟩

/-- All reads stay in their sources. -/
def Within (traced : Traced Result) : Prop := ∀ read ∈ traced.reads, read.Within

/-- While the reads stay in their sources, the other computation is the same. -/
def Agrees (traced other : Traced Result) : Prop := traced.Within → other = traced

@[simp] theorem result_pure (result : Result) : (pure result : Traced Result).result = result := rfl

@[simp] theorem result_bind (traced : Traced Result) (next : Result → Traced Next) :
    (traced >>= next).result = (next traced.result).result := rfl

@[simp] theorem result_each (items : List Item) (step : Item → Traced Result) :
    (each items step).result = items.map fun item => (step item).result := rfl

@[simp] theorem within_pure (result : Result) : (pure result : Traced Result).Within :=
  List.forall_mem_nil _

@[simp] theorem within_bind (traced : Traced Result) (next : Result → Traced Next) :
    (traced >>= next).Within ↔ traced.Within ∧ (next traced.result).Within :=
  List.forall_mem_append

@[simp] theorem within_each (items : List Item) (step : Item → Traced Result) :
    (each items step).Within ↔ ∀ item ∈ items, (step item).Within := by
  unfold Within each
  simp only [List.mem_flatMap, forall_exists_index, and_imp]
  exact ⟨fun within item member read inReads => within read item member inReads,
    fun within read item member inReads => within item member read inReads⟩

theorem Agrees.bind {traced other : Traced Result} {next otherNext : Result → Traced Next}
    (first : traced.Agrees other) (then_ : ∀ result, (next result).Agrees (otherNext result)) :
    (traced >>= next).Agrees (other >>= otherNext) := by
  intro within
  rw [within_bind] at within
  rw [first within.1]
  have same := then_ traced.result within.2
  show Traced.mk _ _ = Traced.mk _ _
  rw [same]

theorem Agrees.each {items : List Item} {step otherStep : Item → Traced Result}
    (steps : ∀ item, (step item).Agrees (otherStep item)) :
    (each items step).Agrees (each items otherStep) := by
  intro within
  rw [within_each] at within
  have same item (member : item ∈ items) := steps item (within item member)
  unfold Traced.each
  congr 1
  · exact List.map_congr_left fun item member => by rw [same item member]
  · exact List.flatMap_congr fun item member => by rw [same item member]

end Traced

section Encoder

variable (host : Host)

/-- A copy reads its source from the start. -/
def tracedMemcpy (destination : Nat) (source : List UInt8) (size : Nat) : Traced (List Store) :=
  ⟨memcpy host destination source size, [.copy size source.length]⟩

def tracedUint32 (values : List UInt32) (index : Nat) : Traced UInt32 :=
  ⟨uint32Element host values index, [.element index values.length]⟩

def tracedInt32 (values : List Int32) (index : Nat) : Traced Int32 :=
  ⟨int32Element host values index, [.element index values.length]⟩

/-- Each JSON type is copied from a local of its own size, and a serialized text from its characters. -/
def tracedJson (payload : Nat) (value : JsonValue) (size : Nat) : Traced (List Store) :=
  match value with
  | .boolean flag => tracedMemcpy host payload [if flag then 1 else 0] size
  | .string text => tracedMemcpy host payload (JsonValue.utf8 text ++ [0]) size
  | .int _ | .uint _ | .real _ => tracedMemcpy host payload (numberBytes value) size
  | .null | .array _ | .object _ =>
      let serializedJson := host.serialize value
      if serializedJson.length > size then pure []
      else
        ⟨Store.putBytes payload serializedJson, [.copy serializedJson.length (serializedJson.length + 1)]⟩

/-- A scalar is copied from a local, and an array field is read element by element. -/
def tracedValue (node : VSSNode) (data : Datapoint) : Traced (List Store) :=
  let offset := node.byteOffset.toNat
  let indexed (step : Nat) := (node.byteOffset + UInt64.ofNat step).toNat
  match getDataType node.datatype with
  | .bool => pure [.put offset (if data.bool_ then 1 else 0)]
  | .uint8 => pure [.put offset data.uint32.toUInt8]
  | .int8 => pure [.put offset data.int32.toInt8.toUInt8]
  | .uint8Array =>
      match data.uint32Array with
      | some values => do
          let stores ← Traced.each (List.range node.length.toNat) fun step => do
            return .put (indexed step) (← tracedUint32 host values step).toUInt8
          return stores ++ if node.length = 4 then [.move 3 2, .put 2 0] else []
      | none => pure []
  | .uint16 =>
      tracedMemcpy host offset (littleEndian 2 data.uint32.toUInt16.toNat) node.length.toNat
  | .uint16Array =>
      match data.uint32Array with
      | some values => do
          let first ← tracedUint32 host values 0
          let element ← tracedUint32 host values 1
          -- two bytes of the 32-bit element are copied
          let swapped := (element >>> 8) ||| (element <<< 8)
          let copied ← tracedMemcpy host (indexed 1) (littleEndian 4 swapped.toNat) 2
          return .put offset first.toUInt8 :: copied
      | none => pure []
  | .int16 =>
      tracedMemcpy host offset (littleEndian 2 data.int32.toUInt32.toUInt16.toNat) node.length.toNat
  | .int16Array =>
      match data.int32Array with
      | some values => do
          let first := swapBytes (← tracedInt32 host values 0).toUInt32.toUInt16
          let copied ← tracedMemcpy host offset (littleEndian 2 first.toNat) 2
          let second := swapBytes (← tracedInt32 host values 1).toUInt32.toUInt16
          let rest ← tracedMemcpy host (indexed 2) (littleEndian 2 second.toNat) 2
          return copied ++ rest
      | none => pure []
  | .timestampArray =>
      match data.int32Array with
      | some values => do
          let first ← tracedInt32 host values 0
          let second := swapBytes (← tracedInt32 host values 1).toUInt32.toUInt16
          let copied ← tracedMemcpy host (indexed 1) (littleEndian 2 second.toNat) 2
          return .put offset first.toInt8.toUInt8 :: copied
      | none => pure []
  | .uint32 => tracedMemcpy host offset (littleEndian 4 data.uint32.toNat) node.length.toNat
  | .float => pure (floatToBytes data.float_ offset)
  -- the copy is compared with the characters and the terminator of the text
  | .string =>
      ⟨Store.putBytes offset ((List.range node.length.toNat).map (host.stringObject data.string)),
        [.copy node.length.toNat (data.string.length + 1)]⟩
  | _ => pure []

/-- The node of a named target reads nothing when its length is zero. -/
def tracedNode (node : VSSNode) (data : Datapoint) : Traced (List Store) :=
  if 0 < node.length then
    if 0 < node.transformMapping.entries.length then
      match node.transformMapping.lookup (transformKey data) with
      | some value => tracedJson host node.byteOffset.toNat value node.length.toNat
      | none => pure []
    else tracedValue host node data
  else pure []

theorem tracedJson_result (payload : Nat) (value : JsonValue) (size : Nat) :
    (tracedJson host payload value size).result = copyJsonValueType host payload value size := by
  unfold tracedJson copyJsonValueType
  cases value with
  | boolean | string | int | uint | real => rfl
  | null | array | object =>
      dsimp only
      split <;> rfl

theorem tracedValue_result (node : VSSNode) (data : Datapoint) :
    (tracedValue host node data).result = encodeValue host node data := by
  unfold tracedValue encodeValue
  cases getDataType node.datatype with
  | uint8Array | uint16Array => cases data.uint32Array <;> rfl
  | int16Array | timestampArray => cases data.int32Array <;> rfl
  | _ => rfl

/-- The traced encoder makes the stores of `encodeNode`. -/
theorem tracedNode_result (node : VSSNode) (data : Datapoint) :
    (tracedNode host node data).result = encodeNode host node data := by
  unfold tracedNode encodeNode
  split
  case isTrue =>
    split
    case isTrue =>
      cases node.transformMapping.lookup (transformKey data) with
      | none => rfl
      | some value => exact tracedJson_result host _ value _
    case isFalse => exact tracedValue_result host node data
  case isFalse => rfl

/-- A node without a target value reads nothing. -/
def nodeReads (targetValues : ActuatorValues) (entry : SOMEIPConfigdata × VSSNode) : List SourceRead :=
  match targetValues.lookup entry.2.name with
  | none => []
  | some data => (tracedNode host entry.2 data).reads

@[simp] theorem tracedMemcpy_within (destination : Nat) (source : List UInt8) (size : Nat) :
    (tracedMemcpy host destination source size).Within ↔ size ≤ source.length :=
  List.forall_mem_singleton

@[simp] theorem tracedUint32_within (values : List UInt32) (index : Nat) :
    (tracedUint32 host values index).Within ↔ index < values.length :=
  List.forall_mem_singleton

@[simp] theorem tracedInt32_within (values : List Int32) (index : Nat) :
    (tracedInt32 host values index).Within ↔ index < values.length :=
  List.forall_mem_singleton

end Encoder

/-- The number is copied from an `int` or an `unsigned int`. -/
def JsonValue.Short (value : JsonValue) : Prop :=
  ∃ number, value.integralValue = some number ∧ -2 ^ 31 ≤ number ∧ number < 2 ^ 32

/-- A transform value is as long as the field: a boolean fills one byte, a text its characters and the
terminator, and a number of 32 bits four bytes. -/
def LongEnough (value : JsonValue) (size : Nat) : Prop :=
  match value with
  | .boolean _ => size ≤ 1
  | .string text => size ≤ (JsonValue.utf8 text).length + 1
  | .int _ | .uint _ | .real _ => value.Short → size ≤ 4
  | .null | .array _ | .object _ => True

/-- The length of the field suits its datatype and the array or the text of the target. -/
def Suits (node : VSSNode) (data : Datapoint) : Prop :=
  if 0 < node.transformMapping.entries.length then
    ∀ value, node.transformMapping.lookup (transformKey data) = some value →
      LongEnough value node.length.toNat
  else
    match getDataType node.datatype with
    | .uint8Array => ∀ values, data.uint32Array = some values → node.length.toNat ≤ values.length
    | .uint16 | .int16 => node.length ≤ 2
    | .uint16Array => ∀ values, data.uint32Array = some values → 2 ≤ values.length
    | .int16Array | .timestampArray => ∀ values, data.int32Array = some values → 2 ≤ values.length
    | .uint32 => node.length ≤ 4
    | .string => node.length.toNat ≤ data.string.length + 1
    | _ => True

theorem length_numberBytes_short {value : JsonValue} (short : value.Short) :
    (numberBytes value).length = 4 := by
  obtain ⟨number, integral, low, high⟩ := short
  unfold numberBytes
  rw [integral]
  dsimp only
  split
  · exact length_littleEndian 4 _
  · rw [if_pos (by omega)]
    exact length_littleEndian 4 _

theorem far_of_long {value : JsonValue} (long : ¬ value.Short) {number : Int}
    (integral : value.integralValue = some number) : number < -2 ^ 31 ∨ 2 ^ 32 ≤ number := by
  by_contra near
  exact long ⟨number, integral, by omega, by omega⟩

/-- A longer integer is copied from a 64-bit local. -/
theorem length_numberBytes_long {value : JsonValue} (long : ¬ value.Short) {number : Int}
    (integral : value.integralValue = some number) (low : -2 ^ 63 ≤ number) (high : number < 2 ^ 64) :
    (numberBytes value).length = 8 := by
  have far := far_of_long long integral
  unfold numberBytes
  rw [integral]
  dsimp only
  rw [if_neg (by omega), if_neg (by omega)]
  split
  · exact length_littleEndian 8 _
  · rw [if_pos (by omega)]
    exact length_littleEndian 8 _

/-- A real number that is not a short integer is copied from a 64-bit local. -/
theorem length_numberBytes_real {bits : UInt64} (long : ¬ (JsonValue.real bits).Short) :
    (numberBytes (.real bits)).length = 8 := by
  unfold numberBytes
  dsimp only
  cases integral : (JsonValue.real bits).integralValue with
  | none => exact length_littleEndian 8 _
  | some number =>
      have far := far_of_long long integral
      dsimp only
      rw [if_neg (by omega), if_neg (by omega)]
      split
      · exact length_littleEndian 8 _
      · split <;> exact length_littleEndian 8 _

/-- A number is copied from its local exactly when the size is four or the number is long. -/
theorem number_within {value : JsonValue} {size : Nat} (narrow : size ≤ 8)
    (long : ¬ value.Short → (numberBytes value).length = 8) :
    size ≤ (numberBytes value).length ↔ (value.Short → size ≤ 4) := by
  by_cases short : value.Short
  · rw [length_numberBytes_short short]
    simp only [short, true_imp_iff]
  · rw [long short]
    simp only [short, false_imp_iff, narrow]

theorem tracedJson_within (host : Host) (payload : Nat) (value : JsonValue) {size : Nat}
    (narrow : copyWidth host value size ≤ 8) :
    (tracedJson host payload value size).Within ↔ LongEnough value size := by
  cases value with
  | boolean | string => simp [tracedJson, LongEnough]
  | int signed =>
      simp only [tracedJson, LongEnough, tracedMemcpy_within]
      have low := signed.le_toInt
      have high := signed.toInt_lt
      exact number_within narrow fun long => length_numberBytes_long long rfl (by omega) (by omega)
  | uint unsigned =>
      simp only [tracedJson, LongEnough, tracedMemcpy_within]
      have high := unsigned.toNat_lt
      exact number_within narrow fun long => length_numberBytes_long long rfl (by omega) (by omega)
  | real bits =>
      simp only [tracedJson, LongEnough, tracedMemcpy_within]
      exact number_within narrow length_numberBytes_real
  | null | array | object =>
      simp only [tracedJson, LongEnough, iff_true]
      split <;> simp [Traced.Within, SourceRead.Within, pure]

theorem tracedValue_within (host : Host) {node : VSSNode} (data : Datapoint) (nonempty : 0 < node.length)
    (plain : ¬ 0 < node.transformMapping.entries.length) :
    (tracedValue host node data).Within ↔ Suits node data := by
  have positive : 0 < node.length.toNat := nonempty
  unfold tracedValue Suits
  rw [if_neg plain]
  cases getDataType node.datatype with
  | uint8Array =>
      dsimp only
      cases data.uint32Array with
      | none => simp
      | some values =>
          simp only [Traced.within_bind, Traced.within_each, Traced.within_pure, tracedUint32_within,
            List.mem_range, and_true, Option.some.injEq, forall_eq']
          constructor
          · intro within
            have last := within (node.length.toNat - 1) (by omega)
            omega
          · intro enough step below
            omega
  | uint16 | int16 | uint32 =>
      simp only [tracedMemcpy_within, length_littleEndian, UInt8.le_iff_toNat_le]
      rfl
  | string => simp [Traced.Within, SourceRead.Within]
  | uint16Array =>
      dsimp only
      cases data.uint32Array with
      | none => simp
      | some values =>
          simp only [Traced.within_bind, Traced.within_pure, tracedUint32_within, tracedMemcpy_within,
            length_littleEndian, Nat.reduceLeDiff, and_true, Option.some.injEq, forall_eq']
          omega
  | int16Array | timestampArray =>
      dsimp only
      cases data.int32Array with
      | none => simp
      | some values =>
          simp only [Traced.within_bind, Traced.within_pure, tracedInt32_within, tracedMemcpy_within,
            length_littleEndian, Nat.le_refl, and_true, true_and, Option.some.injEq, forall_eq']
          omega
  | _ => simp

theorem tracedNode_within (host : Host) {node : VSSNode} {data : Datapoint}
    (fits : writtenWidth host node data = 0 ∨
      node.byteOffset.toNat + writtenWidth host node data ≤ methodPayloadSize) :
    (tracedNode host node data).Within ↔ (0 < node.length → Suits node data) := by
  unfold tracedNode
  split
  case isTrue nonempty =>
    simp only [nonempty, true_imp_iff]
    split
    case isTrue transform =>
      unfold Suits
      rw [if_pos transform]
      cases found : node.transformMapping.lookup (transformKey data) with
      | none => simp
      | some value =>
          have narrow : copyWidth host value node.length.toNat ≤ 8 := by
            simp only [writtenWidth, nonempty, transform, found, if_true, methodPayloadSize] at fits
            omega
          simp only [Option.some.injEq, forall_eq']
          exact tracedJson_within host _ value narrow
    case isFalse plain => exact tracedValue_within host data nonempty plain
  case isFalse empty => simp [empty]

theorem nodeReads_within (host : Host) {targetValues : ActuatorValues} {entry : SOMEIPConfigdata × VSSNode}
    (fits : FitsBuffer host targetValues entry.2) :
    (∀ read ∈ nodeReads host targetValues entry, read.Within) ↔
      ∀ data, targetValues.lookup entry.2.name = some data → 0 < entry.2.length → Suits entry.2 data := by
  unfold nodeReads
  cases target : targetValues.lookup entry.2.name with
  | none => simp
  | some data =>
      simp only [Option.some.injEq, forall_eq']
      exact tracedNode_within host (fits data target)

section Connection

/-- The open bytes of the environment are the same on two hosts except past the end of a source. -/
structure SameSources (host other : Host) : Prop where
  stringObject : other.stringObject = host.stringObject
  serialize : other.serialize = host.serialize

variable (host other : Host)

theorem agrees_memcpy (destination : Nat) (source : List UInt8) (size : Nat) :
    (tracedMemcpy host destination source size).Agrees (tracedMemcpy other destination source size) := by
  intro within
  rw [tracedMemcpy_within] at within
  unfold tracedMemcpy memcpy copiedBytes
  congr 2
  apply List.map_congr_left
  intro lane below
  have inside : lane < source.length := by
    rw [List.mem_range] at below
    omega
  simp [inside]

theorem agrees_uint32 (values : List UInt32) (index : Nat) :
    (tracedUint32 host values index).Agrees (tracedUint32 other values index) := by
  intro within
  rw [tracedUint32_within] at within
  simp [tracedUint32, uint32Element, within]

theorem agrees_int32 (values : List Int32) (index : Nat) :
    (tracedInt32 host values index).Agrees (tracedInt32 other values index) := by
  intro within
  rw [tracedInt32_within] at within
  simp [tracedInt32, int32Element, within]

theorem agrees_same {Result : Type} (traced : Traced Result) : traced.Agrees traced := fun _ => rfl

variable {host other}

theorem agrees_json (same : SameSources host other) (payload : Nat) (value : JsonValue) (size : Nat) :
    (tracedJson host payload value size).Agrees (tracedJson other payload value size) := by
  unfold tracedJson
  cases value with
  | boolean | string | int | uint | real => exact agrees_memcpy host other _ _ _
  | null | array | object =>
      rw [same.serialize]
      exact agrees_same _

theorem agrees_value (same : SameSources host other) (node : VSSNode) (data : Datapoint) :
    (tracedValue host node data).Agrees (tracedValue other node data) := by
  unfold tracedValue
  cases getDataType node.datatype with
  | uint16 | int16 | uint32 => exact agrees_memcpy host other _ _ _
  | uint8Array =>
      cases data.uint32Array with
      | none => exact agrees_same _
      | some values =>
          refine Traced.Agrees.bind (Traced.Agrees.each fun step => ?_) fun stores => agrees_same _
          exact (agrees_uint32 host other values step).bind fun element => agrees_same _
  | uint16Array =>
      cases data.uint32Array with
      | none => exact agrees_same _
      | some values =>
          refine (agrees_uint32 host other values 0).bind fun first => ?_
          refine (agrees_uint32 host other values 1).bind fun element => ?_
          exact (agrees_memcpy host other _ _ _).bind fun copied => agrees_same _
  | int16Array =>
      cases data.int32Array with
      | none => exact agrees_same _
      | some values =>
          refine (agrees_int32 host other values 0).bind fun first => ?_
          refine (agrees_memcpy host other _ _ _).bind fun copied => ?_
          refine (agrees_int32 host other values 1).bind fun second => ?_
          exact (agrees_memcpy host other _ _ _).bind fun rest => agrees_same _
  | timestampArray =>
      cases data.int32Array with
      | none => exact agrees_same _
      | some values =>
          refine (agrees_int32 host other values 0).bind fun first => ?_
          refine (agrees_int32 host other values 1).bind fun second => ?_
          exact (agrees_memcpy host other _ _ _).bind fun copied => agrees_same _
  | string =>
      rw [same.stringObject]
      exact agrees_same _
  | _ => exact agrees_same _

/-- Reads within their sources keep what lies past the sources out of the request. -/
theorem encodeNode_of_within (same : SameSources host other) {node : VSSNode} {data : Datapoint}
    (within : (tracedNode host node data).Within) :
    encodeNode other node data = encodeNode host node data := by
  have agrees : (tracedNode host node data).Agrees (tracedNode other node data) := by
    unfold tracedNode
    split
    case isTrue =>
      split
      case isTrue =>
        cases node.transformMapping.lookup (transformKey data) with
        | none => exact agrees_same _
        | some value => exact agrees_json same _ value _
      case isFalse => exact agrees_value same node data
    case isFalse => exact agrees_same _
  rw [← tracedNode_result, ← tracedNode_result, agrees within]

/-- A call whose reads stay in their sources sends the same requests whatever lies past the sources. -/
theorem onActuatorChange_of_within (same : SameSources host other) (client : Bool) (targetValues : ActuatorValues)
    (vssMap : List VSSConfigInfo)
    (within : ∀ entry ∈ methodNodes vssMap, ∀ read ∈ nodeReads host targetValues entry, read.Within) :
    onActuatorChange other client targetValues vssMap = onActuatorChange host client targetValues vssMap := by
  rw [onActuatorChange_eq, onActuatorChange_eq]
  refine List.foldl_ext _ _ _ fun frame entry member => ?_
  unfold visitEntry visitActuator
  cases target : targetValues.lookup entry.2.name with
  | none => rfl
  | some data =>
      have reads : (tracedNode host entry.2 data).Within := by
        have own := within entry member
        rwa [nodeReads, target] at own
      dsimp only
      rw [encodeNode_of_within same reads]

end Connection

/-- Every read of a method node that fits the buffer stays in its source exactly when the length suits the
datatype and the target. -/
theorem encoder_reads_its_value (host : Host) (targetValues : ActuatorValues) (vssMap : List VSSConfigInfo) :
    (∀ entry ∈ methodNodes vssMap, FitsBuffer host targetValues entry.2 →
        ∀ read ∈ nodeReads host targetValues entry, read.Within) ↔
      ∀ entry ∈ methodNodes vssMap, FitsBuffer host targetValues entry.2 →
        ∀ data, targetValues.lookup entry.2.name = some data → 0 < entry.2.length →
          Suits entry.2 data := by
  constructor
  · intro within entry member fits
    exact (nodeReads_within host fits).mp (within entry member fits)
  · intro suits entry member fits
    exact (nodeReads_within host fits).mpr (suits entry member fits)

def lightMapping : VSSConfigInfo where
  metaData := ⟨"Method", 18464, 1, 8, 0, 0, 1, 0⟩
  vssNodes := [lightControl]

/-- A client sets the light with two elements. -/
def shortLight : ActuatorValues :=
  collectChanges [("Vehicle.Body.Lights.ExteriorLightControl", some (.uint32ArrayValue [1, 2]))]

theorem shortLight_fits : FitsBuffer zeroHost shortLight lightControl := by
  intro data target
  cases target
  exact Or.inr (by decide)

/-- The four elements of the field are read from an array of two. -/
theorem short_array_is_overread :
    ¬ ∀ entry ∈ methodNodes [lightMapping], FitsBuffer zeroHost shortLight entry.2 →
      ∀ read ∈ nodeReads zeroHost shortLight entry, read.Within := by
  intro within
  have member : (lightMapping.metaData, lightControl) ∈ methodNodes [lightMapping] := by
    exact List.mem_singleton_self _
  have last : SourceRead.element 3 2 ∈
      nodeReads zeroHost shortLight (lightMapping.metaData, lightControl) := by
    decide
  exact absurd (within _ member shortLight_fits _ last) (by decide)

end VehicleEdge.Someip
