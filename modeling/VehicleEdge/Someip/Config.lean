import Mathlib.Algebra.Order.Ring.Nat
import VehicleEdge.Broker.Types
import VehicleEdge.Library.KeyedMap

/-
This file contains the mapping configuration of the SOME/IP feeder: its JSON values, its nodes, and
the signal type of each node.
-/

namespace VehicleEdge.Someip

/-- A binary format keeps a sign, an exponent, and a fraction in one word. -/
structure BinaryFormat where
  exponentBits : Nat
  fractionBits : Nat

namespace BinaryFormat

def single : BinaryFormat := ⟨8, 23⟩

def double : BinaryFormat := ⟨11, 52⟩

def negative (format : BinaryFormat) (bits : Nat) : Bool :=
  bits / 2 ^ (format.exponentBits + format.fractionBits) % 2 == 1

def exponent (format : BinaryFormat) (bits : Nat) : Nat :=
  bits / 2 ^ format.fractionBits % 2 ^ format.exponentBits

/-- The largest exponent is kept for infinities and not-a-number patterns. -/
def finite (format : BinaryFormat) (bits : Nat) : Bool :=
  format.exponent bits + 1 < 2 ^ format.exponentBits

/-- A subnormal pattern has no implicit leading bit. -/
def significand (format : BinaryFormat) (bits : Nat) : Nat :=
  bits % 2 ^ format.fractionBits + if format.exponent bits = 0 then 0 else 2 ^ format.fractionBits

/-- The value of a finite pattern is its significand times two to this power. -/
def scale (format : BinaryFormat) (bits : Nat) : Int :=
  max (format.exponent bits) 1 - (2 ^ (format.exponentBits - 1) - 1 : Nat) - format.fractionBits

def signed (format : BinaryFormat) (bits magnitude : Nat) : Int :=
  if format.negative bits then -magnitude else magnitude

/-- A conversion to an integer drops the fraction of a finite value. -/
def truncate (format : BinaryFormat) (bits : Nat) : Option Int :=
  if format.finite bits then
    some (format.signed bits
      (format.significand bits * 2 ^ (format.scale bits).toNat / 2 ^ (-format.scale bits).toNat))
  else none

/-- A finite value is integral when its fraction is zero. -/
def integral (format : BinaryFormat) (bits : Nat) : Option Int :=
  if format.significand bits % 2 ^ (-format.scale bits).toNat = 0 then format.truncate bits else none

end BinaryFormat

/-- These are the JSON values of the configuration, with the three number types of the JSON library. -/
inductive JsonValue where
  | null
  | int (value : Int64)
  | uint (value : UInt64)
  | real (bits : UInt64)
  | string (text : String)
  | boolean (value : Bool)
  | array (values : List JsonValue)
  | object (members : List (String × JsonValue))

namespace JsonValue

/-- The integer tests accept a real value without a fraction. -/
def integralValue : JsonValue → Option Int
  | .int value => some value.toInt
  | .uint value => some value.toNat
  | .real bits => BinaryFormat.double.integral bits.toNat
  | _ => none

/-- The text of a JSON string is copied as its UTF-8 bytes. -/
def utf8 (text : String) : List UInt8 := text.toByteArray.data.toList

end JsonValue

/-- A node maps one range of payload bytes to one signal. -/
structure VSSNode where
  name : String
  datatype : String
  byteOffset : UInt64
  length : UInt8
  methodId : UInt16
  transformMapping : KeyedMap String JsonValue

/-- This is the node with its field at the start of the payload. -/
def VSSNode.atStart (node : VSSNode) : VSSNode := { node with byteOffset := 0 }

/-- The meta data of a mapping names its service. -/
structure SOMEIPConfigdata where
  serviceType : String
  serviceID : UInt16
  instanceID : UInt16
  methodID : UInt16
  eventID : UInt16
  eventGroup : UInt16
  majorVersion : UInt8
  minorVersion : UInt32

structure VSSConfigInfo where
  metaData : SOMEIPConfigdata
  vssNodes : List VSSNode

/-- The request part of the configuration starts with the invalid id zero. -/
structure SomeIPRequestConfig where
  useReq : Bool := false
  service : UInt16 := 0x0000
  instance_ : UInt16 := 0x0000
  method : UInt16 := 0x0000
  serviceMajor : UInt8 := 0xFF
  serviceMinor : UInt32 := 0xFFFFFFFF

/-- The event part of the configuration starts with the sample ids. -/
structure SomeIPConfig where
  service : UInt16 := 0x1234
  instance_ : UInt16 := 0x5678
  eventGroup : UInt16 := 0x4465
  event : UInt16 := 0x8000
  serviceMajor : UInt8 := 0xFF
  serviceMinor : UInt32 := 0xFFFFFFFF
  req : SomeIPRequestConfig := {}
  vssMap : List VSSConfigInfo := []

/-- The ids of a mapping replace those of every earlier mapping of the same service type. -/
def SomeIPConfig.adopt (config : SomeIPConfig) (mapping : VSSConfigInfo) : SomeIPConfig :=
  let metaData := mapping.metaData
  if metaData.serviceType = "Event" then
    { config with
      service := metaData.serviceID
      instance_ := metaData.instanceID
      eventGroup := metaData.eventGroup
      event := metaData.eventID
      serviceMajor := metaData.majorVersion
      serviceMinor := metaData.minorVersion }
  else if metaData.serviceType = "Method" then
    { config with
      req := { config.req with
        service := metaData.serviceID
        instance_ := metaData.instanceID
        serviceMajor := metaData.majorVersion
        serviceMinor := metaData.minorVersion
        method := metaData.methodID } }
  else config

/-- Only an event mapping changes the ids of the event part. -/
theorem adopt_ids (config : SomeIPConfig) (mapping : VSSConfigInfo) :
    let event := mapping.metaData.serviceType = "Event"
    (config.adopt mapping).service = (if event then mapping.metaData.serviceID else config.service) ∧
      (config.adopt mapping).instance_ =
        (if event then mapping.metaData.instanceID else config.instance_) ∧
      (config.adopt mapping).event = if event then mapping.metaData.eventID else config.event := by
  unfold SomeIPConfig.adopt
  dsimp only
  split
  · exact ⟨rfl, rfl, rfl⟩
  · split <;> exact ⟨rfl, rfl, rfl⟩

theorem foldl_adopt_vssMap (mappings : List VSSConfigInfo) (config : SomeIPConfig) :
    (mappings.foldl SomeIPConfig.adopt config).vssMap = config.vssMap := by
  induction mappings generalizing config with
  | nil => rfl
  | cons mapping mappings ih =>
      rw [List.foldl_cons, ih]
      unfold SomeIPConfig.adopt
      dsimp only
      split
      · rfl
      · split <;> rfl

/-- An id of the event part is that of the last event mapping. -/
theorem foldl_adopt_id {field : SomeIPConfig → UInt16} {id : SOMEIPConfigdata → UInt16}
    (adopts : ∀ config mapping, field (config.adopt mapping) =
      if mapping.metaData.serviceType = "Event" then id mapping.metaData else field config)
    (mappings : List VSSConfigInfo) (config : SomeIPConfig) :
    field (mappings.foldl SomeIPConfig.adopt config) =
      (mappings.filter fun mapping => mapping.metaData.serviceType = "Event").foldl
        (fun _ mapping => id mapping.metaData) (field config) := by
  induction mappings generalizing config with
  | nil => rfl
  | cons mapping mappings ih =>
      rw [List.foldl_cons, ih, adopts, List.filter_cons]
      by_cases event : mapping.metaData.serviceType = "Event" <;> simp [event]

/-- The mappings of the configuration file are adopted in file order. -/
def createEnvConfig (vssMap : List VSSConfigInfo) : SomeIPConfig :=
  vssMap.foldl SomeIPConfig.adopt { req := { useReq := true }, vssMap := vssMap }

/-- Every datatype has two spellings, and any other text is read as a string type. -/
def getDataType (dataType : String) : Sdv.DataType :=
  if dataType = "BOOL" ∨ dataType = "bool" then .bool
  else if dataType = "STRING" ∨ dataType = "string" then .string
  else if dataType = "FLOAT" ∨ dataType = "float" then .float
  else if dataType = "UINT32" ∨ dataType = "uint32" then .uint32
  else if dataType = "UINT8" ∨ dataType = "uint8" then .uint8
  else if dataType = "INT8" ∨ dataType = "int8" then .int8
  else if dataType = "UINT16" ∨ dataType = "uint16" then .uint16
  else if dataType = "INT16" ∨ dataType = "int16" then .int16
  else if dataType = "UINT8[]" ∨ dataType = "uint8[]" then .uint8Array
  else if dataType = "UINT16[]" ∨ dataType = "uint16[]" then .uint16Array
  else if dataType = "INT16[]" ∨ dataType = "int16[]" then .int16Array
  else if dataType = "INT8_UINT16" ∨ dataType = "int8_uint16" then .timestampArray
  else .string

/-- With one event mapping the configuration has its ids. -/
theorem createEnvConfig_event {vssMap : List VSSConfigInfo} {mapping : VSSConfigInfo}
    (single : (vssMap.filter fun mapping => mapping.metaData.serviceType = "Event") = [mapping]) :
    (createEnvConfig vssMap).service = mapping.metaData.serviceID ∧
      (createEnvConfig vssMap).instance_ = mapping.metaData.instanceID ∧
      (createEnvConfig vssMap).event = mapping.metaData.eventID := by
  unfold createEnvConfig
  rw [foldl_adopt_id (fun config mapping => (adopt_ids config mapping).1),
    foldl_adopt_id (fun config mapping => (adopt_ids config mapping).2.1),
    foldl_adopt_id (fun config mapping => (adopt_ids config mapping).2.2), single]
  exact ⟨rfl, rfl, rfl⟩

/-- The environment supplies what the language and the JSON library leave open. -/
structure Host where
  /-- the bytes of a string object, which hold its pointer and its size -/
  stringObject : List UInt8 → Nat → UInt8
  /-- the bytes that follow a shorter source object -/
  pastSource : List UInt8 → Nat → UInt8
  /-- the elements that follow the last element of an array field -/
  pastArray : Nat → UInt32
  /-- the bytes that follow a received payload -/
  pastPayload : Nat → UInt8
  /-- the text that the JSON library writes for a value -/
  serialize : JsonValue → List UInt8
  /-- the integer made of a pattern that has no integer value in range -/
  floatToInt : UInt32 → Int32

/-- On this host every open byte is zero and an overflowing conversion gives the smallest integer. -/
def zeroHost : Host where
  stringObject _ _ := 0
  pastSource _ _ := 0
  pastArray _ := 0
  pastPayload _ := 0
  serialize _ := JsonValue.utf8 "null"
  floatToInt _ := Int32.minValue

end VehicleEdge.Someip
