import VehicleEdge.Someip.Config

/-
This file models `getjsonConfig`, which reads the mapping file into the configuration.
The access functions of the JSON library throw on a value of another kind, and nothing catches them.
-/

namespace VehicleEdge.Someip

/-- This is the exception of the JSON library. -/
inductive LogicError where
  | notAnObject
  | notConvertible
  | outOfRange
  deriving DecidableEq, Repr

namespace JsonValue

/-- A missing member is a null value, and only an object or a null value has members. -/
def member (value : JsonValue) (key : String) : Except LogicError (Option JsonValue) :=
  match value with
  | .object members => .ok (members.lookup key)
  | .null => .ok none
  | _ => .error .notAnObject

/-- This is the subscript of the JSON library. -/
def subscript (value : JsonValue) (key : String) : Except LogicError JsonValue := do
  return (← value.member key).getD .null

/-- This is `get`, which takes the default of a missing member only. -/
def getMember (value : JsonValue) (key : String) (default : JsonValue) : Except LogicError JsonValue := do
  return (← value.member key).getD default

def isMember (value : JsonValue) (key : String) : Except LogicError Bool := do
  return (← value.member key).isSome

/-- A loop over a value visits its elements or its member values, and a scalar has none. -/
def elements : JsonValue → List JsonValue
  | .array values => values
  | .object members => members.map Prod.snd
  | _ => []

/-- The text of a real number is left to the library. -/
def asString (realText : UInt64 → String) : JsonValue → Except LogicError String
  | .null => .ok ""
  | .string text => .ok text
  | .boolean flag => .ok (if flag then "true" else "false")
  | .int value => .ok (toString value.toInt)
  | .uint value => .ok (toString (value.toNat : Int))
  | .real bits => .ok (realText bits)
  | .array _ | .object _ => .error .notConvertible

/-- A real number is converted when it is not negative and below the limit. Only 2 ^ 64 itself passes the
test of the library and has no conversion, so it is out of range here. -/
def realBelow (bits : UInt64) (limit : Nat) : Except LogicError Nat :=
  match BinaryFormat.double.truncate bits.toNat with
  | some number =>
      if (BinaryFormat.double.negative bits.toNat → BinaryFormat.double.significand bits.toNat = 0) ∧
          (number + 1 < limit ∨ BinaryFormat.double.integral bits.toNat = some ((limit : Int) - 1)) then
        .ok number.toNat
      else .error .outOfRange
  | none => .error .outOfRange

/-- The unsigned conversions check the range before they convert. -/
def asUnsigned (value : JsonValue) (limit : Nat) : Except LogicError Nat :=
  match value with
  | .null => .ok 0
  | .boolean flag => .ok (if flag then 1 else 0)
  | .int number =>
      if 0 ≤ number.toInt ∧ number.toInt < limit then .ok number.toInt.toNat else .error .outOfRange
  | .uint number => if number.toNat < limit then .ok number.toNat else .error .outOfRange
  | .real bits => realBelow bits limit
  | .string _ | .array _ | .object _ => .error .notConvertible

def asUInt (value : JsonValue) : Except LogicError UInt32 := do
  return UInt32.ofNat (← value.asUnsigned (2 ^ 32))

def asUInt64 (value : JsonValue) : Except LogicError UInt64 := do
  return UInt64.ofNat (← value.asUnsigned (2 ^ 64))

end JsonValue

section Loading

variable (realText : UInt64 → String)

/-- A later entry for the same text replaces an earlier one. -/
def loadEntry (transformMapping : KeyedMap String JsonValue) (mapping : JsonValue) :
    Except LogicError (KeyedMap String JsonValue) := do
  let key ← (← mapping.subscript "from").asString realText
  let value ← mapping.subscript "to"
  return transformMapping.insert key value

def loadTransform (node : JsonValue) : Except LogicError (KeyedMap String JsonValue) := do
  if ← node.isMember "Transform" then
    let transform ← (← node.subscript "Transform").subscript "transform"
    transform.elements.foldlM (loadEntry realText) ∅
  else return ∅

/-- The numbers are narrowed to the fields of the node without a check. -/
def loadNode (node : JsonValue) : Except LogicError VSSNode := do
  let name ← (← node.subscript "Name").asString realText
  let byteOffset ← (← node.subscript "ByteOffset").asUInt64
  let datatype ← (← node.subscript "DataType").asString realText
  let length ← (← node.subscript "Length").asUInt
  let methodId ← (← node.subscript "MethodID").asUInt
  let transformMapping ← loadTransform realText node
  return ⟨name, datatype, byteOffset, length.toUInt8, methodId.toUInt16, transformMapping⟩

/-- Only the three optional ids of a mapping have a default. -/
def loadMapping (someipMapping : JsonValue) : Except LogicError VSSConfigInfo := do
  let serviceType ← (← someipMapping.subscript "ServiceType").asString realText
  let serviceID ← (← someipMapping.subscript "ServiceID").asUInt
  let instanceID ← (← someipMapping.subscript "InstanceID").asUInt
  let methodID ← (← someipMapping.getMember "MethodID" (.int 0)).asUInt
  let eventID ← (← someipMapping.getMember "EventID" (.int 0)).asUInt
  let eventGroup ← (← someipMapping.getMember "EventGroup" (.int 0)).asUInt
  let majorVersion ← (← someipMapping.subscript "MAJOR_VERSION").asUInt
  let minorVersion ← (← someipMapping.subscript "MINOR_VERSION").asUInt
  let vssList ← someipMapping.subscript "VSSNode"
  let vssNodes ← vssList.elements.mapM (loadNode realText)
  return ⟨⟨serviceType, serviceID.toUInt16, instanceID.toUInt16, methodID.toUInt16, eventID.toUInt16,
    eventGroup.toUInt16, majorVersion.toUInt8, minorVersion⟩, vssNodes⟩

/-- A file that cannot be opened or parsed gives no document. -/
def getjsonConfig (document : Option JsonValue) (vssInfo : List VSSConfigInfo) :
    Except LogicError (Int × List VSSConfigInfo) :=
  match document with
  | none => .ok (-1, vssInfo)
  | some root => do
      let someipMappings ← root.subscript "SomeipMapping"
      let loaded ← someipMappings.elements.mapM (loadMapping realText)
      return (0, vssInfo ++ loaded)

end Loading

end VehicleEdge.Someip
