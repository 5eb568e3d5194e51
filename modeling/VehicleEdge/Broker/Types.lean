import Mathlib.Data.Nat.Notation

/-
This file contains the datapoint messages of the two broker interfaces.
Text is kept as bytes and a floating-point value as its bit pattern.
-/

namespace VehicleEdge

namespace Sdv

/-- These are the signal types of `sdv.databroker.v1`. -/
inductive DataType where
  | string | bool | int8 | int16 | int32 | int64 | uint8 | uint16 | uint32 | uint64
  | float | double | timestamp
  | stringArray | boolArray | int8Array | int16Array | int32Array | int64Array
  | uint8Array | uint16Array | uint32Array | uint64Array | floatArray | doubleArray
  | timestampArray
  deriving DecidableEq, Repr

/-- These are the change types of `sdv.databroker.v1`. -/
inductive ChangeType where
  | static | onChange | continuous
  deriving DecidableEq, Repr

/-- The failure codes say why a datapoint has no value. -/
inductive Failure where
  | invalidValue | notAvailable | unknownDatapoint | accessDenied | internalError
  deriving DecidableEq, Repr

/-- A datapoint of `sdv.databroker.v1` holds at most one of its value fields. -/
inductive Datapoint where
  | notSet
  | failureValue (failure : Failure)
  | stringValue (text : List UInt8)
  | boolValue (value : Bool)
  | int32Value (value : Int32)
  | int64Value (value : Int64)
  | uint32Value (value : UInt32)
  | uint64Value (value : UInt64)
  | floatValue (bits : UInt32)
  | doubleValue (bits : UInt64)
  | stringArray (values : List (List UInt8))
  | boolArray (values : List Bool)
  | int32Array (values : List Int32)
  | int64Array (values : List Int64)
  | uint32Array (values : List UInt32)
  | uint64Array (values : List UInt64)
  | floatArray (bits : List UInt32)
  | doubleArray (bits : List UInt64)
  deriving DecidableEq, Repr

/-- These are the cases of the value field. -/
inductive ValueCase where
  | notSet | failure | string | bool | int32 | int64 | uint32 | uint64 | float | double
  | stringArray | boolArray | int32Array | int64Array | uint32Array | uint64Array | floatArray | doubleArray
  deriving DecidableEq, Repr

def Datapoint.valueCase : Datapoint → ValueCase
  | .notSet => .notSet
  | .failureValue _ => .failure
  | .stringValue _ => .string
  | .boolValue _ => .bool
  | .int32Value _ => .int32
  | .int64Value _ => .int64
  | .uint32Value _ => .uint32
  | .uint64Value _ => .uint64
  | .floatValue _ => .float
  | .doubleValue _ => .double
  | .stringArray _ => .stringArray
  | .boolArray _ => .boolArray
  | .int32Array _ => .int32Array
  | .int64Array _ => .int64Array
  | .uint32Array _ => .uint32Array
  | .uint64Array _ => .uint64Array
  | .floatArray _ => .floatArray
  | .doubleArray _ => .doubleArray

/-- The small integer types are mapped to 32 bits, and a timestamp has no case of its own. -/
def DataType.valueCase : DataType → Option ValueCase
  | .string => some .string
  | .bool => some .bool
  | .int8 | .int16 | .int32 => some .int32
  | .int64 => some .int64
  | .uint8 | .uint16 | .uint32 => some .uint32
  | .uint64 => some .uint64
  | .float => some .float
  | .double => some .double
  | .stringArray => some .stringArray
  | .boolArray => some .boolArray
  | .int8Array | .int16Array | .int32Array => some .int32Array
  | .int64Array => some .int64Array
  | .uint8Array | .uint16Array | .uint32Array => some .uint32Array
  | .uint64Array => some .uint64Array
  | .floatArray => some .floatArray
  | .doubleArray => some .doubleArray
  | .timestamp | .timestampArray => none

/-- The adapter registers every event datapoint with this placeholder. -/
def createNotAvailableValue : Datapoint := .failureValue .notAvailable

end Sdv

namespace Kuksa

/-- A datapoint of `kuksa.val.v1` holds at most one of its value fields. -/
inductive Datapoint where
  | notSet
  | stringValue (text : List UInt8)
  | boolValue (value : Bool)
  | int32Value (value : Int32)
  | int64Value (value : Int64)
  | uint32Value (value : UInt32)
  | uint64Value (value : UInt64)
  | floatValue (bits : UInt32)
  | doubleValue (bits : UInt64)
  | stringArrayValue (values : List (List UInt8))
  | boolArrayValue (values : List Bool)
  | int32ArrayValue (values : List Int32)
  | int64ArrayValue (values : List Int64)
  | uint32ArrayValue (values : List UInt32)
  | uint64ArrayValue (values : List UInt64)
  | floatArrayValue (bits : List UInt32)
  | doubleArrayValue (bits : List UInt64)
  deriving DecidableEq, Repr

namespace Datapoint

/-- A getter returns the default of its field when another field is set. -/
def bool_ : Datapoint → Bool
  | .boolValue value => value
  | _ => false

def uint32 : Datapoint → UInt32
  | .uint32Value value => value
  | _ => 0

def int32 : Datapoint → Int32
  | .int32Value value => value
  | _ => 0

def float_ : Datapoint → UInt32
  | .floatValue bits => bits
  | _ => 0

def string : Datapoint → List UInt8
  | .stringValue text => text
  | _ => []

/-- The array getters are read only after the matching presence test. -/
def uint32Array : Datapoint → Option (List UInt32)
  | .uint32ArrayValue values => some values
  | _ => none

def int32Array : Datapoint → Option (List Int32)
  | .int32ArrayValue values => some values
  | _ => none

end Datapoint

end Kuksa

end VehicleEdge
