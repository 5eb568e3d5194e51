import Mathlib.Data.List.Basic
import Mathlib.Data.List.Infix

/-
This file models the protobuf message of the vehicle state and the attribute operations that use it.
A node or a field of the message is named by its path from the root, since a submessage object is shared.
-/

namespace VehicleEdge.Cloud

/-- These are the scalar types of the vehicle message. -/
inductive FieldType where
  | bool
  | uint32
  | int32
  | float
  | string
  deriving DecidableEq, Repr

/-- A field descriptor has a label, and a message has named fields. -/
inductive Schema where
  | field (label : Nat) (type : FieldType)
  | message (fields : List (String × Schema))

abbrev Path := List String

/-- A value that is no message has no fields. -/
def Schema.child : Schema → String → Option Schema
  | .field _ _, _ => none
  | .message fields, name => fields.lookup name

def Schema.find : Schema → Path → Option Schema
  | schema, [] => some schema
  | schema, name :: path => (schema.child name).bind fun child => child.find path

theorem Schema.find_append (schema : Schema) (first second : Path) :
    schema.find (first ++ second) = (schema.find first).bind fun child => child.find second := by
  induction first generalizing schema with
  | nil => rfl
  | cons name first ih =>
      simp only [List.cons_append, Schema.find]
      cases schema.child name with
      | none => rfl
      | some child => exact ih child

/-- The message holds its scalar fields, its repeated fields, and the presence of its submessages. -/
structure Proto (Value : Type) where
  scalar : Path → Option Value
  repeated : Path → List Value
  present : Path → Bool

/-- The new message has no field. -/
def Proto.empty (Value : Type) : Proto Value := ⟨fun _ => none, fun _ => [], fun _ => false⟩

variable {Value Payload : Type}

/-- A write makes the submessages on its path present. -/
def Proto.modified (proto : Proto Value) (node : Path) : Proto Value :=
  { proto with present := fun path => proto.present path || path.isPrefixOf node }

def Proto.setScalar (proto : Proto Value) (path : Path) (value : Value) : Proto Value :=
  { proto.modified path.dropLast with
    scalar := fun other => if other = path then some value else proto.scalar other }

def Proto.setRepeated (proto : Proto Value) (path : Path) (values : List Value) : Proto Value :=
  { proto.modified path.dropLast with
    repeated := fun other => if other = path then values else proto.repeated other }

/-- These are the parts of the protobuf runtime that depend on the values.
The type check gives the stored value, and a rejected value raises. -/
structure Protobuf (Value Payload : Type) where
  checkValue : FieldType → Value → Option Value
  iterate : Value → Option (List Value)
  serializeToString : Proto Value → Payload

/-- The path of an attribute is known when the node has this field. -/
def getattr (schema : Schema) (node : Path) (name : String) : Option Path :=
  (schema.find (node ++ [name])).map fun _ => node ++ [name]

/-- The label of a submessage is the optional one. -/
def fieldLabel (schema : Schema) (node : Path) (name : String) : Option Nat :=
  (schema.find (node ++ [name])).map fun child =>
    match child with
    | .field label _ => label
    | .message _ => 1

/-- A submessage cannot be assigned. -/
def setattr (protobuf : Protobuf Value Payload) (schema : Schema) (proto : Proto Value) (node : Path)
    (name : String) (value : Value) : Option (Proto Value) :=
  match schema.find (node ++ [name]) with
  | some (.field _ type) =>
      (protobuf.checkValue type value).map fun stored => proto.setScalar (node ++ [name]) stored
  | _ => none

/-- The slice deletion empties the repeated field. -/
def deleteAll (proto : Proto Value) (repeatedAttr : Path) : Proto Value :=
  proto.setRepeated repeatedAttr []

/-- The extension checks every element before it adds the first one. -/
def extend (protobuf : Protobuf Value Payload) (schema : Schema) (proto : Proto Value)
    (repeatedAttr : Path) (value : Value) : Option (Proto Value) :=
  match schema.find repeatedAttr with
  | some (.field _ type) =>
      (protobuf.iterate value).bind fun elements =>
        (elements.mapM (protobuf.checkValue type)).map fun stored =>
          proto.setRepeated repeatedAttr (proto.repeated repeatedAttr ++ stored)
  | _ => none

/-- The name of a signal is split at its dots. -/
def signalPath (signalName : String) : List String :=
  (signalName.toList.splitOn '.').map String.ofList

/-- The first component names the vehicle and the last one the field. -/
def nodePath (signalName : String) : Path := ((signalPath signalName).drop 1).dropLast

def fieldName (signalName : String) : String := (signalPath signalName).getLastD ""

/-- A well-typed signal names a field of the schema and has a value that the field takes. -/
def wellTyped (protobuf : Protobuf Value Payload) (schema : Schema) (signalName : String)
    (signalValue : Value) : Bool :=
  match schema.find (nodePath signalName ++ [fieldName signalName]) with
  | some (.field label type) =>
      if label = 3 then
        ((protobuf.iterate signalValue).bind fun elements =>
          elements.mapM (protobuf.checkValue type)).isSome
      else (protobuf.checkValue type signalValue).isSome
  | _ => false

end VehicleEdge.Cloud
