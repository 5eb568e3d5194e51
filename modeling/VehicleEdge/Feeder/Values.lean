import VehicleEdge.Broker.Types
import VehicleEdge.Library.KeyedMap

/-
This file contains the value maps of the data broker feeder and the functions that move values
between the store, a batch, and a request.
-/

namespace VehicleEdge.Feeder

open Sdv

/-- The origin of a value is a history variable that no step of the feeder reads. -/
inductive Origin where
  | initial
  | fed (feed : Nat)
  deriving DecidableEq, Repr

/-- A sample is a datapoint value with the feed that it came from. -/
structure Sample (V : Type) where
  origin : Origin
  value : V
  deriving DecidableEq, Repr

/-- The fed part of a sample gives its feed number and its value. -/
def Sample.fed? {V : Type} (sample : Sample V) : Option (Nat × V) :=
  match sample.origin with
  | .initial => none
  | .fed feed => some (feed, sample.value)

theorem Sample.fed?_eq_some {V : Type} {sample : Sample V} {feed : Nat} {value : V} :
    sample.fed? = some (feed, value) ↔ sample = ⟨.fed feed, value⟩ := by
  rcases sample with ⟨_ | number, stored⟩ <;> simp [fed?]

/-- A placeholder sample has no fed part. -/
theorem Sample.fed?_eq_none {V : Type} {sample : Sample V} :
    sample.fed? = none ↔ sample.origin = .initial := by
  rcases sample with ⟨_ | number, stored⟩ <;> simp [fed?]

/-- The metadata of one datapoint is passed to the constructor. -/
structure DatapointMetadata (V : Type) where
  name : String
  dataType : DataType
  changeType : ChangeType
  initialValue : V
  description : String

abbrev DatapointConfiguration (V : Type) := List (DatapointMetadata V)

abbrev DatapointValues (V : Type) := KeyedMap String (Sample V)

abbrev IdMap := KeyedMap String Int32

variable {V : Type}

/-- The store takes one value and overwrites an older one. -/
def storeValue (storedValues : DatapointValues V) (name : String) (sample : Sample V) :
    DatapointValues V :=
  storedValues.insert name sample

/-- The configured initial values are samples without a feed. -/
def initialEntries (config : DatapointConfiguration V) : List (Σ _ : String, Sample V) :=
  config.map fun metadata => ⟨metadata.name, ⟨.initial, metadata.initialValue⟩⟩

/-- The initial values fill only the names that the batch does not have. -/
def insertInitialValues (config : DatapointConfiguration V) (valuesToFeed : DatapointValues V) :
    DatapointValues V :=
  KeyedMap.insertRange valuesToFeed (initialEntries config)

/-- A failed batch returns to the store without overwriting newer values. -/
def restoreValues (storedValues values : DatapointValues V) : DatapointValues V :=
  KeyedMap.insertRange storedValues values.entries

/-- One call of `UpdateDatapoints` reads the id map and the batch. -/
structure Send (V : Type) where
  idMap : IdMap
  values : DatapointValues V

/-- The request maps the id of each known name to its value. -/
def Send.datapoints (send : Send V) : KeyedMap Int32 (Sample V) :=
  KeyedMap.relabel (fun name => send.idMap.lookup name) send.values.entries

/-- A request carries a sample for a name under the id of that name. -/
def Send.Carries (send : Send V) (name : String) (sample : Sample V) : Prop :=
  ∃ id, send.idMap.lookup name = some id ∧ send.datapoints.lookup id = some sample

/-- No other name shares the id of this name. -/
def UniqueId (idMap : IdMap) (name : String) : Prop :=
  ∀ id other, idMap.lookup name = some id → idMap.lookup other = some id → other = name

/-- A name with its own id is in the id map and shares its id with no other name. -/
def OwnId (idMap : IdMap) (name : String) : Prop :=
  name ∈ idMap ∧ UniqueId idMap name

/-- The id of a name with a unique id carries its batch value. -/
theorem Send.lookup_datapoints (send : Send V) {name : String} {id : Int32}
    (unique : UniqueId send.idMap name) (named : send.idMap.lookup name = some id) :
    send.datapoints.lookup id = send.values.lookup name :=
  KeyedMap.lookup_relabel (fun query => send.idMap.lookup query) send.values named
    (fun other shared => unique id other named shared)

/-- A request carries exactly the batch value of a name with a unique id. -/
theorem Send.carries_iff (send : Send V) {name : String} (unique : UniqueId send.idMap name)
    (sample : Sample V) :
    send.Carries name sample ↔ name ∈ send.idMap ∧ send.values.lookup name = some sample := by
  constructor
  · rintro ⟨id, named, carried⟩
    have member : name ∈ send.idMap := AList.lookup_isSome.mp (by simp [named])
    exact ⟨member, (send.lookup_datapoints unique named).symm.trans carried⟩
  · rintro ⟨member, stored⟩
    obtain ⟨id, named⟩ := Option.isSome_iff_exists.mp (AList.lookup_isSome.mpr member)
    exact ⟨id, named, (send.lookup_datapoints unique named).trans stored⟩

theorem lookup_storeValue_self (storedValues : DatapointValues V) (name : String)
    (sample : Sample V) : (storeValue storedValues name sample).lookup name = some sample :=
  AList.lookup_insert storedValues

theorem lookup_storeValue_of_ne (storedValues : DatapointValues V) {name query : String}
    (different : query ≠ name) (sample : Sample V) :
    (storeValue storedValues name sample).lookup query = storedValues.lookup query :=
  AList.lookup_insert_ne different

theorem lookup_restoreValues (storedValues values : DatapointValues V) (name : String) :
    (restoreValues storedValues values).lookup name =
      (storedValues.lookup name).or (values.lookup name) :=
  KeyedMap.lookup_insertRange storedValues values.entries name

theorem lookup_insertInitialValues (config : DatapointConfiguration V)
    (valuesToFeed : DatapointValues V) (name : String) :
    (insertInitialValues config valuesToFeed).lookup name =
      (valuesToFeed.lookup name).or ((initialEntries config).dlookup name) :=
  KeyedMap.lookup_insertRange valuesToFeed (initialEntries config) name

/-- Every configured entry is a placeholder. -/
theorem initialEntries_origin (config : DatapointConfiguration V) {name : String}
    {sample : Sample V} (found : (initialEntries config).dlookup name = some sample) :
    sample.origin = .initial := by
  have member := List.of_mem_dlookup (Option.mem_def.mpr found)
  obtain ⟨metadata, _, equal⟩ := List.mem_map.mp member
  cases equal
  rfl

/-- The initial values never change the fed value of a name. -/
theorem fed_insertInitialValues (config : DatapointConfiguration V)
    (valuesToFeed : DatapointValues V) (name : String) :
    ((insertInitialValues config valuesToFeed).lookup name).bind Sample.fed? =
      (valuesToFeed.lookup name).bind Sample.fed? := by
  rw [lookup_insertInitialValues]
  cases stored : valuesToFeed.lookup name with
  | some sample => rfl
  | none =>
      rw [Option.none_or]
      cases found : (initialEntries config).dlookup name with
      | none => rfl
      | some sample => exact Sample.fed?_eq_none.mpr (initialEntries_origin config found)

end VehicleEdge.Feeder
