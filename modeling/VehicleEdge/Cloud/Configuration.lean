import VehicleEdge.Cloud.Upload
import VehicleEdge.Library.KeyedMap
import VehicleEdge.Library.Shell

/-
This file models the configuration messages of the cloud and compares the fields they set with the stored
configuration.
-/

namespace VehicleEdge.Cloud

/-- These are the values of the JSON module of the language. -/
inductive Json where
  | null
  | boolean (value : Bool)
  | integer (value : Int)
  | real (bits : UInt64)
  | text (value : String)
  | array (values : List Json)
  | object (members : List (String × Json))

/-- A message on the upstream topic reports the results of a scan or the whole configuration. -/
inductive ConfigReport where
  | scanAndUpload (result : List FileResult)
  | config (members : KeyedMap String Json)

/-- These are the fields of the connection and of the application that a configuration message changes.
The field `reports` is a history. -/
structure Settings where
  stateUpdateRateMs : Json := .integer 1000
  userDefinedStateUpdateRateMs : Json := .integer 1000
  idleStateTriggerTimeMs : Json := .integer 600000
  idleStatePublishIntervall : Json := .integer 5000
  binary : Json := .boolean true
  statePublishRetain : Json := .boolean true
  ignoreList : Json := .array []
  config : KeyedMap String Json := ∅
  reports : List ConfigReport := []

/-- These are the outcomes of the calls that can raise, each of its own. -/
structure ConfigOutcomes where
  scanDirAndUpload : Except PyError (List FileResult)
  dumpsResult : Bool
  publishResult : Bool
  dumpsConfig : Bool
  publishConfig : Bool

/-- These fields of the settings take effect. -/
inductive Field where
  | ignoreList
  | userDefinedStateUpdateRateMs
  | idleStateTriggerTimeMs
  | idleStatePublishIntervall
  | binary
  | statePublishRetain
  deriving DecidableEq

/-- This is the key of the field in a message. -/
def Field.key : Field → String
  | .ignoreList => "ignoreList"
  | .userDefinedStateUpdateRateMs => "stateUpdateRateMs"
  | .idleStateTriggerTimeMs => "idleStateTriggerTimeMs"
  | .idleStatePublishIntervall => "idleStatePublishIntervall"
  | .binary => "binary"
  | .statePublishRetain => "statePublishRetain"

def Field.read (settings : Settings) : Field → Json
  | .ignoreList => settings.ignoreList
  | .userDefinedStateUpdateRateMs => settings.userDefinedStateUpdateRateMs
  | .idleStateTriggerTimeMs => settings.idleStateTriggerTimeMs
  | .idleStatePublishIntervall => settings.idleStatePublishIntervall
  | .binary => settings.binary
  | .statePublishRetain => settings.statePublishRetain

/-- The rate of the user becomes the current rate at once. -/
def Field.write (settings : Settings) (value : Json) : Field → Settings
  | .ignoreList => { settings with ignoreList := value }
  | .userDefinedStateUpdateRateMs =>
      { settings with userDefinedStateUpdateRateMs := value, stateUpdateRateMs := value }
  | .idleStateTriggerTimeMs => { settings with idleStateTriggerTimeMs := value }
  | .idleStatePublishIntervall => { settings with idleStatePublishIntervall := value }
  | .binary => { settings with binary := value }
  | .statePublishRetain => { settings with statePublishRetain := value }

/-- A field is assigned when the message has its key. -/
def Settings.assign (message : KeyedMap String Json) (settings : Settings) (field : Field) : Settings :=
  match message.lookup field.key with
  | some value => field.write settings value
  | none => settings

/-- These fields are assigned before the scan, in this order. -/
def fieldsBeforeScan : List Field :=
  [.ignoreList, .userDefinedStateUpdateRateMs, .idleStateTriggerTimeMs, .idleStatePublishIntervall, .binary]

/-- A scan needs its directory and its filter. -/
def scans (message : KeyedMap String Json) : Bool :=
  decide ("scan_and_upload" ∈ message) && decide ("scan_filter" ∈ message)

/-- The scan and its report give no settings when one of their calls raises. -/
def Settings.scan (outcomes : ConfigOutcomes) (message : KeyedMap String Json) (settings : Settings) :
    Option Settings :=
  if scans message then
    match outcomes.scanDirAndUpload with
    | .ok result =>
        if outcomes.dumpsResult && outcomes.publishResult then
          some { settings with reports := settings.reports ++ [.scanAndUpload result] }
        else none
    | .error _ => none
  else some settings

/-- The members of the message overwrite those of the configuration, which is stored and then reported. -/
def Settings.store (outcomes : ConfigOutcomes) (message : KeyedMap String Json) (settings : Settings) :
    Settings :=
  let config := KeyedMap.overwrite settings.config message.entries
  { settings with
    config := config
    reports :=
      if outcomes.dumpsConfig && outcomes.publishConfig then settings.reports ++ [.config config]
      else settings.reports }

/-- A message with the outcomes of the calls that it causes. -/
abbrev ConfigTurn := ConfigOutcomes × KeyedMap String Json

/-- An exception in the middle leaves the settings that are assigned so far. -/
def onConfigMessageReceived (settings : Settings) (turn : ConfigTurn) : Settings :=
  let (outcomes, message) := turn
  let assigned := fieldsBeforeScan.foldl (Settings.assign message) settings
  match assigned.scan outcomes message with
  | none => assigned
  | some scanned => (scanned.assign message .statePublishRetain).store outcomes message

/-- The configuration gives the value of its key, or the initial value where the key is missing. -/
def Field.configured (config : KeyedMap String Json) (field : Field) : Json :=
  (config.lookup field.key).getD (field.read {})

/-- Every field has the value that the configuration gives. -/
def Consistent (settings : Settings) : Prop :=
  ∀ field : Field, field.read settings = field.configured settings.config

/-- No call of the scan raises, or the message has no scan. -/
def ScanReturns (turn : ConfigTurn) : Prop :=
  scans turn.2 = true → turn.1.scanDirAndUpload.isOk = true ∧ turn.1.dumpsResult = true ∧
    turn.1.publishResult = true

/-- Where the scan raises, the fields before it are set to what the configuration already gives. -/
def Applies (settings : Settings) (turn : ConfigTurn) : Prop :=
  ScanReturns turn ∨
    ∀ field ∈ fieldsBeforeScan, ∀ value, turn.2.lookup field.key = some value →
      value = field.configured settings.config

section Message

variable (outcomes : ConfigOutcomes) (message : KeyedMap String Json) (settings : Settings)

theorem read_write (value : Json) (field other : Field) :
    other.read (field.write settings value) = if other = field then value else other.read settings := by
  cases field <;> cases other <;> rfl

theorem write_config (value : Json) (field : Field) :
    (field.write settings value).config = settings.config := by
  cases field <;> rfl

theorem read_assign (field other : Field) :
    other.read (settings.assign message field) =
      if other = field then (message.lookup field.key).getD (other.read settings)
      else other.read settings := by
  unfold Settings.assign
  cases message.lookup field.key with
  | none => simp
  | some value => exact read_write settings value field other

theorem assign_config (field : Field) : (settings.assign message field).config = settings.config := by
  unfold Settings.assign
  split
  · exact write_config settings _ field
  · rfl

/-- A list of assignments reaches its fields only. -/
theorem read_foldl_assign (fields : List Field) (field : Field) :
    field.read (fields.foldl (Settings.assign message) settings) =
      if field ∈ fields then (message.lookup field.key).getD (field.read settings)
      else field.read settings := by
  induction fields generalizing settings with
  | nil => rfl
  | cons first fields ih =>
      rw [List.foldl_cons, ih, read_assign]
      by_cases own : field = first
      · subst own
        cases message.lookup field.key <;> simp
      · simp [own]

theorem foldl_assign_config (fields : List Field) :
    (fields.foldl (Settings.assign message) settings).config = settings.config := by
  induction fields generalizing settings with
  | nil => rfl
  | cons first fields ih => rw [List.foldl_cons, ih, assign_config]

/-- The scan changes no field and no configuration, and it gives settings exactly when nothing raises. -/
theorem scan_cases :
    (ScanReturns (outcomes, message) ∧ ∃ reports,
        settings.scan outcomes message = some { settings with reports := reports }) ∨
      (¬ ScanReturns (outcomes, message) ∧ settings.scan outcomes message = none) := by
  unfold ScanReturns Settings.scan
  by_cases scanning : scans message = true
  · simp only [scanning, if_true, true_imp_iff]
    cases outcomes.scanDirAndUpload with
    | error error =>
        right
        simp [Except.isOk, Except.toBool]
    | ok result =>
        by_cases reported : outcomes.dumpsResult = true ∧ outcomes.publishResult = true
        · left
          refine ⟨⟨rfl, reported⟩, settings.reports ++ [.scanAndUpload result], ?_⟩
          rw [reported.1, reported.2]
          rfl
        · right
          refine ⟨fun returned => reported returned.2, ?_⟩
          rw [← Bool.and_eq_true] at reported
          exact if_neg reported
  · left
    exact ⟨fun scanned => absurd scanned scanning, settings.reports, if_neg scanning⟩

/-- A message whose scan returns sets every field that it names and is stored. -/
theorem received_of_returns {turn : ConfigTurn} (returns : ScanReturns turn) :
    (∀ field : Field, field.read (onConfigMessageReceived settings turn) =
        (turn.2.lookup field.key).getD (field.read settings)) ∧
      (onConfigMessageReceived settings turn).config =
        KeyedMap.overwrite settings.config turn.2.entries := by
  obtain ⟨outcomes, message⟩ := turn
  have assigned := read_foldl_assign message settings fieldsBeforeScan
  have config := foldl_assign_config message settings fieldsBeforeScan
  unfold onConfigMessageReceived
  dsimp only
  rcases scan_cases outcomes message (fieldsBeforeScan.foldl (Settings.assign message) settings) with
    ⟨-, reports, scanned⟩ | ⟨raised, -⟩
  · rw [scanned]
    dsimp only
    constructor
    · intro field
      have stored : ∀ settings : Settings, field.read (settings.store outcomes message) =
          field.read settings := fun settings => by cases field <;> rfl
      have reported : ∀ settings : Settings, field.read { settings with reports := reports } =
          field.read settings := fun settings => by cases field <;> rfl
      rw [stored, read_assign, reported, assigned]
      cases field <;> rfl
    · simp only [Settings.store]
      rw [assign_config]
      exact congrArg (KeyedMap.overwrite · message.entries) config
  · exact absurd returns raised

/-- A message whose scan raises sets the fields before the scan and is not stored. -/
theorem received_of_raises {turn : ConfigTurn} (raises : ¬ ScanReturns turn) :
    (∀ field : Field, field.read (onConfigMessageReceived settings turn) =
        if field ∈ fieldsBeforeScan then (turn.2.lookup field.key).getD (field.read settings)
        else field.read settings) ∧
      (onConfigMessageReceived settings turn).config = settings.config := by
  obtain ⟨outcomes, message⟩ := turn
  unfold onConfigMessageReceived
  dsimp only
  rcases scan_cases outcomes message (fieldsBeforeScan.foldl (Settings.assign message) settings) with
    ⟨returned, -⟩ | ⟨-, scanned⟩
  · exact absurd returned raises
  · rw [scanned]
    exact ⟨read_foldl_assign message settings fieldsBeforeScan,
      foldl_assign_config message settings fieldsBeforeScan⟩

/-- The stored configuration prefers the message. -/
theorem configured_overwrite (config : KeyedMap String Json) (field : Field) :
    field.configured (KeyedMap.overwrite config message.entries) =
      (message.lookup field.key).getD (field.configured config) := by
  have found : message.entries.reverse.dlookup field.key = message.lookup field.key :=
    (List.perm_dlookup field.key message.nodupKeys (List.reverse_perm _).symm).symm
  unfold Field.configured
  rw [KeyedMap.lookup_overwrite, found]
  cases message.lookup field.key <;> rfl

/-- One message keeps the fields consistent exactly when it applies. -/
theorem consistent_received {settings : Settings} (consistent : Consistent settings) (turn : ConfigTurn) :
    Consistent (onConfigMessageReceived settings turn) ↔ Applies settings turn := by
  unfold Applies
  by_cases returns : ScanReturns turn
  · obtain ⟨read, config⟩ := received_of_returns settings returns
    refine iff_of_true (fun field => ?_) (Or.inl returns)
    rw [read, config, configured_overwrite, consistent field]
  · obtain ⟨read, config⟩ := received_of_raises settings returns
    rw [or_iff_right returns]
    unfold Consistent
    simp only [read, config]
    constructor
    · intro same field member value given
      have here := same field
      rw [if_pos member, given] at here
      exact here
    · intro same field
      split
      case isTrue member =>
        cases given : turn.2.lookup field.key with
        | none => exact consistent field
        | some value => exact same field member value given
      case isFalse => exact consistent field

end Message

/-- The fields follow the stored configuration after every message exactly when each message has a scan that
returns or sets nothing new. -/
theorem configuration_is_applied (turns : List ConfigTurn) :
    (∀ earlier, earlier <+: turns → Consistent (earlier.foldl onConfigMessageReceived {})) ↔
      ∀ earlier next, earlier ++ [next] <+: turns →
        Applies (earlier.foldl onConfigMessageReceived {}) next := by
  have starts : Consistent {} := by
    intro field
    rfl
  have decides : ∀ settings next, Consistent settings →
      (Consistent (onConfigMessageReceived settings next) ↔ Applies settings next) :=
    fun settings next consistent => consistent_received consistent next
  exact repeated_iff decides starts turns

/-- A directory that cannot be entered ends the message before its configuration is stored. -/
def missingDirectory : ConfigTurn :=
  (⟨.error .fileError, true, true, true, true⟩,
    ((∅ : KeyedMap String Json).insert "scan_filter" (.text "*.log")).insert "scan_and_upload" (.text "/logs")
      |>.insert "binary" (.boolean false))

/-- The flag of the failed message stays in effect, and the configuration does not have it. -/
theorem failed_message_stays_in_effect :
    ¬ ∀ earlier, earlier <+: [missingDirectory] →
      Consistent (earlier.foldl onConfigMessageReceived {}) := by
  intro consistent
  have binary := consistent [missingDirectory] (List.prefix_refl _) .binary
  cases binary

end VehicleEdge.Cloud
