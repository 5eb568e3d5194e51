import VehicleEdge.Feeder.Delivery

/-
This file compares delivered placeholders with delivered feeds.
The feeder sends the initial values again after every wait for a connection, so a placeholder can
follow a fed value only across such a wait.
-/

namespace VehicleEdge.Feeder

variable {V : Type}

def Send.CarriesFed (send : Send V) (name : String) : Prop :=
  ∃ feed value, send.Carries name ⟨.fed feed, value⟩

/-- A request carries the placeholder of a name when the value has no feed. -/
def Send.CarriesInitial (send : Send V) (name : String) : Prop :=
  ∃ value, send.Carries name ⟨.initial, value⟩

/-- A fed value of the name was delivered after the last wait for a connection. -/
def DeliveredSinceWait (name : String) : List (Call V) → Prop
  | [] => False
  | .waited _ :: _ => False
  | .updated send :: calls => send.CarriesFed name ∨ DeliveredSinceWait name calls
  | _ :: calls => DeliveredSinceWait name calls

/-- No delivered placeholder follows a delivered feed without a wait between them. -/
def NoRollback (name : String) : List (Call V) → Prop
  | [] => True
  | .updated send :: calls =>
      (send.CarriesInitial name → ¬ DeliveredSinceWait name calls) ∧ NoRollback name calls
  | _ :: calls => NoRollback name calls

/-- The Run thread has waited for a connection and has not merged the initial values yet. -/
def RunPc.beforeInitialValues : RunPc V → Bool
  | .registerTestActive | .registerTestConnected | .registerDatapoints => true
  | .feedTestActive initial | .feedTestConnected initial | .swapStoredValues initial => initial
  | .insertInitialValues initial _ => initial
  | _ => false

/-- After a delivered feed the store and the batch hold no placeholder for the name. -/
structure NoPlaceholder (name : String) (state : State V) : Prop where
  stored : DeliveredSinceWait name state.calls → ∀ sample,
    state.storedValues.lookup name = some sample → sample.fed?.isSome
  flight : DeliveredSinceWait name state.calls → ∀ batch sample,
    state.run.inFlight = some batch → batch.lookup name = some sample → sample.fed?.isSome
  early : state.run.beforeInitialValues = true → ¬ DeliveredSinceWait name state.calls

@[simp] theorem beforeInitialValues_notify (pc : RunPc V) :
    pc.notify.beforeInitialValues = pc.beforeInitialValues := by
  cases pc <;> rfl

theorem noPlaceholder_step {config : DatapointConfiguration V} {name : String}
    {state next : State V} {event : Event V} (clean : NoPlaceholder name state)
    (fed : StoreIsFed state) (taken : Step config state event next) : NoPlaceholder name next := by
  cases taken with
  | waited here connected =>
      exact ⟨fun delivered => delivered.elim, fun delivered => delivered.elim,
        fun _ delivered => delivered⟩
  | registered here results =>
      exact ⟨clean.stored, nofun, fun _ => clean.early (by rw [here]; rfl)⟩
  | swapped initial here =>
      refine ⟨fun _ sample found => by simp at found, ?_, fun early => clean.early (by rwa [here])⟩
      intro delivered batch sample flying found
      cases flying
      exact clean.stored delivered sample found
  | merged initial values here =>
      refine ⟨clean.stored, ?_, nofun⟩
      intro delivered batch sample flying found
      cases initial with
      | true => exact absurd delivered (clean.early (by rw [here]; rfl))
      | false =>
          cases flying
          exact clean.flight delivered values sample (by rw [here]; rfl) found
  | issued values here | updateError values here =>
      refine ⟨clean.stored, ?_, nofun⟩
      intro delivered batch sample flying found
      cases flying
      exact clean.flight delivered values sample (by rw [here]; rfl) found
  | updateFailed send here =>
      refine ⟨clean.stored, ?_, nofun⟩
      intro delivered batch sample flying found
      cases flying
      exact clean.flight delivered send.values sample (by rw [here]; rfl) found
  | updated send here =>
      -- every stored value is newer than the batch, so none is a placeholder
      exact ⟨fun _ sample found => fed (by rw [here]; rfl) name sample found, nofun, nofun⟩
  | restored values here =>
      refine ⟨?_, nofun, nofun⟩
      intro delivered sample found
      rw [lookup_restoreValues] at found
      rcases Option.or_eq_some_iff.mp found with stored | ⟨_, flown⟩
      · exact clean.stored delivered sample stored
      · exact clean.flight delivered values sample (by rw [here]; rfl) flown
  | feedStored producer call pending =>
      simp only [storeValues_calls]
      exact ⟨fun delivered => storeValues_fed (clean.stored delivered) call.entries,
        by simpa using clean.flight, by simpa using clean.early⟩
  | shutdownCleared => exact ⟨fun _ sample found => by simp at found, clean.flight, clean.early⟩
  | shutdownNotified => exact ⟨clean.stored, by simpa using clean.flight, by simpa using clean.early⟩
  | feedCalled | feedRefused | shutdownTested | subscriberWrote =>
      exact ⟨clean.stored, clean.flight, clean.early⟩
  | registerFailed | registerError | spuriousWakeup | notified => exact ⟨clean.stored, nofun, nofun⟩
  | registerTestActive here | registerTestConnected here | feedTestActive _ here
  | feedTestConnected _ here =>
      refine ⟨clean.stored, ?_, ?_⟩
      · intro delivered batch sample flying
        simp only [inFlight_ite] at flying
        split at flying <;> cases flying
      · intro early
        apply clean.early
        rw [here]
        dsimp only at early
        split at early <;> first | exact early | rfl | cases early
  | loopTest | waitTestActive | waitTestConnected | locked =>
      refine ⟨clean.stored, ?_, ?_⟩
      · intro delivered batch sample flying
        simp only [inFlight_ite] at flying
        split at flying <;> cases flying
      · intro early
        dsimp only at early
        split at early <;> cases early

/-- A batch of fed values carries no placeholder for a name with a unique id. -/
theorem not_carriesInitial {send : Send V} {name : String} (unique : UniqueId send.idMap name)
    (fed : ∀ sample, send.values.lookup name = some sample → sample.fed?.isSome) :
    ¬ send.CarriesInitial name := by
  rintro ⟨value, carried⟩
  have found := ((send.carries_iff unique _).mp carried).2
  have isFed := fed _ found
  cases isFed

theorem noRollback_step {config : DatapointConfiguration V} {name : String}
    {state next : State V} {event : Event V} (clean : NoPlaceholder name state)
    (issued : PendingIsIssued state)
    (unique : ∀ send, .issued send ∈ state.calls → UniqueId send.idMap name)
    (history : NoRollback name state.calls) (taken : Step config state event next) :
    NoRollback name next.calls := by
  cases taken with
  | updated send here =>
      refine ⟨fun placeholder delivered => ?_, history⟩
      exact not_carriesInitial (unique send (issued send here))
        (clean.flight delivered send.values · (by rw [here]; rfl)) placeholder
  | feedStored => rwa [storeValues_calls]
  | _ => exact history

/-- The delivered feed stays visible until the next wait. -/
theorem deliveredSinceWait_append {name : String} {first : Send V} (fed : first.CarriesFed name)
    (between before : List (Call V)) (noWait : ∀ connected, .waited connected ∉ between) :
    DeliveredSinceWait name (between ++ .updated first :: before) := by
  induction between with
  | nil => exact Or.inl fed
  | cons call between ih =>
      have rest := ih fun connected member => noWait connected (List.mem_cons_of_mem _ member)
      cases call with
      | waited connected => exact absurd List.mem_cons_self (noWait connected)
      | updated send => exact Or.inr rest
      | _ => exact rest

theorem NoRollback.split {name : String} {second : Send V} {later calls : List (Call V)}
    (history : NoRollback name (later ++ .updated second :: calls))
    (placeholder : second.CarriesInitial name) : ¬ DeliveredSinceWait name calls := by
  induction later with
  | nil => exact history.1 placeholder
  | cons call later ih =>
      cases call with
      | updated send => exact ih history.2
      | _ => exact ih history

/-- These facts hold together in every reached state. -/
structure Separated (name : String) (state : State V) : Prop where
  fed : StoreIsFed state
  issued : PendingIsIssued state
  clean : NoPlaceholder name state
  history : (∀ send, .issued send ∈ state.calls → UniqueId send.idMap name) →
    NoRollback name state.calls

theorem separated_reached {config : DatapointConfiguration V} (name : String) {state : State V}
    (reached : (machine config).Reached Machine.anyStep state) : Separated name state := by
  refine reached.invariant ⟨nofun, nofun, ⟨nofun, nofun, nofun⟩, fun _ => trivial⟩ ?_
  intro state event next separated _ taken
  have listed := step_cases taken
  refine ⟨storeIsFed_step separated.fed listed, pendingIsIssued_step separated.issued listed,
    noPlaceholder_step separated.clean separated.fed listed, fun unique => ?_⟩
  have before : ∀ send, .issued send ∈ state.calls → UniqueId send.idMap name :=
    fun send member => unique send ((calls_suffix listed).subset member)
  exact noRollback_step separated.clean separated.issued before (separated.history before) listed

/-- A delivered placeholder follows a delivered feed of the same name only when the Run thread
waited for a connection between the two updates. -/
theorem rollback_needs_reconnect (config : DatapointConfiguration V) (name : String)
    {state : State V} (reached : (machine config).Reached Machine.anyStep state)
    (unique : ∀ send, .issued send ∈ state.calls → UniqueId send.idMap name)
    {first second : Send V} {before between later : List (Call V)}
    (history : state.calls = later ++ .updated second :: (between ++ .updated first :: before))
    (fed : first.CarriesFed name) (placeholder : second.CarriesInitial name) :
    ∃ connected, .waited connected ∈ between := by
  have clean := (separated_reached name reached).history unique
  rw [history] at clean
  by_contra noWait
  exact clean.split placeholder
    (deliveredSinceWait_append fed between before (not_exists.mp noWait))

/-- This configuration has two datapoints of the light feeder mapping. -/
def lightsConfig : DatapointConfiguration Sdv.Datapoint :=
  hazardConfig ++
    [⟨"Vehicle.Body.Lights.LicensePlate.Rear.IsOn", .bool, .onChange, Sdv.createNotAvailableValue,
      "No description"⟩]

def lightsIds : IdMap := hazardIds.insert "Vehicle.Body.Lights.LicensePlate.Rear.IsOn" 8

theorem lightsIds_unique : UniqueId lightsIds "Vehicle.Body.Lights.Hazard.IsSignaling" := by
  intro id other named shared
  have number : (7 : Int32) = id := Option.some.inj named
  have member : other ∈ lightsIds := AList.lookup_isSome.mp (by simp [shared])
  rcases (AList.mem_insert hazardIds).mp member with plate | hazard
  · subst number plate
    revert shared
    decide
  · simpa [hazardIds, AList.mem_keys] using hazard

def connectLights : List (Event Sdv.Datapoint) :=
  [.run, .waitForConnectedReturned true, .run, .run, .registerReturned (some lightsIds)]

/-- The hazard signal is delivered, the update of the licence plate light fails, and the feeder
reconnects and sends the waiting light. -/
def rollbackEvents : List (Event Sdv.Datapoint) :=
  let delivering : List (Event Sdv.Datapoint) := [.run, .run, .run, .run, .run, .updateReturned true]
  let failing : List (Event Sdv.Datapoint) := [.run, .run, .run,
    .feedCalled 1 (.feedValue "Vehicle.Body.Lights.LicensePlate.Rear.IsOn" (.boolValue true)),
    .feedStored 1, .run, .run, .run, .run, .run, .run, .updateReturned false, .run, .run, .run, .run,
    .run, .run]
  feedHazard true ++ connectLights ++ delivering ++ failing ++ connectLights ++ delivering

theorem rollback_executes : ((machine lightsConfig).execute Machine.anyStep
    (initialState _) rollbackEvents).isSome = true := by decide

def rollbackState : State Sdv.Datapoint :=
  ((machine lightsConfig).execute Machine.anyStep (initialState _) rollbackEvents).get
    rollback_executes

theorem rollback_reached : (machine lightsConfig).Reached Machine.anyStep rollbackState :=
  Machine.reached_get rollback_executes

/-- The first update carries the fed hazard signal. -/
def fedSend : Send Sdv.Datapoint :=
  ⟨lightsIds, insertInitialValues lightsConfig
    (storeValue ∅ "Vehicle.Body.Lights.Hazard.IsSignaling" ⟨.fed 0, .boolValue true⟩)⟩

/-- The failed update carries only the licence plate light. -/
def failedSend : Send Sdv.Datapoint :=
  ⟨lightsIds, storeValue ∅ "Vehicle.Body.Lights.LicensePlate.Rear.IsOn" ⟨.fed 1, .boolValue true⟩⟩

/-- The update after the reconnect carries the placeholder of the hazard signal. -/
def placeholderSend : Send Sdv.Datapoint :=
  ⟨lightsIds, insertInitialValues lightsConfig (restoreValues ∅ failedSend.values)⟩

/-- These calls stand between the two updates, the newest one first. -/
def reconnectCalls : List (Call Sdv.Datapoint) :=
  [.issued placeholderSend, .registered lightsIds, .waited true, .updateFailed failedSend,
    .issued failedSend]

theorem rollback_calls : rollbackState.calls =
    [] ++ .updated placeholderSend :: (reconnectCalls ++
      .updated fedSend :: [.issued fedSend, .registered lightsIds, .waited true]) := rfl

theorem rollback_unique : ∀ send, .issued send ∈ rollbackState.calls →
    UniqueId send.idMap "Vehicle.Body.Lights.Hazard.IsSignaling" := by
  intro send member
  have same : send.idMap = lightsIds := issuedWith_idMap (by decide) member
  exact same ▸ lightsIds_unique

theorem fedSend_carries : fedSend.CarriesFed "Vehicle.Body.Lights.Hazard.IsSignaling" :=
  ⟨0, .boolValue true, 7, by decide, by decide⟩

theorem placeholderSend_carries :
    placeholderSend.Carries "Vehicle.Body.Lights.Hazard.IsSignaling"
      ⟨.initial, Sdv.createNotAvailableValue⟩ :=
  ⟨7, by decide, by decide⟩

/-- The rolled-back run meets the hypotheses, and it waited between the two updates. -/
theorem rollback_needs_reconnect_lights :
    ∃ connected, Call.waited connected ∈
      ([.issued placeholderSend, .registered lightsIds, .waited true, .updateFailed failedSend,
        .issued failedSend] : List (Call Sdv.Datapoint)) :=
  rollback_needs_reconnect lightsConfig _ rollback_reached rollback_unique rollback_calls
    fedSend_carries ⟨_, placeholderSend_carries⟩

/-- After a reconnect the feeder can deliver the placeholder of a signal over its fed value. -/
theorem reconnect_rolls_back :
    ¬ ∀ state, (machine lightsConfig).Reached Machine.anyStep state →
      (∀ send, .issued send ∈ state.calls →
        UniqueId send.idMap "Vehicle.Body.Lights.Hazard.IsSignaling") →
      ∀ (first second : Send Sdv.Datapoint) (before between later : List (Call Sdv.Datapoint)),
        state.calls = later ++ .updated second :: (between ++ .updated first :: before) →
        first.CarriesFed "Vehicle.Body.Lights.Hazard.IsSignaling" →
        ¬ second.Carries "Vehicle.Body.Lights.Hazard.IsSignaling"
          ⟨.initial, Sdv.createNotAvailableValue⟩ := by
  intro steady
  exact steady rollbackState rollback_reached rollback_unique fedSend placeholderSend _ _ _
    rollback_calls fedSend_carries placeholderSend_carries

end VehicleEdge.Feeder
