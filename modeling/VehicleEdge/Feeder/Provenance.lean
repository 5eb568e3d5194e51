import VehicleEdge.Feeder.Delivery

/-
This file traces every value of the feeder to the feed or to the configured placeholder that it came from.
-/

namespace VehicleEdge.Feeder

variable {V : Type}

/-- A placeholder is configured for the name, and a fed value is the feed of its number. -/
def Genuine (config : DatapointConfiguration V) (fed : List (String × V)) (name : String)
    (sample : Sample V) : Prop :=
  match sample.origin with
  | .initial => ∃ metadata ∈ config, metadata.name = name ∧ metadata.initialValue = sample.value
  | .fed feed => fed.reverse[feed]? = some (name, sample.value)

def AllGenuine (config : DatapointConfiguration V) (fed : List (String × V)) (values : DatapointValues V) :
    Prop :=
  ∀ name sample, values.lookup name = some sample → Genuine config fed name sample

/-- The store, the batch in flight, and every request hold genuine values only. -/
structure Authentic (config : DatapointConfiguration V) (state : State V) : Prop where
  stored : AllGenuine config state.fed state.storedValues
  flying : ∀ batch, state.run.inFlight = some batch → AllGenuine config state.fed batch
  issued : ∀ send, .issued send ∈ state.calls → AllGenuine config state.fed send.values

section Values

variable {config : DatapointConfiguration V} {fed : List (String × V)}

theorem Genuine.grow {name : String} {sample : Sample V} (genuine : Genuine config fed name sample)
    (newer : List (String × V)) : Genuine config (newer ++ fed) name sample := by
  unfold Genuine at genuine ⊢
  split
  case h_1 initial => rwa [initial] at genuine
  case h_2 feed isFed =>
    rw [isFed] at genuine
    rw [List.reverse_append, List.getElem?_append_left (List.getElem?_eq_some_iff.mp genuine).1]
    exact genuine

theorem AllGenuine.grow {values : DatapointValues V} (genuine : AllGenuine config fed values)
    (newer : List (String × V)) : AllGenuine config (newer ++ fed) values :=
  fun name sample found => (genuine name sample found).grow newer

theorem allGenuine_empty : AllGenuine config fed ∅ := by
  intro name sample found
  simp at found

theorem AllGenuine.restore {stored batch : DatapointValues V} (genuine : AllGenuine config fed stored)
    (batched : AllGenuine config fed batch) : AllGenuine config fed (restoreValues stored batch) := by
  intro name sample found
  rw [lookup_restoreValues] at found
  rcases Option.or_eq_some_iff.mp found with newer | ⟨-, older⟩
  · exact genuine name sample newer
  · exact batched name sample older

theorem genuine_initial {name : String} {sample : Sample V}
    (found : (initialEntries config).dlookup name = some sample) : Genuine config fed name sample := by
  have member := List.of_mem_dlookup (Option.mem_def.mpr found)
  obtain ⟨metadata, configured, equal⟩ := List.mem_map.mp member
  cases equal
  exact ⟨metadata, configured, rfl, rfl⟩

theorem AllGenuine.initial {batch : DatapointValues V} (batched : AllGenuine config fed batch) :
    AllGenuine config fed (insertInitialValues config batch) := by
  intro name sample found
  rw [lookup_insertInitialValues] at found
  rcases Option.or_eq_some_iff.mp found with newer | ⟨-, placeholder⟩
  · exact batched name sample newer
  · exact genuine_initial placeholder

/-- A stored feed gets the number of the feeds before it. -/
theorem AllGenuine.store {values : DatapointValues V} (genuine : AllGenuine config fed values)
    (name : String) (value : V) :
    AllGenuine config ((name, value) :: fed) (storeValue values name ⟨.fed fed.length, value⟩) := by
  intro query sample found
  by_cases same : query = name
  · subst same
    rw [lookup_storeValue_self] at found
    cases found
    simp [Genuine]
  · rw [lookup_storeValue_of_ne _ same] at found
    exact (genuine query sample found).grow [(name, value)]

end Values

/-- A feeding call only adds to the feed history. -/
theorem storeValues_history (state : State V) (entries : List (Σ _ : String, V)) :
    (state.storeValues entries).fed =
      (entries.map fun entry => (entry.1, entry.2)).reverse ++ state.fed := by
  induction entries generalizing state with
  | nil => rfl
  | cons entry entries ih =>
      rw [storeValues_cons, ih (state.feed entry), List.map_cons, List.reverse_cons, List.append_assoc]
      rfl

theorem storeValues_genuine {config : DatapointConfiguration V} {state : State V}
    (genuine : AllGenuine config state.fed state.storedValues) (entries : List (Σ _ : String, V)) :
    AllGenuine config (state.storeValues entries).fed (state.storeValues entries).storedValues := by
  induction entries generalizing state with
  | nil => exact genuine
  | cons entry entries ih => exact ih (genuine.store entry.1 entry.2)

theorem authentic_step {config : DatapointConfiguration V} {state next : State V} {event : Event V}
    (authentic : Authentic config state) (taken : Step config state event next) :
    Authentic config next := by
  obtain ⟨stored, flying, issued⟩ := authentic
  -- an answer is recorded with the request that was issued before
  have answered (call : Call V) (notIssue : ∀ send, call ≠ .issued send) (send : Send V)
      (member : .issued send ∈ call :: state.calls) : AllGenuine config state.fed send.values := by
    rcases List.mem_cons.mp member with same | older
    · exact absurd same.symm (notIssue send)
    · exact issued send older
  have idle {pc : RunPc V} (landed : pc.inFlight = none) (batch : DatapointValues V)
      (aloft : pc.inFlight = some batch) : AllGenuine config state.fed batch := by
    rw [landed] at aloft
    cases aloft
  cases taken with
  | swapped initial here =>
      refine ⟨allGenuine_empty, fun batch aloft => ?_, issued⟩
      cases aloft
      exact stored
  | merged initial values here =>
      have batched := flying values (by rw [here]; rfl)
      refine ⟨stored, fun batch aloft => ?_, issued⟩
      cases aloft
      split
      · exact batched.initial
      · exact batched
  | issued values here =>
      have batched := flying values (by rw [here]; rfl)
      refine ⟨stored, fun batch aloft => ?_, fun send member => ?_⟩
      · cases aloft
        exact batched
      · rcases List.mem_cons.mp member with same | older
        · cases same
          exact batched
        · exact issued send older
  | updateFailed send here =>
      refine ⟨stored, fun batch aloft => ?_, answered _ fun _ same => by cases same⟩
      cases aloft
      exact flying send.values (by rw [here]; rfl)
  | updateError values here =>
      refine ⟨stored, fun batch aloft => ?_, issued⟩
      cases aloft
      exact flying values (by rw [here]; rfl)
  | restored values here =>
      exact ⟨stored.restore (flying values (by rw [here]; rfl)), idle rfl, issued⟩
  | feedStored producer call pending =>
      have history := storeValues_history state call.entries
      refine ⟨storeValues_genuine stored call.entries, fun batch aloft => ?_, fun send member => ?_⟩
      · simp only [inFlight_notify] at aloft
        exact history ▸ (flying batch aloft).grow _
      · simp only [storeValues_calls] at member
        exact history ▸ (issued send member).grow _
  | shutdownCleared here => exact ⟨allGenuine_empty, flying, issued⟩
  | shutdownNotified here =>
      refine ⟨stored, fun batch aloft => ?_, issued⟩
      simp only [inFlight_notify] at aloft
      exact flying batch aloft
  | feedCalled | feedRefused | shutdownTested | subscriberWrote => exact ⟨stored, flying, issued⟩
  | waited | registered | registerFailed | updated =>
      exact ⟨stored, idle rfl, answered _ fun _ same => by cases same⟩
  | registerError | spuriousWakeup | notified => exact ⟨stored, idle rfl, issued⟩
  | loopTest | registerTestActive | registerTestConnected | feedTestActive | feedTestConnected
  | waitTestActive | waitTestConnected | locked =>
      refine ⟨stored, idle ?_, issued⟩
      simp only [inFlight_ite]
      split <;> rfl

theorem authentic_reached {config : DatapointConfiguration V} {guard : State V → Event V → Prop}
    {state : State V} (reached : (machine config).Reached guard state) : Authentic config state := by
  refine reached.invariant ⟨allGenuine_empty, ?_, ?_⟩ ?_
  · intro batch aloft
    cases aloft
  · intro send member
    cases member
  · intro state event next authentic _ taken
    exact authentic_step authentic (step_cases taken)

/-- Each datapoint of a request belongs to a name with its id and is genuine for that name. -/
theorem request_genuine {config : DatapointConfiguration V} {state : State V}
    (authentic : Authentic config state) {send : Send V} (member : .issued send ∈ state.calls) {id : Int32}
    {sample : Sample V} (carried : send.datapoints.lookup id = some sample) :
    ∃ name, send.idMap.lookup name = some id ∧ Genuine config state.fed name sample := by
  obtain ⟨name, named, found⟩ := KeyedMap.exists_of_lookup_relabel _ send.values carried
  exact ⟨name, named, authentic.issued send member name sample found⟩

end VehicleEdge.Feeder
