import VehicleEdge.Feeder.Delivery

/-
This file describes one pass of `feedStoredValues` with the feeding calls that run beside it.
The store after the pass is a function of the store before it, the calls, and the outcome of the update.
-/

namespace VehicleEdge.Feeder

variable {V : Type}

/-- A feeding call runs when it takes the mutex of the store. -/
def storedCall (state : State V) : Event V → List (FeedCall V)
  | .feedStored producer => (state.producers producer).toList
  | _ => []

/-- A pass starts with the swap, and it goes on while the batch is in flight. -/
inductive Pass (config : DatapointConfiguration V) (before : State V) :
    List (FeedCall V) → State V → Prop where
  | swapped (initial : Bool) {state : State V} (here : before.run = .swapStoredValues initial)
      (taken : step config before .run = some state) : Pass config before [] state
  | next {calls : List (FeedCall V)} {state next : State V} (event : Event V)
      (earlier : Pass config before calls state) (flying : state.run.inFlight.isSome)
      (open_ : beforeShutdown state event) (taken : step config state event = some next) :
      Pass config before (calls ++ storedCall state event) next

/-- The calls store their entries one after the other. -/
def applied (calls : List (FeedCall V)) : KeyedMap String V :=
  KeyedMap.overwrite ∅ (calls.flatMap FeedCall.entries)

/-- The last entry of a name is its newest value. -/
def lastValue (calls : List (FeedCall V)) (name : String) : Option V :=
  (calls.flatMap FeedCall.entries).reverse.dlookup name

/-- The first datapoint with the name gives its initial value. -/
def firstInitialValue (config : DatapointConfiguration V) (name : String) : Option V :=
  (config.find? fun metadata => metadata.name = name).map DatapointMetadata.initialValue

def State.storedValue (state : State V) (name : String) : Option V :=
  (state.storedValues.lookup name).map Sample.value

/-- A batch takes the stored value of a name, or its first initial value when these are fed too. -/
def batchValue (config : DatapointConfiguration V) (initial : Bool) (before : State V) (name : String) :
    Option V :=
  (before.storedValue name).or (if initial then firstInitialValue config name else none)

theorem lookup_applied (calls : List (FeedCall V)) (name : String) :
    (applied calls).lookup name = lastValue calls name := by
  rw [applied, KeyedMap.lookup_overwrite, AList.lookup_empty, Option.or_none]
  rfl

theorem lastValue_append (earlier later : List (FeedCall V)) (name : String) :
    lastValue (earlier ++ later) name = (lastValue later name).or (lastValue earlier name) := by
  rw [lastValue, List.flatMap_append, List.reverse_append, List.dlookup_append]
  rfl

theorem dlookup_initialEntries (config : DatapointConfiguration V) (name : String) :
    ((initialEntries config).dlookup name).map Sample.value = firstInitialValue config name := by
  unfold initialEntries firstInitialValue
  rw [KeyedMap.dlookup_map, Option.map_map]
  rfl

theorem storedValue_storeValues (state : State V) (entries : List (Σ _ : String, V)) (name : String) :
    (state.storeValues entries).storedValue name =
      (entries.reverse.dlookup name).or (state.storedValue name) := by
  induction entries generalizing state with
  | nil => rfl
  | cons entry entries ih =>
      rw [storeValues_cons, ih, List.reverse_cons, List.dlookup_append, Option.or_assoc]
      obtain ⟨key, value⟩ := entry
      by_cases same : name = key
      · subst same
        simp [State.storedValue, State.feed, lookup_storeValue_self]
      · let entry : Σ _ : String, V := ⟨key, value⟩
        have other : List.dlookup name [entry] = none := List.dlookup_cons_ne [] entry same
        have kept : (state.feed entry).storedValue name = state.storedValue name := by
          unfold State.storedValue State.feed
          rw [lookup_storeValue_of_ne _ same]
        rw [other, Option.none_or, kept]

/-- This is the batch of the pass. -/
def batchOf (config : DatapointConfiguration V) (initial : Bool) (before : State V) : DatapointValues V :=
  if initial then insertInitialValues config before.storedValues else before.storedValues

theorem value_batchOf (config : DatapointConfiguration V) (initial : Bool) (before : State V)
    (name : String) :
    ((batchOf config initial before).lookup name).map Sample.value =
      batchValue config initial before name := by
  unfold batchOf batchValue State.storedValue
  cases initial with
  | false => simp
  | true =>
      rw [if_pos rfl, if_pos rfl, lookup_insertInitialValues, Option.map_or, dlookup_initialEntries]

def sendOf (config : DatapointConfiguration V) (initial : Bool) (before : State V) : Send V :=
  ⟨before.idMap, batchOf config initial before⟩

/-- At each place the pass holds its batch and has made these calls. -/
def Progress (config : DatapointConfiguration V) (initial : Bool) (before : State V)
    (calls : List (Call V)) : RunPc V → Prop
  | .insertInitialValues flag values =>
      flag = initial ∧ values = before.storedValues ∧ calls = before.calls
  | .feedToBroker values => values = batchOf config initial before ∧ calls = before.calls
  | .awaitUpdate send =>
      send = sendOf config initial before ∧ calls = .issued send :: before.calls
  | .updateError values | .restoreValues values =>
      values = batchOf config initial before ∧
        calls = .updateFailed (sendOf config initial before) ::
          .issued (sendOf config initial before) :: before.calls
  | .waitTestActive => True
  | _ => False

/-- The pass ends with a sent batch and the newer values, or with a failed batch below the newer values. -/
def Ended (config : DatapointConfiguration V) (initial : Bool) (before : State V)
    (calls : List (FeedCall V)) (after : State V) : Prop :=
  let send := sendOf config initial before
  (after.calls = .updated send :: .issued send :: before.calls ∧
    ∀ name, after.storedValue name = lastValue calls name) ∨
  (after.calls = .updateFailed send :: .issued send :: before.calls ∧
    ∀ name, after.storedValue name = (lastValue calls name).or (batchValue config initial before name))

/-- While the batch is in flight, the store holds the newer values only. -/
structure Midway (config : DatapointConfiguration V) (initial : Bool) (before : State V)
    (calls : List (FeedCall V)) (state : State V) : Prop where
  ids : state.idMap = before.idMap
  progress : Progress config initial before state.calls state.run
  newer : state.run.inFlight.isSome → ∀ name, state.storedValue name = lastValue calls name
  ended : state.run = .waitTestActive → Ended config initial before calls state

section Step

variable {config : DatapointConfiguration V} {initial : Bool} {before state next : State V}
  {calls : List (FeedCall V)}

theorem notify_of_inFlight {pc : RunPc V} (flying : pc.inFlight.isSome) : pc.notify = pc := by
  cases pc with
  | asleep => cases flying
  | _ => rfl

/-- A step of another thread that keeps the store, the ids, and the calls keeps the pass. -/
theorem Midway.beside (midway : Midway config initial before calls state) (ids : next.idMap = state.idMap)
    (run : next.run = state.run) (made : next.calls = state.calls)
    (stored : next.storedValues = state.storedValues) : Midway config initial before calls next where
  ids := ids.trans midway.ids
  progress := by
    rw [run, made]
    exact midway.progress
  newer := by
    unfold State.storedValue
    rw [run, stored]
    exact midway.newer
  ended := by
    unfold Ended State.storedValue
    rw [run, made, stored]
    exact midway.ended

/-- The entries of a feeding call become the newest values. -/
theorem Midway.feedStored (midway : Midway config initial before calls state)
    (flying : state.run.inFlight.isSome) (producers : Nat → Option (FeedCall V)) (call : FeedCall V) :
    Midway config initial before (calls ++ [call])
      { state.storeValues call.entries with producers := producers, run := state.run.notify } := by
  obtain ⟨_, _, ids, _, _, made⟩ := storeValues_frame state call.entries
  rw [notify_of_inFlight flying]
  refine ⟨ids.trans midway.ids, ?_, fun _ name => ?_, fun ended => ?_⟩
  · dsimp only
    rw [made]
    exact midway.progress
  · have alone : lastValue [call] name = call.entries.reverse.dlookup name := by simp [lastValue]
    rw [lastValue_append, alone, ← midway.newer flying name]
    exact storedValue_storeValues state call.entries name
  · dsimp only at ended
    rw [ended] at flying
    cases flying

theorem midway_swap (here : before.run = .swapStoredValues initial)
    (taken : step config before .run = some state) : Midway config initial before [] state := by
  simp only [step, runStep, here, Option.some.injEq] at taken
  subst taken
  exact ⟨rfl, ⟨rfl, rfl, rfl⟩, fun _ name => rfl, fun ended => by cases ended⟩

theorem midway_step {event : Event V} (midway : Midway config initial before calls state)
    (flying : state.run.inFlight.isSome) (open_ : beforeShutdown state event)
    (taken : Step config state event next) :
    Midway config initial before (calls ++ storedCall state event) next := by
  have newer := midway.newer flying
  have progress := midway.progress
  cases taken with
  | merged flag values here =>
      rw [here] at progress
      obtain ⟨rfl, rfl, made⟩ := progress
      simp only [storedCall, List.append_nil]
      exact ⟨midway.ids, ⟨rfl, made⟩, fun _ => newer, nofun⟩
  | issued values here =>
      rw [here] at progress
      obtain ⟨rfl, made⟩ := progress
      have send : (⟨state.idMap, batchOf config initial before⟩ : Send V) = sendOf config initial before := by
        rw [sendOf, midway.ids]
      simp only [storedCall, List.append_nil]
      refine ⟨midway.ids, ⟨send, ?_⟩, fun _ => newer, nofun⟩
      dsimp only
      rw [made]
  | updated send here =>
      rw [here] at progress
      obtain ⟨rfl, made⟩ := progress
      simp only [storedCall, List.append_nil]
      refine ⟨midway.ids, trivial, nofun, fun _ => Or.inl ⟨?_, newer⟩⟩
      dsimp only
      rw [made]
  | updateFailed send here =>
      rw [here] at progress
      obtain ⟨rfl, made⟩ := progress
      simp only [storedCall, List.append_nil]
      refine ⟨midway.ids, ⟨rfl, ?_⟩, fun _ => newer, nofun⟩
      dsimp only
      rw [made]
  | updateError values here =>
      rw [here] at progress
      simp only [storedCall, List.append_nil]
      exact ⟨midway.ids, progress, fun _ => newer, nofun⟩
  | restored values here =>
      rw [here] at progress
      obtain ⟨rfl, made⟩ := progress
      simp only [storedCall, List.append_nil]
      refine ⟨midway.ids, trivial, nofun, fun _ => Or.inr ⟨made, fun name => ?_⟩⟩
      rw [← newer name, ← value_batchOf]
      unfold State.storedValue
      rw [lookup_restoreValues, Option.map_or]
  | feedStored producer call pending =>
      have stored : storedCall state (.feedStored producer) = [call] := by
        rw [storedCall, pending]
        rfl
      rw [stored]
      exact midway.feedStored flying _ call
  | shutdownCleared => cases open_
  | shutdownNotified =>
      simp only [storedCall, List.append_nil]
      exact midway.beside rfl (notify_of_inFlight flying) rfl rfl
  | feedCalled | feedRefused | shutdownTested | subscriberWrote =>
      simp only [storedCall, List.append_nil]
      exact midway.beside rfl rfl rfl rfl
  | loopTest here | waited here | registerTestActive here | registerTestConnected here | registered here
  | registerFailed here | registerError here | feedTestActive _ here | feedTestConnected _ here
  | swapped _ here | waitTestActive here | waitTestConnected here | locked here | spuriousWakeup here
  | notified here =>
      rw [here] at flying
      cases flying

theorem midway_pass (here : before.run = .swapStoredValues initial) {calls : List (FeedCall V)}
    (pass : Pass config before calls state) : Midway config initial before calls state := by
  induction pass with
  | swapped flag started taken =>
      cases here.symm.trans started
      exact midway_swap here taken
  | next event earlier flying open_ taken ih => exact midway_step ih flying open_ (step_cases taken)

end Step

/-- With distinct ids a request carries exactly the values of the names that have an id. -/
theorem Send.mem_datapoints (send : Send V) (distinct : ∀ name, UniqueId send.idMap name) (id : Int32)
    (value : V) :
    (send.datapoints.lookup id).map Sample.value = some value ↔
      ∃ name, send.idMap.lookup name = some id ∧
        (send.values.lookup name).map Sample.value = some value := by
  by_cases labelled : ∃ name, send.idMap.lookup name = some id
  · obtain ⟨name, named⟩ := labelled
    rw [send.lookup_datapoints (distinct name) named]
    constructor
    · intro carried
      exact ⟨name, named, carried⟩
    · rintro ⟨other, shared, carried⟩
      rwa [distinct name id other named shared] at carried
  · have absent : send.datapoints.lookup id = none :=
      KeyedMap.lookup_relabel_none _ send.values.entries (not_exists.mp labelled)
    rw [absent]
    constructor
    · nofun
    · rintro ⟨name, named, _⟩
      exact absurd ⟨name, named⟩ labelled

/-- A failed update leaves every value in its place below the newer ones, and a successful one takes
exactly its batch. -/
theorem pass_keeps_or_consumes_batch (config : DatapointConfiguration V) (initial : Bool)
    {before after : State V} {calls : List (FeedCall V)} (here : before.run = .swapStoredValues initial)
    (distinct : ∀ name, UniqueId before.idMap name) (pass : Pass config before calls after)
    (returned : after.run = .waitTestActive) :
    ∃ send : Send V,
      (∀ id value, (send.datapoints.lookup id).map Sample.value = some value ↔
        ∃ name, before.idMap.lookup name = some id ∧
          batchValue config initial before name = some value) ∧
      ((after.calls = .updateFailed send :: .issued send :: before.calls ∧
          ∀ name, after.storedValue name =
            (lastValue calls name).or (batchValue config initial before name)) ∨
        (after.calls = .updated send :: .issued send :: before.calls ∧
          ∀ name, after.storedValue name = (applied calls).lookup name)) := by
  refine ⟨sendOf config initial before, fun id value => ?_, ?_⟩
  · rw [Send.mem_datapoints _ distinct]
    simp only [← value_batchOf]
    rfl
  · rcases (midway_pass here pass).ended returned with ⟨made, stored⟩ | ⟨made, stored⟩
    · exact Or.inr ⟨made, fun name => (stored name).trans (lookup_applied calls name).symm⟩
    · exact Or.inl ⟨made, stored⟩

theorem hazardIds_distinct (name : String) : UniqueId hazardIds name := by
  intro id other named shared
  have member : ∀ query, hazardIds.lookup query = some id →
      query = "Vehicle.Body.Lights.Hazard.IsSignaling" := by
    intro query found
    have present : query ∈ hazardIds := AList.lookup_isSome.mp (by simp [found])
    simpa [hazardIds, AList.mem_keys] using present
  exact (member other shared).trans (member name named).symm

/-- The Run thread is about to feed the hazard signal for the first time. -/
def hazardSwap : State Sdv.Datapoint :=
  { initialState Sdv.Datapoint with
    connected := true, idMap := hazardIds, run := .swapStoredValues true }

theorem pass_keeps_or_consumes_batch_hazard : ∃ (after : State Sdv.Datapoint) (send : Send Sdv.Datapoint),
    Pass hazardConfig hazardSwap
        [.feedValue "Vehicle.Body.Lights.Hazard.IsSignaling" (.boolValue true)] after ∧
      after.calls = [.updateFailed send, .issued send] ∧
      (send.datapoints.lookup 7).map Sample.value = some Sdv.createNotAvailableValue ∧
      after.storedValue "Vehicle.Body.Lights.Hazard.IsSignaling" = some (.boolValue true) := by
  have swap : Pass hazardConfig hazardSwap [] _ := .swapped true rfl rfl
  have called := swap.next (.feedCalled 0 (.feedValue "Vehicle.Body.Lights.Hazard.IsSignaling"
    (.boolValue true))) rfl rfl rfl
  have fed := called.next (.feedStored 0) rfl rfl rfl
  have sent := (fed.next .run rfl rfl rfl).next .run rfl rfl rfl
  have failed := sent.next (.updateReturned false) rfl rfl rfl
  have pass := (failed.next .run rfl rfl rfl).next .run rfl rfl rfl
  obtain ⟨send, request, ⟨made, stored⟩ | ⟨made, _⟩⟩ :=
    pass_keeps_or_consumes_batch hazardConfig true rfl hazardIds_distinct pass rfl
  · exact ⟨_, send, pass, made,
      (request 7 _).mpr ⟨"Vehicle.Body.Lights.Hazard.IsSignaling", rfl, rfl⟩, stored _⟩
  · cases made

end VehicleEdge.Feeder
