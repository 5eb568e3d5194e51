import VehicleEdge.Subscriber.Run

/-
This file compares the calls of the change callback with the responses that the subscriber has read.
-/

namespace VehicleEdge.Subscriber

variable {U : Type}

/-- The first update of a path in a response decides its value. -/
def collect (updates : List (String × U)) : KeyedMap String U :=
  updates.foldl (fun changes update => KeyedMap.insertNew changes update.1 update.2) ∅

theorem collect_concat (updates : List (String × U)) (path : String) (value : U) :
    collect (updates ++ [(path, value)]) = KeyedMap.insertNew (collect updates) path value := by
  simp [collect]

/-- A successful read adds one response, and the newest response is first. -/
def responsesAfter (responses : List (List (String × U))) : Event U → List (List (String × U))
  | .readReturned (some updates) => updates :: responses
  | _ => responses

/-- Every response but the newest one has been passed to the callback. -/
def PassedBefore (responses : List (List (String × U))) (callbacks : List (KeyedMap String U)) : Prop :=
  ∃ newest older, responses = newest :: older ∧ callbacks = older.map collect

/-- The callbacks are the responses in their order, and only a shutdown can keep the newest one back. -/
def Passed (responses : List (List (String × U))) (state : State U) : Prop :=
  state.callbacks = responses.map collect ∨
    (state.subscriberActive = false ∧ PassedBefore responses state.callbacks)

/-- The newest response is being collected, from its first update on. -/
def Collecting (responses : List (List (String × U))) (state : State U) (rest : List (String × U))
    (changes : KeyedMap String U) : Prop :=
  ∃ newest older, responses = newest :: older ∧ state.callbacks = older.map collect ∧
    (state.subscriberActive = true → ∃ done, newest = done ++ rest ∧ changes = collect done)

/-- Before its activation the subscriber has read nothing, and afterwards it is never activated again. -/
def Faithful (responses : List (List (String × U))) (state : State U) : Prop :=
  match state.run with
  | .testActuators | .setActive => responses = [] ∧ state.callbacks = []
  | .reading => state.callbacks = responses.map collect
  | .collecting rest changes => Collecting responses state rest changes
  | .callbackTest changes => Collecting responses state [] changes
  | _ => Passed responses state

section Step

variable {responses : List (List (String × U))} {state next : State U}

theorem Passed.quiet (passed : Passed responses state) (callbacks : next.callbacks = state.callbacks)
    (active : next.subscriberActive = state.subscriberActive) : Passed responses next := by
  unfold Passed at passed ⊢
  rwa [callbacks, active]

theorem Passed.active (passed : Passed responses state) (active : state.subscriberActive = true) :
    state.callbacks = responses.map collect := by
  rcases passed with all | ⟨inactive, _⟩
  · exact all
  · rw [active] at inactive
    cases inactive

/-- A step outside the Run thread keeps the relation when it does not activate the subscriber. -/
theorem Faithful.beside (faithful : Faithful responses state) (run : next.run = state.run)
    (callbacks : next.callbacks = state.callbacks)
    (active : next.subscriberActive = true → state.subscriberActive = true) : Faithful responses next := by
  have kept (passed : Passed responses state) : Passed responses next := by
    cases after : next.subscriberActive with
    | true => exact .inl (callbacks.trans (passed.active (active after)))
    | false =>
        rcases passed with all | ⟨-, before⟩
        · exact .inl (callbacks.trans all)
        · exact .inr ⟨after, callbacks ▸ before⟩
  have collected {rest : List (String × U)} {changes : KeyedMap String U}
      (collecting : Collecting responses state rest changes) : Collecting responses next rest changes := by
    obtain ⟨newest, older, read, before, done⟩ := collecting
    exact ⟨newest, older, read, callbacks.trans before, fun after => done (active after)⟩
  unfold Faithful at faithful ⊢
  rw [run]
  cases here : state.run with
  | testActuators | setActive =>
      rw [here] at faithful
      exact ⟨faithful.1, callbacks.trans faithful.2⟩
  | reading =>
      rw [here] at faithful
      exact callbacks.trans faithful
  | collecting | callbackTest =>
      rw [here] at faithful
      exact collected faithful
  | _ =>
      rw [here] at faithful
      exact kept faithful

theorem faithful_step {event : Event U} (faithful : Faithful responses state)
    (taken : Step state event next) : Faithful (responsesAfter responses event) next := by
  cases taken with
  | noActuators here =>
      simp only [Faithful, here] at faithful
      exact .inl (by simp [faithful, responsesAfter])
  | hasActuators here =>
      simp only [Faithful, here] at faithful
      exact faithful
  | activated here =>
      simp only [Faithful, here] at faithful
      exact .inl (by simp [faithful, responsesAfter])
  | loopTest here =>
      simp only [Faithful, here] at faithful
      cases active : state.subscriberActive with
      | true => exact faithful.quiet rfl active.symm
      | false => exact faithful.quiet rfl active.symm
  | waited here connected =>
      simp only [Faithful, here] at faithful
      exact faithful.quiet rfl rfl
  | connectedTest here =>
      simp only [Faithful, here] at faithful
      cases connected : state.connected <;> exact faithful.quiet rfl rfl
  | created here =>
      simp only [Faithful, here] at faithful
      exact faithful.quiet rfl rfl
  | readTest here =>
      simp only [Faithful, here] at faithful
      cases active : state.subscriberActive with
      | true => exact faithful.active active
      | false => exact faithful.quiet rfl active.symm
  | read here updates =>
      simp only [Faithful, here] at faithful
      exact ⟨updates, responses, rfl, faithful, fun _ => ⟨[], rfl, rfl⟩⟩
  | readEnded here =>
      simp only [Faithful, here] at faithful
      exact .inl faithful
  | collected changes here =>
      simp only [Faithful, here] at faithful
      exact faithful
  | collecting path value updates changes here =>
      simp only [Faithful, here] at faithful
      obtain ⟨newest, older, read, callbacks, collecting⟩ := faithful
      cases active : state.subscriberActive with
      | true =>
          obtain ⟨done, whole, same⟩ := collecting active
          refine ⟨newest, older, read, callbacks, fun _ => ⟨done ++ [(path, value)], by simp [whole], ?_⟩⟩
          rw [collect_concat, same]
      | false =>
          refine ⟨newest, older, read, callbacks, fun stillActive => ?_⟩
          cases stillActive
  | called changes here =>
      simp only [Faithful, here] at faithful
      obtain ⟨newest, older, read, callbacks, collecting⟩ := faithful
      cases active : state.subscriberActive with
      | true =>
          obtain ⟨done, whole, same⟩ := collecting active
          rw [List.append_nil] at whole
          exact .inl (by simp [responsesAfter, read, callbacks, whole, same])
      | false => exact .inr ⟨rfl, newest, older, read, callbacks⟩
  | finishEnded here ok =>
      simp only [Faithful, here] at faithful
      exact faithful.quiet rfl rfl
  | finished ok here =>
      simp only [Faithful, here] at faithful
      cases ok with
      | true => exact faithful.quiet rfl rfl
      | false => cases active : state.subscriberActive <;> exact faithful.quiet rfl active.symm
  | disconnected here =>
      simp only [Faithful, here] at faithful
      exact faithful.quiet rfl rfl
  | destroyed here =>
      simp only [Faithful, here] at faithful
      exact faithful.quiet rfl rfl
  | shutdownTested | shutdownCancelled | feederWrote => exact faithful.beside rfl rfl fun active => active
  | shutdownDeactivated =>
      refine faithful.beside rfl rfl fun active => ?_
      cases active

end Step

end VehicleEdge.Subscriber
