import VehicleEdge.Library.Shell
import VehicleEdge.Someip.Client
import VehicleEdge.Someip.DecodeBounds

/-
This file compares the events that the client subscribes with the events that the adapter decodes, and
follows the subscriptions through the callbacks of the client.
-/

namespace VehicleEdge.Someip

section Range

variable (config : SomeIPConfig)

/-- The loop reaches exactly the ids that are at most 33 above the configured event, in 16 bits. -/
theorem exists_eventAt {event : UInt16} :
    (∃ i < 34, eventAt config i = event) ↔ (event - config.event).toNat ≤ 33 := by
  have start := config.event.toNat_lt
  have bound := event.toNat_lt
  have distance : (event - config.event).toNat = (2 ^ 16 - config.event.toNat + event.toNat) % 2 ^ 16 :=
    UInt16.toNat_sub _ _
  rw [distance]
  unfold eventAt
  constructor
  · rintro ⟨i, below, rfl⟩
    rw [UInt16.toNat_ofNat']
    omega
  · intro near
    refine ⟨(2 ^ 16 - config.event.toNat + event.toNat) % 2 ^ 16, by omega, ?_⟩
    rw [← UInt16.toNat_inj, UInt16.toNat_ofNat']
    omega

theorem mem_initEventService {call : AppCall} :
    call ∈ initEventService config ↔ ∃ i < 34,
      call = .requestEvent config.service config.instance_ (eventAt config i) config.eventGroup ∨
        call = .subscribe config.service config.instance_ config.eventGroup config.serviceMajor
          (eventAt config i) := by
  simp [initEventService]

/-- The calls request the event and subscribe it. -/
def Subscribes (calls : List AppCall) (service instance_ event : UInt16) : Prop :=
  (∃ eventGroup, .requestEvent service instance_ event eventGroup ∈ calls) ∧
    ∃ eventGroup major, .subscribe service instance_ eventGroup major event ∈ calls

theorem subscribes_initEventService {event : UInt16} :
    Subscribes (initEventService config) config.service config.instance_ event ↔
      (event - config.event).toNat ≤ 33 := by
  rw [← exists_eventAt]
  unfold Subscribes
  simp only [mem_initEventService]
  constructor
  · rintro ⟨⟨eventGroup, i, below, requested | ⟨⟨⟩⟩⟩, -⟩
    cases requested
    exact ⟨i, below, rfl⟩
  · rintro ⟨i, below, rfl⟩
    exact ⟨⟨_, i, below, Or.inl rfl⟩, _, _, i, below, Or.inr rfl⟩

end Range

/-- The events of one mapping can all be received exactly when the id of every node with bytes is at most 33
above the id of the mapping. -/
theorem decodable_events_are_subscribed {vssMap : List VSSConfigInfo} {mapping : VSSConfigInfo}
    (single : (vssMap.filter fun mapping => mapping.metaData.serviceType = "Event") = [mapping]) :
    (∀ methodId, eventNodes (createEnvConfig vssMap) mapping.metaData.serviceID
          mapping.metaData.instanceID methodId ≠ [] →
        Subscribes (initEventService (createEnvConfig vssMap)) mapping.metaData.serviceID
          mapping.metaData.instanceID methodId) ↔
      ∀ node ∈ mapping.vssNodes, 0 < node.length →
        (node.methodId - mapping.metaData.eventID).toNat ≤ 33 := by
  obtain ⟨service, instance_, event⟩ := createEnvConfig_event single
  have isEvent : mapping ∈ vssMap ∧ mapping.metaData.serviceType = "Event" := by
    have member : mapping ∈ vssMap.filter fun mapping => mapping.metaData.serviceType = "Event" := by
      rw [single]
      exact List.mem_singleton_self _
    simpa using List.mem_filter.mp member
  have only : ∀ other ∈ vssMap, other.metaData.serviceType = "Event" → other = mapping := by
    intro other member otherEvent
    have kept : other ∈ vssMap.filter fun mapping => mapping.metaData.serviceType = "Event" :=
      List.mem_filter.mpr ⟨member, by simpa using otherEvent⟩
    rw [single] at kept
    exact List.mem_singleton.mp kept
  rw [← service, ← instance_, ← event]
  simp only [subscribes_initEventService]
  constructor
  · intro subscribed node member nonempty
    apply subscribed
    apply List.ne_nil_of_mem
    exact mem_eventNodes.mpr ⟨mapping, by rw [createEnvConfig, foldl_adopt_vssMap]; exact isEvent.1,
      ⟨isEvent.2, rfl, rfl⟩, member, rfl, nonempty⟩
  · intro near methodId decoded
    obtain ⟨node, visited⟩ := List.exists_mem_of_ne_nil _ decoded
    obtain ⟨other, member, ⟨otherEvent, -⟩, inNodes, rfl, nonempty⟩ := mem_eventNodes.mp visited
    rw [createEnvConfig, foldl_adopt_vssMap] at member
    exact near node (only other member otherEvent ▸ inNodes) nonempty

/-- This is the event mapping of the drive feeder with one node. -/
def driveEvent (methodId : UInt16) : VSSConfigInfo where
  metaData := ⟨"Event", 39936, 4, 0, 32774, 1, 1, 0⟩
  vssNodes := [⟨"Vehicle.Chassis.Accelerator.PedalPosition", "uint8", 0, 1, methodId, ∅⟩]

theorem decodable_events_are_subscribed_drive :
    ([driveEvent 32805].filter fun mapping => mapping.metaData.serviceType = "Event") = [driveEvent 32805] ∧
      ∀ methodId, eventNodes (createEnvConfig [driveEvent 32805]) 39936 4 methodId ≠ [] →
        Subscribes (initEventService (createEnvConfig [driveEvent 32805])) 39936 4 methodId := by
  have single : ([driveEvent 32805].filter fun mapping => mapping.metaData.serviceType = "Event") =
      [driveEvent 32805] := rfl
  refine ⟨single, (decodable_events_are_subscribed single).mpr ?_⟩
  intro node member _
  obtain rfl := List.mem_singleton.mp member
  decide

/-- The first id after the subscribed range is decoded and never subscribed. -/
theorem late_event_is_not_subscribed :
    ¬ ∀ methodId, eventNodes (createEnvConfig [driveEvent 32808]) 39936 4 methodId ≠ [] →
      Subscribes (initEventService (createEnvConfig [driveEvent 32808])) 39936 4 methodId := by
  intro subscribed
  have decoded : eventNodes (createEnvConfig [driveEvent 32808]) 39936 4 32808 ≠ [] := by
    exact List.cons_ne_nil _ _
  have near := (subscribes_initEventService (createEnvConfig [driveEvent 32808])).mp
    (subscribed 32808 decoded)
  exact absurd near (by decide)

section Balance

/-- The event subscribes the whole range. -/
def ClientEvent.Opens (config : SomeIPConfig) (event : ClientEvent) : Prop :=
  event = .init true ∨ event = .onAvailability config.service config.instance_ true

/-- The event has to leave no subscription. -/
def ClientEvent.Closes (config : SomeIPConfig) (event : ClientEvent) : Prop :=
  event = .onAvailability config.service config.instance_ false ∨ event = .shutdown

/-- After the event service is gone the client has no subscription, and after a shutdown no request either. -/
def Balanced (config : SomeIPConfig) (event : ClientEvent) (client : Client) : Prop :=
  (event = .onAvailability config.service config.instance_ false → client.held.subscriptions = ∅) ∧
    (event = .shutdown → client.held.subscriptions = ∅ ∧ client.held.requests = ∅)

/-- The call takes this event out of no set. -/
def AppCall.Spares (key : EventKey) : AppCall → Prop
  | .releaseEvent service instance_ event => key ≠ (service, instance_, event)
  | .unsubscribe service instance_ _ event => key ≠ (service, instance_, event)
  | _ => True

theorem mem_subscriptions_foldl {key : EventKey} {calls : List AppCall}
    (spared : ∀ call ∈ calls, call.Spares key) {held : Held}
    (added : key ∈ held.subscriptions ∨
      ∃ eventGroup major, .subscribe key.1 key.2.1 eventGroup major key.2.2 ∈ calls) :
    key ∈ (calls.foldl Held.after held).subscriptions := by
  apply repeated_kept fun held : Held => key ∈ held.subscriptions
  · intro call member held present
    have spares := spared call member
    cases call with
    | subscribe => exact Finset.mem_insert_of_mem present
    | unsubscribe => exact Finset.mem_erase_of_ne_of_mem spares present
    | _ => exact present
  · refine added.imp_right ?_
    rintro ⟨eventGroup, major, member⟩
    exact ⟨_, member, fun held => Finset.mem_insert_self _ _⟩

theorem mem_requests_foldl {key : EventKey} {calls : List AppCall}
    (spared : ∀ call ∈ calls, call.Spares key) {held : Held}
    (added : key ∈ held.requests ∨
      ∃ eventGroup, .requestEvent key.1 key.2.1 key.2.2 eventGroup ∈ calls) :
    key ∈ (calls.foldl Held.after held).requests := by
  apply repeated_kept fun held : Held => key ∈ held.requests
  · intro call member held present
    have spares := spared call member
    cases call with
    | requestEvent => exact Finset.mem_insert_of_mem present
    | releaseEvent => exact Finset.mem_erase_of_ne_of_mem spares present
    | _ => exact present
  · refine added.imp_right ?_
    rintro ⟨eventGroup, member⟩
    exact ⟨_, member, fun held => Finset.mem_insert_self _ _⟩

variable (config : SomeIPConfig) (client : Client)

/-- This is the second event of the range, which the client never unsubscribes. -/
def secondEvent : EventKey := (config.service, config.instance_, eventAt config 1)

theorem secondEvent_ne : secondEvent config ≠ (config.service, config.instance_, config.event) := by
  intro same
  have id : eventAt config 1 = config.event := by
    simpa [secondEvent] using same
  have bound := config.event.toNat_lt
  rw [eventAt, ← UInt16.toNat_inj, UInt16.toNat_ofNat'] at id
  omega

/-- The second event is in both sets. -/
def Leaks : Prop :=
  secondEvent config ∈ client.held.subscriptions ∧ secondEvent config ∈ client.held.requests

theorem spares_initEventService :
    ∀ call ∈ initEventService config, call.Spares (secondEvent config) := by
  intro call member
  obtain ⟨i, _, rfl | rfl⟩ := (mem_initEventService config).mp member <;> trivial

/-- An event adds its calls to the history: an opening one subscribes the range, and any other one adds
nothing to the sets. -/
theorem step_calls (event : ClientEvent) : ∃ made,
    (client.step config event).calls = client.calls ++ made ∧
      (∀ call ∈ made, call.Spares (secondEvent config)) ∧
      (event.Opens config → ∀ call ∈ initEventService config, call ∈ made) ∧
      (¬ event.Opens config → made.foldl Held.after {} = {}) := by
  have unsubscribed : ∀ eventGroup, (AppCall.unsubscribe config.service config.instance_ eventGroup
      config.event).Spares (secondEvent config) := fun _ => secondEvent_ne config
  have released : (AppCall.releaseEvent config.service config.instance_ config.event).Spares
      (secondEvent config) := secondEvent_ne config
  unfold Client.step ClientEvent.Opens
  cases event with
  | init initialized =>
      cases initialized with
      | false => exact ⟨[], by simp [Client.init], by simp, by simp, by simp⟩
      | true =>
          refine ⟨.registerHandlers :: initEventService config, rfl, ?_, ?_, by simp⟩
          · exact List.forall_mem_cons.mpr ⟨trivial, spares_initEventService config⟩
          · exact fun _ call member => List.mem_cons_of_mem _ member
  | onState registered =>
      cases registered with
      | false => exact ⟨[], by simp [Client.onState], by simp, by simp, by simp⟩
      | true =>
          refine ⟨_, rfl, ?_, by simp, fun _ => ?_⟩
          · cases config.req.useReq <;> simp [AppCall.Spares]
          · cases config.req.useReq <;> rfl
  | onAvailability service instance_ isAvailable =>
      refine ⟨_, rfl, ?_, ?_, ?_⟩
      · split
        · cases isAvailable with
          | true => exact spares_initEventService config
          | false => simpa using unsubscribed config.eventGroup
        · simp
      · simp only [reduceCtorEq, false_or, ClientEvent.onAvailability.injEq]
        rintro ⟨rfl, rfl, rfl⟩
        simp
      · intro closed
        split
        case isTrue own =>
          cases isAvailable with
          | true => exact absurd (by simp [own]) closed
          | false => rfl
        case isFalse => rfl
  | shutdown =>
      unfold Client.shutdown
      cases client.stopRequested with
      | true => exact ⟨[], by simp, by simp, by simp, by simp⟩
      | false =>
          refine ⟨_, rfl, ?_, by simp, fun _ => ?_⟩
          · cases config.req.useReq <;> cases client.initialized <;>
              simp [unsubscribed, released] <;> simp [AppCall.Spares]
          · cases config.req.useReq <;> cases client.initialized <;> rfl

/-- Once the range is subscribed, its second event stays in both sets. -/
theorem leaks_step (event : ClientEvent) (leaks : event.Opens config ∨ Leaks config client) :
    Leaks config (client.step config event) := by
  obtain ⟨made, calls, spared, opened, -⟩ := step_calls config client event
  unfold Leaks Client.held at leaks ⊢
  rw [calls, List.foldl_append]
  rcases leaks with opens | ⟨subscribed, requested⟩
  · have reached : (eventAt config 1 - config.event).toNat ≤ 33 :=
      (exists_eventAt config).mp ⟨1, by decide, rfl⟩
    obtain ⟨⟨_, requests⟩, _, _, subscribes⟩ := (subscribes_initEventService config).mpr reached
    exact ⟨mem_subscriptions_foldl spared (Or.inr ⟨_, _, opened opens _ subscribes⟩),
      mem_requests_foldl spared (Or.inr ⟨_, opened opens _ requests⟩)⟩
  · exact ⟨mem_subscriptions_foldl spared (Or.inl subscribed), mem_requests_foldl spared (Or.inl requested)⟩

theorem run_leaks {events : List ClientEvent} (opens : ∃ event ∈ events, event.Opens config) :
    Leaks config (Client.run config events) := by
  obtain ⟨event, member, opens⟩ := opens
  apply repeated_kept (Leaks config)
  · exact fun next _ client leaks => leaks_step config client next (Or.inr leaks)
  · exact Or.inr ⟨event, member, fun client => leaks_step config client event (Or.inl opens)⟩

theorem run_empty {events : List ClientEvent} (closed : ∀ event ∈ events, ¬ event.Opens config) :
    (Client.run config events).held = {} := by
  induction events using List.reverseRecOn with
  | nil => rfl
  | append_singleton earlier event ih =>
      obtain ⟨before, last⟩ := List.forall_mem_append.mp closed
      obtain ⟨made, calls, -, -, nothing⟩ := step_calls config (Client.run config earlier) event
      have held := ih before
      unfold Client.held at held ⊢
      rw [Client.run, List.foldl_concat, ← Client.run, calls, List.foldl_append, held]
      exact nothing (last event (List.mem_singleton_self _))

/-- The client leaves no subscription and no request behind exactly when it has opened none before. -/
theorem subscriptions_are_balanced (events : List ClientEvent) :
    (∀ earlier event, earlier ++ [event] <+: events →
        Balanced config event (Client.run config (earlier ++ [event]))) ↔
      ∀ earlier event, earlier ++ [event] <+: events → event.Closes config →
        ∀ prior ∈ earlier, ¬ prior.Opens config := by
  constructor
  · intro balanced earlier event reached closes prior member opens
    obtain ⟨down, stopped⟩ := balanced earlier event reached
    have leaks : Leaks config (Client.run config (earlier ++ [event])) :=
      run_leaks config ⟨prior, List.mem_append_left _ member, opens⟩
    have empty : (Client.run config (earlier ++ [event])).held.subscriptions = ∅ := by
      rcases closes with isDown | isShutdown
      · exact down isDown
      · exact (stopped isShutdown).1
    have subscribed := leaks.1
    rw [empty] at subscribed
    exact Finset.notMem_empty _ subscribed
  · intro closed earlier event reached
    have empty : event.Closes config → (Client.run config (earlier ++ [event])).held = {} := by
      intro closes
      apply run_empty
      rw [List.forall_mem_append]
      refine ⟨closed earlier event reached closes, ?_⟩
      rintro other last (rfl | rfl) <;> cases List.mem_singleton.mp last <;>
        simp [ClientEvent.Closes] at closes
    constructor
    · intro isDown
      rw [empty (Or.inl isDown)]
    · intro isShutdown
      rw [empty (Or.inr isShutdown)]
      exact ⟨rfl, rfl⟩

/-- One start and one loss of the event service leave the other events subscribed. -/
theorem lost_service_stays_subscribed :
    ¬ ∀ earlier event, earlier ++ [event] <+: [.init true, .onAvailability 39936 4 false] →
      Balanced (createEnvConfig [driveEvent 32774]) event
        (Client.run (createEnvConfig [driveEvent 32774]) (earlier ++ [event])) := by
  intro balanced
  have empty := (balanced [.init true] (.onAvailability 39936 4 false) (List.prefix_refl _)).1 rfl
  have leaks : Leaks (createEnvConfig [driveEvent 32774])
      (Client.run (createEnvConfig [driveEvent 32774]) ([.init true] ++ [.onAvailability 39936 4 false])) :=
    run_leaks _ ⟨.init true, List.mem_cons_self, Or.inl rfl⟩
  have subscribed := leaks.1
  rw [empty] at subscribed
  exact Finset.notMem_empty _ subscribed

end Balance

end VehicleEdge.Someip
