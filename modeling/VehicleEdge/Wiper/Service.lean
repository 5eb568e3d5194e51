import VehicleEdge.Library.Progress
import VehicleEdge.Wiper.Simulator

/-
This file runs the wiper service: the handler of requests, the thread that offers the service and sets
automatic requests, and the thread that steps the simulator and notifies its events.
-/

namespace VehicleEdge.Wiper

/-- These inputs reach the service, and a step tells whether it found the wiper at its target. -/
inductive Input where
  | received (payload : List UInt8)
  | automatic (request : WiperRequest)
  | stepped (arrived : Bool)

/-- The bytes after the payload are never read. -/
def payloadMemory (payload : List UInt8) : Memory := fun index => payload.getD index 0

/-- A payload that is too short is no operation. -/
def Input.operation : Input → Option Operation
  | .received payload =>
      if payload.length < setPayloadSize then none
      else some (.set (deserializeVssRequest (payloadMemory payload) payload.length).2)
  | .automatic request => some (.set request)
  | .stepped arrived => some (.step arrived)

/-- Only a client receives a reply. -/
def Input.reply : Input → Option UInt8
  | .received payload => some (if payload.length < setPayloadSize then 1 else 0)
  | _ => none

def Input.isAutomatic : Input → Bool
  | .automatic _ => true
  | _ => false

def operations (inputs : List Input) : List Operation := inputs.filterMap Input.operation

/-- The table has five requests: 80.0f, 20.0f, 10.0f, and two times 2.0f degrees. -/
def vssRequests : List WiperRequest :=
  [⟨40, 0x42A00000, WiperMode.wipe.value⟩, ⟨50, 0x41A00000, WiperMode.wipe.value⟩,
    ⟨30, 0x41200000, WiperMode.wipe.value⟩, ⟨30, 0x40000000, WiperMode.wipe.value⟩,
    ⟨70, 0x40000000, WiperMode.emergencyStop.value⟩]

/-- The offer thread takes the lock of the notify thread for its call of `offer`. -/
inductive OfferPoint where
  | blockedTest | loopTest | offering | setting | sleeping | returned
  deriving DecidableEq

/-- The value at a point is the flag that was read before the step. -/
inductive NotifyPoint where
  | outerTest
  | waiting
  | loopTest
  | reading
  | modelling (wasCycleEnding : Bool)
  | sleeping (wasCycleEnding : Bool)
  | breakTest (wasCycleEnding : Bool)
  | cycleTest (wasCycleEnding : Bool)
  | notifying
  | returned
  deriving DecidableEq

/-- The notify thread keeps its lock in the whole inner loop and gives it back only when it waits. -/
def NotifyPoint.inside : NotifyPoint → Bool
  | .outerTest | .waiting | .returned => false
  | _ => true

inductive StopPoint where
  | idle | stopOffer | joinOffer | joinNotify | returned
  deriving DecidableEq

/-- The cut is the number of inputs up to the step of the event. -/
structure Notification where
  cut : Nat
  payload : List UInt8

/-- The field `inputs` is a history with the newest input last, and `cut` belongs to the local event. -/
structure Service where
  running : Bool
  blocked : Bool
  isOffered : Bool
  sim : WiperSimulator
  offer : OfferPoint
  vssIndex : Nat
  notify : NotifyPoint
  event : Event
  eventTs : UInt32
  itsData : Memory
  stop : StopPoint
  inputs : List Input
  cut : Nat
  replies : List UInt8
  notified : List Notification

/-- The values outside of the table and the noise come from the host. -/
inductive ServiceEvent where
  | initialized
  | message (payload : List UInt8) (now : Int)
  | offerThread (outside : WiperRequest) (now : Int)
  | notifyThread (now : Int) (noise : Noise)
  | stop

section Threads

variable {Double : Type} (unit : FloatUnit Double)

/-- A request of a client is set and answered with zero, and a short payload is answered with one. -/
def onVssMessage (service : Service) (payload : List UInt8) (now : Int) : Service :=
  match deserializeVssRequest (payloadMemory payload) payload.length with
  | (true, request) =>
      { service with
        sim := service.sim.modelSet unit request now
        inputs := service.inputs ++ [.received payload]
        replies := service.replies ++ [0] }
  | (false, _) =>
      { service with
        inputs := service.inputs ++ [.received payload]
        replies := service.replies ++ [1] }

/-- The index returns to zero only after it has left the table by one. -/
def runStep (simAuto : Bool) (service : Service) (outside : WiperRequest) (now : Int) :
    OfferPoint → Option Service
  | .blockedTest => if service.blocked then some { service with offer := .loopTest } else none
  | .loopTest => some { service with offer := if service.running then .offering else .returned }
  | .offering =>
      if service.notify.inside then none else some { service with isOffered := true, offer := .setting }
  | .setting =>
      if simAuto then
        let request := vssRequests.getD service.vssIndex outside
        let vssIndex := service.vssIndex + 1
        some { service with
          sim := service.sim.modelSet unit request now
          inputs := service.inputs ++ [.automatic request]
          vssIndex := if vssIndex > 5 then 0 else vssIndex
          offer := .sleeping }
      else some { service with offer := .sleeping }
  | .sleeping => some { service with offer := .loopTest }
  | .returned => none

/-- The step of the notify thread takes at most half a second. -/
def simStep (cycle : UInt32) : UInt32 := if 500 > cycle then cycle else 500

def notifyStep (cycle : UInt32) (service : Service) (now : Int) (noise : Noise) :
    NotifyPoint → Option Service
  | .outerTest => some { service with notify := if service.running then .waiting else .returned }
  | .waiting =>
      if !service.isOffered && service.running then none
      else some { service with eventTs := 0, notify := .loopTest }
  | .loopTest =>
      some { service with notify := if service.isOffered && service.running then .reading else .outerTest }
  | .reading => some { service with notify := .modelling service.sim.simCycleEnding }
  | .modelling wasCycleEnding =>
      let sim := service.sim.modelStep unit now noise
      some { service with
        sim := sim
        event := sim.event
        inputs := service.inputs ++ [.stepped (service.sim.arrives unit now)]
        cut := service.inputs.length + 1
        notify := .sleeping wasCycleEnding }
  | .sleeping wasCycleEnding =>
      some { service with
        eventTs := service.eventTs + simStep cycle
        notify := .breakTest wasCycleEnding }
  | .breakTest wasCycleEnding =>
      some { service with
        notify := if !service.isOffered || !service.running then .outerTest else .cycleTest wasCycleEnding }
  | .cycleTest wasCycleEnding =>
      some { service with
        notify :=
          if service.eventTs ≥ cycle || wasCycleEnding != service.sim.simCycleEnding then .notifying
          else .loopTest }
  | .notifying =>
      match serializeWiperEvent service.event service.itsData eventPayloadSize with
      | (true, itsData) =>
          some { service with
            eventTs := 0
            itsData := itsData
            notified := service.notified ++ [⟨service.cut, (List.range eventPayloadSize).map itsData⟩]
            notify := .loopTest }
      | (false, itsData) => some { service with eventTs := 0, itsData := itsData, notify := .loopTest }
  | .returned => none

/-- The threads are joined after the loops have been told to end. -/
def stopStep (service : Service) : StopPoint → Option Service
  | .idle => some { service with running := false, blocked := true, stop := .stopOffer }
  | .stopOffer => some { service with isOffered := false, stop := .joinOffer }
  | .joinOffer => if service.offer = .returned then some { service with stop := .joinNotify } else none
  | .joinNotify => if service.notify = .returned then some { service with stop := .returned } else none
  | .returned => none

def serviceStep (simAuto : Bool) (cycle : UInt32) (service : Service) : ServiceEvent → Option Service
  | .initialized => some { service with blocked := true }
  | .message payload now => some (onVssMessage unit service payload now)
  | .offerThread outside now => runStep unit simAuto service outside now service.offer
  | .notifyThread now noise => notifyStep unit cycle service now noise service.notify
  | .stop => stopStep service service.stop

/-- The buffer of the notify thread has any content at the start. -/
def wiperService (simAuto : Bool) (cycle : UInt32) (now : Int) (itsData : Memory) :
    Machine Service ServiceEvent where
  initial :=
    { running := true
      blocked := false
      isOffered := false
      sim := modelInit now
      offer := .blockedTest
      vssIndex := 0
      notify := .outerTest
      event := .cleared
      eventTs := 0
      itsData := itsData
      stop := .idle
      inputs := []
      cut := 0
      replies := []
      notified := [] }
  step := serviceStep unit simAuto cycle

end Threads

/-- At these points the local event comes from the step of this turn. -/
def NotifyPoint.stepped : NotifyPoint → Bool
  | .sleeping _ | .breakTest _ | .cycleTest _ | .notifying => true
  | _ => false

/-- The last input up to the cut is a model step, and the payload is that of an event that shows the task after
this step. -/
def Notification.Genuine {Double : Type} (unit : FloatUnit Double) (inputs : List Input)
    (notification : Notification) : Prop :=
  (∃ step arrived, notification.cut = step + 1 ∧ inputs[step]? = some (.stepped arrived)) ∧
    ∃ event : Event, notification.payload = event.bytes ∧
      event.Shows unit (operations (inputs.take notification.cut))

/-- The local event as it will be notified. -/
def Service.pending (service : Service) : Notification := ⟨service.cut, service.event.bytes⟩

structure Consistent {Double : Type} (unit : FloatUnit Double) (service : Service) : Prop where
  follows : service.sim.Follows (operations service.inputs)
  replied : service.replies = service.inputs.filterMap Input.reply
  pending : service.notify.stepped = true → service.pending.Genuine unit service.inputs ∧
    ∀ notification ∈ service.notified, notification.cut < service.cut
  genuine : ∀ notification ∈ service.notified, notification.Genuine unit service.inputs
  ordered : (service.notified.map Notification.cut).Pairwise (· < ·)

section Consistency

variable {Double : Type} {unit : FloatUnit Double} {service next : Service}

theorem Notification.Genuine.within {inputs : List Input} {notification : Notification}
    (genuine : notification.Genuine unit inputs) : notification.cut ≤ inputs.length := by
  obtain ⟨⟨step, arrived, cut, at_⟩, -⟩ := genuine
  obtain ⟨below, -⟩ := List.getElem?_eq_some_iff.mp at_
  omega

theorem Notification.Genuine.grow {inputs : List Input} {notification : Notification}
    (genuine : notification.Genuine unit inputs) (input : Input) :
    notification.Genuine unit (inputs ++ [input]) := by
  have within := genuine.within
  obtain ⟨⟨step, arrived, cut, at_⟩, event, payload, shows_⟩ := genuine
  refine ⟨⟨step, arrived, cut, ?_⟩, event, payload, ?_⟩
  · rwa [List.getElem?_append_left (by omega)]
  · rwa [List.take_append_of_le_length within]

/-- The buffer of the notify thread is large enough. -/
theorem serializeWiperEvent_fits (event : Event) (payload : Memory) :
    serializeWiperEvent event payload eventPayloadSize =
      (true, (serializeWiperEvent event payload eventPayloadSize).2) := by
  rw [serializeWiperEvent, if_neg (Nat.lt_irrefl _)]

/-- The buffer holds the twenty bytes of the event. -/
theorem range_map_serialized (event : Event) (payload : Memory) :
    (List.range eventPayloadSize).map (serializeWiperEvent event payload eventPayloadSize).2 = event.bytes := by
  obtain ⟨zeroed, written⟩ := serializeWiperEvent_eq event payload (Nat.le_refl eventPayloadSize)
  have length : event.bytes.length = eventPayloadSize := by simp [Event.bytes, eventPayloadSize]
  rw [written, ← length, List.range_eq_range']
  exact Store.map_run_putBytes zeroed 0 event.bytes

/-- A step that only moves the threads keeps all records. -/
theorem Consistent.quiet (consistent : Consistent unit service) (sim : next.sim = service.sim)
    (inputs : next.inputs = service.inputs) (replies : next.replies = service.replies)
    (notified : next.notified = service.notified)
    (pending : next.notify.stepped = true → service.notify.stepped = true ∧ next.pending = service.pending) :
    Consistent unit next := by
  obtain ⟨follows, replied, current, genuine, ordered⟩ := consistent
  refine ⟨by rwa [sim, inputs], by rwa [replies, inputs], fun stepped => ?_, ?_, by rwa [notified]⟩
  · obtain ⟨before, same⟩ := pending stepped
    have cut : next.cut = service.cut := congrArg Notification.cut same
    rw [same, inputs, notified, cut]
    exact current before
  · rw [notified, inputs]
    exact genuine

/-- An input of another thread leaves the local event and the notifications as they are. -/
theorem Consistent.grow (consistent : Consistent unit service) {sim : WiperSimulator} {input : Input}
    {replies : List UInt8} (follows : sim.Follows (operations (service.inputs ++ [input])))
    (replied : replies = service.replies ++ input.reply.toList) :
    Consistent unit { service with
      sim := sim, inputs := service.inputs ++ [input], replies := replies } := by
  obtain ⟨_, before, current, genuine, ordered⟩ := consistent
  refine ⟨follows, ?_, fun stepped => ?_, fun notification member => ?_, ordered⟩
  · rw [List.filterMap_append, ← before, replied]
    cases input <;> rfl
  · exact ⟨(current stepped).1.grow input, (current stepped).2⟩
  · exact (genuine notification member).grow input

theorem operations_concat (inputs : List Input) (input : Input) :
    operations (inputs ++ [input]) = operations inputs ++ input.operation.toList := by
  rw [operations, List.filterMap_append]
  cases here : input.operation <;> simp [operations, here]

/-- A request that is set becomes the task. -/
theorem follows_set (unit : FloatUnit Double) (follows : service.sim.Follows (operations service.inputs))
    (input : Input) {request : WiperRequest} (sets : input.operation = some (.set request)) (now : Int) :
    (service.sim.modelSet unit request now).Follows (operations (service.inputs ++ [input])) := by
  rw [operations_concat, sets]
  exact modelSet_follows unit follows request now

theorem consistent_message (consistent : Consistent unit service) (payload : List UInt8) (now : Int) :
    Consistent unit (onVssMessage unit service payload now) := by
  by_cases short : payload.length < setPayloadSize
  · have refused : deserializeVssRequest (payloadMemory payload) payload.length = (false, .cleared) := by
      rw [deserializeVssRequest, if_pos short]
    have ignored : (Input.received payload).operation = none := by rw [Input.operation, if_pos short]
    rw [onVssMessage, refused]
    refine consistent.grow ?_ (by rw [Input.reply, if_pos short]; rfl)
    rw [operations_concat, ignored, Option.toList_none, List.append_nil]
    exact consistent.follows
  · have accepted : deserializeVssRequest (payloadMemory payload) payload.length =
        (true, (deserializeVssRequest (payloadMemory payload) payload.length).2) := by
      rw [deserializeVssRequest, if_neg short]
    have sets : (Input.received payload).operation =
        some (.set (deserializeVssRequest (payloadMemory payload) payload.length).2) := by
      rw [Input.operation, if_neg short]
    rw [onVssMessage, accepted]
    exact consistent.grow (follows_set unit consistent.follows _ sets now)
      (by rw [Input.reply, if_neg short]; rfl)

theorem consistent_offer {simAuto : Bool} {outside : WiperRequest} {now : Int}
    (consistent : Consistent unit service)
    (taken : runStep unit simAuto service outside now service.offer = some next) : Consistent unit next := by
  cases here : service.offer with
  | blockedTest | offering =>
      simp only [here, runStep] at taken
      split at taken
      all_goals cases taken
      exact consistent.quiet rfl rfl rfl rfl fun stepped => ⟨stepped, rfl⟩
  | loopTest | sleeping =>
      simp only [here, runStep] at taken
      cases taken
      exact consistent.quiet rfl rfl rfl rfl fun stepped => ⟨stepped, rfl⟩
  | setting =>
      simp only [here, runStep] at taken
      split at taken
      all_goals cases taken
      · have set := consistent.grow (follows_set unit consistent.follows
          (.automatic (vssRequests.getD service.vssIndex outside)) rfl now) (List.append_nil _).symm
        exact set.quiet rfl rfl rfl rfl fun stepped => ⟨stepped, rfl⟩
      · exact consistent.quiet rfl rfl rfl rfl fun stepped => ⟨stepped, rfl⟩
  | returned =>
      rw [here] at taken
      cases taken

theorem consistent_modelling (rounds : unit.Rounds) (consistent : Consistent unit service)
    (wasCycleEnding : Bool) (now : Int) {noise : Noise} (inRange : noise.InRange unit) :
    Consistent unit { service with
      sim := service.sim.modelStep unit now noise
      event := (service.sim.modelStep unit now noise).event
      inputs := service.inputs ++ [.stepped (service.sim.arrives unit now)]
      cut := service.inputs.length + 1
      notify := .sleeping wasCycleEnding } := by
  obtain ⟨follows, replied, _, genuine, ordered⟩ := consistent
  obtain ⟨after, shows_⟩ := modelStep_follows unit rounds follows now inRange
  have grown : operations (service.inputs ++ [.stepped (service.sim.arrives unit now)]) =
      operations service.inputs ++ [.step (service.sim.arrives unit now)] := operations_concat _ _
  refine ⟨?_, ?_, fun _ => ⟨⟨⟨service.inputs.length, service.sim.arrives unit now, rfl, ?_⟩, _, rfl, ?_⟩,
    fun notification member => ?_⟩, fun notification member => ?_, ordered⟩
  · rw [grown]
    exact after
  · rw [List.filterMap_append, ← replied]
    exact (List.append_nil _).symm
  · exact List.getElem?_concat_length
  · have whole : (service.inputs ++ [Input.stepped (service.sim.arrives unit now)]).take
        (service.inputs.length + 1) = service.inputs ++ [Input.stepped (service.sim.arrives unit now)] :=
      List.take_of_length_le (by simp)
    simp only [Service.pending, whole, grown]
    exact shows_
  · exact Nat.lt_succ_of_le (genuine notification member).within
  · exact (genuine notification member).grow _

theorem consistent_notifying (consistent : Consistent unit service) (stepped : service.notify.stepped = true)
    (itsData : Memory) :
    Consistent unit { service with
      eventTs := 0
      itsData := itsData
      notified := service.notified ++ [service.pending]
      notify := .loopTest } := by
  obtain ⟨follows, replied, current, genuine, ordered⟩ := consistent
  obtain ⟨pending, later⟩ := current stepped
  refine ⟨follows, replied, fun stepped => (by cases stepped), fun notification member => ?_, ?_⟩
  · rcases List.mem_append.mp member with earlier | last
    · exact genuine notification earlier
    · rw [List.mem_singleton.mp last]
      exact pending
  · rw [List.map_append, List.pairwise_append]
    refine ⟨ordered, List.pairwise_singleton _ _, fun cut member last same => ?_⟩
    obtain ⟨notification, earlier, rfl⟩ := List.mem_map.mp member
    rw [List.mem_singleton.mp same]
    exact later notification earlier

theorem consistent_notify {cycle : UInt32} {now : Int} {noise : Noise} (rounds : unit.Rounds)
    (consistent : Consistent unit service) (inRange : noise.InRange unit)
    (taken : notifyStep unit cycle service now noise service.notify = some next) : Consistent unit next := by
  cases here : service.notify with
  | outerTest | loopTest =>
      simp only [here, notifyStep] at taken
      cases taken
      refine consistent.quiet rfl rfl rfl rfl fun stepped => ?_
      revert stepped
      simp only
      split <;> exact fun stepped => by cases stepped
  | waiting =>
      simp only [here, notifyStep] at taken
      split at taken
      all_goals cases taken
      exact consistent.quiet rfl rfl rfl rfl fun stepped => by cases stepped
  | reading =>
      simp only [here, notifyStep] at taken
      cases taken
      exact consistent.quiet rfl rfl rfl rfl fun stepped => by cases stepped
  | modelling wasCycleEnding =>
      simp only [here, notifyStep] at taken
      cases taken
      exact consistent_modelling rounds consistent wasCycleEnding now inRange
  | sleeping | breakTest | cycleTest =>
      simp only [here, notifyStep] at taken
      cases taken
      exact consistent.quiet rfl rfl rfl rfl fun _ => ⟨by rw [here]; rfl, rfl⟩
  | notifying =>
      simp only [here, notifyStep] at taken
      have payload := range_map_serialized service.event service.itsData
      rw [serializeWiperEvent_fits] at taken
      cases taken
      rw [payload]
      exact consistent_notifying consistent (by rw [here]; rfl) _
  | returned =>
      rw [here] at taken
      cases taken

/-- The noises of a step are drawn from their ranges. -/
def drawn (unit : FloatUnit Double) : Service → ServiceEvent → Prop
  | _, .notifyThread _ noise => noise.InRange unit
  | _, _ => True

instance (unit : FloatUnit Double) : DecidableRel (drawn unit)
  | _, .notifyThread _ noise => inferInstanceAs (Decidable (noise.InRange unit))
  | _, .initialized | _, .message _ _ | _, .offerThread _ _ | _, .stop => inferInstanceAs (Decidable True)

theorem consistent_step {simAuto : Bool} {cycle : UInt32} {event : ServiceEvent} (rounds : unit.Rounds)
    (consistent : Consistent unit service) (allowed : drawn unit service event)
    (taken : serviceStep unit simAuto cycle service event = some next) : Consistent unit next := by
  cases event with
  | initialized =>
      cases taken
      exact consistent.quiet rfl rfl rfl rfl fun stepped => ⟨stepped, rfl⟩
  | message payload now =>
      cases taken
      exact consistent_message consistent payload now
  | offerThread outside now => exact consistent_offer consistent taken
  | notifyThread now noise => exact consistent_notify rounds consistent allowed taken
  | stop =>
      have moved : next.sim = service.sim ∧ next.inputs = service.inputs ∧ next.replies = service.replies ∧
          next.notified = service.notified ∧ next.notify = service.notify ∧ next.pending = service.pending := by
        simp only [serviceStep] at taken
        cases here : service.stop <;> simp only [here, stopStep] at taken
        case joinOffer | joinNotify =>
          split at taken
          all_goals cases taken
          exact ⟨rfl, rfl, rfl, rfl, rfl, rfl⟩
        all_goals cases taken
        all_goals exact ⟨rfl, rfl, rfl, rfl, rfl, rfl⟩
      obtain ⟨sim, inputs, replies, notified, notify, pending⟩ := moved
      exact consistent.quiet sim inputs replies notified fun stepped => ⟨notify ▸ stepped, pending⟩

/-- In every run of the three threads and of a stop with noises from their ranges, each notified payload shows
the task of the inputs up to a step of its own, in the order of these steps, and each message of a client has
its reply. -/
theorem notifications_follow_requests (unit : FloatUnit Double) (rounds : unit.Rounds) {simAuto : Bool}
    {cycle : UInt32} {now : Int} {itsData : Memory} {service : Service}
    (reached : (wiperService unit simAuto cycle now itsData).Reached (drawn unit) service) :
    (∀ notification ∈ service.notified,
      (∃ step arrived, notification.cut = step + 1 ∧ service.inputs[step]? = some (.stepped arrived)) ∧
        ∃ event : Event, notification.payload = event.bytes ∧
          event.Shows unit (operations (service.inputs.take notification.cut))) ∧
    (service.notified.map Notification.cut).Pairwise (· < ·) ∧
    service.replies = service.inputs.filterMap Input.reply := by
  have consistent : Consistent unit service := by
    refine reached.invariant ⟨modelInit_follows now, rfl, fun stepped => (by cases stepped), ?_, .nil⟩ ?_
    · intro notification member
      exact (List.not_mem_nil member).elim
    · intro service event next consistent allowed taken
      exact consistent_step rounds consistent allowed taken
  exact ⟨consistent.genuine, consistent.ordered, consistent.replied⟩

end Consistency

/-- The order of floats is that of the magnitudes with their signs. -/
def floatKey (bits : UInt32) : Int := if bits < 0x80000000 then bits.toNat else 2 ^ 31 - bits.toNat

/-- The sum of ten and a noise is rounded to the ends of its range or to ten. -/
def noisyCurrent (noise : UInt32) : UInt32 :=
  if floatKey noise ≤ floatKey lowestNoise then lowestCurrent
  else if floatKey noise < floatKey highestNoise then defaultCurrent
  else highestCurrent

/-- These operations are exact for a wiper that moves by zero degrees. -/
def restUnit : FloatUnit UInt32 where
  ofInt _ := 0
  add first second :=
    if first = defaultCurrent then noisyCurrent second else if second = 0 then first else second
  multiply _ _ := 0
  divide _ _ := 0
  negate bits := bits ^^^ 0x80000000
  less first second := floatKey first < floatKey second
  lessEqual first second := floatKey first ≤ floatKey second
  widen bits := bits
  narrow bits := bits
  addDouble first second := if second = 0 then first else second
  lessDouble first second := floatKey first < floatKey second
  lessEqualDouble first second := floatKey first ≤ floatKey second

theorem noisyCurrent_monotone {first second : UInt32} (below : floatKey first ≤ floatKey second) :
    floatKey (noisyCurrent first) ≤ floatKey (noisyCurrent second) := by
  have steps : floatKey lowestCurrent ≤ floatKey defaultCurrent ∧
      floatKey defaultCurrent ≤ floatKey highestCurrent := by decide
  unfold noisyCurrent
  split_ifs <;> omega

theorem restUnit_rounds : restUnit.Rounds := by
  refine ⟨fun first second below => ?_, by decide, by decide, by decide⟩
  exact decide_eq_true (noisyCurrent_monotone (of_decide_eq_true below))

abbrev restService : Machine Service ServiceEvent := wiperService restUnit false 100 0 fun _ => 0xFF

/-- The client asks for a wipe to 15.0f degrees, and the notify thread takes four turns. -/
def restEvents : List ServiceEvent :=
  List.flatten
    [[.initialized], List.replicate 4 (.offerThread .cleared 0), [.message [0, 0x41, 0x70, 0, 0, 2] 0],
      List.replicate 10 (.notifyThread 0 ⟨0, lowestNoise⟩), List.replicate 20 (.notifyThread 0 ⟨0, 0⟩)]

theorem rest_executes :
    (restService.execute (drawn restUnit) restService.initial restEvents).isSome = true := by
  decide +kernel

def restState : Service :=
  (restService.execute (drawn restUnit) restService.initial restEvents).get rest_executes

/-- The third event is the first one without wiping, and it is the last one with a current. -/
theorem notifications_follow_requests_rest :
    restState.notified.map Notification.payload =
      [[1, 0, 0, 0x70, 0x41, 0x33, 0x33, 0x1F, 0x41, 100, 1, 1, 0, 0, 0, 0, 75, 255, 0, 0],
        [2, 0, 0, 0x70, 0x41, 0, 0, 0x20, 0x41, 100, 1, 1, 0, 0, 0, 0, 75, 255, 0, 0],
        [3, 0, 0, 0x70, 0x41, 0, 0, 0x20, 0x41, 100, 0, 0, 0, 1, 0, 0, 75, 255, 0, 0],
        [4, 0, 0, 0x70, 0x41, 0, 0, 0, 0, 100, 0, 0, 0, 1, 0, 0, 75, 255, 0, 0]] ∧
      (restState.notified.map Notification.cut).Pairwise (· < ·) ∧
      restState.replies = restState.inputs.filterMap Input.reply := by
  have reached : restService.Reached (drawn restUnit) restState := Machine.reached_get rest_executes
  exact ⟨by decide +kernel, (notifications_follow_requests restUnit restUnit_rounds reached).2⟩

end VehicleEdge.Wiper
