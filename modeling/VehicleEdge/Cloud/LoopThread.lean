import VehicleEdge.Cloud.Rate
import VehicleEdge.Cloud.Rejection

/-
This file shows that the loop with its whole calls is a view of the two threads, which take one statement at a
time.
-/

namespace VehicleEdge.Cloud

variable {Value Payload : Type}

/-- The loop shows the fields of a connection whose settings are integers and booleans. -/
structure Shows (connection : AWSConnection Value Payload) (loop : Loop) : Prop where
  rate : loop.settings.stateUpdateRateMs = .integer connection.stateUpdateRateMs
  binary : loop.settings.binary = .boolean connection.binary
  stamped : loop.lastStatePublish = connection.lastStatePublish
  received : loop.lastReceiveTime = connection.lastReceiveTime
  flag : loop.needTransmit = connection.needTransmit
  connected : loop.awsConnectionOk = connection.awsConnectionOk
  counted : loop.publishes.length = connection.published.length

/-- The statements of the thread start at these points. -/
def LoopPoint.statement : LoopPoint → AwsPoint
  | .connecting => .connecting
  | .sleeping => .sleeping
  | .entering => .entering

/-- The thread takes this many statements at one time. -/
def threadSteps (protobuf : Protobuf Value Payload) (now : Int) (raises : Bool) :
    Nat → AWSConnection Value Payload × AwsPoint → AWSConnection Value Payload × AwsPoint
  | 0, state => state
  | steps + 1, state =>
      threadSteps protobuf now raises steps (publishState protobuf state.1 now raises state.2)

variable {connection : AWSConnection Value Payload} {loop : Loop}

/-- A call of `publishState` is a row of statements that ends before the next sleep. -/
theorem shows_publishState (protobuf : Protobuf Value Payload) (shown : Shows connection loop)
    (raises : Bool) :
    ∃ steps after, threadSteps protobuf loop.clock raises steps (connection, .entering) = (after, .sleeping) ∧
      Shows after (loop.publishState raises) := by
  have binary : loop.settings.binary.truthy = connection.binary := by rw [shown.binary, Json.truthy]
  have flagged : (loop.needTransmit || decide (loop.clock - loop.lastStatePublish > 500)) =
      (connection.needTransmit || decide (loop.clock - connection.lastStatePublish > 500)) := by
    rw [shown.flag, shown.stamped]
  have accumulated : Shows
      { connection with
        needTransmit := connection.needTransmit || decide (loop.clock - connection.lastStatePublish > 500) }
      { loop with
        needTransmit := loop.needTransmit || decide (loop.clock - loop.lastStatePublish > 500) } :=
    { shown with flag := flagged }
  unfold Loop.publishState
  dsimp only
  split
  case isFalse unconnected =>
    rw [shown.connected] at unconnected
    exact ⟨3, connection, by simp [threadSteps, publishState, unconnected], shown⟩
  case isTrue connected =>
    rw [shown.connected] at connected
    split
    case isFalse silent =>
      rw [binary, flagged] at silent
      refine ⟨5, _, ?_, accumulated⟩
      simp only [threadSteps, publishState, connected, if_true, if_neg silent]
    case isTrue transmits =>
      rw [binary, flagged] at transmits
      split
      case isTrue raised =>
        refine ⟨6, _, ?_, accumulated⟩
        simp only [threadSteps, publishState, connected, if_true, if_pos transmits, raised]
      case isFalse returns =>
        refine ⟨8, { connection with
          lastStatePublish := loop.clock
          needTransmit := false
          published := connection.published ++
            [⟨protobuf.serializeToString connection.proto, connection.statePublishRetain⟩] }, ?_,
          { shown with stamped := rfl, flag := rfl, counted := by simp [shown.counted] }⟩
        simp only [threadSteps, publishState, connected, if_true, if_pos transmits, if_neg returns]

/-- A step of the loop is a row of statements of the thread. -/
theorem shows_thread (protobuf : Protobuf Value Payload) (shown : Shows connection loop) (elapsed : Nat)
    (raises : Bool) :
    ∃ steps after, threadSteps protobuf (loop.clock + elapsed) raises steps
        (connection, loop.point.statement) = (after, (loop.step (.thread elapsed raises)).point.statement) ∧
      Shows after (loop.step (.thread elapsed raises)) := by
  have waiting : Shows connection (loop.wait elapsed) := { shown with }
  simp only [Loop.step, Loop.thread]
  cases point : loop.point with
  | connecting =>
      have same : (loop.wait elapsed).point = .connecting := point
      rw [same]
      exact ⟨1, { connection with awsConnectionOk := true }, rfl, { shown with connected := rfl }⟩
  | sleeping =>
      have same : (loop.wait elapsed).point = .sleeping := point
      rw [same]
      unfold Loop.idleTest
      dsimp only
      split
      case isTrue idle =>
        rw [waiting.received] at idle
        refine ⟨2, { connection with stateUpdateRateMs := idleStatePublishIntervallMs }, ?_,
          { shown with rate := rfl }⟩
        exact congrArg (·, AwsPoint.entering) (if_pos idle)
      case isFalse busy =>
        rw [waiting.received] at busy
        refine ⟨2, connection, ?_, { shown with }⟩
        exact congrArg (·, AwsPoint.entering) (if_neg busy)
  | entering =>
      have same : (loop.wait elapsed).point = .entering := point
      rw [same]
      obtain ⟨steps, after, taken, next⟩ := shows_publishState protobuf waiting raises
      exact ⟨steps, after, taken, { next with }⟩

/-- Only the last statement of a call changes a field that the loop shows. -/
theorem shows_statement (protobuf : Protobuf Value Payload) (schema : Schema) (shown : Shows connection loop)
    {point : SignalPoint Value} (early : point.setsNeedTransmit = false) :
    Shows (publishSignal protobuf schema connection point).1 loop := by
  cases point with
  | idle => exact shown
  | deviceState signalName signalValue => exact { shown with }
  | split signalName signalValue => exact shown
  | mappingTest signalName signalValue =>
      simp only [publishSignal]
      split <;> exact shown
  | descend signalName signalValue protoNode nodes =>
      cases nodes with
      | nil => exact { shown with }
      | cons node nodes =>
          simp only [publishSignal]
          split <;> exact shown
  | labelTest signalName signalValue =>
      simp only [publishSignal]
      split <;> exact shown
  | setattr signalName signalValue =>
      simp only [publishSignal]
      split <;> exact { shown with }
  | getattr signalName signalValue =>
      simp only [publishSignal]
      split <;> exact shown
  | delete signalValue repeatedAttr => exact { shown with }
  | extend signalValue repeatedAttr =>
      simp only [publishSignal]
      split <;> exact { shown with }
  | setNeedTransmit => cases early

/-- A call sets the flag unless it raises. -/
theorem shows_finish (protobuf : Protobuf Value Payload) (schema : Schema) {fuel : Nat}
    {connection after : AWSConnection Value Payload} (shown : Shows connection loop)
    {point : SignalPoint Value} {raises : Bool}
    (finished : finish protobuf schema fuel connection point = some (after, raises)) :
    Shows after (loop.step (.publishSignal raises)) := by
  induction fuel generalizing connection point with
  | zero => cases finished
  | succ fuel ih =>
      rw [finish] at finished
      cases flags : point.setsNeedTransmit with
      | false =>
          have kept := shows_statement protobuf schema shown flags
          split at finished
          case isTrue =>
            rw [flags] at finished
            cases finished
            exact { kept with flag := (Bool.or_false _).trans kept.flag }
          case isFalse => exact ih kept finished
      | true =>
          cases point with
          | setNeedTransmit =>
              cases finished
              exact { shown with flag := Bool.or_true _ }
          | _ => cases flags

section Reached

variable (protobuf : Protobuf Value Payload) (schema : Schema) (start later : Int)

/-- A turn is one step of the loop or one whole call of the application. -/
inductive WholeTurn (Value : Type) where
  | thread (elapsed : Nat) (raises : Bool)
  | call (signalName : String) (signalValue : Value)

/-- The loop sees of a call whether it raises. -/
def Seen : WholeTurn Value → LoopEvent → Prop
  | .thread elapsed raises, event => event = .thread elapsed raises
  | .call _ _, event => ∃ raises, event = .publishSignal raises

/-- Between two turns no call is running, and the thread is at the point of the loop. -/
structure Between (state : State Value Payload) (loop : Loop) : Prop where
  shown : Shows state.connection loop
  idle : state.signal = .idle
  point : state.aws = loop.point.statement

variable {protobuf schema start later}

/-- The statements of the thread are steps of the connector. -/
theorem reached_threadSteps {signal : SignalPoint Value} (now : Int) (raises : Bool) (steps : Nat)
    (thread : AWSConnection Value Payload × AwsPoint)
    (reached : (connector protobuf schema start later).Reached Machine.anyStep
      ⟨thread.1, signal, thread.2⟩) :
    (connector protobuf schema start later).Reached Machine.anyStep
      ⟨(threadSteps protobuf now raises steps thread).1, signal,
        (threadSteps protobuf now raises steps thread).2⟩ := by
  induction steps generalizing thread with
  | zero => exact reached
  | succ steps ih => exact ih _ (reached.next (.aws now raises) trivial rfl)

theorem eq_idle_of_isIdle {point : SignalPoint Value} (idle : point.isIdle = true) : point = .idle := by
  cases point with
  | idle => rfl
  | _ => cases idle

/-- The statements of a call are steps of the connector. -/
theorem reached_finish {aws : AwsPoint} {fuel : Nat} {connection after : AWSConnection Value Payload}
    {point : SignalPoint Value} {raises : Bool} (inside : point.isIdle = false)
    (finished : finish protobuf schema fuel connection point = some (after, raises))
    (reached : (connector protobuf schema start later).Reached Machine.anyStep ⟨connection, point, aws⟩) :
    (connector protobuf schema start later).Reached Machine.anyStep ⟨after, .idle, aws⟩ := by
  induction fuel generalizing connection point with
  | zero => cases finished
  | succ fuel ih =>
      have taken : (connector protobuf schema start later).step ⟨connection, point, aws⟩ .application =
          some ⟨(publishSignal protobuf schema connection point).1,
            (publishSignal protobuf schema connection point).2, aws⟩ := by
        cases point with
        | idle => cases inside
        | _ => rfl
      have next := reached.next .application trivial taken
      rw [finish] at finished
      split at finished
      case isTrue ended =>
        cases finished
        rw [eq_idle_of_isIdle ended] at next
        exact next
      case isFalse running => exact ih (eq_false_of_ne_true running) finished next

/-- One turn of the connector is one step of the loop. -/
theorem turn_is_step (turn : WholeTurn Value) {state : State Value Payload} {loop : Loop}
    (reached : (connector protobuf schema start later).Reached Machine.anyStep state)
    (between : Between state loop) :
    ∃ next event, Seen turn event ∧
      (connector protobuf schema start later).Reached Machine.anyStep next ∧
      Between next (loop.step event) := by
  obtain ⟨connection, signal, aws⟩ := state
  obtain ⟨shown, idle, point⟩ := between
  dsimp only at shown idle point
  subst idle point
  cases turn with
  | thread elapsed raises =>
      obtain ⟨steps, after, taken, next⟩ := shows_thread protobuf shown elapsed raises
      have passed := reached_threadSteps (loop.clock + elapsed) raises steps
        (connection, loop.point.statement) reached
      rw [taken] at passed
      exact ⟨_, _, rfl, passed, ⟨next, rfl, rfl⟩⟩
  | call signalName signalValue =>
      obtain ⟨⟨after, raises⟩, called⟩ := Option.isSome_iff_exists.mp
        (callPublishSignal_isSome protobuf schema connection signalName signalValue)
      have begun := reached.next (.call signalName signalValue) trivial rfl
      have ended := reached_finish rfl called begun
      exact ⟨_, .publishSignal raises, ⟨raises, rfl⟩, ended,
        ⟨shows_finish protobuf schema shown called, rfl, rfl⟩⟩

/-- Every sequence of turns from any state between two turns is a run of the loop. -/
theorem turns_are_steps (turns : List (WholeTurn Value)) {state : State Value Payload} {loop : Loop}
    (reached : (connector protobuf schema start later).Reached Machine.anyStep state)
    (between : Between state loop) :
    ∃ next events, List.Forall₂ Seen turns events ∧
      (connector protobuf schema start later).Reached Machine.anyStep next ∧
      Between next (loop.run events) := by
  induction turns generalizing state loop with
  | nil => exact ⟨state, [], .nil, reached, between⟩
  | cons turn turns ih =>
      obtain ⟨middle, event, seen, passed, inside⟩ := turn_is_step turn reached between
      obtain ⟨next, events, others, ended, after⟩ := ih passed inside
      exact ⟨next, event :: events, .cons seen others, ended, after⟩

/-- Every sequence of turns of a new connector is a run of the loop that the rate is compared with. -/
theorem connector_runs_loop (protobuf : Protobuf Value Payload) (schema : Schema) (start : Int)
    (elapsed : Nat) (turns : List (WholeTurn Value)) :
    ∃ next events, List.Forall₂ Seen turns events ∧
      (connector protobuf schema start (start + elapsed)).Reached Machine.anyStep next ∧
      Between next ((Loop.new start elapsed).run events) :=
  turns_are_steps turns .start ⟨⟨rfl, rfl, rfl, rfl, rfl, rfl, rfl⟩, rfl, rfl⟩

end Reached

end VehicleEdge.Cloud
