import Mathlib.Data.List.Chain
import VehicleEdge.Cloud.Configuration
import VehicleEdge.Cloud.Connector
import VehicleEdge.Someip.Config

/-
This file runs the loop of the connection thread with signals and messages in between and compares the times
of its publications with the configured rate. Three handlers store the rate, and no statement reads it.
-/

namespace VehicleEdge.Cloud

open Someip.BinaryFormat in
/-- The comparison is exact for a finite double, and otherwise only the positive infinity is larger. -/
def doubleExceeds (interval : Int) (bits : Nat) : Bool :=
  if double.finite bits then
    decide (interval * (2 ^ (-double.scale bits).toNat : Nat) <
      double.signed bits (double.significand bits * 2 ^ (double.scale bits).toNat))
  else decide (double.significand bits = 2 ^ double.fractionBits) && !double.negative bits

/-- The rate is longer than the interval, and a rate that is no number sets no bound. -/
def Json.exceeds (interval : Int) : Json → Bool
  | .integer rate => decide (interval < rate)
  | .boolean rate => decide (interval < if rate then 1 else 0)
  | .real bits => doubleExceeds interval bits.toNat
  | _ => false

/-- This is the truth of a value in a condition of the language. -/
def Json.truthy : Json → Bool
  | .null => false
  | .boolean value => value
  | .integer value => decide (value ≠ 0)
  | .real bits => decide (Someip.BinaryFormat.double.significand bits.toNat ≠ 0)
  | .text value => decide (value ≠ "")
  | .array values => !values.isEmpty
  | .object members => !members.isEmpty

/-- A publication of the vehicle state has its time and the rate that is set at that time. -/
structure StatePublish where
  time : Int
  rate : Json

/-- The thread connects, tests the idle time after each sleep, and then calls `publishState`. -/
inductive LoopPoint where
  | connecting
  | sleeping
  | entering
  deriving DecidableEq, Repr

/-- These are the fields that the loop and the messages use. The field `publishes` is a history. -/
structure Loop where
  settings : Settings
  lastStatePublish : Int
  lastReceiveTime : Int
  needTransmit : Bool
  awsConnectionOk : Bool
  point : LoopPoint
  clock : Int
  publishes : List StatePublish

/-- The constructor reads the clock twice. -/
def Loop.new (start : Int) (elapsed : Nat) : Loop :=
  ⟨{}, start, start + elapsed, false, false, .connecting, start + elapsed, []⟩

/-- The times never decrease, so each event that reads the clock has the time since the last one. -/
inductive LoopEvent where
  | thread (elapsed : Nat) (raises : Bool)
  | publishSignal (raises : Bool)
  | signalMessage (elapsed : Nat) (signal acknowledged : Bool)
  | configMessage (turn : ConfigTurn)

def Loop.wait (loop : Loop) (elapsed : Nat) : Loop := { loop with clock := loop.clock + elapsed }

/-- The test uses the constants and not the configured fields. -/
def Loop.idleTest (loop : Loop) : Loop :=
  if loop.clock - loop.lastReceiveTime > Cloud.idleStateTriggerTimeMs then
    { loop with settings := { loop.settings with stateUpdateRateMs := .integer idleStatePublishIntervallMs } }
  else loop

/-- A publication that raises leaves the time and the flag. -/
def Loop.publishState (loop : Loop) (raises : Bool) : Loop :=
  let currentTime := loop.clock
  let timeDiffMs := currentTime - loop.lastStatePublish
  if loop.awsConnectionOk then
    let needTransmit := loop.needTransmit || decide (timeDiffMs > 500)
    if loop.settings.binary.truthy && needTransmit then
      if raises then { loop with needTransmit := needTransmit }
      else
        { loop with
          lastStatePublish := currentTime
          needTransmit := false
          publishes := loop.publishes ++ [⟨currentTime, loop.settings.stateUpdateRateMs⟩] }
    else { loop with needTransmit := needTransmit }
  else loop

def Loop.thread (loop : Loop) (raises : Bool) : Loop :=
  match loop.point with
  | .connecting => { loop with awsConnectionOk := true, point := .sleeping }
  | .sleeping => { loop.idleTest with point := .entering }
  | .entering => { loop.publishState raises with point := .sleeping }

/-- An acknowledgement that raises ends the handler before it changes a field. -/
def Loop.onSignalMessageReceived (loop : Loop) (signal acknowledged : Bool) : Loop :=
  if signal && acknowledged then
    { loop with
      lastReceiveTime := loop.clock
      settings := { loop.settings with stateUpdateRateMs := loop.settings.userDefinedStateUpdateRateMs } }
  else loop

def Loop.step (loop : Loop) : LoopEvent → Loop
  | .thread elapsed raises => (loop.wait elapsed).thread raises
  | .publishSignal raises => { loop with needTransmit := loop.needTransmit || !raises }
  | .signalMessage elapsed signal acknowledged =>
      (loop.wait elapsed).onSignalMessageReceived signal acknowledged
  | .configMessage turn => { loop with settings := onConfigMessageReceived loop.settings turn }

def Loop.run (loop : Loop) (events : List LoopEvent) : Loop := events.foldl Loop.step loop

/-- The two publications are at least as far apart as the rate at the second one. -/
def Spaced (first second : StatePublish) : Prop := second.rate.exceeds (second.time - first.time) = false

instance : DecidableRel Spaced := fun _ _ => inferInstanceAs (Decidable (_ = false))

/-- This holds for every two publications in a row. -/
def Honoured (loop : Loop) : Prop := loop.publishes.IsChain Spaced

instance (loop : Loop) : Decidable (Honoured loop) :=
  inferInstanceAs (Decidable (List.IsChain Spaced loop.publishes))

/-- A call finds the flag clear at most 500 milliseconds after the last publication, or it cannot publish. -/
def Loop.Silent (loop : Loop) (raises : Bool) : Prop :=
  (loop.needTransmit = false ∧ loop.clock - loop.lastStatePublish ≤ 500) ∨
    loop.settings.binary.truthy = false ∨ loop.awsConnectionOk = false ∨ raises = true

/-- After a publication every call is silent until the rate is over. -/
def Waits (loop : Loop) : LoopEvent → Prop
  | .thread elapsed raises =>
      loop.point = .entering → loop.publishes ≠ [] →
        loop.settings.stateUpdateRateMs.exceeds (loop.clock + elapsed - loop.lastStatePublish) = true →
        (loop.wait elapsed).Silent raises
  | _ => True

/-- The field holds the time of the last publication. -/
def Stamped (loop : Loop) : Prop :=
  ∀ last ∈ loop.publishes.getLast?, last.time = loop.lastStatePublish

section Call

variable {loop : Loop} {raises : Bool}

/-- A silent call leaves the publications and their time. -/
theorem publishState_silent (silent : loop.Silent raises) :
    (loop.publishState raises).publishes = loop.publishes ∧
      (loop.publishState raises).lastStatePublish = loop.lastStatePublish := by
  unfold Loop.publishState
  dsimp only
  split
  case isFalse => exact ⟨rfl, rfl⟩
  case isTrue connected =>
    split
    case isFalse => exact ⟨rfl, rfl⟩
    case isTrue transmits =>
      split
      case isTrue => exact ⟨rfl, rfl⟩
      case isFalse returns =>
        -- The message is on its way, so no part of the condition is left.
        simp only [Bool.and_eq_true, Bool.or_eq_true, decide_eq_true_eq] at transmits
        rcases silent with ⟨clear, recent⟩ | text | down | raised
        · rcases transmits.2 with flagged | late
          · exact absurd (flagged.symm.trans clear) (by decide)
          · omega
        · exact absurd (transmits.1.symm.trans text) (by decide)
        · exact absurd (connected.symm.trans down) (by decide)
        · exact absurd raised returns

/-- Any other call publishes at its time with the rate that is set. -/
theorem publishState_publishes (loud : ¬ loop.Silent raises) :
    (loop.publishState raises).publishes =
        loop.publishes ++ [⟨loop.clock, loop.settings.stateUpdateRateMs⟩] ∧
      (loop.publishState raises).lastStatePublish = loop.clock := by
  simp only [Loop.Silent, not_or, Bool.not_eq_false, Bool.not_eq_true] at loud
  obtain ⟨due, binary, connected, returns⟩ := loud
  have flagged : (loop.needTransmit || decide (loop.clock - loop.lastStatePublish > 500)) = true := by
    simp only [Bool.or_eq_true, decide_eq_true_eq]
    by_cases flag : loop.needTransmit = true
    · exact Or.inl flag
    · right
      have clear : loop.needTransmit = false := eq_false_of_ne_true flag
      exact Int.not_le.mp fun recent => due ⟨clear, recent⟩
  unfold Loop.publishState
  dsimp only
  rw [connected, binary, flagged, returns]
  exact ⟨rfl, rfl⟩

end Call

/-- Only a call of `publishState` changes the publications or their time. -/
theorem step_frame (loop : Loop) (event : LoopEvent)
    (elsewhere : ∀ elapsed raises, event = .thread elapsed raises → loop.point ≠ .entering) :
    (loop.step event).publishes = loop.publishes ∧
      (loop.step event).lastStatePublish = loop.lastStatePublish := by
  cases event with
  | thread elapsed raises =>
      have outside : (loop.wait elapsed).point ≠ .entering := elsewhere elapsed raises rfl
      simp only [Loop.step, Loop.thread]
      split
      case h_1 => exact ⟨rfl, rfl⟩
      case h_2 =>
        unfold Loop.idleTest
        split <;> exact ⟨rfl, rfl⟩
      case h_3 entered => exact absurd entered outside
  | publishSignal raises => exact ⟨rfl, rfl⟩
  | signalMessage elapsed signal acknowledged =>
      simp only [Loop.step, Loop.onSignalMessageReceived]
      split <;> exact ⟨rfl, rfl⟩
  | configMessage turn => exact ⟨rfl, rfl⟩

/-- A step outside of `publishState` has nothing to wait for. -/
theorem waits_elsewhere {loop : Loop} {event : LoopEvent}
    (elsewhere : ∀ elapsed raises, event = .thread elapsed raises → loop.point ≠ .entering) :
    Waits loop event := by
  cases event with
  | thread elapsed raises =>
      intro entered
      exact absurd entered (elsewhere elapsed raises rfl)
  | publishSignal raises => trivial
  | signalMessage elapsed signal acknowledged => trivial
  | configMessage turn => trivial

/-- A step is a call of `publishState` or lies outside of it. -/
theorem call_or_elsewhere (loop : Loop) (event : LoopEvent) :
    (∀ elapsed raises, event = .thread elapsed raises → loop.point ≠ .entering) ∨
      ∃ elapsed raises, event = .thread elapsed raises ∧ loop.point = .entering ∧
        loop.step event = { (loop.wait elapsed).publishState raises with point := .sleeping } := by
  by_cases entered : loop.point = .entering
  · cases event with
    | thread elapsed raises =>
        have same : (loop.wait elapsed).point = .entering := entered
        exact Or.inr ⟨elapsed, raises, rfl, entered, by simp only [Loop.step, Loop.thread, same]⟩
    | publishSignal raises => exact Or.inl fun _ _ other => by cases other
    | signalMessage elapsed signal acknowledged => exact Or.inl fun _ _ other => by cases other
    | configMessage turn => exact Or.inl fun _ _ other => by cases other
  · exact Or.inl fun _ _ _ => entered

/-- Every step keeps the time of the last publication. -/
theorem stamped_step {loop : Loop} (stamped : Stamped loop) (event : LoopEvent) :
    Stamped (loop.step event) := by
  rcases call_or_elsewhere loop event with elsewhere | ⟨elapsed, raises, -, -, call⟩
  · have frame := step_frame loop event elsewhere
    unfold Stamped
    rw [frame.1, frame.2]
    exact stamped
  · rw [call]
    intro last final
    dsimp only at final ⊢
    by_cases silent : (loop.wait elapsed).Silent raises
    · rw [(publishState_silent silent).1] at final
      rw [(publishState_silent silent).2]
      exact stamped last final
    · rw [(publishState_publishes silent).1, List.getLast?_concat] at final
      rw [(publishState_publishes silent).2]
      cases final
      rfl

/-- A publication after another one keeps the rate when it comes late enough. -/
theorem honoured_publish {loop : Loop} (stamped : Stamped loop) (honoured : Honoured loop)
    (publication : StatePublish) :
    (loop.publishes ++ [publication]).IsChain Spaced ↔
      (loop.publishes ≠ [] →
        publication.rate.exceeds (publication.time - loop.lastStatePublish) = false) := by
  rw [List.isChain_append]
  constructor
  · rintro ⟨-, -, spaced⟩ earlier
    have last := List.getLast?_eq_some_getLast earlier
    rw [← stamped _ last]
    exact spaced _ last _ rfl
  · intro spaced
    refine ⟨honoured, List.isChain_singleton _, ?_⟩
    intro last final second first
    cases first
    have earlier : loop.publishes ≠ [] := by
      intro none
      rw [none] at final
      cases final
    unfold Spaced
    rw [stamped last final]
    exact spaced earlier

/-- One step keeps the rate exactly when it waits. -/
theorem honoured_step {loop : Loop} (stamped : Stamped loop) (honoured : Honoured loop)
    (event : LoopEvent) : Honoured (loop.step event) ↔ Waits loop event := by
  unfold Honoured
  rcases call_or_elsewhere loop event with elsewhere | ⟨elapsed, raises, rfl, entered, call⟩
  · rw [(step_frame loop event elsewhere).1]
    exact iff_of_true honoured (waits_elsewhere elsewhere)
  · rw [call]
    dsimp only
    by_cases silent : (loop.wait elapsed).Silent raises
    · rw [(publishState_silent silent).1]
      exact iff_of_true honoured fun _ _ _ => silent
    · rw [(publishState_publishes silent).1]
      refine (honoured_publish stamped honoured _).trans ?_
      -- A call that is not silent waits only for a first publication or for the end of the rate.
      simp only [Waits, entered, true_imp_iff, silent, imp_false, Bool.not_eq_true]
      rfl

/-- In every run of the loop two publications in a row are never closer than the rate at the second one,
exactly when every call after a publication is silent until the rate is over. -/
theorem publish_rate_is_honoured (start : Int) (elapsed : Nat) (events : List LoopEvent) :
    (∀ earlier, earlier <+: events → Honoured ((Loop.new start elapsed).run earlier)) ↔
      ∀ earlier event, earlier ++ [event] <+: events →
        Waits ((Loop.new start elapsed).run earlier) event := by
  have starts : Stamped (Loop.new start elapsed) ∧ Honoured (Loop.new start elapsed) :=
    ⟨fun _ final => (by cases final), List.IsChain.nil⟩
  have decides : ∀ loop event, Stamped loop ∧ Honoured loop →
      ((Stamped (loop.step event) ∧ Honoured (loop.step event)) ↔ Waits loop event) := by
    rintro loop event ⟨stamped, honoured⟩
    rw [and_iff_right (stamped_step stamped event)]
    exact honoured_step stamped honoured event
  have stamped : ∀ earlier, Stamped ((Loop.new start elapsed).run earlier) := by
    intro earlier
    apply repeated_kept Stamped
    · intro event _ loop stamped
      exact stamped_step stamped event
    · exact Or.inl starts.1
  refine Iff.trans ?_ (repeated_iff decides starts events)
  constructor
  · intro honoured earlier reached
    exact ⟨stamped earlier, honoured earlier reached⟩
  · intro kept earlier reached
    exact (kept earlier reached).2

/-- Two calls, each after a signal, are 200 milliseconds apart. -/
def signalledCalls : List LoopEvent :=
  [.thread 0 false, .publishSignal false, .thread 200 false, .thread 0 false,
    .publishSignal false, .thread 200 false, .thread 0 false]

/-- Both calls publish, although the rate is one second. -/
theorem signals_break_the_rate :
    ¬ ∀ earlier, earlier <+: signalledCalls → Honoured ((Loop.new 0 0).run earlier) := by
  intro honoured
  have close : ¬ Honoured ((Loop.new 0 0).run signalledCalls) := by decide +kernel
  exact close (honoured signalledCalls (List.prefix_refl _))

end VehicleEdge.Cloud
