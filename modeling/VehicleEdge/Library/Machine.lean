import Mathlib.Data.Option.Basic

/-
This file gives labelled step machines and the rules for invariants over their runs.
-/

namespace VehicleEdge

/-- A machine takes labelled steps, and a step that is not enabled has no next state. -/
structure Machine (State Event : Type) where
  initial : State
  step : State → Event → Option State

namespace Machine

variable {State Event : Type} (machine : Machine State Event)

/-- A state is reached when a run from the initial state meets the guard at every step. -/
inductive Reached (guard : State → Event → Prop) : State → Prop where
  | start : Reached guard machine.initial
  | next {state next : State} (event : Event) (before : Reached guard state)
      (allowed : guard state event) (taken : machine.step state event = some next) :
      Reached guard next

/-- The free guard allows every step. -/
def anyStep : State → Event → Prop := fun _ _ => True

instance : DecidableRel (@anyStep State Event) :=
  fun _ _ => inferInstanceAs (Decidable True)

/-- The executor follows a list of events and stops at the first step that is not allowed. -/
def execute (guard : State → Event → Prop) [DecidableRel guard] : State → List Event → Option State
  | state, [] => some state
  | state, event :: events =>
      if guard state event then
        (machine.step state event).bind fun next => execute guard next events
      else none

variable {machine} {guard : State → Event → Prop}

theorem reached_execute [DecidableRel guard] {state final : State} {events : List Event}
    (before : machine.Reached guard state)
    (executed : machine.execute guard state events = some final) :
    machine.Reached guard final := by
  induction events generalizing state with
  | nil =>
      simp only [execute, Option.some.injEq] at executed
      exact executed ▸ before
  | cons event events ih =>
      simp only [execute] at executed
      split at executed
      case isTrue allowed =>
        obtain ⟨next, taken, rest⟩ := Option.bind_eq_some_iff.mp executed
        exact ih (before.next event allowed taken) rest
      case isFalse => cases executed

/-- The result of an executed list of events is reached. -/
theorem reached_get [DecidableRel guard] {events : List Event}
    (executes : (machine.execute guard machine.initial events).isSome = true) :
    machine.Reached guard ((machine.execute guard machine.initial events).get executes) :=
  reached_execute .start (Option.some_get executes).symm

/-- A property that starts true and survives every allowed step holds in every reached state. -/
theorem Reached.invariant {property : State → Prop} {state : State}
    (reached : machine.Reached guard state) (initially : property machine.initial)
    (preserved : ∀ state event next, property state → guard state event →
      machine.step state event = some next → property next) : property state := by
  induction reached with
  | start => exact initially
  | next event _ allowed taken ih => exact preserved _ event _ ih allowed taken

/-- A state map that turns every step into a step or a stutter carries runs to runs. -/
theorem Reached.project {Target Label : Type} {target : Machine Target Label}
    {targetGuard : Target → Label → Prop} (view : State → Target)
    (initially : view machine.initial = target.initial)
    (simulated : ∀ state event next, machine.Reached guard state → guard state event →
      machine.step state event = some next → view next = view state ∨
        ∃ label, targetGuard (view state) label ∧ target.step (view state) label = some (view next))
    {state : State} (reached : machine.Reached guard state) :
    target.Reached targetGuard (view state) := by
  induction reached with
  | start => exact initially ▸ .start
  | next event before allowed taken ih =>
      rcases simulated _ event _ before allowed taken with same | ⟨label, labelAllowed, labelTaken⟩
      · exact same ▸ ih
      · exact ih.next label labelAllowed labelTaken

end Machine

end VehicleEdge
