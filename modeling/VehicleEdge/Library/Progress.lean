import Mathlib.Data.List.Count
import VehicleEdge.Library.Machine

/-
This file gives the rule for bounded progress: a bound that no allowed step raises and every counted step
lowers.
-/

namespace VehicleEdge.Machine

variable {State Event : Type} {machine : Machine State Event} {guard wider : State → Event → Prop}
  [DecidableRel guard]

/-- A bound that every counted step lowers has lost the number of counted steps after a segment. -/
theorem execute_within {within : Nat → State → Prop} {counted : Event → Bool}
    (lowers : ∀ bound state event next, within bound state → guard state event →
      machine.step state event = some next → within (bound - (counted event).toNat) next)
    {state final : State} {events : List Event} {bound : Nat} (initially : within bound state)
    (executed : machine.execute guard state events = some final) :
    within (bound - events.countP counted) final := by
  induction events generalizing state bound with
  | nil =>
      simp only [execute, Option.some.injEq] at executed
      exact executed ▸ initially
  | cons event events ih =>
      simp only [execute] at executed
      split at executed
      case isTrue allowed =>
        obtain ⟨next, taken, rest⟩ := Option.bind_eq_some_iff.mp executed
        have later := ih (lowers _ _ _ _ initially allowed taken) rest
        have total : bound - (counted event).toNat - events.countP counted =
            bound - (event :: events).countP counted := by
          rw [List.countP_cons]
          cases counted event <;> simp only [Bool.toNat_true, Bool.toNat_false, if_true, if_false,
            Bool.false_eq_true] <;> omega
        exact total ▸ later
      case isFalse => cases executed

/-- A property that survives every allowed step survives an executed segment. -/
theorem execute_invariant {property : State → Prop} {state final : State} {events : List Event}
    (preserved : ∀ state event next, property state → guard state event →
      machine.step state event = some next → property next)
    (initially : property state) (executed : machine.execute guard state events = some final) :
    property final := by
  let within (_ : Nat) (state : State) := property state
  have lowers : ∀ bound state event next, within bound state → guard state event →
      machine.step state event = some next → within (bound - (false).toNat) next :=
    fun _ => preserved
  exact @execute_within _ _ _ _ _ within (fun _ => false) lowers _ _ _ 0 initially executed

/-- An executed segment extends a run whose guard allows more. -/
theorem Reached.along {state final : State} {events : List Event} (before : machine.Reached wider state)
    (allows : ∀ state event, guard state event → wider state event)
    (executed : machine.execute guard state events = some final) : machine.Reached wider final :=
  execute_invariant (fun _ event _ reached allowed taken => reached.next event (allows _ event allowed) taken)
    before executed

end VehicleEdge.Machine
