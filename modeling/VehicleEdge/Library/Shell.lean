import Mathlib.Data.List.Basic
import Mathlib.Data.List.Infix

/-
This file gives shell scripts whose commands may fail and the rules for the states they leave behind.
-/

namespace VehicleEdge

/-- A script ignores the status of a command unless it branches on it. -/
inductive Script (Command : Type) where
  | done
  | exit (code : Nat)
  | run (command : Command) (next : Script Command)
  | branch (condition : Command) (success failure : Script Command)

namespace Script

variable {Command State : Type}

/-- The commands of a list come before the rest of the script. -/
def sequence : List Command → Script Command → Script Command
  | [], next => next
  | command :: commands, next => .run command (sequence commands next)

/-- The commands of a script are those of all its branches. -/
def commands : Script Command → List Command
  | .done => []
  | .exit _ => []
  | .run command next => command :: next.commands
  | .branch condition success failure => condition :: (success.commands ++ failure.commands)

/-- A command gives the next state and its success. -/
def execute (perform : Command → State → State × Bool) : Script Command → State → State
  | .done, state => state
  | .exit _, state => state
  | .run command next, state => execute perform next (perform command state).1
  | .branch condition success failure, state =>
      match perform condition state with
      | (next, true) => execute perform success next
      | (next, false) => execute perform failure next

variable {perform : Command → State → State × Bool}

/-- A sequence executes its commands in order. -/
theorem execute_sequence (commands : List Command) (next : Script Command) (state : State) :
    execute perform (sequence commands next) state =
      execute perform next (commands.foldl (fun state command => (perform command state).1) state) := by
  induction commands generalizing state with
  | nil => rfl
  | cons command commands ih => exact ih (perform command state).1

theorem commands_sequence (commands : List Command) (next : Script Command) :
    (sequence commands next).commands = commands ++ next.commands := by
  induction commands with
  | nil => rfl
  | cons command commands ih => exact congrArg (command :: ·) ih

/-- A script whose commands all leave the state unchanged leaves it unchanged on every path. -/
theorem execute_unchanged {script : Script Command} {state : State}
    (unchanged : ∀ command ∈ script.commands, (perform command state).1 = state) :
    execute perform script state = state := by
  induction script with
  | done => rfl
  | exit code => rfl
  | run command next ih =>
      have first : (perform command state).1 = state := unchanged command (by simp [commands])
      have rest : execute perform next state = state := by
        apply ih
        intro other member
        exact unchanged other (by simp [commands, member])
      show execute perform next (perform command state).1 = state
      rw [first, rest]
  | branch condition success failure ihSuccess ihFailure =>
      have first : (perform condition state).1 = state := unchanged condition (by simp [commands])
      have passed : execute perform success state = state := by
        apply ihSuccess
        intro other member
        exact unchanged other (by simp [commands, member])
      have failed : execute perform failure state = state := by
        apply ihFailure
        intro other member
        exact unchanged other (by simp [commands, member])
      simp only [execute]
      split
      case h_1 next outcome =>
        have same : next = state := by rw [← first, outcome]
        rw [same, passed]
      case h_2 next outcome =>
        have same : next = state := by rw [← first, outcome]
        rw [same, failed]

end Script

section Repeated

variable {State Turn : Type} {turn : State → Turn → State} {property : State → Prop}
  {condition : State → Turn → Prop}

/-- A loop keeps a property throughout exactly when each turn meets the condition that decides it. -/
theorem repeated_iff (decides : ∀ state next, property state →
      (property (turn state next) ↔ condition state next))
    {state : State} (starts : property state) (turns : List Turn) :
    (∀ earlier, earlier <+: turns → property (earlier.foldl turn state)) ↔
      ∀ earlier next, earlier ++ [next] <+: turns → condition (earlier.foldl turn state) next := by
  constructor
  · intro kept earlier next reached
    have before : property (earlier.foldl turn state) :=
      kept earlier ((List.prefix_append earlier [next]).trans reached)
    have after : property ((earlier ++ [next]).foldl turn state) := kept _ reached
    rw [List.foldl_concat] at after
    exact (decides _ next before).mp after
  · intro met earlier
    -- The last turn of each prefix starts from a state that the induction covers.
    induction earlier using List.reverseRecOn with
    | nil =>
        intro _
        exact starts
    | append_singleton earlier next ih =>
        intro reached
        have before : property (earlier.foldl turn state) :=
          ih ((List.prefix_append earlier [next]).trans reached)
        rw [List.foldl_concat]
        exact (decides _ next before).mpr (met earlier next reached)

variable (property) in
/-- A loop ends with a property that holds at its start or after one of its turns when no turn destroys it. -/
theorem repeated_kept {turns : List Turn}
    (kept : ∀ next ∈ turns, ∀ state, property state → property (turn state next)) {state : State}
    (established : property state ∨ ∃ next ∈ turns, ∀ state, property (turn state next)) :
    property (turns.foldl turn state) := by
  induction turns generalizing state with
  | nil => simpa using established
  | cons next turns ih =>
      rw [List.foldl_cons]
      apply ih fun later member => kept later (List.mem_cons_of_mem _ member)
      rcases established with starts | ⟨establishing, member, holds⟩
      · exact Or.inl (kept next List.mem_cons_self state starts)
      · rcases List.mem_cons.mp member with rfl | member
        · exact Or.inl (holds state)
        · exact Or.inr ⟨establishing, member, holds⟩

end Repeated

end VehicleEdge
