import Mathlib.Data.List.Basic
import Mathlib.Data.List.Infix

/-
This file gives the rules for a sequence of writes in which the last write to each key decides.
-/

namespace VehicleEdge

section LastWrite

variable {State Write Key Observed : Type} [DecidableEq Key]

/-- This is the last write to the key. -/
def lastWrite (key : Write → Key) (writes : List Write) (query : Key) : Option Write :=
  (writes.filter fun write => key write = query).getLast?

variable {key : Write → Key} {query : Key}

theorem lastWrite_concat (writes : List Write) (write : Write) :
    lastWrite key (writes ++ [write]) query =
      if key write = query then some write else lastWrite key writes query := by
  unfold lastWrite
  rw [List.filter_append]
  by_cases same : key write = query
  · simp [same]
  · simp [same]

theorem lastWrite_eq_none {writes : List Write} :
    lastWrite key writes query = none ↔ ∀ write ∈ writes, key write ≠ query := by
  simp [lastWrite]

theorem mem_of_lastWrite {writes : List Write} {write : Write}
    (last : lastWrite key writes query = some write) : write ∈ writes ∧ key write = query := by
  have member := List.mem_of_getLast? last
  simpa using member

/-- An observation that writes to other keys leave alone is decided by the last write to its key. -/
theorem observe_writes {step : State → Write → State} (observe : State → Observed)
    (value : Write → Observed) {writes : List Write}
    (own : ∀ write ∈ writes, key write = query → ∀ state, observe (step state write) = value write)
    (other : ∀ write ∈ writes, key write ≠ query → ∀ state, observe (step state write) = observe state)
    (state : State) :
    observe (writes.foldl step state) = (lastWrite key writes query).elim (observe state) value := by
  induction writes using List.reverseRecOn with
  | nil => rfl
  | append_singleton writes write ih =>
      rw [List.foldl_concat, lastWrite_concat]
      by_cases same : key write = query
      · rw [if_pos same, own write (by simp) same]
        rfl
      · rw [if_neg same, other write (by simp) same]
        apply ih
        · exact fun earlier member => own earlier (List.mem_append_left _ member)
        · exact fun earlier member => other earlier (List.mem_append_left _ member)

/-- Two interleavings keep the order of the writes to each key. -/
def Interleaved (key : Write → Key) (first second : List Write) : Prop :=
  ∀ query, (first.filter fun write => key write = query) = second.filter fun write => key write = query

theorem Interleaved.mem_iff {first second : List Write} (interleaved : Interleaved key first second)
    (write : Write) : write ∈ first ↔ write ∈ second := by
  have own : ∀ writes : List Write, write ∈ writes ↔
      write ∈ writes.filter fun other => key other = key write := by
    intro writes
    simp
  rw [own first, own second, interleaved (key write)]

/-- A write that commutes with all writes of a list can be made before them. -/
theorem foldl_commute {step : State → Write → State} {write : Write} {writes : List Write}
    (commute : ∀ other ∈ writes, ∀ state, step (step state other) write = step (step state write) other)
    (state : State) : step (writes.foldl step state) write = writes.foldl step (step state write) := by
  induction writes generalizing state with
  | nil => rfl
  | cons other writes ih =>
      rw [List.foldl_cons, List.foldl_cons, ← commute other List.mem_cons_self]
      exact ih (fun later member => commute later (List.mem_cons_of_mem _ member)) (step state other)

/-- The order of writes to different keys does not matter when these writes commute. -/
theorem Interleaved.foldl_eq {step : State → Write → State} {first second : List Write}
    (interleaved : Interleaved key first second)
    (commute : ∀ one ∈ first, ∀ other ∈ first, key one ≠ key other → ∀ state,
      step (step state one) other = step (step state other) one)
    (state : State) : first.foldl step state = second.foldl step state := by
  induction first generalizing second state with
  | nil =>
      have empty : second = [] :=
        List.eq_nil_iff_forall_not_mem.mpr fun write member => by
          cases (interleaved.mem_iff write).mpr member
      rw [empty]
  | cons write rest ih =>
      -- the second list holds the same write behind writes to other keys
      have own := interleaved (key write)
      rw [List.filter_cons_of_pos (by simp)] at own
      obtain ⟨before, after, rfl, others, -, same⟩ := List.filter_eq_cons_iff.mp own.symm
      have elsewhere : ∀ other ∈ before, key other ≠ key write := by
        simpa using others
      have members : ∀ other ∈ before, other ∈ write :: rest := fun other member =>
        (interleaved.mem_iff other).mpr (List.mem_append_left _ member)
      have moved : step (before.foldl step state) write = before.foldl step (step state write) :=
        foldl_commute (fun other member =>
          commute other (members other member) write List.mem_cons_self (elsewhere other member)) state
      rw [List.foldl_cons, List.foldl_append, List.foldl_cons, moved, ← List.foldl_append]
      apply ih
      · intro query
        have filtered := interleaved query
        rw [List.filter_append] at filtered ⊢
        by_cases hit : key write = query
        · have none : before.filter (fun other => key other = query) = [] := by
            simpa [← hit] using elsewhere
          rw [none, List.nil_append, ← hit, same]
        · rwa [List.filter_cons_of_neg (by simpa using hit),
            List.filter_cons_of_neg (by simpa using hit)] at filtered
      · exact fun one first other second => commute one (List.mem_cons_of_mem _ first) other
          (List.mem_cons_of_mem _ second)

end LastWrite

end VehicleEdge
