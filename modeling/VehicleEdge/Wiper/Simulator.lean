import VehicleEdge.Wiper.Codec

/-
This file models the wiper simulator and compares it with the task that a request gives to the wiper: it
wipes until three steps have arrived at the target.
-/

namespace VehicleEdge.Wiper

/-- The floating-point operations of the host work on the bit patterns of floats, and a double has a type
of its own. -/
structure FloatUnit (Double : Type) where
  ofInt : Int → UInt32
  add : UInt32 → UInt32 → UInt32
  multiply : UInt32 → UInt32 → UInt32
  divide : UInt32 → UInt32 → UInt32
  negate : UInt32 → UInt32
  less : UInt32 → UInt32 → Bool
  lessEqual : UInt32 → UInt32 → Bool
  widen : UInt32 → Double
  narrow : Double → UInt32
  addDouble : Double → Double → Double
  lessDouble : Double → Double → Bool
  lessEqualDouble : Double → Double → Bool

/-- The constant 15.0f is the position at the start. -/
def startPosition : UInt32 := 0x41700000

/-- The constant 10.0f is the current of a moving wiper. -/
def defaultCurrent : UInt32 := 0x41200000

/-- The noise of the current lies between -0.05f and 0.05f. -/
def lowestNoise : UInt32 := 0xBD4CCCCD

def highestNoise : UInt32 := 0x3D4CCCCD

/-- With its noise the current lies between 9.95f and 10.05f. -/
def lowestCurrent : UInt32 := 0x411F3333

def highestCurrent : UInt32 := 0x4120CCCD

/-- The addition of the host is monotone and rounds these sums to the nearest float, and the lowest
sum is above zero. -/
structure FloatUnit.Rounds {Double : Type} (unit : FloatUnit Double) : Prop where
  monotone : ∀ first second, unit.lessEqual first second = true →
    unit.lessEqual (unit.add defaultCurrent first) (unit.add defaultCurrent second) = true
  lowest : unit.add defaultCurrent lowestNoise = lowestCurrent
  highest : unit.add defaultCurrent highestNoise = highestCurrent
  positive : unit.lessEqual lowestCurrent 0 = false

structure WiperSimulator where
  modelCounter : Nat
  event : Event
  simPosStep : UInt32
  simWiping : Bool
  simCycleEnding : Bool
  simCycleEndingCount : Nat
  simFrequency : UInt8
  simTargetPos : UInt32
  simTs : Int

/-- The first event claims a wiping wiper, and the first step corrects it. -/
def modelInit (now : Int) : WiperSimulator where
  modelCounter := 0
  event :=
    { sequenceCounter := 0
      data :=
        { actualPosition := startPosition
          driveCurrent := defaultCurrent
          tempGear := 100
          isWiping := 1
          isEndingWipeCycle := 1
          isWiperError := 0
          isPositionReached := 1
          isBlocked := 0
          isOverheated := 0
          ecuTemp := 75
          linError := 255
          isOverVoltage := 0
          isUnderVoltage := 0 } }
  simPosStep := 0
  simWiping := false
  simCycleEnding := false
  simCycleEndingCount := 0
  simFrequency := 0
  simTargetPos := startPosition
  simTs := now

/-- A Boolean is stored in a byte. -/
def flag (value : Bool) : UInt8 := if value then 1 else 0

section Step

variable {Double : Type} (unit : FloatUnit Double)

/-- The elapsed milliseconds are multiplied as a float and added as a double. -/
def WiperSimulator.nextPos (sim : WiperSimulator) (now : Int) : Double :=
  unit.addDouble (unit.widen sim.event.data.actualPosition)
    (unit.widen (unit.multiply (unit.ofInt (now - sim.simTs)) sim.simPosStep))

def WiperSimulator.posReached (sim : WiperSimulator) (now : Int) : Bool :=
  (unit.lessEqual 0 sim.simPosStep &&
      unit.lessEqualDouble (unit.widen sim.simTargetPos) (sim.nextPos unit now)) ||
    (unit.less sim.simPosStep 0 &&
      unit.lessEqualDouble (sim.nextPos unit now) (unit.widen sim.simTargetPos))

/-- The wiper ends its cycle in two steps beside the target and stops in the third. -/
def WiperSimulator.move (sim : WiperSimulator) (now : Int) (speed : UInt32) :
    WiperSimulator × Double × Bool :=
  if sim.posReached unit now then
    let count := (if sim.simCycleEnding then sim.simCycleEndingCount else 0) + 1
    if count < 3 then
      ({ sim with simCycleEnding := true, simCycleEndingCount := count, simPosStep := 0 },
        unit.widen (unit.add sim.simTargetPos speed), false)
    else
      ({ sim with simWiping := false, simCycleEnding := false, simCycleEndingCount := 0 },
        unit.widen sim.simTargetPos, true)
  else (sim, sim.nextPos unit now, false)

/-- A moving wiper stays between -1.0f and 181.0f or is set back to the ends of its range. -/
def sanePos (simWiping : Bool) (nextPos : Double) : Double :=
  let above := if simWiping && unit.lessDouble nextPos (unit.widen 0xBF800000) then unit.widen 0 else nextPos
  if simWiping && unit.lessDouble (unit.widen 0x43350000) above then unit.widen 0x43340000 else above

/-- The two noises are drawn only where they are used. -/
structure Noise where
  speed : UInt32
  current : UInt32

/-- The speed noise is drawn between 0.0f and 0.1f. -/
def Noise.InRange {Double : Type} (unit : FloatUnit Double) (noise : Noise) : Prop :=
  (unit.lessEqual 0 noise.speed = true ∧ unit.lessEqual noise.speed 0x3DCCCCCD = true) ∧
    unit.lessEqual lowestNoise noise.current = true ∧ unit.lessEqual noise.current highestNoise = true

instance {Double : Type} (unit : FloatUnit Double) (noise : Noise) : Decidable (noise.InRange unit) :=
  inferInstanceAs (Decidable ((_ ∧ _) ∧ _ ∧ _))

/-- The current of a wiping wiper lies in the range of its noise. -/
def Powered {Double : Type} (unit : FloatUnit Double) (current : UInt32) : Prop :=
  unit.lessEqual lowestCurrent current = true ∧ unit.lessEqual current highestCurrent = true

theorem powered_of_noise {Double : Type} {unit : FloatUnit Double} (rounds : unit.Rounds) {noise : Noise}
    (inRange : noise.InRange unit) : Powered unit (unit.add defaultCurrent noise.current) := by
  obtain ⟨-, low, high⟩ := inRange
  constructor
  · rw [← rounds.lowest]
    exact rounds.monotone _ _ low
  · rw [← rounds.highest]
    exact rounds.monotone _ _ high

theorem Powered.ne_zero {Double : Type} {unit : FloatUnit Double} (rounds : unit.Rounds) {current : UInt32}
    (powered : Powered unit current) : current ≠ 0 := by
  rintro rfl
  exact Bool.false_ne_true (rounds.positive.symm.trans powered.1)

/-- The step ends with the fields of its event. -/
def WiperSimulator.report (sim : WiperSimulator) (now : Int) (simActualPos : UInt32) (simPosReached : Bool)
    (simCurrent : UInt32) : WiperSimulator :=
  { sim with
    event :=
      { sequenceCounter := UInt8.ofNat sim.modelCounter
        data := { sim.event.data with
          isWiping := flag sim.simWiping
          isPositionReached := flag simPosReached
          isEndingWipeCycle := flag sim.simCycleEnding
          driveCurrent := simCurrent
          actualPosition := simActualPos } }
    simTs := now }

def WiperSimulator.counted (sim : WiperSimulator) : WiperSimulator :=
  { sim with modelCounter := sim.modelCounter + 1 }

def WiperSimulator.modelStep (sim : WiperSimulator) (now : Int) (noise : Noise) : WiperSimulator :=
  if sim.simWiping then
    let (moved, nextPos, reached) := sim.counted.move unit now noise.speed
    moved.report now (unit.narrow (sanePos unit moved.simWiping nextPos)) reached
      (unit.add defaultCurrent noise.current)
  else sim.counted.report now sim.simTargetPos true 0

/-- The frequency counts cycles of 180.0f degrees in 60000.0f milliseconds. -/
def WiperSimulator.modelSet (sim : WiperSimulator) (request : WiperRequest) (now : Int) : WiperSimulator :=
  let simPosStep := unit.divide (unit.multiply (unit.ofInt request.frequency.toNat) 0x43340000) 0x476A6000
  { sim with
    simWiping := decide (request.mode = WiperMode.wipe.value)
    simFrequency := request.frequency
    simTargetPos := request.targetPosition
    simPosStep :=
      if unit.less request.targetPosition sim.event.data.actualPosition then unit.negate simPosStep
      else simPosStep
    simTs := now
    simCycleEnding := false }

/-- The step finds a wiping wiper at its target. -/
def WiperSimulator.arrives (sim : WiperSimulator) (now : Int) : Bool :=
  sim.simWiping && sim.posReached unit now

end Step

/-- These operations reach the simulator. -/
inductive Operation where
  | set (request : WiperRequest)
  | step (arrived : Bool)

/-- The latest request is a task for the wiper. -/
structure Task where
  target : UInt32
  wipe : Bool
  arrivals : Nat

def Task.after (task : Task) : Operation → Task
  | .set request => ⟨request.targetPosition, decide (request.mode = WiperMode.wipe.value), 0⟩
  | .step arrived => { task with arrivals := task.arrivals + arrived.toNat }

/-- Before the first request the wiper rests at its start. -/
def taskOf (history : List Operation) : Task :=
  history.foldl Task.after ⟨startPosition, false, 0⟩

def Task.wiping (task : Task) : Bool := task.wipe && decide (task.arrivals < 3)

def Task.ending (task : Task) : Bool := task.wiping && decide (0 < task.arrivals)

def Operation.isStep : Operation → Bool
  | .set _ => false
  | .step _ => true

def stepsIn (history : List Operation) : Nat := history.countP Operation.isStep

/-- No operation changes these fields. -/
def EventData.Healthy (data : EventData) : Prop :=
  data.tempGear = 100 ∧ data.ecuTemp = 75 ∧ data.linError = 255 ∧ data.isWiperError = 0 ∧
    data.isBlocked = 0 ∧ data.isOverheated = 0 ∧ data.isOverVoltage = 0 ∧ data.isUnderVoltage = 0

/-- A resting wiper is at its target, which the step that stops it reads through a double. -/
def AtTarget {Double : Type} (unit : FloatUnit Double) (position target : UInt32) : Prop :=
  position = target ∨ position = unit.narrow (unit.widen target)

/-- The event shows the task after these operations, of which the last one is its step; a wiper needs no
current exactly when it rested before the step. -/
structure Event.Shows {Double : Type} (unit : FloatUnit Double) (event : Event) (history : List Operation) :
    Prop where
  counter : event.sequenceCounter = UInt8.ofNat (stepsIn history)
  wiping : event.data.isWiping = flag (taskOf history).wiping
  ending : event.data.isEndingWipeCycle = flag (taskOf history).ending
  reached : event.data.isPositionReached = flag (!(taskOf history).wiping)
  resting : (taskOf history).wiping = false →
    AtTarget unit event.data.actualPosition (taskOf history).target
  powered : (taskOf history.dropLast).wiping = true → Powered unit event.data.driveCurrent
  unpowered : event.data.driveCurrent = 0 ↔ (taskOf history.dropLast).wiping = false
  healthy : event.data.Healthy

/-- The simulator keeps the task in its flags and its counter. -/
structure WiperSimulator.Follows (sim : WiperSimulator) (history : List Operation) : Prop where
  counter : sim.modelCounter = stepsIn history
  wiping : sim.simWiping = (taskOf history).wiping
  ending : sim.simCycleEnding = (taskOf history).ending
  count : sim.simCycleEnding = true → sim.simCycleEndingCount = (taskOf history).arrivals
  target : sim.simTargetPos = (taskOf history).target
  healthy : sim.event.data.Healthy

theorem taskOf_concat (history : List Operation) (operation : Operation) :
    taskOf (history ++ [operation]) = (taskOf history).after operation :=
  List.foldl_concat _ _ _ _

theorem stepsIn_set (history : List Operation) (request : WiperRequest) :
    stepsIn (history ++ [.set request]) = stepsIn history := by
  simp [stepsIn, Operation.isStep]

theorem stepsIn_step (history : List Operation) (arrived : Bool) :
    stepsIn (history ++ [.step arrived]) = stepsIn history + 1 := by
  simp [stepsIn, Operation.isStep]

section Refinement

variable {Double : Type} (unit : FloatUnit Double) {sim : WiperSimulator} {history : List Operation}

theorem modelInit_follows (now : Int) : (modelInit now).Follows [] :=
  ⟨rfl, rfl, rfl, fun ending => (by cases ending), rfl, ⟨rfl, rfl, rfl, rfl, rfl, rfl, rfl, rfl⟩⟩

theorem modelSet_follows (follows : sim.Follows history) (request : WiperRequest) (now : Int) :
    (sim.modelSet unit request now).Follows (history ++ [.set request]) := by
  have task := taskOf_concat history (.set request)
  refine ⟨?_, ?_, ?_, fun ending => (by cases ending), ?_, follows.healthy⟩
  · rw [stepsIn_set]
    exact follows.counter
  · simp [task, Task.after, Task.wiping, WiperSimulator.modelSet]
  · simp [task, Task.after, Task.ending, WiperSimulator.modelSet]
  · rw [task]
    rfl

/-- A step that does not arrive keeps the task. -/
theorem counted_follows (follows : sim.Follows history) :
    sim.counted.Follows (history ++ [.step false]) := by
  obtain ⟨counter, wiping, ending, count, target, healthy⟩ := follows
  have task : taskOf (history ++ [.step false]) = taskOf history := taskOf_concat history _
  exact ⟨by rw [stepsIn_step, ← counter]; rfl, task ▸ wiping, task ▸ ending, task ▸ count, task ▸ target,
    healthy⟩

/-- A wiping wiper has a task with fewer than three arrivals, and it counts them. -/
theorem WiperSimulator.Follows.arrivals (follows : sim.Follows history) (wipes : sim.simWiping = true) :
    (taskOf history).wipe = true ∧ (taskOf history).arrivals < 3 ∧
      (if sim.simCycleEnding then sim.simCycleEndingCount else 0) = (taskOf history).arrivals := by
  obtain ⟨_, wiping, ending, count, _, _⟩ := follows
  have running : (taskOf history).wipe = true ∧ (taskOf history).arrivals < 3 := by
    simpa [Task.wiping, wipes] using wiping.symm
  refine ⟨running.1, running.2, ?_⟩
  cases here : sim.simCycleEnding with
  | true => exact count here
  | false =>
      have none : ¬ 0 < (taskOf history).arrivals := by
        simpa [Task.ending, ← wiping, wipes, here] using ending.symm
      simp only [Bool.false_eq_true, if_false]
      omega

/-- An arrival ends the cycle or, as the third one, the wiping. -/
theorem move_follows (follows : sim.Follows history) (wipes : sim.simWiping = true) (now : Int)
    (speed : UInt32) :
    let moved := sim.counted.move unit now speed
    moved.1.Follows (history ++ [.step (sim.posReached unit now)]) ∧ moved.2.2 = !moved.1.simWiping ∧
      (moved.1.simWiping = false → moved.2.1 = unit.widen moved.1.simTargetPos) := by
  have counted := counted_follows follows
  obtain ⟨wipe, running, arrivals⟩ := follows.arrivals wipes
  have same : sim.counted.posReached unit now = sim.posReached unit now := rfl
  have ended : sim.counted.simCycleEnding = sim.simCycleEnding := rfl
  have count : sim.counted.simCycleEndingCount = sim.simCycleEndingCount := rfl
  have wiped : sim.counted.simWiping = true := wipes
  simp only [WiperSimulator.move, same, ended, count]
  cases arrived : sim.posReached unit now with
  | false =>
      simp only [Bool.false_eq_true, if_false]
      exact ⟨counted, by simp [wiped], fun rests => by simp [wiped] at rests⟩
  | true =>
      have task := taskOf_concat history (.step true)
      have steps : sim.modelCounter + 1 = stepsIn (history ++ [.step true]) := by
        rw [stepsIn_step, ← follows.counter]
      simp only [if_true, arrivals]
      split
      case isTrue early =>
        refine ⟨⟨steps, ?_, ?_, fun _ => ?_, ?_, follows.healthy⟩, by simp [wiped], fun rests => ?_⟩
        · simp [task, Task.after, Task.wiping, wiped, wipe, early]
        · simp [task, Task.after, Task.ending, Task.wiping, wipe, early]
        · simp [task, Task.after]
        · rw [task]
          exact follows.target
        · simp [wiped] at rests
      case isFalse late =>
        refine ⟨⟨steps, ?_, ?_, fun ending => (by cases ending), ?_, follows.healthy⟩, rfl, fun _ => rfl⟩
        · simp [task, Task.after, Task.wiping, wipe]
          omega
        · simp [task, Task.after, Task.ending, Task.wiping, wipe]
          omega
        · rw [task]
          exact follows.target

/-- The reported flags are those of the task. -/
theorem report_follows (rounds : unit.Rounds) (follows : sim.Follows history) (now : Int)
    (position current : UInt32)
    (resting : sim.simWiping = false → AtTarget unit position sim.simTargetPos)
    (powered : if (taskOf history.dropLast).wiping then Powered unit current else current = 0) :
    let reported := sim.report now position (!sim.simWiping) current
    reported.Follows history ∧ reported.event.Shows unit history := by
  obtain ⟨counter, wiping, ending, count, target, healthy⟩ := follows
  constructor
  · exact ⟨counter, wiping, ending, count, target, healthy⟩
  · refine ⟨congrArg UInt8.ofNat counter, congrArg flag wiping, congrArg flag ending, ?_, ?_, fun wiped => ?_,
      ?_, healthy⟩
    · exact congrArg (fun value => flag (!value)) wiping
    · intro rests
      rw [← target]
      exact resting (wiping.trans rests)
    · rwa [if_pos wiped] at powered
    · show current = 0 ↔ _
      cases wiped : (taskOf history.dropLast).wiping with
      | true =>
          rw [if_pos wiped] at powered
          exact iff_of_false (powered.ne_zero rounds) Bool.noConfusion
      | false =>
          rw [if_neg (by simp [wiped])] at powered
          exact iff_of_true powered rfl

/-- A step of the simulator is a step of its task, and its event shows the task. -/
theorem modelStep_follows (rounds : unit.Rounds) (follows : sim.Follows history) (now : Int) {noise : Noise}
    (inRange : noise.InRange unit) :
    (sim.modelStep unit now noise).Follows (history ++ [.step (sim.arrives unit now)]) ∧
      (sim.modelStep unit now noise).event.Shows unit (history ++ [.step (sim.arrives unit now)]) := by
  have before : (taskOf (history ++ [Operation.step (sim.arrives unit now)]).dropLast).wiping =
      sim.simWiping := by
    rw [List.dropLast_concat, follows.wiping]
  cases wipes : sim.simWiping with
  | false =>
      have arrives : sim.arrives unit now = false := by simp [WiperSimulator.arrives, wipes]
      have stepped : sim.modelStep unit now noise =
          sim.counted.report now sim.simTargetPos (!sim.counted.simWiping) 0 := by
        rw [WiperSimulator.modelStep, if_neg (by simp [wipes]), show sim.counted.simWiping = false from wipes]
        rfl
      rw [stepped, arrives]
      rw [arrives, wipes] at before
      exact report_follows unit rounds (counted_follows follows) now _ _ (fun _ => .inl rfl)
        (by rw [before]; rfl)
  | true =>
      have arrives : sim.arrives unit now = sim.posReached unit now := by simp [WiperSimulator.arrives, wipes]
      obtain ⟨moved, reached, resting⟩ := move_follows unit follows wipes now noise.speed
      rw [arrives, wipes] at before
      rw [arrives, WiperSimulator.modelStep, if_pos wipes]
      simp only [reached]
      refine report_follows unit rounds moved now _ _ (fun rests => ?_) ?_
      · rw [resting rests, rests]
        exact .inr rfl
      · rw [before]
        exact powered_of_noise rounds inRange

end Refinement

end VehicleEdge.Wiper
