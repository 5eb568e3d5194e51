import VehicleEdge.Wiper.Service

/-
This file counts the steps of the wiper service that are not notified yet, and the automatic requests that are
set while the notify thread holds its lock.
-/

namespace VehicleEdge.Wiper

/-- The automatic requests that have been set. -/
def Service.automatics (service : Service) : Nat := service.inputs.countP Input.isAutomatic

/-- The service is stopped before its offer is withdrawn, and until then the loop of the notify thread runs
only while the service is offered. -/
structure Controlled (service : Service) : Prop where
  stopped : service.stop ≠ .idle → service.running = false
  offered : service.notify.inside = true → service.isOffered = true ∨ service.running = false

/-- The loop ends only for a stop. -/
theorem Controlled.ended {service : Service} (controlled : Controlled service)
    (inside : service.notify.inside = true)
    (ceased : ¬ (service.isOffered = true ∧ service.running = true)) : service.running = false := by
  rcases controlled.offered inside with open_ | stopped
  · simpa [open_] using ceased
  · exact stopped

section Frame

variable {Double : Type} {unit : FloatUnit Double} {service next : Service}

/-- Another thread leaves the stop, the points, and the automatic requests alone. -/
structure Service.SameControl (service next : Service) : Prop where
  running : next.running = service.running
  stop : next.stop = service.stop
  isOffered : next.isOffered = service.isOffered
  offer : next.offer = service.offer
  automatics : next.automatics = service.automatics

theorem onVssMessage_frame (payload : List UInt8) (now : Int) :
    service.SameControl (onVssMessage unit service payload now) ∧
      (onVssMessage unit service payload now).notify = service.notify := by
  have requests : (service.inputs ++ [Input.received payload]).countP Input.isAutomatic =
      service.inputs.countP Input.isAutomatic := by simp [Input.isAutomatic]
  unfold onVssMessage
  split
  all_goals exact ⟨⟨rfl, rfl, rfl, rfl, requests⟩, rfl⟩

theorem notifyStep_frame {cycle : UInt32} {now : Int} {noise : Noise} {point : NotifyPoint}
    (taken : notifyStep unit cycle service now noise point = some next) : service.SameControl next := by
  cases point with
  | modelling wasCycleEnding =>
      cases taken
      exact ⟨rfl, rfl, rfl, rfl, by simp [Service.automatics, Input.isAutomatic]⟩
  | waiting =>
      simp only [notifyStep] at taken
      split at taken
      all_goals cases taken
      exact ⟨rfl, rfl, rfl, rfl, rfl⟩
  | notifying =>
      simp only [notifyStep] at taken
      rw [serializeWiperEvent_fits] at taken
      cases taken
      exact ⟨rfl, rfl, rfl, rfl, rfl⟩
  | returned => cases taken
  | _ =>
      cases taken
      exact ⟨rfl, rfl, rfl, rfl, rfl⟩

/-- The offer thread leaves the stop and the notify thread alone. -/
theorem runStep_frame {simAuto : Bool} {outside : WiperRequest} {now : Int} {point : OfferPoint}
    (taken : runStep unit simAuto service outside now point = some next) :
    next.running = service.running ∧ next.stop = service.stop ∧ next.notify = service.notify ∧
      (service.isOffered = true → next.isOffered = true) := by
  cases point with
  | blockedTest | offering | setting =>
      simp only [runStep] at taken
      split at taken
      all_goals cases taken
      all_goals exact ⟨rfl, rfl, rfl, fun open_ => by first | exact open_ | rfl⟩
  | loopTest | sleeping =>
      cases taken
      exact ⟨rfl, rfl, rfl, id⟩
  | returned => cases taken

/-- The notify thread enters its loop only when the service is offered or stopped. -/
theorem notifyStep_inside {cycle : UInt32} {now : Int} {noise : Noise}
    (taken : notifyStep unit cycle service now noise service.notify = some next)
    (inside : next.notify.inside = true) :
    service.notify.inside = true ∨ service.isOffered = true ∨ service.running = false := by
  cases here : service.notify with
  | outerTest =>
      simp only [here, notifyStep] at taken
      cases taken
      revert inside
      simp only
      split <;> exact fun inside => (by cases inside)
  | waiting =>
      simp only [here, notifyStep] at taken
      split at taken
      case isTrue => cases taken
      case isFalse ready =>
        refine .inr ?_
        revert ready
        cases service.isOffered <;> cases service.running <;> simp
  | returned =>
      rw [here] at taken
      cases taken
  | _ => exact .inl rfl

theorem controlled_step {simAuto : Bool} {cycle : UInt32} {event : ServiceEvent}
    (controlled : Controlled service) (taken : serviceStep unit simAuto cycle service event = some next) :
    Controlled next := by
  obtain ⟨stopped, offered⟩ := controlled
  cases event with
  | initialized =>
      cases taken
      exact ⟨stopped, offered⟩
  | message payload now =>
      cases taken
      obtain ⟨frame, notify⟩ := @onVssMessage_frame _ unit service payload now
      exact ⟨by rwa [frame.stop, frame.running], by rwa [notify, frame.isOffered, frame.running]⟩
  | offerThread outside now =>
      obtain ⟨running, stop, notify, open_⟩ := runStep_frame taken
      refine ⟨by rwa [stop, running], ?_⟩
      rw [notify, running]
      exact fun inside => (offered inside).imp_left open_
  | notifyThread now noise =>
      have frame := notifyStep_frame taken
      refine ⟨by rwa [frame.stop, frame.running], fun inside => ?_⟩
      rw [frame.isOffered, frame.running]
      exact (notifyStep_inside taken inside).elim offered id
  | stop =>
      have ended : next.running = false := by
        simp only [serviceStep] at taken
        cases here : service.stop with
        | idle =>
            simp only [here, stopStep] at taken
            cases taken
            rfl
        | stopOffer =>
            simp only [here, stopStep] at taken
            cases taken
            exact stopped (by simp [here])
        | joinOffer | joinNotify =>
            simp only [here, stopStep] at taken
            split at taken
            all_goals cases taken
            exact stopped (by simp [here])
        | returned =>
            rw [here] at taken
            cases taken
      exact ⟨fun _ => ended, fun _ => .inr ended⟩

theorem controlled_reached {simAuto : Bool} {cycle : UInt32} {now : Int} {itsData : Memory}
    (reached : (wiperService unit simAuto cycle now itsData).Reached Machine.anyStep service) :
    Controlled service := by
  refine reached.invariant ⟨fun started => absurd rfl started, fun inside => (by cases inside)⟩ ?_
  intro service event next controlled _ taken
  exact controlled_step controlled taken

end Frame

def stepCount (inputs : List Input) : Nat := stepsIn (operations inputs)

theorem stepCount_append (inputs more : List Input) :
    stepCount (inputs ++ more) = stepCount inputs + stepCount more := by
  simp only [stepCount, operations, stepsIn, List.filterMap_append, List.countP_append]

/-- Requests are no steps. -/
theorem stepCount_received (payload : List UInt8) : stepCount [.received payload] = 0 := by
  by_cases short : payload.length < setPayloadSize <;>
    simp [stepCount, operations, stepsIn, Input.operation, Operation.isStep, short]

/-- The inputs up to this place are covered by the last notification. -/
def Service.sentCut (service : Service) : Nat := (service.notified.getLast?.map Notification.cut).getD 0

/-- This many steps are covered by the last notification. -/
def Service.sentSteps (service : Service) : Nat := stepCount (service.inputs.take service.sentCut)

/-- The time of the notify thread is an `int` that grows by half seconds, so it can reach no longer cycle. -/
def lastCycle : Nat := (2 ^ 31 - 1) / 500 * 500

/-- With so many steps the time of the notify thread passes the cycle. -/
def stepBound (cycle : UInt32) : Nat := max 1 ((cycle.toNat + 499) / 500)

/-- These steps are still within the cycle. -/
def WithinCycle (cycle : UInt32) (steps : Nat) : Prop := steps = 0 ∨ steps * (simStep cycle).toNat < cycle.toNat

/-- The time of the notify thread is that of the steps that are not notified. -/
def PacedAt (cycle eventTs : UInt32) (unsent : Nat) : NotifyPoint → Prop
  | .outerTest | .waiting | .returned => unsent ≤ stepBound cycle
  | .loopTest | .reading | .modelling _ =>
      eventTs.toNat = unsent * (simStep cycle).toNat ∧ WithinCycle cycle unsent
  | .sleeping _ => ∃ before, unsent = before + 1 ∧ eventTs.toNat = before * (simStep cycle).toNat ∧
      WithinCycle cycle before
  | .breakTest _ | .cycleTest _ => ∃ before, unsent = before + 1 ∧
      eventTs.toNat = unsent * (simStep cycle).toNat ∧ WithinCycle cycle before
  | .notifying => ∃ before, unsent = before + 1 ∧ WithinCycle cycle before

theorem simStep_toNat (cycle : UInt32) : (simStep cycle).toNat = min cycle.toNat 500 := by
  unfold simStep
  split
  case isTrue below =>
    have := UInt32.lt_iff_toNat_lt.mp below
    simp at this
    omega
  case isFalse above =>
    have : ¬ cycle.toNat < (500 : UInt32).toNat := fun below => above (UInt32.lt_iff_toNat_lt.mpr below)
    simp at this
    simp
    omega

/-- One step after steps within the cycle meets the bound. -/
theorem WithinCycle.succ_le {cycle : UInt32} {steps : Nat} (within : WithinCycle cycle steps) :
    steps + 1 ≤ stepBound cycle := by
  unfold stepBound
  rcases within with rfl | within
  · omega
  · rw [simStep_toNat] at within
    rcases Nat.lt_or_ge cycle.toNat 500 with short | long
    · rw [Nat.min_eq_left (by omega)] at within
      have first : steps = 0 := by
        rcases Nat.eq_zero_or_pos steps with zero | positive
        · exact zero
        · have : cycle.toNat ≤ steps * cycle.toNat := Nat.le_mul_of_pos_left _ positive
          omega
      omega
    · rw [Nat.min_eq_right long] at within
      omega

theorem PacedAt.le {cycle eventTs : UInt32} {unsent : Nat} {point : NotifyPoint}
    (paced : PacedAt cycle eventTs unsent point) : unsent ≤ stepBound cycle := by
  cases point with
  | outerTest | waiting | returned => exact paced
  | loopTest | reading | modelling =>
      exact Nat.le_of_succ_le paced.2.succ_le
  | sleeping | breakTest | cycleTest =>
      obtain ⟨before, rfl, _, within⟩ := paced
      exact within.succ_le
  | notifying =>
      obtain ⟨before, rfl, within⟩ := paced
      exact within.succ_le

/-- The local event is the last step, no step is taken before the loop, and the time fits to the steps. -/
structure Paced (cycle : UInt32) (service : Service) : Prop where
  sent : service.sentCut ≤ service.inputs.length
  current : service.notify.stepped = true → service.cut ≤ service.inputs.length ∧
    stepCount (service.inputs.take service.cut) = stepCount service.inputs
  fresh : service.notify.inside = false → service.running = true ∨ service.notify = .waiting →
    stepCount service.inputs = 0
  paced : ∃ unsent, stepCount service.inputs = service.sentSteps + unsent ∧
    PacedAt cycle service.eventTs unsent service.notify

section Pace

variable {cycle : UInt32} {service next : Service}

/-- The other threads add no steps. -/
theorem Paced.beside (paced : Paced cycle service) (more : List Input)
    (inputs : next.inputs = service.inputs ++ more) (requests : stepCount more = 0)
    (notified : next.notified = service.notified) (cut : next.cut = service.cut)
    (notify : next.notify = service.notify) (eventTs : next.eventTs = service.eventTs)
    (running : next.running = true → service.running = true) : Paced cycle next := by
  obtain ⟨sent, current, fresh, unsent, counted, at_⟩ := paced
  have steps : stepCount next.inputs = stepCount service.inputs := by
    rw [inputs, stepCount_append, requests, Nat.add_zero]
  have place : next.sentCut = service.sentCut := by rw [Service.sentCut, notified, Service.sentCut]
  have taken (cut : Nat) (within : cut ≤ service.inputs.length) :
      next.inputs.take cut = service.inputs.take cut := by
    rw [inputs, List.take_append_of_le_length within]
  have longer : service.inputs.length ≤ next.inputs.length := by simp [inputs]
  refine ⟨by omega, fun stepped => ?_, fun outside waits => ?_, unsent, ?_, ?_⟩
  · rw [notify] at stepped
    obtain ⟨within, same⟩ := current stepped
    rw [cut, taken _ within, steps]
    exact ⟨by omega, same⟩
  · rw [notify] at outside waits
    exact steps.trans (fresh outside (waits.imp_left running))
  · rw [steps, Service.sentSteps, place, taken _ sent]
    exact counted
  · rw [eventTs, notify]
    exact at_

theorem paced_offer {Double : Type} {unit : FloatUnit Double} {simAuto : Bool} {outside : WiperRequest}
    {now : Int} (paced : Paced cycle service)
    (taken : runStep unit simAuto service outside now service.offer = some next) : Paced cycle next := by
  cases here : service.offer with
  | blockedTest | offering =>
      simp only [here, runStep] at taken
      split at taken
      all_goals cases taken
      exact paced.beside [] (List.append_nil _).symm rfl rfl rfl rfl rfl id
  | loopTest | sleeping =>
      simp only [here, runStep] at taken
      cases taken
      exact paced.beside [] (List.append_nil _).symm rfl rfl rfl rfl rfl id
  | setting =>
      simp only [here, runStep] at taken
      split at taken
      all_goals cases taken
      · exact paced.beside [_] rfl rfl rfl rfl rfl rfl id
      · exact paced.beside [] (List.append_nil _).symm rfl rfl rfl rfl rfl id
  | returned =>
      rw [here] at taken
      cases taken

theorem paced_message {Double : Type} {unit : FloatUnit Double} (paced : Paced cycle service)
    (payload : List UInt8) (now : Int) : Paced cycle (onVssMessage unit service payload now) := by
  unfold onVssMessage
  split
  all_goals
    exact paced.beside [_] rfl (stepCount_received payload) rfl rfl rfl rfl id

theorem paced_stop (paced : Paced cycle service) (taken : stopStep service service.stop = some next) :
    Paced cycle next := by
  cases here : service.stop with
  | idle =>
      simp only [here, stopStep] at taken
      cases taken
      exact paced.beside [] (List.append_nil _).symm rfl rfl rfl rfl rfl fun runs => by cases runs
  | stopOffer =>
      simp only [here, stopStep] at taken
      cases taken
      exact paced.beside [] (List.append_nil _).symm rfl rfl rfl rfl rfl id
  | joinOffer | joinNotify =>
      simp only [here, stopStep] at taken
      split at taken
      all_goals cases taken
      exact paced.beside [] (List.append_nil _).symm rfl rfl rfl rfl rfl id
  | returned =>
      rw [here] at taken
      cases taken

/-- A step of the notify thread that only moves its point keeps the counts. -/
theorem Paced.move (paced : Paced cycle service) {eventTs : UInt32} {point : NotifyPoint}
    (stepped : point.stepped = true → service.notify.stepped = true)
    (fresh : point.inside = false → service.running = true ∨ point = .waiting → stepCount service.inputs = 0)
    (at_ : ∀ unsent, stepCount service.inputs = service.sentSteps + unsent →
      PacedAt cycle service.eventTs unsent service.notify → PacedAt cycle eventTs unsent point) :
    Paced cycle { service with eventTs := eventTs, notify := point } := by
  obtain ⟨sent, current, _, unsent, counted, before⟩ := paced
  exact ⟨sent, fun later => current (stepped later), fresh, unsent, counted, at_ unsent counted before⟩

theorem paced_modelling (paced : Paced cycle service) {wasCycleEnding : Bool}
    (here : service.notify = .modelling wasCycleEnding) (sim : WiperSimulator) (arrived : Bool) :
    Paced cycle { service with
      sim := sim
      event := sim.event
      inputs := service.inputs ++ [.stepped arrived]
      cut := service.inputs.length + 1
      notify := .sleeping wasCycleEnding } := by
  obtain ⟨sent, _, _, unsent, counted, at_⟩ := paced
  have steps : stepCount (service.inputs ++ [.stepped arrived]) = stepCount service.inputs + 1 :=
    stepCount_append _ _
  rw [here] at at_
  refine ⟨?_, fun _ => ⟨by simp, ?_⟩, fun outside => (by cases outside), unsent + 1, ?_, ?_⟩
  · simp only [List.length_append]
    exact Nat.le_add_right_of_le sent
  · rw [List.take_of_length_le (by simp)]
  · have same : (service.inputs ++ [Input.stepped arrived]).take service.sentCut =
        service.inputs.take service.sentCut := List.take_append_of_le_length sent
    have covered : Service.sentSteps { service with
        sim := sim
        event := sim.event
        inputs := service.inputs ++ [.stepped arrived]
        cut := service.inputs.length + 1
        notify := .sleeping wasCycleEnding } = service.sentSteps := congrArg stepCount same
    rw [covered, steps, counted, Nat.add_assoc]
  · exact ⟨unsent, rfl, at_.1, at_.2⟩

theorem paced_notifying (paced : Paced cycle service) (here : service.notify = .notifying) (itsData : Memory)
    (payload : List UInt8) :
    Paced cycle { service with
      eventTs := 0
      itsData := itsData
      notified := service.notified ++ [⟨service.cut, payload⟩]
      notify := .loopTest } := by
  obtain ⟨_, current, _, _⟩ := paced
  obtain ⟨within, same⟩ := current (by rw [here]; rfl)
  have place : Service.sentCut { service with
      eventTs := 0
      itsData := itsData
      notified := service.notified ++ [⟨service.cut, payload⟩]
      notify := .loopTest } = service.cut := by simp [Service.sentCut]
  refine ⟨?_, fun stepped => (by cases stepped), fun outside => (by cases outside), 0, ?_, ?_⟩
  · rw [place]
    exact within
  · rw [Service.sentSteps, place]
    exact same.symm
  · exact ⟨(Nat.zero_mul _).symm, .inl rfl⟩

/-- The thread leaves its loop only when the service is stopped. -/
theorem Paced.leave (paced : Paced cycle service) (stopped : service.running = false) :
    Paced cycle { service with notify := .outerTest } :=
  paced.move (fun stepped => (by cases stepped)) (fun _ waits => by simp [stopped] at waits)
    fun unsent _ at_ => at_.le

/-- The thread goes on in its loop. -/
theorem Paced.advance (paced : Paced cycle service) {eventTs : UInt32} {point : NotifyPoint}
    (inLoop : point.inside = true) (stepped : point.stepped = true → service.notify.stepped = true)
    (at_ : ∀ unsent, PacedAt cycle service.eventTs unsent service.notify → PacedAt cycle eventTs unsent point) :
    Paced cycle { service with eventTs := eventTs, notify := point } :=
  paced.move stepped (fun outside => by simp [inLoop] at outside) fun unsent _ => at_ unsent

/-- The thread enters its loop without a step. -/
theorem Paced.enter (paced : Paced cycle service) (here : service.notify = .waiting) :
    Paced cycle { service with eventTs := 0, notify := .loopTest } := by
  have fresh := paced.fresh (by rw [here]; rfl) (.inr here)
  refine paced.move (fun stepped => (by cases stepped)) (fun outside => (by cases outside)) ?_
  intro unsent counted _
  have none : unsent = 0 := by omega
  rw [none]
  exact ⟨(Nat.zero_mul _).symm, .inl rfl⟩

/-- The time of the next step does not overflow. -/
theorem paced_sleeping (fits : cycle.toNat ≤ lastCycle) {eventTs : UInt32} {unsent : Nat}
    {wasCycleEnding : Bool} (at_ : PacedAt cycle eventTs unsent (.sleeping wasCycleEnding)) :
    PacedAt cycle (eventTs + simStep cycle) unsent (.breakTest wasCycleEnding) := by
  obtain ⟨before, rfl, time, within⟩ := at_
  have short : (simStep cycle).toNat ≤ 500 := by
    rw [simStep_toNat]
    omega
  have small : before * (simStep cycle).toNat < 2 ^ 31 := by
    unfold lastCycle at fits
    rcases within with rfl | within
    · omega
    · omega
  refine ⟨before, rfl, ?_, within⟩
  rw [UInt32.toNat_add, time, Nat.mod_eq_of_lt (by omega), Nat.succ_mul]

theorem paced_notify {Double : Type} {unit : FloatUnit Double} {now : Int} {noise : Noise}
    (fits : cycle.toNat ≤ lastCycle) (paced : Paced cycle service) (controlled : Controlled service)
    (taken : notifyStep unit cycle service now noise service.notify = some next) : Paced cycle next := by
  cases here : service.notify with
  | outerTest =>
      have fresh := paced.fresh (by rw [here]; rfl)
      simp only [here, notifyStep] at taken
      cases taken
      refine paced.move ?_ ?_ fun unsent _ at_ => ?_
      · split <;> exact fun stepped => (by cases stepped)
      · split
        case isTrue runs => exact fun _ _ => fresh (.inl runs)
        case isFalse ended => exact fun _ waits => (by simp [ended] at waits)
      · rw [here] at at_
        split <;> exact at_
  | waiting =>
      simp only [here, notifyStep] at taken
      split at taken
      all_goals cases taken
      exact paced.enter here
  | loopTest =>
      simp only [here, notifyStep] at taken
      cases taken
      split
      case isTrue =>
        exact paced.advance rfl (fun stepped => (by cases stepped)) fun unsent at_ => by
          rw [here] at at_
          exact at_
      case isFalse ended =>
        exact paced.leave (controlled.ended (by rw [here]; rfl) (by simpa using ended))
  | reading =>
      simp only [here, notifyStep] at taken
      cases taken
      refine paced.advance rfl (fun stepped => (by cases stepped)) fun unsent at_ => ?_
      rw [here] at at_
      exact at_
  | modelling wasCycleEnding =>
      simp only [here, notifyStep] at taken
      cases taken
      exact paced_modelling paced here _ _
  | sleeping wasCycleEnding =>
      simp only [here, notifyStep] at taken
      cases taken
      refine paced.advance rfl (fun _ => by rw [here]; rfl) fun unsent at_ => ?_
      rw [here] at at_
      exact paced_sleeping fits at_
  | breakTest wasCycleEnding =>
      simp only [here, notifyStep] at taken
      cases taken
      split
      case isTrue ended =>
        refine paced.leave (controlled.ended (by rw [here]; rfl) ?_)
        revert ended
        cases service.isOffered <;> cases service.running <;> simp
      case isFalse =>
        exact paced.advance rfl (fun _ => by rw [here]; rfl) fun unsent at_ => by
          rw [here] at at_
          exact at_
  | cycleTest wasCycleEnding =>
      simp only [here, notifyStep] at taken
      cases taken
      split
      case isTrue =>
        refine paced.advance rfl (fun _ => by rw [here]; rfl) fun unsent at_ => ?_
        rw [here] at at_
        obtain ⟨before, counted, _, within⟩ := at_
        exact ⟨before, counted, within⟩
      case isFalse early =>
        refine paced.advance rfl (fun stepped => (by cases stepped)) fun unsent at_ => ?_
        rw [here] at at_
        obtain ⟨before, _, time, _⟩ := at_
        have below : service.eventTs < cycle := by
          simp only [ge_iff_le, Bool.or_eq_true, decide_eq_true_eq, not_or, UInt32.not_le] at early
          exact early.1
        refine ⟨time, .inr ?_⟩
        rw [← time]
        exact UInt32.lt_iff_toNat_lt.mp below
  | notifying =>
      simp only [here, notifyStep] at taken
      rw [serializeWiperEvent_fits] at taken
      cases taken
      exact paced_notifying paced here _ _
  | returned =>
      rw [here] at taken
      cases taken

end Pace

section Schedule

variable {Double : Type} {unit : FloatUnit Double} {simAuto : Bool} {cycle : UInt32} {service next : Service}
  {event : ServiceEvent}

theorem paced_step (fits : cycle.toNat ≤ lastCycle) (paced : Paced cycle service)
    (controlled : Controlled service) (taken : serviceStep unit simAuto cycle service event = some next) :
    Paced cycle next := by
  cases event with
  | initialized =>
      cases taken
      exact paced.beside [] (List.append_nil _).symm rfl rfl rfl rfl rfl id
  | message payload now =>
      cases taken
      exact paced_message paced payload now
  | offerThread outside now => exact paced_offer paced taken
  | notifyThread now noise => exact paced_notify fits paced controlled taken
  | stop => exact paced_stop paced taken

theorem paced_reached {now : Int} {itsData : Memory} (fits : cycle.toNat ≤ lastCycle)
    (reached : (wiperService unit simAuto cycle now itsData).Reached Machine.anyStep service) :
    Paced cycle service := by
  induction reached with
  | start =>
      exact ⟨Nat.le_refl _, fun stepped => (by cases stepped), fun _ _ => rfl, 0, rfl, Nat.zero_le _⟩
  | next event before _ taken ih => exact paced_step fits ih (controlled_reached before) taken

/-- The steps that are not notified never pass the bound of the cycle, which is one step for a cycle of at most
half a second. -/
theorem notifications_keep_the_cycle (unit : FloatUnit Double) {now : Int} {itsData : Memory}
    (fits : cycle.toNat ≤ lastCycle)
    (reached : (wiperService unit simAuto cycle now itsData).Reached Machine.anyStep service) :
    stepCount service.inputs ≤ stepCount (service.inputs.take service.sentCut) + stepBound cycle := by
  obtain ⟨unsent, counted, at_⟩ := (paced_reached fits reached).paced
  rw [counted]
  exact Nat.add_le_add_left at_.le _

abbrev slowService : Machine Service ServiceEvent := wiperService restUnit false 1200 0 fun _ => 0xFF

/-- A resting wiper takes its third step. -/
def slowEvents : List ServiceEvent :=
  [.initialized] ++ List.replicate 4 (.offerThread .cleared 0) ++
    List.replicate 17 (.notifyThread 0 ⟨0, 0⟩)

theorem slow_executes :
    (slowService.execute Machine.anyStep slowService.initial slowEvents).isSome = true := by
  decide +kernel

def slowState : Service :=
  (slowService.execute Machine.anyStep slowService.initial slowEvents).get slow_executes

/-- Three steps are the bound of a cycle of 1200 milliseconds. -/
theorem notifications_keep_the_cycle_slow : stepCount slowState.inputs = 3 ∧ stepBound 1200 = 3 ∧
    stepCount slowState.inputs ≤ stepCount (slowState.inputs.take slowState.sentCut) + stepBound 1200 :=
  ⟨by decide +kernel, by decide, notifications_keep_the_cycle restUnit (by decide)
    (Machine.reached_get slow_executes)⟩

/-- The stop is not called. -/
def unstopped : Service → ServiceEvent → Prop
  | _, .stop => False
  | _, _ => True

instance : DecidableRel unstopped := fun _ event =>
  match event with
  | .stop => inferInstanceAs (Decidable False)
  | .initialized | .message _ _ | .offerThread _ _ | .notifyThread _ _ => inferInstanceAs (Decidable True)

/-- The notify thread has its lock and the offer thread can set at most the rest of these requests. -/
structure Stalled (limit : Nat) (service : Service) : Prop where
  running : service.running = true
  isOffered : service.isOffered = true
  inside : service.notify.inside = true
  automatics : service.automatics + (if service.offer = .setting then 1 else 0) ≤ limit

theorem stalled_offer {limit : Nat} {outside : WiperRequest} {now : Int} (stalled : Stalled limit service)
    (taken : runStep unit simAuto service outside now service.offer = some next) : Stalled limit next := by
  obtain ⟨running, isOffered, inside, automatics⟩ := stalled
  obtain ⟨keeps, -, notify, open_⟩ := runStep_frame taken
  refine ⟨keeps.trans running, open_ isOffered, notify ▸ inside, ?_⟩
  cases here : service.offer with
  | offering =>
      simp only [here, runStep, inside, if_true] at taken
      cases taken
  | setting =>
      rw [here, if_pos rfl] at automatics
      simp only [here, runStep] at taken
      split at taken
      all_goals cases taken
      · simpa [Service.automatics, Input.isAutomatic] using automatics
      · exact Nat.le_of_succ_le automatics
  | blockedTest =>
      rw [here, if_neg (by decide)] at automatics
      simp only [here, runStep] at taken
      split at taken
      all_goals cases taken
      exact automatics
  | loopTest =>
      rw [here, if_neg (by decide)] at automatics
      simp only [here, runStep, running, if_true] at taken
      cases taken
      exact automatics
  | sleeping =>
      rw [here, if_neg (by decide)] at automatics
      simp only [here, runStep] at taken
      cases taken
      exact automatics
  | returned =>
      rw [here] at taken
      cases taken

theorem stalled_notify {limit : Nat} {now : Int} {noise : Noise} (stalled : Stalled limit service)
    (taken : notifyStep unit cycle service now noise service.notify = some next) : Stalled limit next := by
  obtain ⟨running, isOffered, inside, automatics⟩ := stalled
  have frame := notifyStep_frame taken
  refine ⟨frame.running.trans running, frame.isOffered.trans isOffered, ?_, by
    rw [frame.automatics, frame.offer]; exact automatics⟩
  cases here : service.notify with
  | outerTest | waiting | returned =>
      rw [here] at inside
      cases inside
  | loopTest | breakTest =>
      simp only [here, notifyStep, isOffered, running] at taken
      cases taken
      rfl
  | cycleTest =>
      simp only [here, notifyStep] at taken
      cases taken
      simp only
      split <;> rfl
  | notifying =>
      simp only [here, notifyStep] at taken
      rw [serializeWiperEvent_fits] at taken
      cases taken
      rfl
  | reading | modelling | sleeping =>
      simp only [here, notifyStep] at taken
      cases taken
      rfl

theorem stalled_step {limit : Nat} (stalled : Stalled limit service) (allowed : unstopped service event)
    (taken : serviceStep unit simAuto cycle service event = some next) : Stalled limit next := by
  cases event with
  | initialized =>
      cases taken
      exact ⟨stalled.running, stalled.isOffered, stalled.inside, stalled.automatics⟩
  | message payload now =>
      cases taken
      obtain ⟨frame, notify⟩ := @onVssMessage_frame _ unit service payload now
      refine ⟨frame.running.trans stalled.running, frame.isOffered.trans stalled.isOffered, ?_, ?_⟩
      · rw [notify]
        exact stalled.inside
      · rw [frame.automatics, frame.offer]
        exact stalled.automatics
  | offerThread outside now => exact stalled_offer stalled taken
  | notifyThread now noise => exact stalled_notify stalled taken
  | stop => exact allowed.elim

/-- Once the notify thread is in its loop, until a stop it keeps the lock, the offer thread does not return from
`offer`, and at most one more automatic request is set. -/
theorem automatic_requests_stall (unit : FloatUnit Double) {now : Int} {itsData : Memory}
    {start final : Service} {events : List ServiceEvent}
    (reached : (wiperService unit simAuto cycle now itsData).Reached Machine.anyStep start)
    (inside : start.notify.inside = true) (running : start.running = true)
    (executed : (wiperService unit simAuto cycle now itsData).execute unstopped start events = some final) :
    final.notify.inside = true ∧ final.automatics ≤ start.automatics + 1 ∧
      (final.offer = .offering → ∀ outside later, runStep unit simAuto final outside later final.offer = none) := by
  have open_ : start.isOffered = true :=
    ((controlled_reached reached).offered inside).resolve_right (by simp [running])
  have initially : Stalled (start.automatics + 1) start :=
    ⟨running, open_, inside, Nat.add_le_add_left (by split <;> omega) _⟩
  let within (_ : Nat) (service : Service) : Prop := Stalled (start.automatics + 1) service
  have stalled : Stalled (start.automatics + 1) final :=
    @Machine.execute_within _ _ _ _ _ within (fun _ => false)
      (fun _ _ _ _ stalled allowed taken => stalled_step stalled allowed taken) _ _ _ 0 initially executed
  refine ⟨stalled.inside, Nat.le_of_add_right_le stalled.automatics, fun waits outside later => ?_⟩
  rw [waits, runStep, if_pos stalled.inside]

end Schedule

abbrev automaticService : Machine Service ServiceEvent := wiperService restUnit true 100 0 fun _ => 0xFF

/-- The notify thread enters its loop before the offer thread sets its first request. -/
def offeredEvents : List ServiceEvent :=
  [.initialized] ++ List.replicate 3 (.offerThread .cleared 0) ++ List.replicate 2 (.notifyThread 0 ⟨0, 0⟩)

theorem offered_executes :
    (automaticService.execute Machine.anyStep automaticService.initial offeredEvents).isSome = true := by
  decide

def offeredState : Service :=
  (automaticService.execute Machine.anyStep automaticService.initial offeredEvents).get offered_executes

def stalledEvents : List ServiceEvent :=
  List.replicate 3 (.offerThread .cleared 0) ++ List.replicate 7 (.notifyThread 0 ⟨0, 0⟩)

theorem stalled_executes :
    (automaticService.execute unstopped offeredState stalledEvents).isSome = true := by
  decide +kernel

def stalledState : Service :=
  (automaticService.execute unstopped offeredState stalledEvents).get stalled_executes

/-- The first request is the only one, and the offer thread waits for the lock. -/
theorem automatic_requests_stall_first : stalledState.automatics = 1 ∧ stalledState.offer = .offering ∧
    stalledState.automatics ≤ offeredState.automatics + 1 := by
  have stall := automatic_requests_stall restUnit (Machine.reached_get offered_executes) (by decide) (by decide)
    (Option.some_get stalled_executes).symm
  exact ⟨by decide +kernel, by decide +kernel, stall.2.1⟩

end VehicleEdge.Wiper
