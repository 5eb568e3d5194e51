import Mathlib.Logic.Function.Basic
import VehicleEdge.Cloud.Fota
import VehicleEdge.Library.Machine

/-
This file runs the reports of firmware updates. The callback of a request, its handlers, and the local control
topic share one buffer, and each report publishes the whole buffer.
-/

namespace VehicleEdge.Cloud

variable {Payload : Type}

/-- A handler runs on a thread of its own. -/
inductive Reporter where
  | callback
  | application
  | handler (number : Nat)
  deriving DecidableEq

/-- These are the statements of the threads that touch the buffer or raise. -/
inductive Action where
  | report (text : String)
  | launch (reports : List Report)
  | raise (error : String)

/-- The number at a point is the place of the own message in the history of the buffer. -/
inductive ReportPoint (Payload : Type) where
  | idle
  | connectionTest (text : String)
  | append (text : String)
  | dumps (text : String) (place : Nat)
  | publish (text : String) (place cut : Nat) (payload : Payload)

/-- The field `guarded` tells whether the next actions stand in the `try` block of the callback. -/
structure ReportThread (Payload : Type) where
  point : ReportPoint Payload
  script : List Action
  guarded : Bool

inductive BufferOperation where
  | clear
  | append (text : String)

def bufferOf (history : List BufferOperation) : List String :=
  history.foldl (fun buffer operation =>
    match operation with
    | .clear => []
    | .append text => buffer ++ [text]) []

/-- A publication keeps its message, the place of this message, and the length of the history when the buffer
was dumped. -/
structure LogPublication (Payload : Type) where
  text : String
  place : Nat
  cut : Nat
  payload : Payload

/-- The histories have their newest entry last. -/
structure FotaLog (Payload : Type) where
  awsConnectionOk : Bool
  fotaMessageBuffer : List String
  threads : Reporter → ReportThread Payload
  launched : Nat
  history : List BufferOperation
  published : List (LogPublication Payload)
  failed : List (LogPublication Payload)

/-- A payload that cannot be parsed is an error, and a publication can raise. -/
inductive LogEvent where
  | connected
  | onFotaMessage (message : Except String FotaRequest) (env : Environment)
  | onFotaControl (dataStr : String)
  | step (reporter : Reporter) (raises : Option String)

/-- The buffer is cleared before the script of the callback. -/
def callbackScript (message : Except String FotaRequest) (env : Environment) : List Action :=
  .report "Cloud Connector received FOTA request" ::
    match message with
    | .ok request => [.launch (handleFotaRequest env request).reports]
    | .error error => [.raise error]

/-- An exception in the `try` block is reported, and any other one ends the thread. -/
def ReportThread.caught (thread : ReportThread Payload) (error : String) : ReportThread Payload :=
  if thread.guarded then ⟨.idle, [.report ("fota request failed:" ++ error)], false⟩ else ⟨.idle, [], false⟩

section Step

variable (dumps : List String → Payload)

def FotaLog.set (log : FotaLog Payload) (reporter : Reporter) (thread : ReportThread Payload) :
    FotaLog Payload :=
  { log with threads := Function.update log.threads reporter thread }

def publishFOTAControlMessage (log : FotaLog Payload) (reporter : Reporter) (raises : Option String) :
    ReportPoint Payload → Option (FotaLog Payload)
  | .idle =>
      match (log.threads reporter).script with
      | [] => none
      | .report text :: script =>
          some (log.set reporter { log.threads reporter with point := .connectionTest text, script := script })
      | .launch reports :: script =>
          let started := log.set reporter { log.threads reporter with script := script }
          some { started.set (.handler log.launched)
              ⟨.idle, reports.map fun report => .report report.text, false⟩ with
            launched := log.launched + 1 }
      | .raise error :: _ => some (log.set reporter ((log.threads reporter).caught error))
  | .connectionTest text =>
      some (log.set reporter
        { log.threads reporter with point := if log.awsConnectionOk then .append text else .idle })
  | .append text =>
      some { log.set reporter { log.threads reporter with point := .dumps text log.history.length } with
        fotaMessageBuffer := log.fotaMessageBuffer ++ [text]
        history := log.history ++ [.append text] }
  | .dumps text place =>
      some (log.set reporter { log.threads reporter with
        point := .publish text place log.history.length (dumps log.fotaMessageBuffer) })
  | .publish text place cut payload =>
      match raises with
      | none =>
          some { log.set reporter { log.threads reporter with point := .idle } with
            published := log.published ++ [⟨text, place, cut, payload⟩] }
      | some error =>
          some { log.set reporter ((log.threads reporter).caught error) with
            failed := log.failed ++ [⟨text, place, cut, payload⟩] }

/-- The callback and the application take the next message after the one before. -/
def logStep (log : FotaLog Payload) : LogEvent → Option (FotaLog Payload)
  | .connected => some { log with awsConnectionOk := true }
  | .onFotaMessage message env =>
      match log.threads .callback with
      | ⟨.idle, [], _⟩ =>
          some { log.set .callback ⟨.idle, callbackScript message env, true⟩ with
            fotaMessageBuffer := []
            history := log.history ++ [.clear] }
      | _ => none
  | .onFotaControl dataStr =>
      match log.threads .application with
      | ⟨.idle, [], _⟩ => some (log.set .application ⟨.idle, [.report dataStr], false⟩)
      | _ => none
  | .step reporter raises =>
      publishFOTAControlMessage dumps log reporter raises (log.threads reporter).point

def fotaLog : Machine (FotaLog Payload) LogEvent where
  initial := ⟨false, [], fun _ => ⟨.idle, [], false⟩, 0, [], [], []⟩
  step := logStep dumps

end Step

/-- The publication shows the buffer of its time, which comes after its own message. -/
def LogPublication.Genuine (dumps : List String → Payload) (history : List BufferOperation)
    (publication : LogPublication Payload) : Prop :=
  history[publication.place]? = some (.append publication.text) ∧ publication.place < publication.cut ∧
    publication.cut ≤ history.length ∧
    publication.payload = dumps (bufferOf (history.take publication.cut))

/-- A thread in a report remembers the place of its message and the dumped buffer. -/
def ReportPoint.Genuine (dumps : List String → Payload) (history : List BufferOperation) :
    ReportPoint Payload → Prop
  | .idle | .connectionTest _ | .append _ => True
  | .dumps text place => history[place]? = some (.append text)
  | .publish text place cut payload =>
      LogPublication.Genuine dumps history ⟨text, place, cut, payload⟩

/-- The whole buffer is published, or a thread is about to do it. -/
inductive Covered (dumps : List String → Payload) (log : FotaLog Payload) : Prop where
  | empty (none : log.fotaMessageBuffer = [])
  | dumping (reporter : Reporter) {text : String} {place : Nat}
      (here : (log.threads reporter).point = .dumps text place)
  | publishing (reporter : Reporter) {text : String} {place cut : Nat}
      (here : (log.threads reporter).point = .publish text place cut (dumps log.fotaMessageBuffer))
  | done {publication : LogPublication Payload} (member : publication ∈ log.published ++ log.failed)
      (whole : publication.payload = dumps log.fotaMessageBuffer)

def ReportPoint.reporting : ReportPoint Payload → Bool
  | .idle | .connectionTest _ | .append _ => false
  | .dumps _ _ | .publish _ _ _ _ => true

/-- The buffer follows its history, the records are genuine, and the numbers of new handlers are free. -/
structure Logged (dumps : List String → Payload) (log : FotaLog Payload) : Prop where
  buffer : log.fotaMessageBuffer = bufferOf log.history
  points : ∀ reporter, (log.threads reporter).point.Genuine dumps log.history
  published : ∀ publication ∈ log.published, publication.Genuine dumps log.history
  fresh : ∀ number, log.launched ≤ number → log.threads (.handler number) = ⟨.idle, [], false⟩
  covered : Covered dumps log

section Steps

variable {dumps : List String → Payload} {log next : FotaLog Payload} {reporter : Reporter}

@[simp]
theorem set_threads_self (thread : ReportThread Payload) : (log.set reporter thread).threads reporter = thread :=
  Function.update_self ..

@[simp]
theorem set_published (thread : ReportThread Payload) : (log.set reporter thread).published = log.published := rfl

@[simp]
theorem set_failed (thread : ReportThread Payload) : (log.set reporter thread).failed = log.failed := rfl

theorem set_threads_other {other : Reporter} (thread : ReportThread Payload) (different : other ≠ reporter) :
    (log.set reporter thread).threads other = log.threads other :=
  Function.update_of_ne different ..

theorem bufferOf_concat (history : List BufferOperation) (text : String) :
    bufferOf (history ++ [.append text]) = bufferOf history ++ [text] :=
  List.foldl_concat ..

theorem bufferOf_clear (history : List BufferOperation) : bufferOf (history ++ [.clear]) = [] :=
  List.foldl_concat ..

theorem LogPublication.Genuine.grow {history : List BufferOperation} {publication : LogPublication Payload}
    (genuine : publication.Genuine dumps history) (operation : BufferOperation) :
    publication.Genuine dumps (history ++ [operation]) := by
  obtain ⟨place, before, within, payload⟩ := genuine
  refine ⟨?_, before, Nat.le_trans within (by simp), ?_⟩
  · rw [List.getElem?_append_left (by omega)]
    exact place
  · rw [List.take_append_of_le_length within]
    exact payload

theorem ReportPoint.Genuine.grow {history : List BufferOperation} {point : ReportPoint Payload}
    (genuine : point.Genuine dumps history) (operation : BufferOperation) :
    point.Genuine dumps (history ++ [operation]) := by
  cases point with
  | idle | connectionTest | append => trivial
  | dumps text place =>
      obtain ⟨inside, _⟩ := List.getElem?_eq_some_iff.mp genuine
      exact (List.getElem?_append_left inside).trans genuine
  | publish => exact LogPublication.Genuine.grow genuine operation

/-- A reporting thread that goes on covers the buffer as before. -/
theorem Covered.keep (covered : Covered dumps log) (buffer : next.fotaMessageBuffer = log.fotaMessageBuffer)
    (published : ∀ publication ∈ log.published ++ log.failed, publication ∈ next.published ++ next.failed)
    (threads : ∀ reporter, (log.threads reporter).point.reporting = true →
      (next.threads reporter).point = (log.threads reporter).point) : Covered dumps next := by
  cases covered with
  | empty none => exact .empty (buffer.trans none)
  | dumping reporter here => exact .dumping reporter ((threads reporter (by rw [here]; rfl)).trans here)
  | publishing reporter here =>
      rw [← buffer] at here
      exact .publishing reporter ((threads reporter (by rw [here]; rfl)).trans here)
  | done member whole => exact .done (published _ member) (by rw [whole, buffer])

/-- The thread belongs to a handler that has been launched, or to none. -/
def Started (log : FotaLog Payload) (reporter : Reporter) : Prop :=
  ∀ number, reporter = .handler number → number < log.launched

/-- A new number has no step. -/
theorem Logged.started (logged : Logged dumps log) {raises : Option String}
    (taken : logStep dumps log (.step reporter raises) = some next) : Started log reporter := by
  rintro number rfl
  by_contra later
  have idle := logged.fresh number (Nat.le_of_not_lt later)
  simp only [logStep, idle, publishFOTAControlMessage] at taken
  cases taken

/-- The records of the other threads survive a step of this one. -/
theorem Logged.threads (logged : Logged dumps log) (started : Started log reporter)
    {thread : ReportThread Payload} {history : List BufferOperation}
    (grows : ∀ point : ReportPoint Payload, point.Genuine dumps log.history → point.Genuine dumps history)
    (genuine : thread.point.Genuine dumps history) :
    (∀ other, ((log.set reporter thread).threads other).point.Genuine dumps history) ∧
      ∀ number, log.launched ≤ number →
        (log.set reporter thread).threads (.handler number) = ⟨.idle, [], false⟩ := by
  constructor
  · intro other
    by_cases own : other = reporter
    · rw [own, set_threads_self]
      exact genuine
    · rw [set_threads_other thread own]
      exact grows _ (logged.points other)
  · intro number later
    have other : .handler number ≠ reporter := fun same => by
      have := started number same.symm
      omega
    rw [set_threads_other thread other]
    exact logged.fresh number later

/-- A thread outside of its report changes nothing but itself. -/
theorem Logged.move (logged : Logged dumps log) (started : Started log reporter)
    {thread : ReportThread Payload} (outside : (log.threads reporter).point.reporting = false)
    (genuine : thread.point.Genuine dumps log.history) : Logged dumps (log.set reporter thread) := by
  obtain ⟨points, fresh⟩ := logged.threads started (fun _ => id) genuine
  refine ⟨logged.buffer, points, logged.published, fresh, logged.covered.keep rfl (fun _ => id) ?_⟩
  intro other reports
  by_cases own : other = reporter
  · rw [own, outside] at reports
    cases reports
  · rw [set_threads_other thread own]

theorem logged_append (logged : Logged dumps log) (started : Started log reporter) (text : String) :
    Logged dumps { log.set reporter { log.threads reporter with point := .dumps text log.history.length } with
      fotaMessageBuffer := log.fotaMessageBuffer ++ [text]
      history := log.history ++ [.append text] } := by
  let thread : ReportThread Payload := { log.threads reporter with point := .dumps text log.history.length }
  have own : thread.point.Genuine dumps (log.history ++ [.append text]) := List.getElem?_concat_length
  obtain ⟨points, fresh⟩ := logged.threads started (fun _ genuine => genuine.grow _) own
  refine ⟨?_, points, fun publication member => (logged.published publication member).grow _, fresh, ?_⟩
  · rw [bufferOf_concat, ← logged.buffer]
  · exact .dumping reporter (congrArg ReportThread.point (set_threads_self thread))

theorem logged_dumps (logged : Logged dumps log) (started : Started log reporter) {text : String} {place : Nat}
    (here : (log.threads reporter).point = .dumps text place) :
    Logged dumps (log.set reporter { log.threads reporter with
      point := .publish text place log.history.length (dumps log.fotaMessageBuffer) }) := by
  let thread : ReportThread Payload := { log.threads reporter with
    point := .publish text place log.history.length (dumps log.fotaMessageBuffer) }
  have own := logged.points reporter
  rw [here] at own
  have genuine : thread.point.Genuine dumps log.history := by
    refine ⟨own, (List.getElem?_eq_some_iff.mp own).1, Nat.le_refl _, ?_⟩
    rw [List.take_length, ← logged.buffer]
  obtain ⟨points, fresh⟩ := logged.threads started (fun _ => id) genuine
  exact ⟨logged.buffer, points, logged.published, fresh,
    .publishing reporter (congrArg ReportThread.point (set_threads_self thread))⟩

/-- The publication is recorded as published or as failed. -/
theorem logged_publish (logged : Logged dumps log) (started : Started log reporter)
    (publication : LogPublication Payload)
    (here : (log.threads reporter).point =
      .publish publication.text publication.place publication.cut publication.payload)
    {thread : ReportThread Payload} (idle : thread.point = .idle)
    {published failed : List (LogPublication Payload)}
    (genuine : ∀ entry ∈ published, entry ∈ log.published ∨ entry = publication)
    (recorded : ∀ entry, entry ∈ log.published ++ log.failed ∨ entry = publication → entry ∈ published ++ failed) :
    Logged dumps { log.set reporter thread with published := published, failed := failed } := by
  have own := logged.points reporter
  rw [here] at own
  obtain ⟨points, fresh⟩ := @Logged.threads _ _ _ _ logged started thread log.history (fun _ => id)
    (by rw [idle]; trivial)
  refine ⟨logged.buffer, points, fun entry member => ?_, fresh, ?_⟩
  · rcases genuine entry member with earlier | rfl
    · exact logged.published entry earlier
    · exact own
  · cases logged.covered with
    | empty none => exact .empty none
    | dumping other dumping =>
        have different : other ≠ reporter := fun same => by
          rw [same, here] at dumping
          cases dumping
        exact .dumping other ((congrArg ReportThread.point (set_threads_other thread different)).trans dumping)
    | publishing other publishing =>
        by_cases same : other = reporter
        · rw [same, here] at publishing
          injection publishing with _ _ _ whole
          exact .done (recorded publication (.inr rfl)) whole
        · exact .publishing other ((congrArg ReportThread.point (set_threads_other thread same)).trans publishing)
    | done member whole => exact .done (recorded _ (.inl member)) whole

/-- The callback launches a handler under a new number. -/
theorem logged_launch (logged : Logged dumps log) (started : Started log reporter)
    (idle : (log.threads reporter).point = .idle) (script actions : List Action) (guarded : Bool) :
    Logged dumps { (log.set reporter ⟨.idle, script, guarded⟩).set
        (.handler log.launched) ⟨.idle, actions, false⟩ with launched := log.launched + 1 } := by
  have moved : Logged dumps (log.set reporter ⟨.idle, script, guarded⟩) :=
    logged.move started (by rw [idle]; rfl) trivial
  obtain ⟨buffer, points, published, fresh, covered⟩ := moved
  let before := log.set reporter ⟨.idle, script, guarded⟩
  let thread : ReportThread Payload := ⟨.idle, actions, false⟩
  have other {reporter : Reporter} (different : reporter ≠ .handler log.launched) :
      (before.set (.handler log.launched) thread).threads reporter = before.threads reporter :=
    set_threads_other thread different
  refine ⟨buffer, fun reporter => ?_, published, fun number later => ?_, covered.keep rfl (fun _ => id) ?_⟩
  · by_cases new : reporter = .handler log.launched
    · rw [new]
      exact (congrArg (fun thread => thread.point.Genuine dumps log.history)
        (set_threads_self thread)).mpr trivial
    · exact (congrArg (fun thread => thread.point.Genuine dumps log.history) (other new)).mpr (points reporter)
  · have later : log.launched + 1 ≤ number := later
    have different : Reporter.handler number ≠ .handler log.launched := fun same => by
      injection same with same
      omega
    exact (other different).trans (fresh number (Nat.le_of_succ_le later))
  · intro reporter reports
    by_cases new : reporter = .handler log.launched
    · rw [new, fresh log.launched (Nat.le_refl _)] at reports
      cases reports
    · exact congrArg ReportThread.point (other new)

theorem caught_idle (thread : ReportThread Payload) (error : String) : (thread.caught error).point = .idle := by
  unfold ReportThread.caught
  split <;> rfl

theorem logged_report (logged : Logged dumps log) {raises : Option String}
    (taken : logStep dumps log (.step reporter raises) = some next) : Logged dumps next := by
  have started := logged.started taken
  simp only [logStep] at taken
  cases here : (log.threads reporter).point with
  | idle =>
      simp only [here, publishFOTAControlMessage] at taken
      split at taken
      all_goals cases taken
      · exact logged.move started (by rw [here]; rfl) trivial
      · exact logged_launch logged started here _ _ _
      · exact logged.move started (by rw [here]; rfl) (by rw [caught_idle]; trivial)
  | connectionTest text =>
      simp only [here, publishFOTAControlMessage] at taken
      cases taken
      refine logged.move started (by rw [here]; rfl) ?_
      simp only
      split <;> trivial
  | append text =>
      simp only [here, publishFOTAControlMessage] at taken
      cases taken
      exact logged_append logged started text
  | dumps text place =>
      simp only [here, publishFOTAControlMessage] at taken
      cases taken
      exact logged_dumps logged started here
  | publish text place cut payload =>
      simp only [here, publishFOTAControlMessage] at taken
      cases raises with
      | none =>
          cases taken
          refine logged_publish logged started ⟨text, place, cut, payload⟩ here rfl ?_ ?_
          · simp
          · intro entry recorded
            simp only [List.mem_append, List.mem_singleton, set_failed] at recorded ⊢
            exact or_right_comm.mp recorded
      | some error =>
          cases taken
          refine logged_publish logged started ⟨text, place, cut, payload⟩ here (caught_idle _ _) ?_ ?_
          · exact fun entry member => .inl member
          · intro entry recorded
            simp only [List.mem_append, List.mem_singleton, set_published] at recorded ⊢
            exact or_assoc.mp recorded

theorem logged_step {event : LogEvent} (logged : Logged dumps log)
    (taken : logStep dumps log event = some next) : Logged dumps next := by
  cases event with
  | connected =>
      cases taken
      exact ⟨logged.buffer, logged.points, logged.published, logged.fresh,
        logged.covered.keep rfl (fun _ => id) fun _ _ => rfl⟩
  | onFotaMessage message env =>
      simp only [logStep] at taken
      split at taken
      case h_1 guarded idle =>
        cases taken
        obtain ⟨points, fresh⟩ := @Logged.threads _ _ _ .callback logged (fun _ same => by cases same)
          ⟨.idle, callbackScript message env, true⟩ (log.history ++ [.clear])
          (fun _ genuine => genuine.grow _) trivial
        exact ⟨(bufferOf_clear _).symm, points,
          fun publication member => (logged.published publication member).grow _, fresh, .empty rfl⟩
      case h_2 => cases taken
  | onFotaControl dataStr =>
      simp only [logStep] at taken
      split at taken
      case h_1 guarded idle =>
        cases taken
        exact logged.move (fun _ same => by cases same) (by rw [idle]; rfl) trivial
      case h_2 => cases taken
  | step reporter raises => exact logged_report logged taken

/-- In every run, each published payload is the buffer as it was after the own message of the publication, and
when no thread is in a report, the whole buffer is empty or has been handed to the connection. -/
theorem fota_log_is_complete (dumps : List String → Payload) {log : FotaLog Payload}
    (reached : (fotaLog dumps).Reached Machine.anyStep log) :
    (∀ publication ∈ log.published, publication.Genuine dumps log.history) ∧
    log.fotaMessageBuffer = bufferOf log.history ∧
    ((∀ reporter, (log.threads reporter).point.reporting = false) → log.fotaMessageBuffer = [] ∨
      ∃ publication ∈ log.published ++ log.failed, publication.payload = dumps log.fotaMessageBuffer) := by
  have logged : Logged dumps log := by
    refine reached.invariant ⟨rfl, fun _ => trivial, fun _ member => ?_, fun _ _ => rfl, .empty rfl⟩ ?_
    · exact (List.not_mem_nil member).elim
    · intro log event next logged _ taken
      exact logged_step logged taken
  refine ⟨logged.published, logged.buffer, fun silent => ?_⟩
  cases logged.covered with
  | empty none => exact .inl none
  | dumping reporter here =>
      have reports := silent reporter
      rw [here] at reports
      cases reports
  | publishing reporter here =>
      have reports := silent reporter
      rw [here] at reports
      cases reports
  | done member whole => exact .inr ⟨_, member, whole⟩

end Steps

/-- A list of texts without quotes and control characters is dumped as it stands. -/
def plainDumps (buffer : List String) : String :=
  "[" ++ ", ".intercalate (buffer.map fun text => "\"" ++ text ++ "\"") ++ "]"

abbrev plainLog : Machine (FotaLog String) LogEvent := fotaLog plainDumps

/-- The directory of the download does not exist. -/
def missingFotaDirectory : Environment := ⟨fun _ => false, .refused, [], fun _ => false⟩

/-- The local control message is published between the dump and the publication of the handler. -/
def staleEvents : List LogEvent :=
  [.connected, .onFotaMessage (.ok ⟨some "flash-vip", some "vip.tar", some "key", some "/fota"⟩) missingFotaDirectory] ++
    List.replicate 6 (.step .callback none) ++ List.replicate 4 (.step (.handler 0) none) ++
    [.onFotaControl "flash started"] ++ List.replicate 5 (.step .application none) ++ [.step (.handler 0) none]

theorem stale_executes :
    (plainLog.execute Machine.anyStep plainLog.initial staleEvents).isSome = true := by
  decide +kernel

def staleLog : FotaLog String :=
  (plainLog.execute Machine.anyStep plainLog.initial staleEvents).get stale_executes

theorem stale_silent (reporter : Reporter) : (staleLog.threads reporter).point.reporting = false := by
  cases reporter with
  | callback | application => rfl
  | handler number => cases number <;> rfl

/-- The whole log was published, but the last publication, which the broker keeps, misses its last message. -/
theorem fota_log_is_complete_stale :
    staleLog.published.map LogPublication.payload =
      ["[\"Cloud Connector received FOTA request\"]",
        "[\"Cloud Connector received FOTA request\", \"downloading file:vip.tar\", \"flash started\"]",
        "[\"Cloud Connector received FOTA request\", \"downloading file:vip.tar\"]"] ∧
    (staleLog.fotaMessageBuffer = [] ∨ ∃ publication ∈ staleLog.published ++ staleLog.failed,
      publication.payload = plainDumps staleLog.fotaMessageBuffer) := by
  have reached : plainLog.Reached Machine.anyStep staleLog := Machine.reached_get stale_executes
  obtain ⟨-, -, covered⟩ := fota_log_is_complete plainDumps reached
  exact ⟨by decide +kernel, covered stale_silent⟩

end VehicleEdge.Cloud
