import VehicleEdge.Library.Shell

/-
This file models the flash scripts of the vehicle integration platform and the image directories they change.
The scripts run in /data/fota. The console output and the waiting times are left out.
A directory is known here by whether it holds a complete image. An interrupted removal and entries that start
with a dot are seen only in the files of a directory, which the file on the reported mode models.
-/

namespace VehicleEdge.Fota

/-- These are the commands of the script, with one name for each of its two connection tests. -/
inductive Command where
  | mosquittoPub (topic message : String)
  | mosquittPub (topic message : String)
  | pingBefore
  | stopStartupVip
  | removeVrteOld
  | moveVrte
  | makeVrte
  | removeUnpacked
  | untar (tarName : String)
  | scpVrte
  | reboot
  | pingAfter
  deriving DecidableEq, Repr

/-- The texts stand in single quotes, so the shell expands no variable in them. -/
def fotaControl (fields : String) : Command :=
  .mosquittoPub "fota_control" ("\x7b" ++ fields)

def fotaMode (mode : String) : Command := .mosquittoPub "fota_mode" mode

open Script in
/-- This is the flash script for one archive, and no command after the first test is checked. -/
def flashVip (tarName : String) : Script Command :=
  sequence
    [fotaMode "1",
      fotaControl "\"state\": 1, \"text\": \"flashing $TAR_NAME\"\x7d",
      fotaControl "\"state\": -2, \"text\": \"Test connection to VIP with IP $HOSTNAME\"\x7d"]
    (.branch .pingBefore
      (sequence
        [fotaControl "\"state\":3, \"text\": \"Ping successfull\" \x7d",
          fotaControl "\"state\":4, \"text\":\"stop vrte and rename current vrte implementation\"\x7d",
          .stopStartupVip,
          fotaControl "\"state\":5, \"text\":\"moving old VRTE\"\x7d",
          .removeVrteOld,
          .moveVrte,
          fotaControl "\"state\":6, \"text\":\"create VRTE directory\"\x7d",
          .makeVrte,
          .removeUnpacked,
          fotaControl "\"state\":7, \"text\":\"untar VRTE files\x7d",
          .untar tarName,
          fotaControl "\"state\":8, \"text\":\"copy VRTE files to VIP\"\x7d",
          .scpVrte]
        (sequence
          [fotaControl ("\"state\":9, \"text\":\"5. reboot VIP to restart system with new VRTE in which " ++
              "will be started with systemd\"\x7d"),
            .reboot,
            fotaControl "\"state\":10, \"text\":\"Wait a few seconds\"\x7d",
            fotaControl "\"state\":11, \"text\":\"Test connection to VIP with IP $HOSTNAME\"\x7d"]
          (.branch .pingAfter
            (sequence
              [fotaControl "\"state\":12, \"text\":\"Ping successfull\"\x7d", fotaMode "2", fotaMode "5"]
              .done)
            (sequence
              [.mosquittPub "fota_mode" "3",
                fotaControl ("\"state\":-12,\"text\":\"ERROR: Ping to VIP with IP $HOSTNAME was failed. " ++
                  "--> Update failed\"\x7d")]
              (.exit 1)))))
      (sequence [fotaControl "\"state\":-3, \"text\": \"Ping failed\"\x7d"] (.exit 1)))

/-- An interrupted unpacking or copy has done a part of its work, and every other interrupted command counts as
one that has changed nothing. -/
inductive Outcome where
  | success
  | failure
  | interrupted
  deriving DecidableEq, Repr

/-- The outcomes of one run are independent of each other and of the state. -/
abbrev Outcomes := Command → Outcome

/-- A directory holds no image, a part of an image, or a complete image. -/
inductive Directory where
  | absent
  | incomplete
  | complete
  deriving DecidableEq, Repr

/-- The state is /opt/vrte and /opt/vrte_old on the target and /data/fota/vrte beside the script. -/
structure Vehicle where
  vrte : Directory
  vrteOld : Directory
  unpacked : Directory
  deriving DecidableEq, Repr

/-- A removal that does not succeed leaves the whole directory in place. -/
def removeVrteOld (outcome : Outcome) (vehicle : Vehicle) : Vehicle :=
  if outcome = .success then { vehicle with vrteOld := .absent } else vehicle

/-- A directory moves into the place of a backup that is absent, and inside of one that is still there. -/
def moveVrte (outcome : Outcome) (vehicle : Vehicle) : Vehicle :=
  if outcome = .success ∧ vehicle.vrte ≠ .absent then
    if vehicle.vrteOld = .absent then { vehicle with vrte := .absent, vrteOld := vehicle.vrte }
    else { vehicle with vrte := .absent }
  else vehicle

/-- A new directory is empty, and an existing one stays as it is. -/
def makeVrte (outcome : Outcome) (vehicle : Vehicle) : Vehicle :=
  if outcome = .success ∧ vehicle.vrte = .absent then { vehicle with vrte := .incomplete } else vehicle

def removeUnpacked (outcome : Outcome) (vehicle : Vehicle) : Vehicle :=
  if outcome = .success then { vehicle with unpacked := .absent } else vehicle

/-- An archive holds a complete image. -/
def untar (outcome : Outcome) (vehicle : Vehicle) : Vehicle :=
  match outcome with
  | .success => { vehicle with unpacked := .complete }
  | .failure => vehicle
  | .interrupted => { vehicle with unpacked := .incomplete }

/-- The copy needs unpacked files and a target directory, and it overwrites what the directory holds. All
entries of the unpacked directory are taken as copied. -/
def scpVrte (outcome : Outcome) (vehicle : Vehicle) : Vehicle :=
  if vehicle.vrte = .absent ∨ vehicle.unpacked = .absent then vehicle
  else match outcome with
    | .success => { vehicle with vrte := vehicle.unpacked }
    | .failure => vehicle
    | .interrupted => { vehicle with vrte := .incomplete }

/-- The other commands change no directory. -/
def perform (outcomes : Outcomes) (command : Command) (vehicle : Vehicle) : Vehicle × Bool :=
  let outcome := outcomes command
  let next := match command with
    | .removeVrteOld => removeVrteOld outcome vehicle
    | .moveVrte => moveVrte outcome vehicle
    | .makeVrte => makeVrte outcome vehicle
    | .removeUnpacked => removeUnpacked outcome vehicle
    | .untar _ => untar outcome vehicle
    | .scpVrte => scpVrte outcome vehicle
    | _ => vehicle
  (next, outcome = .success)

/-- The unquoted argument is split at blanks, and the script reads the first word. -/
def firstArgument (output : String) : String :=
  String.ofList ((output.toList.dropWhile Char.isWhitespace).takeWhile fun letter => !letter.isWhitespace)

/-- One turn of the loop waits for a message, tests the named file, and may run the flash script. -/
structure Turn where
  output : Option String
  fileExists : String → Bool
  outcomes : Outcomes

/-- A failed subscription has no output. -/
def flash (vehicle : Vehicle) (turn : Turn) : Vehicle :=
  match turn.output with
  | none => vehicle
  | some output =>
      if turn.fileExists output then
        (flashVip (firstArgument output)).execute (perform turn.outcomes) vehicle
      else vehicle

/-- The script starts itself again after every turn. -/
def flashLoop (turns : List Turn) (vehicle : Vehicle) : Vehicle := turns.foldl flash vehicle

/-- The target can still be brought back to a complete image. -/
def HoldsImage (vehicle : Vehicle) : Prop := vehicle.vrte = .complete ∨ vehicle.vrteOld = .complete

instance (vehicle : Vehicle) : Decidable (HoldsImage vehicle) := inferInstanceAs (Decidable (_ ∨ _))

/-- A complete image lies unpacked when the archive is unpacked, or an earlier image is left untouched. -/
def ImageUnpacked (outcomes : Outcomes) (tarName : String) (vehicle : Vehicle) : Prop :=
  outcomes (.untar tarName) = .success ∨
    (outcomes (.untar tarName) = .failure ∧ outcomes .removeUnpacked ≠ .success ∧
      vehicle.unpacked = .complete)

/-- Nothing lies unpacked when the archive is not unpacked and no earlier image is left. -/
def NothingUnpacked (outcomes : Outcomes) (tarName : String) (vehicle : Vehicle) : Prop :=
  outcomes (.untar tarName) = .failure ∧
    (outcomes .removeUnpacked = .success ∨ vehicle.unpacked = .absent)

/-- The run delivers its image when the copy succeeds from a complete image to an existing directory. -/
def Delivers (outcomes : Outcomes) (tarName : String) (vehicle : Vehicle) : Prop :=
  outcomes .scpVrte = .success ∧ ImageUnpacked outcomes tarName vehicle ∧
    (outcomes .makeVrte = .success ∨ (vehicle.vrte ≠ .absent ∧ outcomes .moveVrte ≠ .success))

/-- A complete directory survives as the backup or in place, and otherwise the backup must stay. -/
def Survives (outcomes : Outcomes) (tarName : String) (vehicle : Vehicle) : Prop :=
  if vehicle.vrte = .complete then
    if outcomes .moveVrte = .success then
      outcomes .removeVrteOld = .success ∨ vehicle.vrteOld ≠ .incomplete
    else
      outcomes .scpVrte = .failure ∨ NothingUnpacked outcomes tarName vehicle ∨
        (outcomes .removeVrteOld ≠ .success ∧ vehicle.vrteOld = .complete)
  else outcomes .removeVrteOld ≠ .success

/-- This is the condition on the outcomes of one run and the directories before it. -/
def HarmlessRun (outcomes : Outcomes) (tarName : String) (vehicle : Vehicle) : Prop :=
  outcomes .pingBefore ≠ .success ∨ Delivers outcomes tarName vehicle ∨ Survives outcomes tarName vehicle

/-- A turn is harmless when the flash run it starts is harmless. -/
def Harmless (vehicle : Vehicle) (turn : Turn) : Prop :=
  ∀ output, turn.output = some output → turn.fileExists output = true →
    HarmlessRun turn.outcomes (firstArgument output) vehicle

/-- The six commands that change a directory follow the first connection test. -/
theorem execute_flashVip (outcomes : Outcomes) (tarName : String) (vehicle : Vehicle) :
    (flashVip tarName).execute (perform outcomes) vehicle =
      if outcomes .pingBefore = .success then
        scpVrte (outcomes .scpVrte) (untar (outcomes (.untar tarName))
          (removeUnpacked (outcomes .removeUnpacked) (makeVrte (outcomes .makeVrte)
            (moveVrte (outcomes .moveVrte) (removeVrteOld (outcomes .removeVrteOld) vehicle)))))
      else vehicle := by
  unfold flashVip
  rw [Script.execute_sequence]
  simp only [Script.execute, perform, fotaControl, fotaMode, List.foldl_cons, List.foldl_nil]
  by_cases connected : outcomes .pingBefore = .success
  · simp only [connected, decide_true, if_true]
    rw [Script.execute_sequence]
    simp only [List.foldl_cons, List.foldl_nil]
    -- The reboot, the second test, and the reports behind the copy leave the directories as they are.
    apply Script.execute_unchanged
    simp [Script.commands_sequence, Script.commands, perform]
  · simp only [connected, decide_false, if_false]
    apply Script.execute_unchanged
    simp [Script.commands_sequence, Script.commands, perform]

/-- The backup is complete after the move when it was kept or replaced by a complete directory. -/
theorem moved_vrteOld (remove move : Outcome) (vehicle : Vehicle) :
    (moveVrte move (removeVrteOld remove vehicle)).vrteOld = .complete ↔
      (remove ≠ .success ∧ vehicle.vrteOld = .complete) ∨
        (vehicle.vrte = .complete ∧ move = .success ∧
          (remove = .success ∨ vehicle.vrteOld = .absent)) := by
  obtain ⟨vrte, vrteOld, unpacked⟩ := vehicle
  cases remove <;> cases move <;> cases vrte <;> cases vrteOld <;>
    simp [moveVrte, removeVrteOld]

theorem moved_vrte_complete (remove move : Outcome) (vehicle : Vehicle) :
    (moveVrte move (removeVrteOld remove vehicle)).vrte = .complete ↔
      vehicle.vrte = .complete ∧ move ≠ .success := by
  obtain ⟨vrte, vrteOld, unpacked⟩ := vehicle
  cases remove <;> cases move <;> cases vrte <;> cases vrteOld <;>
    simp [moveVrte, removeVrteOld]

theorem moved_vrte_absent (remove move : Outcome) (vehicle : Vehicle) :
    (moveVrte move (removeVrteOld remove vehicle)).vrte = .absent ↔
      vehicle.vrte = .absent ∨ move = .success := by
  obtain ⟨vrte, vrteOld, unpacked⟩ := vehicle
  cases remove <;> cases move <;> cases vrte <;> cases vrteOld <;>
    simp [moveVrte, removeVrteOld]

theorem moved_unpacked (remove move : Outcome) (vehicle : Vehicle) :
    (moveVrte move (removeVrteOld remove vehicle)).unpacked = vehicle.unpacked := by
  unfold moveVrte removeVrteOld
  split <;> split <;> first | rfl | (split <;> rfl)

/-- The local commands leave the state of the target, and an absent target directory may be created. -/
def prepared (outcomes : Outcomes) (tarName : String) (vehicle : Vehicle) : Vehicle :=
  untar (outcomes (.untar tarName))
    (removeUnpacked (outcomes .removeUnpacked) (makeVrte (outcomes .makeVrte) vehicle))

theorem prepared_vrteOld (outcomes : Outcomes) (tarName : String) (vehicle : Vehicle) :
    (prepared outcomes tarName vehicle).vrteOld = vehicle.vrteOld := by
  unfold prepared untar removeUnpacked makeVrte
  split <;> split <;> split <;> rfl

theorem prepared_vrte (outcomes : Outcomes) (tarName : String) (vehicle : Vehicle) :
    (prepared outcomes tarName vehicle).vrte = (makeVrte (outcomes .makeVrte) vehicle).vrte := by
  unfold prepared untar removeUnpacked
  split <;> split <;> rfl

theorem prepared_vrte_complete (outcomes : Outcomes) (tarName : String) (vehicle : Vehicle) :
    (prepared outcomes tarName vehicle).vrte = .complete ↔ vehicle.vrte = .complete := by
  rw [prepared_vrte]
  unfold makeVrte
  split
  case isTrue empty => simp [empty.2]
  case isFalse => rfl

theorem prepared_vrte_absent (outcomes : Outcomes) (tarName : String) (vehicle : Vehicle) :
    (prepared outcomes tarName vehicle).vrte = .absent ↔
      outcomes .makeVrte ≠ .success ∧ vehicle.vrte = .absent := by
  rw [prepared_vrte]
  unfold makeVrte
  split
  case isTrue empty => simp [empty.1]
  case isFalse occupied => tauto

theorem prepared_unpacked (outcomes : Outcomes) (tarName : String) (vehicle : Vehicle) :
    (prepared outcomes tarName vehicle).unpacked =
      match outcomes (.untar tarName) with
      | .success => .complete
      | .failure => if outcomes .removeUnpacked = .success then .absent else vehicle.unpacked
      | .interrupted => .incomplete := by
  unfold prepared untar removeUnpacked makeVrte
  split <;> split <;> split <;> rfl

theorem prepared_complete (outcomes : Outcomes) (tarName : String) (vehicle : Vehicle) :
    (prepared outcomes tarName vehicle).unpacked = .complete ↔
      ImageUnpacked outcomes tarName vehicle := by
  rw [prepared_unpacked]
  unfold ImageUnpacked
  cases unpacking : outcomes (.untar tarName) with
  | success => simp
  | failure => by_cases removed : outcomes .removeUnpacked = .success <;> simp [removed]
  | interrupted => simp

theorem prepared_absent (outcomes : Outcomes) (tarName : String) (vehicle : Vehicle) :
    (prepared outcomes tarName vehicle).unpacked = .absent ↔
      NothingUnpacked outcomes tarName vehicle := by
  rw [prepared_unpacked]
  unfold NothingUnpacked
  cases unpacking : outcomes (.untar tarName) with
  | success => simp
  | failure => by_cases removed : outcomes .removeUnpacked = .success <;> simp [removed]
  | interrupted => simp

/-- The copy changes the directory of the target only. -/
theorem holdsImage_scpVrte (outcome : Outcome) (vehicle : Vehicle) :
    HoldsImage (scpVrte outcome vehicle) ↔
      vehicle.vrteOld = .complete ∨
        (outcome = .success ∧ vehicle.unpacked = .complete ∧ vehicle.vrte ≠ .absent) ∨
        (vehicle.vrte = .complete ∧ (outcome = .failure ∨ vehicle.unpacked = .absent)) := by
  obtain ⟨vrte, vrteOld, unpacked⟩ := vehicle
  cases outcome <;> cases vrte <;> cases unpacked <;> simp [HoldsImage, scpVrte]

/-- A run with a connection keeps an image exactly when it delivers one or leaves one. -/
theorem holdsImage_run (outcomes : Outcomes) (tarName : String) {vehicle : Vehicle}
    (holds : HoldsImage vehicle) :
    HoldsImage (scpVrte (outcomes .scpVrte) (prepared outcomes tarName
        (moveVrte (outcomes .moveVrte) (removeVrteOld (outcomes .removeVrteOld) vehicle)))) ↔
      Delivers outcomes tarName vehicle ∨ Survives outcomes tarName vehicle := by
  have image : ImageUnpacked outcomes tarName
      (moveVrte (outcomes .moveVrte) (removeVrteOld (outcomes .removeVrteOld) vehicle)) ↔
        ImageUnpacked outcomes tarName vehicle := by
    unfold ImageUnpacked
    rw [moved_unpacked]
  have nothing : NothingUnpacked outcomes tarName
      (moveVrte (outcomes .moveVrte) (removeVrteOld (outcomes .removeVrteOld) vehicle)) ↔
        NothingUnpacked outcomes tarName vehicle := by
    unfold NothingUnpacked
    rw [moved_unpacked]
  rw [holdsImage_scpVrte, prepared_complete, prepared_absent, prepared_vrteOld, ne_eq, prepared_vrte_absent,
    prepared_vrte_complete, moved_vrteOld, moved_vrte_absent, moved_vrte_complete, image, nothing]
  unfold Delivers Survives
  by_cases current : vehicle.vrte = .complete
  · have present : vehicle.vrte ≠ .absent := by simp [current]
    by_cases moves : outcomes .moveVrte = .success
    · have replaced : vehicle.vrteOld ≠ .incomplete ↔
          vehicle.vrteOld = .absent ∨ vehicle.vrteOld = .complete := by
        cases vehicle.vrteOld <;> simp
      rw [if_pos current, if_pos moves, replaced]
      grind
    · rw [if_pos current, if_neg moves]
      grind
  · have backup : vehicle.vrteOld = .complete := holds.resolve_left current
    rw [if_neg current]
    grind

/-- One turn keeps an image exactly when it is harmless. -/
theorem holdsImage_flash (vehicle : Vehicle) (turn : Turn) (holds : HoldsImage vehicle) :
    HoldsImage (flash vehicle turn) ↔ Harmless vehicle turn := by
  unfold flash Harmless
  cases turn.output with
  | none => simp [holds]
  | some output =>
      by_cases available : turn.fileExists output = true
      · simp only [Option.some.injEq, forall_eq', available, if_true, true_implies]
        rw [execute_flashVip]
        unfold HarmlessRun
        by_cases connected : turn.outcomes .pingBefore = .success
        · rw [if_pos connected]
          have decided := holdsImage_run turn.outcomes (firstArgument output) holds
          unfold prepared at decided
          rw [decided]
          simp [connected]
        · rw [if_neg connected]
          simp [holds, connected]
      · simp [available, holds]

/-- In every run of the loop from a complete image, the target holds a complete image after each turn
exactly when each turn is harmless for the directories it finds. -/
theorem flashing_keeps_an_image (vehicle : Vehicle) (starts : vehicle.vrte = .complete)
    (turns : List Turn) :
    (∀ earlier, earlier <+: turns → HoldsImage (flashLoop earlier vehicle)) ↔
      ∀ earlier turn, earlier ++ [turn] <+: turns → Harmless (flashLoop earlier vehicle) turn :=
  repeated_iff holdsImage_flash (.inl starts) turns

/-- The outcomes of a run whose copy breaks off. -/
def brokenCopy : Outcomes := fun command => if command = .scpVrte then .interrupted else .success

/-- The message names an archive that exists. -/
def flashTurn (outcomes : Outcomes) : Turn := ⟨some "enc_image.tar.gz", fun _ => true, outcomes⟩

/-- A target with a complete image and no backup. -/
def deliveredVehicle : Vehicle := ⟨.complete, .absent, .absent⟩

/-- The image survives a copy that breaks off when the next run delivers. -/
theorem flashing_keeps_an_image_recovered :
    deliveredVehicle.vrte = .complete ∧
      HoldsImage (flashLoop [flashTurn brokenCopy, flashTurn fun _ => .success] deliveredVehicle) := by
  have first : Harmless deliveredVehicle (flashTurn brokenCopy) := by
    intro output _ _
    right
    right
    simp [Survives, deliveredVehicle, flashTurn, brokenCopy]
  have second : Harmless (flashLoop [flashTurn brokenCopy] deliveredVehicle)
      (flashTurn fun _ => .success) := by
    intro output _ _
    right
    left
    simp [Delivers, ImageUnpacked, flashTurn]
  refine ⟨rfl, (flashing_keeps_an_image deliveredVehicle rfl _).mpr ?_ _ (List.prefix_refl _)⟩
  intro earlier turn reached
  match earlier, reached with
  | [], reached =>
      have same : turn = flashTurn brokenCopy := by simpa using reached
      exact same ▸ first
  | [before], reached =>
      obtain ⟨rfl, rfl⟩ : before = flashTurn brokenCopy ∧ turn = flashTurn fun _ => .success := by
        simpa using reached
      exact second
  | before :: next :: rest, reached =>
      have short := reached.length_le
      simp only [List.length_append, List.length_cons, List.length_nil] at short
      omega

/-- Two copies that break off destroy the last complete image. -/
theorem broken_copies_destroy_the_image :
    deliveredVehicle.vrte = .complete ∧
      ¬ HoldsImage (flashLoop [flashTurn brokenCopy, flashTurn brokenCopy] deliveredVehicle) := by
  decide

end VehicleEdge.Fota
