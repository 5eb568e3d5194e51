import VehicleEdge.Fota.Flash

/-
This file runs the flash script on directories with files and compares the reported mode with the files.
Here an interrupted command can leave any part of its work, a removal included, and the copy skips the entries
that start with a dot.
-/

namespace VehicleEdge.Fota.Report

/-- A directory is given by its files, each under the names of its path. -/
abbrev Tree (Content : Type) := List String → Option Content

def Tree.empty (Content : Type) : Tree Content := fun _ => none

variable {Content : Type}

/-- New files replace old files of the same path, and all other old files stay. -/
def Tree.over (upper lower : Tree Content) : Tree Content := fun path => (upper path).or (lower path)

/-- The pattern of the copy does not match names that start with a dot. -/
def hidden : List String → Bool
  | [] => false
  | name :: _ => name.toList.head? = some '.'

def Tree.visible (tree : Tree Content) : Tree Content := fun path => if hidden path then none else tree path

/-- An interrupted command leaves any files in its directory. -/
inductive Outcome (Content : Type) where
  | success
  | failure
  | interrupted (left : Option (Tree Content))

/-- The directories are /opt/vrte and /opt/vrte_old on the target and /data/fota/vrte beside the script. -/
structure Directories (Content : Type) where
  vrte : Option (Tree Content)
  vrteOld : Option (Tree Content)
  unpacked : Option (Tree Content)

/-- One run has its archive, which unpacks to an image, and the outcomes of its commands. -/
structure Run (Content : Type) where
  tarName : String
  image : Tree Content
  outcomes : Command → Outcome Content

def Outcome.succeeds : Outcome Content → Bool
  | .success => true
  | _ => false

/-- A directory moves into the place of a backup that is absent, and inside of one that is still there. -/
def moveVrte (directories : Directories Content) : Directories Content :=
  match directories.vrte, directories.vrteOld with
  | none, _ => directories
  | some vrte, none => { directories with vrte := none, vrteOld := some vrte }
  | some vrte, some vrteOld =>
      { directories with
        vrte := none
        vrteOld := some fun path =>
          match path with
          | "vrte" :: inner => vrte inner
          | _ => vrteOld path }

/-- Nothing is copied without unpacked files or into a missing directory. -/
def scpVrte (directories : Directories Content) : Directories Content :=
  match directories.vrte, directories.unpacked with
  | some vrte, some unpacked => { directories with vrte := some (unpacked.visible.over vrte) }
  | _, _ => directories

/-- A removal that breaks off leaves some of the files. -/
def partlyRemoved (left files : Option (Tree Content)) : Option (Tree Content) :=
  match files, left with
  | some files, some left => some fun path => if (left path).isSome then files path else none
  | _, _ => none

/-- The effect of a command on the directories follows its outcome. -/
def change (run : Run Content) (command : Command) (directories : Directories Content) :
    Directories Content :=
  match command, run.outcomes command with
  | .removeVrteOld, .success => { directories with vrteOld := none }
  | .removeVrteOld, .interrupted left =>
      { directories with vrteOld := partlyRemoved left directories.vrteOld }
  | .moveVrte, .success => moveVrte directories
  | .moveVrte, .interrupted left => { directories with vrteOld := left }
  | .makeVrte, .success => { directories with vrte := some (directories.vrte.getD (Tree.empty Content)) }
  | .removeUnpacked, .success => { directories with unpacked := none }
  | .removeUnpacked, .interrupted left =>
      { directories with unpacked := partlyRemoved left directories.unpacked }
  | .untar _, .success =>
      { directories with unpacked := some (run.image.over (directories.unpacked.getD (Tree.empty Content))) }
  | .untar _, .interrupted left => { directories with unpacked := left }
  | .scpVrte, .success => scpVrte directories
  | .scpVrte, .interrupted left => { directories with vrte := left }
  | _, _ => directories

/-- A mode is published by the installed program only. -/
def publish (run : Run Content) (command : Command) (modes : List String) : List String :=
  match command with
  | .mosquittoPub topic message =>
      if topic = "fota_mode" then
        if (run.outcomes command).succeeds then modes ++ [message] else modes
      else modes
  | _ => modes

/-- A run changes the directories and publishes modes in order. -/
structure State (Content : Type) where
  directories : Directories Content
  modes : List String

def perform (run : Run Content) (command : Command) (state : State Content) : State Content × Bool :=
  (⟨change run command state.directories, publish run command state.modes⟩, (run.outcomes command).succeeds)

def flash (directories : Directories Content) (run : Run Content) : State Content :=
  (Fota.flashVip run.tarName).execute (perform run) ⟨directories, []⟩

/-- The runs follow each other on the same directories. -/
def flashAll (runs : List (Run Content)) (directories : Directories Content) : Directories Content :=
  runs.foldl (fun directories run => (flash directories run).directories) directories

/-- After the start exactly one result is published, and then the restart. -/
def ReportsResult (modes : List String) : Prop :=
  ∃ earlier middle result later, modes = earlier ++ "1" :: middle ++ result :: later ∧
    (result = "2" ∨ result = "3") ∧ (∀ mode ∈ middle ++ later, mode ≠ "2" ∧ mode ≠ "3") ∧ "5" ∈ later

/-- A reported update is installed, and a reported start is followed by its result and the restart. -/
def Truthful (directories : Directories Content) (run : Run Content) : Prop :=
  ("2" ∈ (flash directories run).modes → (flash directories run).directories.vrte = some run.image) ∧
    ("1" ∈ (flash directories run).modes → ReportsResult (flash directories run).modes)

/-- The command has succeeded. -/
def Run.did (run : Run Content) (command : Command) : Prop := (run.outcomes command).succeeds = true

/-- Both connection tests succeed. -/
def Connected (run : Run Content) : Prop := run.did .pingBefore ∧ run.did .pingAfter

/-- The run installs its image when no command on a directory fails and the image has no hidden entry. -/
structure Installs (directories : Directories Content) (run : Run Content) : Prop where
  moved : directories.vrte = none ∨ run.did .moveVrte
  made : run.did .makeVrte
  removed : directories.unpacked = none ∨ run.did .removeUnpacked
  untarred : run.did (.untar run.tarName)
  copied : run.did .scpVrte
  shown : ∀ path, hidden path = true → run.image path = none

/-- A reported start goes with both tests and both later modes, and a reported update with an installation. -/
def Sound (directories : Directories Content) (run : Run Content) : Prop :=
  (run.did (fotaMode "1") → Connected run ∧ run.did (fotaMode "2") ∧ run.did (fotaMode "5")) ∧
    (Connected run → run.did (fotaMode "2") → Installs directories run)

section Script

variable (run : Run Content) (directories : Directories Content)

/-- These commands lie between the two connection tests. -/
def updated : Directories Content :=
  change run .scpVrte (change run (.untar run.tarName) (change run .removeUnpacked
    (change run .makeVrte (change run .moveVrte (change run .removeVrteOld directories)))))

/-- This is the list of a mode when it is published. -/
def published (mode : String) : List String := if (run.outcomes (fotaMode mode)).succeeds then [mode] else []

theorem perform_fotaMode (mode : String) (state : State Content) :
    (perform run (fotaMode mode) state).1 = ⟨state.directories, state.modes ++ published run mode⟩ := by
  have same : publish run (fotaMode mode) state.modes = state.modes ++ published run mode := by
    unfold published
    change (if "fota_mode" = "fota_mode" then
      if (run.outcomes (fotaMode mode)).succeeds then state.modes ++ [mode] else state.modes
      else state.modes) = _
    rw [if_pos rfl]
    split
    · rfl
    · rw [List.append_nil]
  exact congrArg (State.mk state.directories) same

/-- The texts for the display are no modes. -/
theorem perform_fotaControl (fields : String) (state : State Content) :
    (perform run (fotaControl fields) state).1 = state := by
  have other : ("fota_control" : String) ≠ "fota_mode" := by decide
  have same : publish run (fotaControl fields) state.modes = state.modes := by
    simp only [publish, fotaControl, if_neg other]
  exact congrArg (State.mk state.directories) same

/-- The run is known from its two connection tests. -/
theorem flash_eq :
    flash directories run =
      if (run.outcomes .pingBefore).succeeds then
        if (run.outcomes .pingAfter).succeeds then
          ⟨updated run directories, published run "1" ++ published run "2" ++ published run "5"⟩
        else ⟨updated run directories, published run "1"⟩
      else ⟨directories, published run "1"⟩ := by
  have control := perform_fotaControl run
  have mode := perform_fotaMode run
  unfold flash flashVip
  rw [Script.execute_sequence]
  simp only [Script.execute, List.foldl_cons, List.foldl_nil, mode, control]
  by_cases before : (run.outcomes .pingBefore).succeeds = true
  · rw [if_pos before, perform, before]
    dsimp only
    rw [Script.execute_sequence, Script.execute_sequence]
    simp only [Script.execute, List.foldl_cons, List.foldl_nil, control]
    by_cases after : (run.outcomes .pingAfter).succeeds = true
    · rw [if_pos after, perform, after]
      dsimp only
      rw [Script.execute_sequence]
      simp only [Script.execute, List.foldl_cons, List.foldl_nil, mode, control]
      rfl
    · rw [if_neg after, perform, eq_false_of_ne_true after]
      dsimp only
      rw [Script.execute_sequence]
      simp only [Script.execute, List.foldl_cons, List.foldl_nil, control]
      rfl
  · rw [if_neg before, perform, eq_false_of_ne_true before]
    dsimp only
    rw [Script.execute_sequence]
    simp only [Script.execute, List.foldl_cons, List.foldl_nil, control]
    rfl

theorem mem_published (mode reported : String) :
    reported ∈ published run mode ↔ reported = mode ∧ run.did (fotaMode mode) := by
  unfold published Run.did
  split
  case isTrue succeeded => simp [succeeded]
  case isFalse failed => simp [failed]

/-- The start is published on every path, and the other modes follow the second connection test. -/
theorem mem_modes (mode : String) :
    mode ∈ (flash directories run).modes ↔
      (mode = "1" ∧ run.did (fotaMode "1")) ∨
        (Connected run ∧
          ((mode = "2" ∧ run.did (fotaMode "2")) ∨ (mode = "5" ∧ run.did (fotaMode "5")))) := by
  rw [flash_eq]
  unfold Connected
  by_cases before : run.did .pingBefore
  · rw [if_pos (by exact before)]
    by_cases after : run.did .pingAfter
    · rw [if_pos (by exact after)]
      simp only [List.mem_append, mem_published, before, after, true_and, or_assoc]
    · rw [if_neg (by exact after)]
      simp only [mem_published, before, after, and_false, false_and, or_false]
  · rw [if_neg (by exact before)]
    simp only [mem_published, before, false_and, or_false]

/-- A run that passes the tests leaves what its commands on the directories leave. -/
theorem flash_directories (connected : Connected run) :
    (flash directories run).directories = updated run directories := by
  rw [flash_eq, if_pos (by exact connected.1), if_pos (by exact connected.2)]

end Script

variable {run : Run Content} {directories : Directories Content}

theorem Outcome.eq_success {outcome : Outcome Content} (succeeded : outcome.succeeds = true) :
    outcome = .success := by
  cases outcome with
  | success => rfl
  | failure => cases succeeded
  | interrupted left => cases succeeded

/-- Files over an empty directory are all its files. -/
theorem Tree.over_empty (tree : Tree Content) : tree.over (Tree.empty Content) = tree := by
  funext path
  exact Option.or_none

/-- An image without hidden entries is copied as a whole. -/
theorem Tree.visible_of_shown {tree : Tree Content} (shown : ∀ path, hidden path = true → tree path = none) :
    tree.visible = tree := by
  funext path
  unfold Tree.visible
  split
  case isTrue concealed => rw [shown path concealed]
  case isFalse => rfl

/-- The backup is removed without a change of the other directories. -/
theorem removeVrteOld_frame :
    (change run .removeVrteOld directories).vrte = directories.vrte ∧
      (change run .removeVrteOld directories).unpacked = directories.unpacked := by
  unfold change
  cases run.outcomes .removeVrteOld <;> exact ⟨rfl, rfl⟩

/-- The unpacked files stay where they are during the move. -/
theorem moveVrte_unpacked : (change run .moveVrte directories).unpacked = directories.unpacked := by
  unfold change
  cases run.outcomes .moveVrte with
  | success =>
      change (moveVrte directories).unpacked = directories.unpacked
      unfold moveVrte
      split <;> rfl
  | failure => rfl
  | interrupted left => rfl

/-- The image is out of the way after the move, or there was none. -/
theorem moveVrte_vrte (moved : directories.vrte = none ∨ run.did .moveVrte) :
    (change run .moveVrte directories).vrte = none := by
  have succeeded : (moveVrte directories).vrte = none := by
    unfold moveVrte
    split
    case h_1 absent => exact absent
    case h_2 => rfl
    case h_3 => rfl
  unfold change
  rcases moved with absent | did
  · cases run.outcomes .moveVrte with
    | success => exact succeeded
    | failure => exact absent
    | interrupted left => exact absent
  · rw [Outcome.eq_success did]
    exact succeeded

/-- The directory of the target is made empty where it was missing. -/
theorem makeVrte_made (made : run.did .makeVrte) :
    change run .makeVrte directories =
      { directories with vrte := some (directories.vrte.getD (Tree.empty Content)) } := by
  unfold change
  rw [Outcome.eq_success made]

/-- Earlier unpacked files are gone after the removal, and the target is left alone. -/
theorem removeUnpacked_removed (removed : directories.unpacked = none ∨ run.did .removeUnpacked) :
    (change run .removeUnpacked directories).unpacked = none ∧
      (change run .removeUnpacked directories).vrte = directories.vrte := by
  unfold change
  rcases removed with absent | did
  · cases run.outcomes .removeUnpacked with
    | success => exact ⟨rfl, rfl⟩
    | failure => exact ⟨absent, rfl⟩
    | interrupted left =>
        refine ⟨?_, rfl⟩
        change partlyRemoved left directories.unpacked = none
        rw [absent]
        rfl
  · rw [Outcome.eq_success did]
    exact ⟨rfl, rfl⟩

/-- The archive is unpacked over the files that are there. -/
theorem untar_unpacked (untarred : run.did (.untar run.tarName)) :
    change run (.untar run.tarName) directories =
      { directories with
        unpacked := some (run.image.over (directories.unpacked.getD (Tree.empty Content))) } := by
  unfold change
  rw [Outcome.eq_success untarred]

/-- The visible files are copied over the files of the target. -/
theorem scpVrte_copied (copied : run.did .scpVrte) {vrte unpacked : Tree Content}
    (target : directories.vrte = some vrte) (source : directories.unpacked = some unpacked) :
    (change run .scpVrte directories).vrte = some (unpacked.visible.over vrte) := by
  unfold change
  rw [Outcome.eq_success copied]
  change (scpVrte directories).vrte = _
  unfold scpVrte
  rw [target, source]

/-- A run without a failure installs its image, whatever the runs before it left. -/
theorem updated_vrte (installs : Installs directories run) :
    (updated run directories).vrte = some run.image := by
  unfold updated
  set moved := change run .moveVrte (change run .removeVrteOld directories) with move
  have absent : moved.vrte = none := by
    apply moveVrte_vrte
    rw [removeVrteOld_frame.1]
    exact installs.moved
  have earlier : moved.unpacked = directories.unpacked := by
    rw [move, moveVrte_unpacked, removeVrteOld_frame.2]
  set made := change run .makeVrte moved with make
  have empty : made.vrte = some (Tree.empty Content) := by
    rw [make, makeVrte_made installs.made, absent]
    rfl
  have kept : made.unpacked = directories.unpacked := by
    rw [make, makeVrte_made installs.made, earlier]
  have cleared := removeUnpacked_removed (kept ▸ installs.removed)
  set removed := change run .removeUnpacked made with remove
  have target : (change run (.untar run.tarName) removed).vrte = some (Tree.empty Content) := by
    rw [untar_unpacked installs.untarred]
    exact cleared.2.trans empty
  have source : (change run (.untar run.tarName) removed).unpacked = some run.image := by
    rw [untar_unpacked installs.untarred, cleared.1]
    exact congrArg some run.image.over_empty
  rw [scpVrte_copied installs.copied target source, Tree.visible_of_shown installs.shown, Tree.over_empty]

/-- The start is followed by a result and the restart exactly when both tests succeed and both modes are
published. -/
theorem reportsResult_flash (started : run.did (fotaMode "1")) :
    ReportsResult (flash directories run).modes ↔
      Connected run ∧ run.did (fotaMode "2") ∧ run.did (fotaMode "5") := by
  constructor
  · rintro ⟨earlier, middle, result, later, modes, ended, -, restarted⟩
    have five : "5" ∈ (flash directories run).modes := by
      rw [modes]
      exact List.mem_append_right _ (List.mem_cons_of_mem _ restarted)
    have reported : result ∈ (flash directories run).modes := by
      rw [modes]
      exact List.mem_append_right _ List.mem_cons_self
    rw [mem_modes] at five reported
    -- The failure is never published, so the result is the update.
    have two : Connected run ∧ run.did (fotaMode "2") := by
      rcases ended with rfl | rfl
      · simpa using reported
      · simp at reported
    have restart : Connected run ∧ run.did (fotaMode "5") := by simpa using five
    exact ⟨two.1, two.2, restart.2⟩
  · rintro ⟨connected, two, five⟩
    rw [flash_eq, if_pos (by exact connected.1), if_pos (by exact connected.2)]
    unfold Run.did at started two five
    refine ⟨[], [], "2", ["5"], ?_, Or.inl rfl, by decide, by decide⟩
    simp [published, started, two, five]

/-- One run of the script is truthful when it is sound for the directories it finds. -/
theorem truthful_of_sound (sound : Sound directories run) : Truthful directories run := by
  constructor
  · intro reported
    have two : Connected run ∧ run.did (fotaMode "2") := by
      simpa using (mem_modes run directories "2").mp reported
    rw [flash_directories run directories two.1]
    exact updated_vrte (sound.2 two.1 two.2)
  · intro reported
    have started : run.did (fotaMode "1") := by simpa using (mem_modes run directories "1").mp reported
    exact (reportsResult_flash started).mpr (sound.1 started)

/-- In every sequence of runs each run reports its result truthfully when it is sound for the directories
that the runs before it left. -/
theorem flash_reports_are_truthful (directories : Directories Content) (runs : List (Run Content))
    (sound : ∀ earlier run, earlier ++ [run] <+: runs → Sound (flashAll earlier directories) run) :
    ∀ earlier run, earlier ++ [run] <+: runs → Truthful (flashAll earlier directories) run := by
  intro earlier run reached
  exact truthful_of_sound (sound earlier run reached)

/-- An image with one program of the given version. -/
def versionImage (version : String) : Tree String :=
  fun path => if path = ["bin", "startup_vip"] then some version else none

/-- A target with the first version and with unpacked files of an earlier run. -/
def firstVersion : Directories String :=
  ⟨some (versionImage "1.0"), none, some fun path => if path = ["notes"] then some "old" else none⟩

def versionRun (version : String) (outcomes : Command → Outcome String) : Run String :=
  ⟨"enc_image.tar.gz", versionImage version, outcomes⟩

/-- Two runs without a failure install their versions one after the other. -/
theorem flash_reports_are_truthful_versions :
    (flash (flashAll [versionRun "2.0" fun _ => .success] firstVersion)
        (versionRun "3.0" fun _ => .success)).modes = ["1", "2", "5"] ∧
      (flashAll [versionRun "2.0" fun _ => .success, versionRun "3.0" fun _ => .success] firstVersion).vrte =
        some (versionImage "3.0") := by
  have shown : ∀ version path, hidden path = true → versionImage version path = none := by
    intro version path concealed
    unfold versionImage
    split
    case isTrue program =>
      rw [program] at concealed
      exact absurd concealed (by decide)
    case isFalse => rfl
  have sound : ∀ version directories, Sound directories (versionRun version fun _ => .success) := by
    intro version directories
    refine ⟨fun _ => ⟨⟨rfl, rfl⟩, rfl, rfl⟩, fun _ _ => ?_⟩
    exact ⟨Or.inr rfl, rfl, Or.inr rfl, rfl, rfl, shown version⟩
  have truthful := flash_reports_are_truthful firstVersion
    [versionRun "2.0" fun _ => .success, versionRun "3.0" fun _ => .success]
  refine ⟨by decide +kernel, (truthful ?_ [versionRun "2.0" fun _ => .success] _ (List.prefix_refl _)).1 ?_⟩
  · intro earlier run reached
    have member : run ∈ [versionRun "2.0" fun _ => .success, versionRun "3.0" fun _ => .success] :=
      reached.subset (List.mem_append_right _ List.mem_cons_self)
    rcases List.mem_cons.mp member with rfl | member
    · exact sound _ _
    · rw [List.mem_singleton.mp member]
      exact sound _ _
  · decide +kernel

/-- All commands but one succeed. -/
def allBut (broken : Command) : Command → Outcome String :=
  fun command => if command = broken then .failure else .success

/-- A copy that fails is reported as an update of an empty directory, and a target that does not come back is
not reported at all. -/
theorem failed_copy_is_reported_as_update :
    ¬ (∀ earlier run, earlier ++ [run] <+: [versionRun "2.0" (allBut .scpVrte)] →
        Truthful (flashAll earlier firstVersion) run) ∧
      ¬ (∀ earlier run, earlier ++ [run] <+: [versionRun "2.0" (allBut .pingAfter)] →
        Truthful (flashAll earlier firstVersion) run) := by
  constructor
  · intro truthful
    have installed := (truthful [] _ (List.prefix_refl _)).1 (by decide +kernel)
    have program := congrArg (Option.map fun files => files ["bin", "startup_vip"]) installed
    exact absurd program (by decide +kernel)
  · intro truthful
    obtain ⟨earlier, middle, result, later, modes, -, -, restarted⟩ :=
      (truthful [] _ (List.prefix_refl _)).2 (by decide +kernel)
    have alone : (flash (flashAll [] firstVersion) (versionRun "2.0" (allBut .pingAfter))).modes = ["1"] := by
      decide +kernel
    have short := congrArg List.length (alone.symm.trans modes)
    simp only [List.length_append, List.length_cons, List.length_nil] at short
    omega

end VehicleEdge.Fota.Report
